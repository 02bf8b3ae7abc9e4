namespace Interpose

-- Cuts a list at the last occurrence of a separator.
def splitAtLast (sep : Char) : List Char → Option (List Char × List Char)
  | [] => none
  | c :: rest =>
    match splitAtLast sep rest with
    | some (before, after) => some (c :: before, after)
    | none => if c = sep then some ([], rest) else none

theorem eq_append_of_splitAtLast {sep : Char} {s before after : List Char}
    (h : splitAtLast sep s = some (before, after)) : s = before ++ sep :: after := by
  induction s generalizing before with
  | nil => simp [splitAtLast] at h
  | cons c rest ih =>
    rw [splitAtLast] at h
    split at h
    · next hr => cases h; simp [ih hr]
    · split at h <;> simp_all

-- The package and the simple name of a name that has a package. They are joined by the last dot.
def splitQualified (name : String) : Option (String × String) :=
  (splitAtLast '.' name.toList).map fun (p, n) => (String.ofList p, String.ofList n)

-- What stands before the last dot; nothing for a name without one.
def packagePart (name : String) : String := ((splitQualified name).map (·.1)).getD ""

-- What stands after the last dot; the whole name if there is none.
def simplePart (name : String) : String := ((splitQualified name).map (·.2)).getD name

-- Puts dots between the parts of a path that has double colons there.
def dotted : List Char → List Char
  | ':' :: ':' :: rest => '.' :: dotted rest
  | c :: rest => c :: dotted rest
  | [] => []

-- The qualified name of a type by its path.
def qualifiedNameOf (path : String) : String := String.ofList (dotted path.toList)

end Interpose
