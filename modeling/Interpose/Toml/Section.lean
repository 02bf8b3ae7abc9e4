import Interpose.Toml.Value

namespace Interpose.Toml

-- Tables while a document is read. A table that only comes up on the way to another one may be
-- given entries later, but none is given twice.
inductive Node where
  | leaf (v : Value)
  -- It only came up on the way to another one; a dotted key led there.
  | table (implicit dotted : Bool) (entries : List (String × Node))
  -- Tables of one header; entries go to the last one.
  | tables (items : List (List (String × Node)))
  deriving Repr

abbrev Entries := List (String × Node)

mutual

-- The value of a node when the document has been read.
def Node.value : Node → Value
  | .leaf v => v
  | .table _ _ entries => .table (valuesOf entries)
  | .tables items => .array (tablesOf items)

def valuesOf : List (String × Node) → List (String × Value)
  | [] => []
  | (key, node) :: rest => (key, node.value) :: valuesOf rest

def tablesOf : List (List (String × Node)) → List Value
  | [] => []
  | entries :: rest => .table (valuesOf entries) :: tablesOf rest

end

namespace Entries

def put (es : Entries) (key : String) (n : Node) : Entries :=
  es.map fun e => if e.1 = key then (key, n) else e

-- Changes the table that a path leads to; tables that are missing on the way are made. The change
-- is told whether dotted keys made the table.
def change (dotted : Bool) (f : Bool → Entries → Option Entries) :
    List String → Bool → Entries → Option Entries
  | [], made, es => f made es
  | key :: path, _, es =>
    match es.lookup key with
    | none => (change dotted f path dotted []).map fun sub => es ++ [(key, .table true dotted sub)]
    | some (.leaf _) => none
    | some (.table implicit made sub) =>
      if dotted && !implicit then none
      else (change dotted f path made sub).map fun sub => put es key (.table implicit made sub)
    | some (.tables items) =>
      match items.getLast? with
      | none => none
      | some last =>
        (change dotted f path false last).map fun last =>
          put es key (.tables (items.dropLast ++ [last]))

-- Adds a value under a dotted key: the keys of the path and the last one.
def add (path : List String) (key : String) (v : Value) (es : Entries) : Option Entries :=
  change true (fun made es =>
    if made == path.isEmpty || (es.lookup key).isSome then none
    else some (es ++ [(key, .leaf v)])) path false es

def value (es : Entries) : Value := (Node.table false false es).value

end Entries

-- The state of reading: all tables but the one that is being read, and that one.
structure Draft where
  root : Entries
  -- Where the table belongs that is being read.
  path : List String
  -- It is one of several of its header.
  several : Bool
  current : Entries
  deriving Repr

namespace Draft

def empty : Draft := ⟨[], [], false, []⟩

-- Puts the table that has been read to where it belongs.
def close (d : Draft) : Option Entries :=
  match d.path.getLast? with
  | none => some d.current
  | some key =>
    Entries.change false (fun _ es =>
      match d.several, es.lookup key with
      | true, none => some (es ++ [(key, .tables [d.current])])
      | true, some (.tables items) => some (es.put key (.tables (items ++ [d.current])))
      | false, none => some (es ++ [(key, .table false false d.current)])
      | _, _ => none) d.path.dropLast false d.root

-- What has come up under a header before.
def found (root : Entries) (path : List String) (key : String) : Option Node :=
  match path with
  | [] => root.lookup key
  | first :: rest =>
    match root.lookup first with
    | some (.table _ _ sub) => found sub rest key
    | some (.tables items) => (items.getLast?).bind fun last => found last rest key
    | _ => none

-- Begins the table of a header. It may only have come up on the way to another one.
def openTable (d : Draft) (path : List String) : Option Draft := do
  let root ← d.close
  let key ← path.getLast?
  let parents := path.dropLast
  let current ← match found root parents key with
    | none => some []
    | some (.table true false sub) => some sub
    | some _ => none
  let root ← Entries.change false (fun _ es => some (es.filter (·.1 != key))) parents false root
  return { root, path, several := false, current }

-- Begins one more table of a header.
def openItem (d : Draft) (path : List String) : Option Draft := do
  let root ← d.close
  let key ← path.getLast?
  let root ← Entries.change false (fun _ es =>
    match es.lookup key with
    | none | some (.tables _) => some es
    | some _ => none) path.dropLast false root
  return { root, path, several := true, current := [] }

def add (d : Draft) (path : List String) (key : String) (v : Value) : Option Draft :=
  (d.current.add path key v).map fun current => { d with current }

def finish (d : Draft) : Option Value := d.close.map Entries.value

end Draft
end Interpose.Toml
