import Interpose.Source.Quoting
import Interpose.Text.Alphanumeric
import Interpose.Text.Blank

namespace Interpose.Pattern

-- Regular expressions for the values of fields, as far as it has to be known which texts are such
-- expressions. The texts hold no closing braces, so nothing that needs one can end.
structure Modes where
  -- Characters are meant, and not bytes.
  unicode : Bool
  -- White space and comments count for nothing.
  spaced : Bool
  deriving DecidableEq, Repr

-- What an escape or a single character stands for.
inductive Atom where
  -- A character, perhaps written as a byte.
  | char (c : Char) (asByte : Bool)
  -- A set of ASCII characters or, for bytes, of the others.
  | set (negated : Bool)
  -- A set that only makes sense for characters.
  | property
  -- A place in the text, perhaps an end of a word.
  | place (ofWord : Bool)
  deriving DecidableEq, Repr

-- The character among bytes is one of ASCII.
def isNarrow (c : Char) : Bool := c.toNat < 0x80

-- The atom may stand outside of a bracket.
def Atom.isAllowed (m : Modes) : Atom → Bool
  | char c asByte => m.unicode || !asByte || isNarrow c
  | set negated => m.unicode || !negated
  | property => m.unicode
  | place ofWord => !(m.unicode && ofWord)

-- The atom may stand in a bracket.
def Atom.isMember (m : Modes) : Atom → Bool
  | char c _ => m.unicode || isNarrow c
  | set negated => m.unicode || !negated
  | property => m.unicode
  | place _ => false

def skipComments : Bool → List Char → List Char
  | _, [] => []
  | true, c :: rest => skipComments (c != '\n') rest
  | false, c :: rest =>
    if Text.isBlank c then skipComments false rest
    else if c = '#' then skipComments true rest
    else c :: rest

def Modes.skip (m : Modes) (cs : List Char) : List Char :=
  if m.spaced then skipComments false cs else cs

-- The character that comes next behind white space; of a comment, its first character.
def Modes.glance (m : Modes) (cs : List Char) : Option Char :=
  if m.spaced then
    match cs.dropWhile Text.isBlank with
    | '#' :: rest => (rest.dropWhile Text.isBlank).head?.or cs.head?
    | c :: _ => some c
    | [] => cs.head?
  else cs.head?

-- So many hexadecimal digits, with the value `n` being taken.
def splitDigits (m : Modes) : Nat → Nat → List Char → Option (Nat × List Char)
  | 0, n, cs => some (n, cs)
  | _, _, [] => none
  | width + 1, n, c :: rest => do
    let d ← Source.hexValue? c
    splitDigits m width (16 * n + d) (if width = 0 then rest else m.skip rest)

-- The number of hexadecimal digits behind a letter.
def codeWidth? : Char → Option Nat
  | 'x' => some 2
  | 'u' => some 4
  | 'U' => some 8
  | _ => none

-- Letters that stand for a character behind a backslash.
def letterEscape? : Char → Option Char
  | 'a' => some '\x07'
  | 'f' => some '\x0c'
  | 'n' => some '\n'
  | 'r' => some '\r'
  | 't' => some '\t'
  | 'v' => some '\x0b'
  | _ => none

def categories : List Char := "CLMNPSZclmnpsz".toList

-- What a backslash begins, that being taken.
def splitEscape (m : Modes) : List Char → Option (Atom × List Char)
  | [] => none
  | c :: rest => do
    if let some width := codeWidth? c then
      let (n, rest) ← splitDigits m width 0 (m.skip rest)
      return (.char (← Source.charOfCode? n) (c == 'x'), rest)
    if let some d := letterEscape? c then return (.char d false, rest)
    match c with
    | 'd' | 's' | 'w' => return (.set false, rest)
    | 'D' | 'S' | 'W' => return (.set true, rest)
    | 'A' | 'z' => return (.place false, rest)
    | 'B' | '<' | '>' => return (.place true, rest)
    | 'b' => if rest.head? = some '\x7b' then none else return (.place true, rest)
    | 'p' | 'P' =>
      match m.skip rest with
      | category :: rest => if categories.contains category then return (.property, rest) else none
      | [] => none
    | c => if isNarrow c && !c.isAlphanum then return (.char c false, rest) else none

def classNames : List String :=
  ["alnum", "alpha", "ascii", "blank", "cntrl", "digit", "graph", "lower", "print", "punct",
    "space", "upper", "word", "xdigit"]

-- A class by its name between colons, its opening bracket being taken.
def splitNamed : List Char → Option (Atom × List Char)
  | ':' :: rest =>
    let (negated, rest) := match rest with
      | '^' :: rest => (true, rest)
      | rest => (false, rest)
    match rest.dropWhile (· != ':') with
    | ':' :: ']' :: behind =>
      if classNames.contains (String.ofList (rest.takeWhile (· != ':'))) then
        some (.set negated, behind)
      else none
    | _ => none
  | _ => none

-- Hyphens at the beginning of a bracket stand for themselves.
def skipHyphens (m : Modes) : Nat → List Char → List Char
  | bound + 1, '-' :: rest => skipHyphens m bound (m.skip rest)
  | _, cs => cs

-- The beginning of a bracket behind the opening one; a closing one there stands for itself.
def openBracket (m : Modes) (cs : List Char) : Option (List Char) := do
  let cs := m.skip cs
  let negated := cs.head? == some '^'
  let cs := if negated then m.skip (cs.drop 1) else cs
  if negated && !m.unicode then none
  else
    match cs with
    | ']' :: rest => return m.skip rest
    | cs => return skipHyphens m cs.length cs

def splitMember (m : Modes) : List Char → Option (Atom × List Char)
  | '\\' :: rest => splitEscape m rest
  | c :: rest => some (.char c false, rest)
  | [] => none

-- One member of a bracket, or the members from one character to another.
def splitRange (m : Modes) (cs : List Char) : Option (List Char) := do
  let (first, rest) ← splitMember m cs
  let rest := m.skip rest
  let single := if first.isMember m then some rest else none
  match rest with
  | '-' :: behind =>
    if [some ']', some '-'].contains (m.glance behind) then single
    else do
      let (last, rest) ← splitMember m (m.skip behind)
      match first, last with
      | .char a _, .char b _ =>
        if a ≤ b && first.isMember m && last.isMember m then return rest else none
      | _, _ => none
  | _ => single

-- What follows a bracket in which so many further ones are open. The bound is on the number of
-- characters.
def dropBracket (m : Modes) : Nat → Nat → List Char → Option (List Char)
  | 0, _, _ => none
  | bound + 1, depth, cs =>
    match m.skip cs with
    | [] => none
    | '[' :: rest =>
      match splitNamed rest with
      | some (named, rest) => if named.isMember m then dropBracket m bound depth rest else none
      | none => do dropBracket m bound (depth + 1) (← openBracket m rest)
    | ']' :: rest =>
      match depth with
      | 0 => some rest
      | depth + 1 => dropBracket m bound depth rest
    | '&' :: '&' :: rest | '-' :: '-' :: rest | '~' :: '~' :: rest =>
      dropBracket m bound depth rest
    | cs => do dropBracket m bound depth (← splitRange m cs)

def flagLetters : List Char := "imsUuRx".toList

structure Flags where
  modes : Modes
  seen : List Char
  negated : Bool
  -- The last sign was the one that negates what follows.
  dangling : Bool

def Flags.add (f : Flags) (c : Char) : Option Flags :=
  if c = '-' then
    if f.negated then none else some { f with negated := true, dangling := true }
  else if flagLetters.contains c && !f.seen.contains c then
    let on := !f.negated
    some { f with
      modes := { unicode := if c = 'u' then on else f.modes.unicode
                 spaced := if c = 'x' then on else f.modes.spaced }
      seen := c :: f.seen
      dangling := false }
  else none

inductive Opening where
  -- A group with flags of its own.
  | group (modes : Modes)
  -- Flags for the rest of the group around.
  | flags (modes : Modes)
  | named (name : String)

def splitFlags : Flags → List Char → Option (Opening × List Char)
  | _, [] => none
  | f, c :: rest =>
    if c = ':' then if f.dangling then none else some (.group f.modes, rest)
    else if c = ')' then
      if f.dangling || (f.seen.isEmpty && !f.negated) then none else some (.flags f.modes, rest)
    else do splitFlags (← f.add c) rest

def isNameStart (c : Char) : Bool := c == '_' || (Text.isAlphanumeric c && !c.isDigit)

def isNamePart (c : Char) : Bool := ".[]_".toList.contains c || Text.isAlphanumeric c

def splitGroupName (cs : List Char) : Option (Opening × List Char) :=
  let name := cs.takeWhile (· != '>')
  match name, cs.dropWhile (· != '>') with
  | first :: more, _ :: rest =>
    if isNameStart first && more.all isNamePart then some (.named (String.ofList name), rest)
    else none
  | _, _ => none

-- What stands behind an opening parenthesis.
def splitOpening (m : Modes) (cs : List Char) : Option (Opening × List Char) :=
  match m.skip cs with
  | '?' :: '=' :: _ | '?' :: '!' :: _ | '?' :: '<' :: '=' :: _ | '?' :: '<' :: '!' :: _ => none
  | '?' :: 'P' :: '<' :: rest | '?' :: '<' :: rest => splitGroupName rest
  | '?' :: rest => splitFlags ⟨m, [], false, false⟩ rest
  | cs => some (.group m, cs)

structure Progress where
  modes : Modes
  -- The modes outside of the groups that are open.
  outside : List Modes
  names : List String
  -- Something is there that can be repeated.
  repeatable : Bool

def Progress.step (p : Progress) : List Char → Option (Progress × List Char)
  | [] => none
  | '(' :: rest => do
    match ← splitOpening p.modes rest with
    | (.group modes, rest) =>
      return ({ p with modes, outside := p.modes :: p.outside, repeatable := false }, rest)
    | (.flags modes, rest) => return ({ p with modes, repeatable := false }, rest)
    | (.named name, rest) =>
      if p.names.contains name then none
      else
        return ({ p with names := name :: p.names, outside := p.modes :: p.outside,
                         repeatable := false }, rest)
  | ')' :: rest =>
    match p.outside with
    | modes :: outside => some ({ p with modes, outside, repeatable := true }, rest)
    | [] => none
  | '|' :: rest => some ({ p with repeatable := false }, rest)
  | '[' :: rest => do
    let rest ← openBracket p.modes rest
    return ({ p with repeatable := true }, ← dropBracket p.modes (rest.length + 1) 0 rest)
  | '\x7b' :: _ => none
  | '\\' :: rest => do
    let (atom, rest) ← splitEscape p.modes rest
    if atom.isAllowed p.modes then return ({ p with repeatable := true }, rest) else none
  | '.' :: rest =>
    -- A byte that may be any is not always part of a text.
    if p.modes.unicode then some ({ p with repeatable := true }, rest) else none
  | c :: rest =>
    if c = '?' || c = '*' || c = '+' then
      if p.repeatable then some (p, if rest.head? = some '?' then rest.drop 1 else rest)
      else none
    else some ({ p with repeatable := true }, rest)

-- Reads an expression to its end. The bound is on the number of characters.
def Progress.finishes (p : Progress) : Nat → List Char → Bool
  | 0, _ => false
  | bound + 1, cs =>
    match p.modes.skip cs with
    | [] => p.outside.isEmpty
    | cs =>
      match p.step cs with
      | some (p, rest) => p.finishes bound rest
      | none => false

def isValid (cs : List Char) : Bool :=
  Progress.finishes ⟨⟨true, false⟩, [], [], false⟩ (cs.length + 1) cs

end Interpose.Pattern
