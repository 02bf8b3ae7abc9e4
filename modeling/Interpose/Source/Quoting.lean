import Interpose.Text.Identifier

namespace Interpose.Source

inductive Quotation where
  | text
  | bytes
  | withoutNull
  deriving DecidableEq, Repr

def Quotation.admits (q : Quotation) (c : Char) : Bool :=
  match q with
  | .text => true
  | .bytes => c.toNat < 0x80
  | .withoutNull => c != '\x00'

-- May be written by its number.
def Quotation.admitsCode (q : Quotation) (n : Nat) : Bool :=
  match q with
  | .text => n < 0x80
  | .bytes => true
  | .withoutNull => n != 0

def hexValue? (c : Char) : Option Nat :=
  if c.isDigit then some (c.toNat - '0'.toNat)
  else if 'a' ≤ c && c ≤ 'f' then some (c.toNat - 'a'.toNat + 10)
  else if 'A' ≤ c && c ≤ 'F' then some (c.toNat - 'A'.toNat + 10)
  else none

-- The number of hexadecimal digits up to a closing brace, `length` digits with the value `n` being
-- taken. There may be gaps behind the first digit.
def splitCode (n length : Nat) : List Char → Option (Nat × List Char)
  | [] => none
  | c :: rest =>
    if c = '\x7d' then if length = 0 then none else some (n, rest)
    else if c = '_' then if length = 0 then none else splitCode n length rest
    else
      match hexValue? c with
      | some d => if length < 6 then splitCode (16 * n + d) (length + 1) rest else none
      | none => none

-- The character that a letter behind a backslash stands for.
def plainEscape? : Char → Option Char
  | 'n' => some '\n'
  | 'r' => some '\r'
  | 't' => some '\t'
  | '0' => some '\x00'
  | '\\' => some '\\'
  | '\'' => some '\''
  | '"' => some '"'
  | _ => none

def charOfCode? (n : Nat) : Option Char :=
  if n.isValidChar then some (Char.ofNat n) else none

-- What an escape stands for, its backslash being taken.
def splitEscape (q : Quotation) : List Char → Option (Char × List Char)
  | 'x' :: a :: b :: rest => do
    let n := 16 * (← hexValue? a) + (← hexValue? b)
    if q.admitsCode n then return (Char.ofNat n, rest) else none
  | 'u' :: '\x7b' :: rest => do
    if q = .bytes then none
    else
      let (n, rest) ← splitCode 0 0 rest
      let c ← charOfCode? n
      if q.admits c then return (c, rest) else none
  | c :: rest => do
    let d ← plainEscape? c
    if q.admits d then return (d, rest) else none
  | [] => none

-- What follows the white space behind a backslash at the end of a line, where a line feed is due if
-- a carriage return stands before it.
def skipJoint : Bool → List Char → Option (List Char)
  | true, '\n' :: rest => skipJoint false rest
  | true, _ => none
  | false, [] => none
  | false, c :: rest =>
    if c = '\r' then skipJoint true rest
    else if c = ' ' || c = '\t' || c = '\n' then skipJoint false rest
    else some (c :: rest)

-- What a text in quotes stands for, its opening quote being taken. The bound is on the number of
-- characters.
def splitQuoted (q : Quotation) : Nat → List Char → Option (List Char × List Char)
  | 0, _ => none
  | _, [] => none
  | _, '"' :: rest => some ([], rest)
  | bound + 1, '\r' :: '\n' :: rest => before '\n' (splitQuoted q bound rest)
  | _, '\r' :: _ => none
  | bound + 1, '\\' :: '\n' :: rest => do splitQuoted q bound (← skipJoint false rest)
  | bound + 1, '\\' :: '\r' :: rest => do splitQuoted q bound (← skipJoint true rest)
  | bound + 1, '\\' :: rest => do
    let (c, rest) ← splitEscape q rest
    before c (splitQuoted q bound rest)
  | bound + 1, c :: rest => if q.admits c then before c (splitQuoted q bound rest) else none
where
  before (c : Char) (s : Option (List Char × List Char)) : Option (List Char × List Char) :=
    s.map fun p => (c :: p.1, p.2)

def splitHashed (q : Quotation) (hashes : Nat) : List Char → Option (List Char × List Char)
  | [] => none
  | '"' :: rest =>
    if rest.take hashes = List.replicate hashes '#' then some ([], rest.drop hashes)
    else (splitHashed q hashes rest).map fun p => ('"' :: p.1, p.2)
  | '\r' :: '\n' :: rest => (splitHashed q hashes rest).map fun p => ('\r' :: '\n' :: p.1, p.2)
  | '\r' :: _ => none
  | c :: rest =>
    if q.admits c then (splitHashed q hashes rest).map fun p => (c :: p.1, p.2) else none

-- A text between at most 255 number signs, which stands for itself.
def splitVerbatim (q : Quotation) (cs : List Char) : Option (List Char × List Char) :=
  let hashes := (cs.takeWhile (· == '#')).length
  match cs.drop hashes with
  | '"' :: rest => if hashes ≤ 255 then splitHashed q hashes rest else none
  | _ => none

def splitName : List Char → Option (List Char × List Char)
  | c :: rest =>
    if Text.isIdentifierStart c then
      some (c :: rest.takeWhile Text.isIdentifierPart, rest.dropWhile Text.isIdentifierPart)
    else none
  | [] => none

-- What follows the name that directly follows a literal and belongs to it.
def dropSuffix (cs : List Char) : List Char := ((splitName cs).map (·.2)).getD cs

-- A single character in quotes, its opening quote being taken.
def splitCharacter (q : Quotation) (cs : List Char) : Option (Char × List Char) := do
  let (c, rest) ← match cs with
    | '\\' :: rest => splitEscape q rest
    | c :: rest => if q.admits c then some (c, rest) else none
    | [] => none
  match rest with
  | '\'' :: rest => return (c, rest)
  | _ => none

end Interpose.Source
