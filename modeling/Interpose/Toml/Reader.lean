namespace Interpose.Toml

-- Takes characters from the front of what is left, or refuses.
abbrev Reader := StateT (List Char) Option

namespace Reader

variable {α : Type}

def refuse : Reader α := failure

def peek : Reader (Option Char) := return (← get).head?

def charIf (p : Char → Bool) : Reader Char := do
  match ← get with
  | c :: rest => if p c then set rest; return c else refuse
  | [] => refuse

def char (c : Char) : Reader Unit := discard (charIf (· == c))

def span (p : Char → Bool) : Reader (List Char) := do
  let cs ← get
  set (cs.dropWhile p)
  return cs.takeWhile p

def span1 (p : Char → Bool) : Reader (List Char) := do
  let cs ← span p
  if cs.isEmpty then refuse else return cs

def chars (s : String) : Reader Unit := do
  let cs ← get
  if s.toList.isPrefixOf cs then set (cs.drop s.length) else refuse

def option (r : Reader α) : Reader (Option α) := (some <$> r) <|> pure none

def ahead (r : Reader α) : Reader Bool := return (r.run (← get)).isSome

-- Runs a reader until it refuses. The bound is on the number of times.
def many (r : Reader α) : Nat → Reader (List α)
  | 0 => return []
  | bound + 1 => do
    match ← option r with
    | some a => return a :: (← many r bound)
    | none => return []

-- As many as the characters that are left allow, each taking at least one.
def all (r : Reader α) : Reader (List α) := do many r (← get).length

-- Items with separators between them, perhaps none.
def separated (item : Reader α) (separator : Reader Unit) : Reader (List α) := do
  match ← option item with
  | none => return []
  | some a => return a :: (← all (do separator; item))

-- Digits of a number of a fixed width.
def digits (width : Nat) : Reader Nat := do
  let cs := (← get).take width
  if cs.length = width && cs.all Char.isDigit then
    set ((← get).drop width)
    return cs.foldl (fun n c => 10 * n + (c.toNat - '0'.toNat)) 0
  else refuse

def suchThat (r : Reader α) (p : α → Bool) : Reader α := do
  let a ← r
  if p a then return a else refuse

def isSpace (c : Char) : Bool := c == ' ' || c == '\t'

-- Characters of comments; line ends and other control characters are not among them.
def isCommentChar (c : Char) : Bool := c == '\t' || (' ' ≤ c && c ≤ '~') || c.toNat ≥ 0x80

def spaces : Reader Unit := discard (span isSpace)

def newline : Reader Unit := char '\n' <|> chars "\r\n"

def comment : Reader Unit := do
  char '#'
  discard (span isCommentChar)

-- The end of a line or of the document.
def lineEnd : Reader Unit := do
  if (← peek).isNone then return else newline

-- What may stand behind an entry on its line.
def trailing : Reader Unit := do
  spaces
  discard (option comment)
  lineEnd

-- White space, line ends and comments within brackets.
def gap : Reader Unit := do
  spaces
  discard (all (do
    discard (option comment)
    newline
    spaces))

end Reader
end Interpose.Toml
