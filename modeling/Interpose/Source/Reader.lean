import Interpose.Source.Scanning

namespace Interpose.Source

inductive Refusal where
  -- The text is not of the form that is wanted.
  | unreadable
  -- A type of objects, or one that only its bounds are known of, that requires no more than
  -- lifetimes.
  | objectWithoutTrait
  | implWithoutTrait
  -- Bounds that may not stand where they do.
  | misplacedCapture
  | misplacedConstancy
  | misplacedMaybeConstancy
  -- A bound that need not be met binds parameters.
  | boundQuestion
  deriving DecidableEq, Repr

abbrev Reading := Except Refusal

def scanned (text : String) : Reading (List Token) :=
  match scan text with
  | some tokens => .ok tokens
  | none => .error .unreadable

-- Takes tokens from the front of what is left, or refuses.
abbrev Reader := StateT (List Token) Reading

namespace Reader

variable {α : Type}

def refuse : Reader α := throw .unreadable

def present : Option α → Reader α
  | some a => return a
  | none => refuse

def peek : Reader (Option Token) := return (← get).head?

def peekSecond : Reader (Option Token) := return (← get)[1]?

def isNext (t : Token) : Reader Bool := return (← peek) == some t

-- Nothing is left of the group that is being read.
def atClose : Reader Bool := do
  match ← peek with
  | none | some (.closing _) => return true
  | some _ => return false

def take : Reader Token := do
  match ← get with
  | [] => refuse
  | t :: rest => set rest; return t

def takeIf (t : Token) : Reader Bool := do
  if ← isNext t then
    discard take
    return true
  else return false

def optional (t : Token) : Reader (List Token) := do
  if ← takeIf t then return [t] else return []

def expect (t : Token) : Reader (List Token) := do
  if ← takeIf t then return [t] else refuse

def mark (spelling : String) : Reader (List Token) := expect (.mark spelling)

def word (name : String) : Reader (List Token) := expect (.word name)

def identifier : Reader String := do
  match ← take with
  | .word name => if isIdentifier name then return name else refuse
  | _ => refuse

def group (d : Delimiter) : Reader (List Token) := do
  discard (expect (.opening d))
  let (content, rest) ← present (splitGroup 0 (← get))
  set rest
  return content

def wholeGroup (d : Delimiter) : Reader (List Token) :=
  return .opening d :: (← group d) ++ [.closing d]

def only (r : Reader α) (tokens : List Token) : Reading α := do
  match ← r.run tokens with
  | (a, []) => return a
  | _ => throw .unreadable

def within (r : Reader α) (tokens : List Token) : Reader α := r.only tokens

-- Items with a mark between each two, and perhaps one behind the last: an item and whether the mark
-- follows it. Reading ends where a group or the text ends, or before one of the given tokens. The
-- bound is the number of tokens that are left.
def separated (item : Reader α) (mark : Token) (stops : List Token) :
    Nat → Reader (List (α × Bool))
  | 0 => return []
  | bound + 1 => do
    if (← atClose) || (← peek).any stops.contains then return []
    else
      let a ← item
      if ← takeIf mark then return (a, true) :: (← separated item mark stops bound)
      else return [(a, false)]

def commaSeparated (item : Reader α) : Reader (List (α × Bool)) := do
  separated item (.mark ",") [] ((← get).length + 1)

end Reader
end Interpose.Source
