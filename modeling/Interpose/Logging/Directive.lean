import Interpose.Logging.Config
import Interpose.Logging.Pattern
import Interpose.Text.Integer

namespace Interpose.Directive

-- What follows so many bytes, unless they end within a character. The parts of a directive are cut
-- out of the whole of it, white space included.
def dropBytes : Nat → List Char → Option (List Char)
  | 0, cs => some cs
  | _, [] => none
  | n + 1, c :: rest => if c.utf8Size ≤ n + 1 then dropBytes (n + 1 - c.utf8Size) rest else none

def bytes (cs : List Char) : Nat := cs.foldl (fun n c => n + c.utf8Size) 0

-- The part between two places.
def part? (start stop : Nat) (cs : List Char) : Option (List Char) := do
  let cs ← dropBytes start cs
  let rest ← dropBytes (stop - start) cs
  return cs.take (cs.length - rest.length)

-- The place of the first of some characters, that character and what follows, if the given place is
-- before the characters.
def find? (p : Char → Bool) (place : Nat) (cs : List Char) : Option (Nat × Char × List Char) :=
  match cs.dropWhile (!p ·) with
  | c :: rest => some (place + bytes (cs.takeWhile (!p ·)), c, rest)
  | [] => none

-- Levels by their names or by their numbers; no level at all is fine too.
def isLevel (level : List Char) : Bool :=
  let name := Text.lowerAscii (String.ofList level)
  let digits := match level with
    | '+' :: digits => digits
    | digits => digits
  level.isEmpty || ["off", "error", "warn", "info", "debug", "trace"].contains name ||
    (Text.natural? digits).any (· ≤ 5)

-- A number with a fraction or an exponent, or one of the words for what is no finite number.
def isNumber (cs : List Char) : Bool :=
  let whole := cs.takeWhile Char.isDigit
  let rest := cs.dropWhile Char.isDigit
  let (fraction, rest) := match rest with
    | '.' :: rest => (rest.takeWhile Char.isDigit, rest.dropWhile Char.isDigit)
    | rest => ([], rest)
  ["inf", "infinity", "nan"].contains (Text.lowerAscii (String.ofList cs)) ||
    !(whole ++ fraction).isEmpty && match rest with
      | [] => true
      | e :: '+' :: digits | e :: '-' :: digits | e :: digits =>
        (e == 'e' || e == 'E') && (Text.natural? digits).isSome

-- The value of a field: a number or a pattern. Without a sign, a number is a pattern too.
def isFieldValue : List Char → Bool
  | '+' :: rest => isNumber rest
  | value => Pattern.isValid value

-- A field, perhaps with a value, behind which nothing counts that another equals sign is before.
def isField (field : List Char) : Bool :=
  match field.dropWhile (· != '=') with
  | _ :: rest => isFieldValue (rest.takeWhile (· != '='))
  | [] => true

def levelAt (whole : List Char) (place : Nat) : Bool := (dropBytes place whole).any isLevel

-- What may stand behind a span.
def behindSpan (whole : List Char) (place : Nat) : List Char → Bool
  | [] => true
  | '=' :: _ => levelAt whole (place + 1)
  | _ => false

-- A field and the end of its span; the opening brace is taken.
def fieldAt (whole : List Char) (place : Nat) (cs : List Char) : Bool :=
  match find? (· == '\x7d') place cs with
  | some (stop, _, ']' :: rest) =>
    place < stop && (part? place stop whole).any isField && behindSpan whole (stop + 2) rest
  | _ => false

-- A span, whose opening bracket is taken.
def spanAt (whole : List Char) (place : Nat) (cs : List Char) : Bool :=
  match find? (fun c => c == ']' || c == '\x7b') place cs with
  | some (stop, c, rest) =>
    (part? place stop whole).isSome &&
      if c == ']' then behindSpan whole (stop + 1) rest else fieldAt whole (stop + 1) rest
  | none => false

def isStartChar (c : Char) : Bool :=
  Text.isAlphanumeric c || c == '-' || c == ':' || c == '_'

-- A level or a target, and what follows that.
def targetAt (whole cs : List Char) : Bool :=
  match find? (fun c => c == '=' || c == '[') 0 cs with
  | some (stop, c, rest) =>
    (part? 0 stop whole).isSome &&
      if c == '=' then levelAt whole (stop + 1) else spanAt whole (stop + 1) rest
  | none => true

def isValid (directive : String) : Bool :=
  match (Text.trim directive).toList with
  | [] => false
  | '[' :: rest => spanAt directive.toList 1 rest
  | c :: rest => isStartChar c && targetAt directive.toList (c :: rest)

-- All directives of a list are valid; empty ones count for nothing.
def areValid (directives : String) : Bool :=
  (directives.splitOn ",").all fun d => d.isEmpty || isValid d

end Interpose.Directive

namespace Interpose.LoggingConfig

-- Begins to log where logging has begun before: that fails, if not for its directives.
def beginAgain (c : LoggingConfig) : ContainerError :=
  if Directive.areValid c.directives then
    .loggingInitFailed "events are being logged already"
  else .config ("invalid log filter '" ++ c.directives ++ "'")

end Interpose.LoggingConfig
