import Interpose.Text.Quoted

namespace Interpose.Source

inductive Delimiter where
  | paren
  | bracket
  | brace
  deriving DecidableEq, Repr

def Delimiter.opening : Delimiter → String
  | paren => "("
  | bracket => "["
  | brace => "\x7b"

def Delimiter.closing : Delimiter → String
  | paren => ")"
  | bracket => "]"
  | brace => "\x7d"

-- A text in quotes, as it is written and what it stands for.
structure TextLiteral where
  spelling : String
  value : String
  deriving DecidableEq, Repr

def TextLiteral.ofValue (s : String) : TextLiteral := ⟨Text.quoted s, s⟩

-- A name directly follows the text: neither a quote nor a number sign is its last character.
def TextLiteral.hasSuffix (l : TextLiteral) : Bool :=
  match l.spelling.toList.getLast? with
  | some c => c != '"' && c != '#'
  | none => false

-- Written side by side, tokens are source text again.
inductive Token where
  | word (name : String)
  -- A name behind a single quote.
  | lifetime (name : String)
  | textual (l : TextLiteral)
  | number (spelling : String)
  -- A character, or text that stands for bytes.
  | other (spelling : String)
  | mark (spelling : String)
  | opening (d : Delimiter)
  | closing (d : Delimiter)
  deriving DecidableEq, Repr

namespace Token

def spelling : Token → String
  | word name => name
  | lifetime name => "'" ++ name
  | textual l => l.spelling
  | number spelling => spelling
  | other spelling => spelling
  | mark spelling => spelling
  | opening d => d.opening
  | closing d => d.closing

end Token

def spell (tokens : List Token) : String := String.join (tokens.map Token.spelling)

-- What is left of a group behind its opening, and what follows the group, if so many groups inside
-- of it are still open.
def splitGroup : Nat → List Token → Option (List Token × List Token)
  | _, [] => none
  | depth, t :: rest =>
    match t, depth with
    | .closing _, 0 => some ([], rest)
    | .closing _, depth + 1 => (splitGroup depth rest).map fun p => (t :: p.1, p.2)
    | .opening _, depth => (splitGroup (depth + 1) rest).map fun p => (t :: p.1, p.2)
    | _, depth => (splitGroup depth rest).map fun p => (t :: p.1, p.2)

-- Every group is closed by its own delimiter, the given ones being open.
def balanced : List Delimiter → List Token → Bool
  | opened, [] => opened.isEmpty
  | opened, .opening d :: rest => balanced (d :: opened) rest
  | d' :: opened, .closing d :: rest => d == d' && balanced opened rest
  | [], .closing _ :: _ => false
  | opened, _ :: rest => balanced opened rest

def reservedWords : List String :=
  ["_", "abstract", "as", "async", "await", "become", "box", "break", "const", "continue",
    "crate", "do", "dyn", "else", "enum", "extern", "false", "final", "fn", "for", "if", "impl",
    "in", "let", "loop", "macro", "match", "mod", "move", "mut", "override", "priv", "pub",
    "ref", "return", "Self", "self", "static", "struct", "super", "trait", "true", "try", "type",
    "typeof", "unsafe", "unsized", "use", "virtual", "where", "while", "yield"]

def isIdentifier (name : String) : Bool := !reservedWords.contains name

end Interpose.Source
