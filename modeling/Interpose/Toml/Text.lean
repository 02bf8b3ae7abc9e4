import Interpose.Toml.Reader

namespace Interpose.Toml.Reader

-- Characters that stand for themselves between double quotes.
def isPlainChar (c : Char) : Bool := isCommentChar c && c != '"' && c != '\\'

-- Characters between single quotes.
def isLiteralChar (c : Char) : Bool := isCommentChar c && c != '\''

def isHexDigit (c : Char) : Bool :=
  c.isDigit || ('a' ≤ c && c ≤ 'f') || ('A' ≤ c && c ≤ 'F')

def hexDigitValue (c : Char) : Nat :=
  if c.isDigit then c.toNat - '0'.toNat
  else if 'a' ≤ c then c.toNat - 'a'.toNat + 10
  else c.toNat - 'A'.toNat + 10

-- A character by so many hexadecimal digits of its code point.
def codePoint (width : Nat) : Reader Char := do
  let cs := (← get).take width
  let n := cs.foldl (fun n c => 16 * n + hexDigitValue c) 0
  if cs.length = width && cs.all isHexDigit && n.isValidChar then
    set ((← get).drop width)
    return Char.ofNat n
  else refuse

def escape : Reader Char := do
  char '\\'
  match ← charIf fun _ => true with
  | 'b' => return '\x08'
  | 'f' => return '\x0c'
  | 'n' => return '\n'
  | 'r' => return '\r'
  | 't' => return '\t'
  | 'u' => codePoint 4
  | 'U' => codePoint 8
  | '\\' => return '\\'
  | '"' => return '"'
  | _ => refuse

def basicText : Reader String := do
  char '"'
  let parts ← all (span1 isPlainChar <|> (do return [← escape]))
  char '"'
  return String.ofList parts.flatten

def literalText : Reader String := do
  char '\''
  let cs ← span isLiteralChar
  char '\''
  return String.ofList cs

-- A backslash at the end of a line, and all white space behind it.
def joinedLines : Reader Unit := do
  char '\\'
  spaces
  newline
  discard (all (discard (span1 isSpace) <|> newline))

-- A line end within a text is always the same character.
def lineBreak : Reader (List Char) := do
  newline
  return ['\n']

-- One or two quotes within a text between three quotes, behind which something else of the text
-- follows.
def innerQuotes (quote : Char) (follows : Reader Unit) : Reader (List Char) :=
  quotes [quote, quote] <|> quotes [quote]
where
  quotes (cs : List Char) : Reader (List Char) := do
    chars (String.ofList cs)
    if ← ahead follows then return cs else refuse

-- A text between three quotes, of parts that hold no quotes.
def longText (quote : Char) (part : Reader (List Char)) : Reader String := do
  let fence := chars (String.ofList [quote, quote, quote])
  fence
  discard (option newline)
  let inner := innerQuotes quote (discard (charIf (· != quote)))
  let parts ← all (part <|> (do return (← inner) ++ (← part)))
  let last ← option (innerQuotes quote fence)
  fence
  return String.ofList (parts.flatten ++ last.getD [])

def longBasicText : Reader String :=
  longText '"' (span1 isPlainChar <|> (do joinedLines; return []) <|> (do return [← escape]) <|>
    lineBreak)

def longLiteralText : Reader String := longText '\'' (span1 isLiteralChar <|> lineBreak)

def anyText : Reader String := longBasicText <|> basicText <|> longLiteralText <|> literalText

end Interpose.Toml.Reader
