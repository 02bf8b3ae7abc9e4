import Interpose.Text.Alphanumeric
import Interpose.Text.Blank

namespace Interpose.Pointcut

-- A word is a longest run of letters, digits and the characters of names and patterns.
inductive Token where
  | word (text : String)
  | openParen
  | closeParen
  | comma
  | not
  | and
  | or
  | atSign
  deriving DecidableEq, Repr

namespace Token

def lexeme : Token → String
  | word text => text
  | openParen => "("
  | closeParen => ")"
  | comma => ","
  | not => "!"
  | and => "&&"
  | or => "||"
  | atSign => "@"

-- A token between quotes, as messages show it.
def shown (t : Token) : String := "'" ++ t.lexeme ++ "'"

end Token

structure Located where
  token : Token
  position : Nat
  deriving DecidableEq, Repr

def isWordChar (c : Char) : Bool :=
  Text.isAlphanumeric c || c == '_' || c == '$' || c == '.' || c == '*' || c == '+'

-- Why a text has no tokens, with the position of the character that is to blame.
inductive TokenFault where
  -- An operator of two equal characters has only the first of them.
  | undoubled (c : Char) (position : Nat)
  | stray (c : Char) (position : Nat)
  deriving DecidableEq, Repr

-- The token for a character that is one on its own.
def Token.ofChar? : Char → Option Token
  | '(' => some openParen
  | ')' => some closeParen
  | ',' => some comma
  | '!' => some not
  | '@' => some atSign
  | _ => none

-- The token for a character that counts only when doubled.
def Token.ofDoubled? : Char → Option Token
  | '&' => some and
  | '|' => some or
  | _ => none

def tokensFrom (position : Nat) (s : List Char) : Except TokenFault (List Located) :=
  match s with
  | [] => .ok []
  | c :: rest =>
    if Text.isBlank c then tokensFrom (position + 1) rest
    else if let some token := Token.ofChar? c then
      (tokensFrom (position + 1) rest).map (⟨token, position⟩ :: ·)
    else if let some token := Token.ofDoubled? c then
      match rest with
      | d :: rest' =>
        if d = c then (tokensFrom (position + 2) rest').map (⟨token, position⟩ :: ·)
        else .error (.undoubled c position)
      | [] => .error (.undoubled c position)
    else if isWordChar c then
      let tail := rest.takeWhile isWordChar
      let token := Token.word (String.ofList (c :: tail))
      (tokensFrom (position + 1 + tail.length) (rest.dropWhile isWordChar)).map
        (⟨token, position⟩ :: ·)
    else .error (.stray c position)
termination_by s.length
decreasing_by
  · simp
  · simp
  · simp only [List.length_cons]; omega
  · have h := (List.dropWhile_suffix (l := rest) isWordChar).length_le
    simp only [List.length_cons]; omega

def tokensOf (expression : String) : Except TokenFault (List Located) :=
  tokensFrom 0 expression.toList

end Interpose.Pointcut
