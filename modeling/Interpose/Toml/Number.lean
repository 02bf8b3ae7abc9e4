import Interpose.Number.Binary64
import Interpose.Text.Integer
import Interpose.Toml.DateTime
import Interpose.Toml.Text

namespace Interpose.Toml.Reader

-- Digits of a kind with single underscores between them; the underscores are dropped.
def digitGroups (p : Char → Bool) : Reader (List Char) := do
  let first ← charIf p
  let rest ← all (do
    discard (option (char '_'))
    charIf p)
  return first :: rest

def decimalValue (digits : List Char) : Nat :=
  digits.foldl (fun n c => 10 * n + (c.toNat - '0'.toNat)) 0

def sign : Reader (Option Char) := option (charIf fun c => c == '+' || c == '-')

-- A sign and decimal digits.
def decimalDigits : Reader (Bool × List Char) := do
  let negative := (← sign) == some '-'
  if (← peek) == some '0' then
    char '0'
    return (negative, ['0'])
  else return (negative, ← digitGroups Char.isDigit)

-- Digits of a base behind a prefix, without a sign.
def basedInteger (mark : String) (base : Nat) : Reader Int := do
  chars mark
  let digits ← digitGroups fun c => isHexDigit c && hexDigitValue c < base
  return digits.foldl (fun n c => base * n + hexDigitValue c) 0

def integer : Reader Int :=
  suchThat (basedInteger "0x" 16 <|> basedInteger "0o" 8 <|> basedInteger "0b" 2 <|> decimal)
    (Text.fits 64)
where
  decimal : Reader Int := do
    let (negative, digits) ← decimalDigits
    let n : Int := decimalValue digits
    return if negative then -n else n

def exponent : Reader Int := do
  discard (charIf fun c => c == 'e' || c == 'E')
  let negative := (← sign) == some '-'
  let n : Int := decimalValue (← digitGroups Char.isDigit)
  return if negative then -n else n

-- A decimal number with a fraction or an exponent, or both. Only a negative one may be out of
-- range.
def decimalFloat : Reader UInt64 := do
  let (negative, whole) ← decimalDigits
  let fraction ← option (do char '.'; digitGroups Char.isDigit)
  let power ← if fraction.isSome then option exponent else some <$> exponent
  let fraction := fraction.getD []
  let bits := Binary64.ofDecimal (decimalValue (whole ++ fraction))
    (power.getD 0 - fraction.length)
  let bits := if negative then Binary64.neg bits else bits
  if bits = Binary64.infinity then refuse else return bits

def specialFloat : Reader UInt64 := do
  let negative := (← sign) == some '-'
  let bits ← (do chars "inf"; return Binary64.infinity) <|> (do chars "nan"; return Binary64.nan)
  return if negative then Binary64.neg bits else bits

def float : Reader UInt64 := decimalFloat <|> specialFloat

def date : Reader Date := do
  let year ← digits 4
  char '-'
  let month ← suchThat (digits 2) fun n => 1 ≤ n && n ≤ 12
  char '-'
  let day ← suchThat (digits 2) fun n => 1 ≤ n && n ≤ daysIn year month
  return { year, month, day }

-- A fraction of a second in nanoseconds; what is finer is dropped.
def secondFraction : Reader Nat := do
  char '.'
  let digits := (← span1 Char.isDigit).take 9
  return decimalValue digits * Nat.pow 10 (9 - digits.length)

def hour : Reader Nat := suchThat (digits 2) (· ≤ 23)

def minute : Reader Nat := suchThat (digits 2) (· ≤ 59)

def time (hour : Reader Nat) : Reader Time := do
  let hour ← hour
  char ':'
  let minute ← minute
  char ':'
  let second ← suchThat (digits 2) (· ≤ 60)
  return { hour, minute, second, nanosecond := (← option secondFraction).getD 0 }

def offset : Reader Offset :=
  (do discard (charIf fun c => c == 'Z' || c == 'z'); return .zulu) <|> do
    let negative := (← charIf fun c => c == '+' || c == '-') == '-'
    let hours ← hour
    char ':'
    let n : Int := 60 * hours + (← minute)
    return .minutes (if negative then -n else n)

def dateTime : Reader DateTime := full <|> do return ⟨none, some (← time hour), none⟩
where
  full : Reader DateTime := do
    let date ← date
    let rest ← option (do
      discard (charIf fun c => c == 'T' || c == 't' || c == ' ')
      return (← time hour, ← option offset))
    return ⟨some date, rest.map (·.1), rest.bind (·.2)⟩

end Interpose.Toml.Reader
