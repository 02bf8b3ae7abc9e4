import Interpose.Toml.Number
import Interpose.Toml.Value

namespace Interpose.Toml

-- A table whose first key is this one is the moment whose text is given there.
def momentKey : String := "$__toml_private_datetime"

namespace Reader

-- The hours of the text of a moment; the last one may also end the day.
def lateHour : Reader Nat := suchThat (digits 2) (· ≤ 24)

-- An offset of at most one day.
def wideOffset : Reader Offset :=
  (do discard (charIf fun c => c == 'Z' || c == 'z'); return .zulu) <|> do
    let negative := (← charIf fun c => c == '+' || c == '-') == '-'
    let hours ← digits 2
    char ':'
    let n : Nat := 60 * hours + (← digits 2)
    if n ≤ 24 * 60 then return .minutes (if negative then -n else n) else refuse

-- The text of a moment; other than in a document, an offset may directly follow a date.
def momentText : Reader DateTime := dated <|> do return ⟨none, some (← time lateHour), none⟩
where
  dated : Reader DateTime := do
    let date ← date
    let time ← option (do
      discard (charIf fun c => c == 'T' || c == 't' || c == ' ')
      time lateHour)
    return ⟨some date, time, ← option wideOffset⟩

end Reader

def moment? (text : String) : Option DateTime :=
  match Reader.momentText.run text.toList with
  | some (d, []) => some d
  | _ => none

mutual

-- The value with its moments, and with the entries of tables in the order of their keys. It is none
-- if a moment has no proper text; what follows the text in its table does not count.
def Value.resolve : Value → Option Value
  | .array items => (resolveItems items).map .array
  | .table [] => some (.table [])
  | .table ((key, v) :: rest) =>
    if key = momentKey then
      match v with
      | .text s => (moment? s).map .moment
      | _ => none
    else do
      let entries := (key, ← v.resolve) :: (← resolveEntries rest)
      return .table (entries.mergeSort fun a b => decide (a.1 ≤ b.1))
  | v => some v

def resolveItems : List Value → Option (List Value)
  | [] => some []
  | v :: rest => do return (← v.resolve) :: (← resolveItems rest)

def resolveEntries : List (String × Value) → Option (List (String × Value))
  | [] => some []
  | (key, v) :: rest => do return (key, ← v.resolve) :: (← resolveEntries rest)

end

end Interpose.Toml
