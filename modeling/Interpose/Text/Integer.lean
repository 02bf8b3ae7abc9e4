import Interpose.Text.Blank

namespace Interpose.Text

def digitsValue (digits : List Char) : Nat :=
  digits.foldl (fun n c => 10 * n + (c.toNat - '0'.toNat)) 0

-- Reads one or more digits.
def natural? (digits : List Char) : Option Nat :=
  if digits != [] && digits.all Char.isDigit then some (digitsValue digits) else none

-- Reads digits behind an optional sign.
def signed? : List Char → Option Int
  | '-' :: digits => (natural? digits).map fun n => -(n : Int)
  | '+' :: digits => (natural? digits).map fun n => (n : Int)
  | digits => (natural? digits).map fun n => (n : Int)

-- The integer needs at most `bits` bits, one of them for the sign.
def fits (bits : Nat) (n : Int) : Bool :=
  let bound : Int := Nat.pow 2 (bits - 1)
  n < bound && -n ≤ bound

-- Reads an integer of at most `bits` bits.
def integer? (bits : Nat) (s : String) : Option Int := (signed? s.toList).filter (fits bits)

end Interpose.Text
