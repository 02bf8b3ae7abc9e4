namespace Interpose.Binary64

def signBit : UInt64 := 0x8000000000000000

def infinity : UInt64 := 0x7ff0000000000000

def nan : UInt64 := 0x7ff8000000000000

def isNaN (bits : UInt64) : Bool := (bits &&& ~~~signBit) > infinity

def log2 (num den : Nat) : Int :=
  let k : Int := num.log2 - den.log2
  let reached := if 0 ≤ k then den * Nat.pow 2 k.toNat ≤ num else den ≤ num * Nat.pow 2 (-k).toNat
  if reached then k else k - 1

-- The nearest whole number to a fraction, of two the even one.
def roundEven (num den : Nat) : Nat :=
  let q := num / den
  let twice := 2 * (num % den)
  if twice < den || (twice == den && q % 2 == 0) then q else q + 1

-- The exponent of the last bit that counts in a fraction.
def quantum (num den : Nat) : Int := max (log2 num den - 52) (-1074)

-- The pattern of a fraction. Patterns of positive numbers count them in order, so that rounding up
-- to the next power of two needs no care.
def ofFraction (num den : Nat) : UInt64 :=
  if num = 0 then 0
  else
    let q := quantum num den
    let m :=
      if 0 ≤ q then roundEven num (den * Nat.pow 2 q.toNat)
      else roundEven (num * Nat.pow 2 (-q).toNat) den
    let bits := (q + 1074).toNat * Nat.pow 2 52 + m
    if bits < infinity.toNat then .ofNat bits else infinity

-- The pattern of digits times a power of ten. Magnitudes far out of range are not computed.
def ofDecimal (digits : Nat) (exponent : Int) : UInt64 :=
  let magnitude := (Nat.toDigits 10 digits).length + exponent
  if digits = 0 || magnitude < -330 then 0
  else if magnitude > 310 then infinity
  else if 0 ≤ exponent then ofFraction (digits * Nat.pow 10 exponent.toNat) 1
  else ofFraction digits (Nat.pow 10 (-exponent).toNat)

def neg (bits : UInt64) : UInt64 := bits ^^^ signBit

def hex (bits : UInt64) : String :=
  let digits := Nat.toDigits 16 bits.toNat
  String.ofList (List.replicate (16 - digits.length) '0' ++ digits)

-- The pattern as it is shown: all that are no numbers look alike.
def text (bits : UInt64) : String := if isNaN bits then "nan" else hex bits

end Interpose.Binary64
