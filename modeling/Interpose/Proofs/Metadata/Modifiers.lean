import Interpose.Metadata.Description
import Mathlib.Data.Nat.Bitwise

namespace Interpose

namespace Modifier

-- The position of the bit.
def index : Modifier → Nat
  | pub => 0
  | priv => 1
  | static => 2
  | final => 3
  | abstract => 4
  | bridge => 5
  | synthetic => 6

theorem bit_eq_two_pow (m : Modifier) : m.bit = 2 ^ m.index := by
  cases m <;> rfl

end Modifier

namespace Modifiers

variable {a : Modifiers} {ms : List Modifier}

theorem and_bit_ne_zero (a : Modifiers) (m : Modifier) :
    (a.bits &&& m.bit != 0) = (a.bits &&& m.bit == m.bit) := by
  have hp : 0 ≠ 2 ^ m.index := (Nat.two_pow_pos _).ne
  rw [m.bit_eq_two_pow, Nat.and_two_pow]
  cases a.bits.testBit m.index
  case false => simp [hp]
  case true  => simp

theorem has_eq (a : Modifiers) (m : Modifier) : a.has m = (a.bits &&& m.bit != 0) := by
  have hm : m.bit != 0 := by cases m <;> rfl
  simp [has, contains, hm, and_bit_ne_zero]

theorem intersects_ofList (a : Modifiers) (ms : List Modifier) :
    a.intersects (.ofList ms) = ms.any a.has := by
  have hf : ∀ bits, (a.bits &&& ms.foldl (fun bits m => bits ||| m.bit) bits != 0) =
      ((a.bits &&& bits != 0) || ms.any a.has) := by
    induction ms
    case nil => simp
    case cons m ms hi =>
      intro bits
      have ho : (a.bits &&& (bits ||| m.bit) != 0) = ((a.bits &&& bits != 0) || a.has m) := by
        rw [has_eq, Nat.and_or_distrib_left]
        simp [bne, Nat.or_eq_zero_iff, Bool.beq_eq_decide_eq]
      rw [List.foldl_cons, hi, ho, List.any_cons, Bool.or_assoc]
  simpa [intersects, ofList] using hf 0

end Modifiers

namespace Method

variable {m : Method}

-- The modifiers of which one is enough to keep a method from being advised.
def shields : List Modifier :=
  [.final, .static, .priv, .abstract, .bridge, .synthetic]

theorem isAdvisable_eq (m : Method) : m.isAdvisable = !shields.any m.modifiers.has :=
  congrArg (!·) (Modifiers.intersects_ofList m.modifiers shields)

theorem isAdvisable_iff : m.isAdvisable = true ↔ ∀ k ∈ shields, m.modifiers.has k = false := by
  rw [isAdvisable_eq, Bool.not_eq_true', List.any_eq_false]
  simp only [Bool.not_eq_true]

theorem not_isAdvisable_iff : m.isAdvisable = false ↔ ∃ k ∈ shields, m.modifiers.has k = true := by
  rw [isAdvisable_eq, Bool.not_eq_false', List.any_eq_true]

end Method

namespace Field

variable {f : Field}

theorem isInjected_iff : f.isInjected = true ↔
    f.modifiers.has .static = false ∧ f.modifiers.has .final = false := by
  simp [isInjected]

theorem not_isInjected_iff : f.isInjected = false ↔
    f.modifiers.has .static = true ∨ f.modifiers.has .final = true := by
  cases hs : f.modifiers.has .static <;> simp [isInjected, hs]

end Field
end Interpose
