import Interpose.Pointcut.Meaning

namespace Interpose.Pointcut

-- Pointcuts by the texts that they were read from. The serial number of an entry tells apart
-- pointcuts that were read at different times.
structure Cache where
  entries : List (String × Nat × Pointcut)
  nextSerial : Nat

namespace Cache

def empty : Cache := ⟨[], 0⟩

def size (c : Cache) : Nat := c.entries.length

def isEmpty (c : Cache) : Bool := c.entries.isEmpty

-- The pointcut of a text, with its serial number, and the cache that holds it. A text is only read
-- if it is not in the cache, and kept only if it can be read.
def read (c : Cache) (expression : String) : Except ReadError ((Nat × Pointcut) × Cache) :=
  match c.entries.lookup expression with
  | some found => .ok (found, c)
  | none => do
    let p ← parse expression
    return ((c.nextSerial, p),
      ⟨c.entries ++ [(expression, c.nextSerial, p)], c.nextSerial + 1⟩)

-- Forgets all entries. Serial numbers are not used again.
def clear (c : Cache) : Cache := { c with entries := [] }

end Cache
end Interpose.Pointcut
