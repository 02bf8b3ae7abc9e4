import Interpose.Behaviour

namespace Interpose

-- What an instance of a scripted component keeps in mind.
structure Memory where
  count : Nat
  -- The values that it got for its fields.
  texts : List (String × String)
  objects : List (String × Instance)
  handles : List (String × Handle)
  lines : List String
  opened : Bool

def Memory.blank : Memory := ⟨0, [], [], [], [], false⟩

mutual

-- The value that a script writes down. The target of each handle from outside is new every time;
-- `next` is the number of the next one.
def Value.renew (next : Nat) : Value → Value × Nat
  | .handle typeName (.object i) .outside serial =>
    (.handle typeName (.object { i with copy := next }) .outside serial, next + 1)
  | .wiring fields =>
    let (fields, next) := Value.renewFields next fields
    (.wiring fields, next)
  | v => (v, next)

def Value.renewFields (next : Nat) : List (String × Value) → List (String × Value) × Nat
  | [] => ([], next)
  | (name, v) :: rest =>
    let (v, next) := v.renew next
    let (rest, next) := Value.renewFields next rest
    ((name, v) :: rest, next)

end

structure Stage where
  log : List String
  -- The number of the next labelled instance.
  nextId : Nat
  -- The number that tells the next instance apart from those of the same label.
  nextCopy : Nat
  memories : List (Instance × Memory)

namespace Stage

def empty : Stage := ⟨[], 1, 1, []⟩

def write (s : Stage) (line : String) : Stage := { s with log := s.log ++ [line] }

def memory (s : Stage) (i : Instance) : Memory := (s.memories.lookup i).getD .blank

def remember (s : Stage) (i : Instance) (m : Memory) : Stage :=
  { s with memories := (i, m) :: s.memories.filter (·.1 != i) }

def newLabelled (s : Stage) (kind name : String) : Instance × Stage :=
  (⟨kind, some ⟨name, s.nextId⟩, 0⟩, { s with nextId := s.nextId + 1 })

def newPlain (s : Stage) (kind : String) : Instance × Stage :=
  (⟨kind, none, s.nextCopy⟩, { s with nextCopy := s.nextCopy + 1 })

end Stage

namespace Behaviour

variable {R : Requests}

def log (line : String) : Behaviour Stage R Unit := modify (·.write line)

def memory (i : Instance) : Behaviour Stage R Memory := do return (← state).memory i

def remember (i : Instance) (m : Memory) : Behaviour Stage R Unit := modify (·.remember i m)

-- Counts once more and gives the number.
def countUp (i : Instance) : Behaviour Stage R Nat := do
  let m ← memory i
  remember i { m with count := m.count + 1 }
  return m.count + 1

def newLabelled (kind name : String) : Behaviour Stage R Instance := do
  let (i, s) := (← state).newLabelled kind name
  modify fun _ => s
  return i

def newPlain (kind : String) : Behaviour Stage R Instance := do
  let (i, s) := (← state).newPlain kind
  modify fun _ => s
  return i

def written (v : Value) : Behaviour Stage R Value := do
  let (v, nextCopy) := v.renew (← state).nextCopy
  modify ({ · with nextCopy })
  return v

def writtenAll (vs : List Value) : Behaviour Stage R (List Value) := vs.mapM written

end Behaviour

def Instance.shown (i : Instance) : String := ((i.label.map Label.text)).getD ""

-- The label of an instance, if the value is one that can be shown.
def Value.label? : Value → Option Label
  | .object i => i.label
  | _ => none

def Value.render : Value → String
  | .text s => s
  | .int n => toString n.toInt
  | .bool b => toString b
  | .unit => "()"
  | .word n => toString n.toNat
  | .size n => toString n
  | .object i => ((i.label.map fun l => "obj " ++ l.text)).getD "opaque"
  | .wiring fields => "wiring/" ++ toString fields.length
  | .handle typeName target _ _ =>
    "ref " ++ Label.text ⟨typeName, (target.label?.map (·.id)).getD 0⟩

def renderAll (sep : String) (vs : List Value) : String := sep.intercalate (vs.map Value.render)

end Interpose
