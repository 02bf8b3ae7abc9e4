import Interpose.Sample.Shop

namespace Interpose.Sample

open Declaration

def ledgerName : String := "test.Ledger"

def journalName : String := "test.Journal"

def appendTo (i : Instance) (args : List Argument) : Action Stage Value := do
  let m ← Behaviour.memory i
  let lines := m.lines ++ args.map (·.shown)
  Behaviour.remember i { m with lines }
  return .size lines.length

def append : Member := method "append" ["String"] (giving "usize") appendTo

def describe : Member := method "describe" ["String", "u32"] (giving "String") fun _ args =>
  return .text (String.join (args.map (·.shown)))

def clear : Member := reading "clear" .nothing fun i => do
  Behaviour.remember i { (← Behaviour.memory i) with lines := [] }
  return .unit

def isOpen : Member := reading "is_open" (giving "bool") fun i => do
  return .bool (← Behaviour.memory i).opened

def checksum : Member := Member.asPrivate <| reading "checksum" (giving "u32") fun i => do
  return .word (.ofNat (← Behaviour.memory i).lines.length)

def openLedger (i : Instance) : Action Stage Unit := do
  Behaviour.remember i { (← Behaviour.memory i) with opened := true }

-- A journal, new for everyone who asks; it is open from the start.
def ledger (home : String) : Definition Stage :=
  let declared := { derived ledgerName [] with
    supertypes := [.ofValue journalName], annotations := [.ofValue "test.Audited"]
    scope := some .prototype, init := some "init" }
  component home declared [append, describe, clear, isOpen, checksum] openLedger

def auditorName : String := "test.Auditor"

def belonging (i : Instance) (field : String) : Action Stage Instance := do
  match (← Behaviour.memory i).objects.lookup field with
  | some o => return o
  | none => .raise (.fieldNotWired field)

def direct : Member := method "direct" ["String"] (giving "usize") fun i args => do
  appendTo (← belonging i "ledger") args

def through : Member := method "through" ["String"] .asValue fun i args => do
  Behaviour.call (← partner i "journal") (some auditorName) "append" (args.map (·.toValue))

-- What it does directly goes around the proxy of the ledger.
def auditor (home : String) : Definition Stage :=
  let declared := { derived auditorName [instanceField "ledger" ledgerName,
    handleField "journal" journalName] with lazy := true }
  component home declared [direct, through] fun _ => return

-- The components that are no aspects.
def components (home : String) : List (Definition Stage) :=
  [inventory home, checkout home, ledger home, auditor home]

def aspects (home : String) : List (Aspect Stage) := [metering home, loud home]

-- The components where there are no aspects; metering is a component by itself.
def plainComponents (home : String) : List (Definition Stage) :=
  components home ++ [meteringComponent home]

end Interpose.Sample
