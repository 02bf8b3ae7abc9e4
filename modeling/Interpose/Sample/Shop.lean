import Interpose.Declaration.Aspect
import Interpose.Sample.Member
import Interpose.Text.LetterCase

namespace Interpose.Sample

open Declaration Source

def orderLimit : UInt32 := 10

-- Adds to what has been reserved and gives all of it.
def reserveMore (i : Instance) (amount : UInt32) : Action Stage Value := do
  if amount > orderLimit then
    .fail (.other ("only " ++ toString orderLimit ++ " items per order"))
  else do
    let m ← Behaviour.memory i
    Behaviour.remember i { m with count := m.count + amount.toNat }
    return .word (.ofNat (m.count + amount.toNat))

def reserve : Member := method "reserve" ["u32"] (giving "u32") fun i args =>
  match args with
  | [.word amount] => reserveMore i amount
  | _ => return .unit

def inventoryName : String := "shop.Inventory"

def inventory (home : String) : Definition Stage :=
  component home (derived inventoryName []) [reserve] fun _ => return

def checkoutName : String := "shop.Checkout"

-- The component in a field of an instance.
def partner (i : Instance) (field : String) : Action Stage Handle := do
  match (← Behaviour.memory i).handles.lookup field with
  | some h => return h
  | none => .raise (.fieldNotWired field)

def order : Member := method "order" ["u32"] .asValue fun i args => do
  Behaviour.call (← partner i "inventory") (some checkoutName) "reserve" (args.map (·.toValue))

def checkout (home : String) : Definition Stage :=
  component home (derived checkoutName [handleField "inventory" inventoryName]) [order]
    fun _ => return

def meteringName : String := "shop.Metering"

def calls : Member := reading "calls" (giving "usize") fun i => do
  return .size (← Behaviour.memory i).count

def seen : Member := reading "seen" (giving "String") fun i => do
  return .text (",".intercalate (← Behaviour.memory i).lines)

def meteringComponent (home : String) : Definition Stage :=
  component home (derived meteringName []) [calls, seen] fun _ => return

def count (i : Instance) (jp : JoinPoint) : Behaviour Stage jp.requests Value := do
  let _ ← Behaviour.countUp i
  jp.proceed

def record (i : Instance) (jp : JoinPoint) : Behaviour Stage jp.requests Value := do
  let m ← Behaviour.memory i
  Behaviour.remember i { m with lines := m.lines ++ [jp.joint.name] }
  jp.proceed

def advice (name expression : String) (privilege : Option Int) : DeclaredAdvice :=
  ⟨name, [.ofValue expression], privilege.map IntegerLiteral.ofValue⟩

-- It counts what the checkout reserves, and writes down every reservation.
def metering (home : String) : Aspect Stage :=
  let declared : Advising := {
    privilege := some (.ofValue 3)
    advices := [
      advice "count" "execution(* shop.Inventory.reserve(..)) && within(shop.Checkout)" none,
      advice "record" "execution(u32 reserve(u32))" (some 1)] }
  declared.define (meteringComponent home) (kindOf home meteringName) fun name =>
    if name = "count" then count else record

def loudName : String := "shop.Loud"

def shout (_ : Instance) (jp : JoinPoint) : Behaviour Stage jp.requests Value := do
  return .text (Text.upper (← .check (Kind.text.cast (← jp.proceed))))

def loud (home : String) : Aspect Stage :=
  let declared : Advising := {
    privilege := none
    advices := [advice "shout" "execution(String describe(String, u32))" (some 2)] }
  declared.define (component home (derived loudName []) [] fun _ => return)
    (kindOf home loudName) fun _ => shout

end Interpose.Sample
