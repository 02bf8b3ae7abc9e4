import Interpose.Metadata.Data
import Interpose.Script.Intercepted
import Interpose.Script.Aspect
import Interpose.Weaving.Layer

namespace Interpose

mutual

-- Texts, integers, booleans and null stand for themselves, null for the unit; other values are
-- records of one field.
def Value.ofData (kind : String) : Data → Value
  | .null => .unit
  | .bool b => .bool b
  | .int n => .int (.ofInt n)
  | .text s => .text s
  | .list _ => .unit
  | .record [("u32", .int n)] => .word (.ofNat n.toNat)
  | .record [("stub", .text typeName)] => Script.stub kind typeName
  | .record [("wiring", .record fields)] => .wiring (Value.ofFields kind fields)
  | .record _ => .unit

def Value.ofFields (kind : String) : List (String × Data) → List (String × Value)
  | [] => []
  | (name, d) :: rest => (name, Value.ofData kind d) :: Value.ofFields kind rest

end

-- A value is written as it is read, where it can be read at all; of instances and handles the
-- numbers are told.
def Value.toData : Value → Data
  | .text s => s
  | .int n => n.toInt
  | .bool b => b
  | .unit => .null
  | .word n => .record [("u32", n.toNat)]
  | .size n => .record [("usize", n)]
  | .handle typeName target _ _ =>
    .record [("ref", typeName), ("id", .ofOption (fun l => l.id) target.label?)]
  | .object ⟨_, some l, _⟩ => .record [("obj", l.name), ("id", l.id)]
  | .object _ => .record [("opaque", true)]
  | .wiring fields => .record [("wiring", fields.length)]

namespace Script

def valuesOf (kind : String) (d : Data) : List Value := d.items.map (Value.ofData kind)

def Deed.ofData (kind : String) (d : Data) : Deed :=
  match (d.get "do").str with
  | "const" => .const (.ofData kind (d.get "value"))
  | "echo" => .echo
  | "prefix" => .prepend (d.get "prefix").str
  | "sum" => .sum
  | "count" => .count
  | "fail" => .fail (d.get "message").str
  | "flaky" => .flaky (d.get "times").natural
  | "string" => .text (d.get "field").str
  | "raw" => .object (d.get "field").str
  | "ref" => .handle (d.get "field").str
  | "call" => .call (d.get "field").str (d.get "caller").text? (d.get "method").str
  | _ => .unit

def wantsText (d : Data) : Bool := (d.get "this").str == "string"

def Body.ofData? (kind : String) (d : Data) : Option Body :=
  if d.isNull then none else some ⟨.ofData kind d, wantsText d⟩

-- A list of a word and what belongs to it.
def Step.ofData (kind : String) (d : Data) : Step :=
  let text (i : Nat) := (d.nth i).str
  match text 0 with
  | "log" => .log (text 1)
  | "proceed" => .proceed
  | "proceed_with" => .proceedOn (valuesOf kind (d.nth 1))
  | "rewire" => .proceedOn [.ofData kind (.record [("wiring", d.nth 1)])]
  | "catch" => .rescue
  | "retry" => .retry (d.nth 1).natural
  | "return" => .give (.ofData kind (d.nth 1))
  | "fail" => .fail (text 1)
  | "wrap" => .wrap (text 1) (text 2)
  | "arg" => .arg (d.nth 1).natural
  | "int_arg" => .intArg (d.nth 1).natural
  | "this" => .this
  | "is_autowire" => .isAutowire
  | "count" => .count
  | "aspect" => .aspect
  | "field" => .field (text 1)
  | "call" => .call (text 1) (text 2) (valuesOf kind (d.nth 3))
  | "debug" => .inspect
  | _ => .info

def stepsOf (kind : String) (d : Data) : List Step :=
  (d.get "script").items.map (Step.ofData kind)

def Allocation.ofData (d : Data) : Allocation where
  failure := (d.get "fail").text?
  handles := (d.get "refs").strings
  texts := (d.get "strings").strings
  objects := (d.get "raws").strings

-- Every method that is no advice belongs to the component.
def Component.ofData (kind : String) (d : Data) : Component :=
  let t := d.get "type"
  let methods := (t.get "methods").items.filter fun m => !m.has "script"
  { type := { TypeDescription.ofData t with methods := [], fields := [] }
    methods := methods.map fun m =>
      (.ofData (t.get "name").str m, Body.ofData? kind (m.get "body"))
    fields := (t.get "fields").items.map Field.ofData
    allocation := .ofData (d.get "alloc")
    initialization := if d.has "init" then some ⟨((d.get "init").get "fail").text?⟩ else none
    scope := (d.get "scope").text?.map fun s =>
      if s = "prototype" then .prototype else .singleton
    lazy := (d.get "lazy").bool?
    existing := (d.get "instance").text? }

def Origin.ofName : String → Origin
  | "component" => .component
  | "instance" => .existing
  | _ => .allocation

-- A method with a script is an advice.
def Aspect.ofData (kind : String) (d : Data) : Aspect :=
  let t := d.get "type"
  let advices := (t.get "methods").items.filter (·.has "script")
  { origin := .ofName (d.get "via").str
    component := .ofData kind d
    privilege := (d.get "privilege").int?
    advices := advices.map fun m =>
      (.ofData (t.get "name").str m, ⟨stepsOf kind m, wantsText m⟩) }

def FreeAdvice.ofData (kind : String) (d : Data) : FreeAdvice where
  name := (d.get "name").str
  expression := (d.get "expr").str
  privilege := (d.get "privilege").int?
  steps := stepsOf kind d

end Script

-- Switches that are left out have their usual positions.
def WeavingConfig.ofData (d : Data) : WeavingConfig where
  enabled := (d.get "enabled").bool?.getD WeavingConfig.default.enabled
  failOnDummy := (d.get "fail_on_dummy_advice").bool?.getD WeavingConfig.default.failOnDummy
  traceDispatch := (d.get "trace_dispatch").bool?.getD WeavingConfig.default.traceDispatch

end Interpose
