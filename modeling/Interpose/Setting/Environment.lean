import Interpose.Setting.Source
import Interpose.Text.Quoted

namespace Interpose

structure Environment where
  sources : List SettingSource

namespace Environment

def empty : Environment := ⟨[]⟩

-- Adds a source. Higher priorities come first; of equal ones those that were added earlier.
def add (e : Environment) (s : SettingSource) : Environment :=
  ⟨(e.sources ++ [s]).mergeSort fun a b => decide (b.priority ≤ a.priority)⟩

-- The value in the first source that has one.
def get? (e : Environment) (key : String) : Option Setting := e.sources.findSome? (·.get? key)

def text? (e : Environment) (key : String) : Option String := (e.get? key).bind (·.asText?)

def textOr (e : Environment) (key default : String) : String := (e.text? key).getD default

def integer? (e : Environment) (key : String) : Option Int := (e.get? key).bind (·.asInteger?)

def boolean? (e : Environment) (key : String) : Option Bool := (e.get? key).bind (·.asBoolean?)

def switchOr (e : Environment) (key : String) (default : Bool) : Bool :=
  ((e.get? key).bind (·.asSwitch?)).getD default

def inspect (e : Environment) : String :=
  Text.record "Environment" [("sources_count", toString e.sources.length)]

end Environment
end Interpose
