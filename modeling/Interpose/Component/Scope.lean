import Interpose.Text.LetterCase
import Interpose.Text.Blank

namespace Interpose

inductive Scope where
  | singleton
  | prototype
  deriving DecidableEq, Repr

namespace Scope

def label : Scope → String
  | singleton => "Singleton"
  | prototype => "Prototype"

-- Reads a scope in any letter case, with white space around it.
def parse? (text : String) : Option Scope :=
  match Text.lower (Text.trim text) with
  | "singleton" => some singleton
  | "prototype" => some prototype
  | _ => none

def invalidMessage (text : String) : String := "Invalid scope: " ++ text

end Scope
end Interpose
