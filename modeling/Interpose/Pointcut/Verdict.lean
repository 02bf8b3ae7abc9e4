namespace Interpose

-- The unknown lies between the others.
inductive Verdict where
  | yes
  | no
  | unknown
  deriving DecidableEq, Repr

namespace Verdict

def ofBool : Bool → Verdict
  | true => yes
  | false => no

def and : Verdict → Verdict → Verdict
  | no, _ | _, no => no
  | yes, yes => yes
  | _, _ => unknown

def or : Verdict → Verdict → Verdict
  | yes, _ | _, yes => yes
  | no, no => no
  | _, _ => unknown

def not : Verdict → Verdict
  | yes => no
  | no => yes
  | unknown => unknown

end Verdict
end Interpose
