import Interpose.Weaving.Error

namespace Interpose.Template

-- Fills in a template, of which so many placeholders have been filled already. Two percent signs
-- stand for one.
def fillFrom (used : Nat) : List Char → List String → Except TemplateFault (List Char)
  | [], [] => .ok []
  | [], rest => .error (.surplus used (used + rest.length))
  | '%' :: '%' :: t, args => (fillFrom used t args).map ('%' :: ·)
  | '%' :: 's' :: t, arg :: args => (fillFrom (used + 1) t args).map (arg.toList ++ ·)
  | '%' :: 'd' :: t, arg :: args => (fillFrom (used + 1) t args).map (arg.toList ++ ·)
  | '%' :: 's' :: _, [] => .error (.missing (used + 1))
  | '%' :: 'd' :: _, [] => .error (.missing (used + 1))
  | '%' :: c :: _, _ => .error (.unknown c)
  | ['%'], _ => .error .dangling
  | c :: t, args => (fillFrom used t args).map (c :: ·)

def fill (template : String) (args : List String) : Except WeavingError String :=
  match fillFrom 0 template.toList args with
  | .ok s => .ok (String.ofList s)
  | .error fault => .error (.template template fault)

end Interpose.Template
