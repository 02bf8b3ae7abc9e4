import Interpose.Data
import Interpose.Metadata.Hierarchy

namespace Interpose

namespace Modifiers

def ofData (d : Data) : Modifiers := .ofList (d.strings.filterMap Modifier.ofKeyword?)

end Modifiers

namespace Annotation

def ofData (d : Data) : Annotation :=
  match d.strings with
  | [] => ⟨"", []⟩
  | typeName :: values => ⟨typeName, values⟩

def toData (a : Annotation) : Data := a.typeName :: a.values

end Annotation

def MethodRole.label : MethodRole → String
  | method => "method"
  | allocation => "new"
  | initialization => "init"

namespace Method

def template (declaring kind name : String) : Method :=
  match kind with
  | "new" => allocation declaring
  | "init" => initialization
  | "advice" => advice name
  | _ => plain name

def ofData (declaring : String) (d : Data) : Method :=
  let m := template declaring (d.get "kind").str (d.get "name").str
  let m := { m with
    name := (d.get "name").text?.getD m.name
    returnType := (d.get "returns").text?.getD m.returnType
    params := if d.has "params" then (d.get "params").strings else m.params
    modifiers := if d.has "mods" then .ofData (d.get "mods") else m.modifiers }
  let m := (d.get "around").strings.foldl around m
  let m := ((d.get "privilege").int?.map m.privilege).getD m
  ((d.get "annotations").items.map Annotation.ofData).foldl annotate m

def toData (m : Method) : Data := .record [
  ("name", m.name), ("kind", m.kind.label), ("mods", m.modifiers.text),
  ("returns", m.returnType), ("params", m.params),
  ("annotations", m.annotations.map Annotation.toData)]

end Method

namespace Field

def ofData (d : Data) : Field :=
  let f := plain (d.get "name").str (d.get "type").str
  { f with
    modifiers := if d.has "mods" then .ofData (d.get "mods") else f.modifiers
    annotations := (d.get "annotations").items.map Annotation.ofData }

def toData (f : Field) : Data := .record [
  ("name", f.name), ("type", f.fieldType), ("mods", f.modifiers.text),
  ("injection", f.isInjected), ("annotations", f.annotations.map Annotation.toData)]

end Field

namespace TypeDescription

def ofData (d : Data) : TypeDescription :=
  let t := plain (d.get "name").str
  { t with
    supertypes := (d.get "extends").strings
    modifiers := if d.has "mods" then .ofData (d.get "mods") else t.modifiers
    annotations := (d.get "annotations").items.map Annotation.ofData
    methods := (d.get "methods").items.map (Method.ofData t.name)
    fields := (d.get "fields").items.map Field.ofData }

def toData (t : TypeDescription) : Data := .record [
  ("name", t.name), ("extends", t.supertypes), ("mods", t.modifiers.text),
  ("annotations", t.annotations.map Annotation.toData),
  ("methods", t.methods.map Method.toData), ("fields", t.fields.map Field.toData)]

end TypeDescription

def Hierarchy.ofData (d : Data) : Hierarchy := .ofList (d.items.map TypeDescription.ofData)

end Interpose
