import FilterGraph.Issue
import FilterGraph.Manifest

namespace FilterGraph

open Checked

namespace PortSpec

def check : Value → Checked PortSpec :=
  record fun entries =>
    (Except.ok PortSpec.mk
      |> apply (defaulted "family" (member AddressFamily.ofName?) .inet entries)
      |> apply (defaulted "direction" (choice Flow.ofDirectionName?) .unset entries)
      |> apply (defaulted "rule" string "" entries)
      |> apply (defaulted "display_name" string "" entries)
      |> andAlso) (noOthers ["family", "direction", "rule", "display_name"] entries)

end PortSpec

namespace NodeSpec

def isFileName (name : String) : Bool :=
  !name.isEmpty && !name.toList.contains '/' && !name.startsWith "."

def problem? (s : NodeSpec) : Option String :=
  if s.outputs.any (·.1 == "in") then some "output port name 'in' is reserved for the input"
  else (s.files.find? fun (name, _) => !isFileName name).map fun (name, _) =>
    s!"invalid data file name '{name}'"

def check (v : Value) : Checked NodeSpec := do
  let s ← record (fun entries =>
    (Except.ok NodeSpec.mk
      |> apply (required "display_name" string entries)
      |> apply (defaulted "params" (dict string) [] entries)
      |> apply (defaulted "input" PortSpec.check {} entries)
      |> apply (defaulted "outputs" (dict PortSpec.check) [] entries)
      |> apply (defaulted "setup" (list string) [] entries)
      |> apply (defaulted "files" (dict string) [] entries)
      |> andAlso) (noOthers ["display_name", "params", "input", "outputs", "setup", "files"] entries)) v
  ensure problem? s

end NodeSpec

namespace Manifest

def isId : List Char → Bool
  | [] => false
  | c :: rest => c.isLower && rest.all fun c => c.isLower || c.isDigit || c == '_' || c == '-'

def problem? (m : Manifest) : Option String :=
  if m.id == "core" then some "extension id 'core' is reserved for built-in node types" else none

def check (v : Value) : Checked Manifest := do
  let m ← record (fun entries =>
    (Except.ok Manifest.mk
      |> apply (required "id" (matching isId) entries)
      |> apply (defaulted "version" string "0" entries)
      |> apply (defaulted "description" string "" entries)
      |> apply (required "nodes" (dict NodeSpec.check) entries)
      |> andAlso) (noOthers ["id", "version", "description", "nodes"] entries)) v
  ensure problem? m

end Manifest
end FilterGraph
