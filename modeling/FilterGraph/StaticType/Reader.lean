import FilterGraph.Issue
import FilterGraph.StaticType

namespace FilterGraph

open Checked

def Port.check : Value → Checked Port :=
  record fun entries =>
    (Except.ok Port.mk
      |> apply (required "name" string entries)
      |> apply (required "kind" (member PortKind.ofName?) entries)
      |> apply (defaulted "family" (member AddressFamily.ofName?) .inet entries)
      |> apply (defaulted "flow" (member Flow.ofName?) .unset entries)
      |> apply (defaulted "display_name" string "" entries)
      |> andAlso) (noOthers ["name", "kind", "family", "flow", "display_name"] entries)

def Param.check : Value → Checked Param :=
  record fun entries =>
    (Except.ok Param.mk
      |> apply (Checked.required "name" string entries)
      |> apply (defaulted "display_name" string "" entries)
      |> apply (defaulted "default" (nullable string) none entries)
      |> apply (defaulted "required" bool true entries)
      |> andAlso) (noOthers ["name", "display_name", "default", "required"] entries)

end FilterGraph
