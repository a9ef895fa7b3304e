import FilterGraph.Text.Blank
import FilterGraph.Value.Text

namespace FilterGraph

abbrev Params := Entries String Value

structure Param where
  name : String
  displayName : String := ""
  default? : Option String := none
  required : Bool := true
  deriving DecidableEq, Repr

namespace Param

def toValue (p : Param) : Value :=
  .record [("name", .text p.name), ("display_name", .text p.displayName),
    ("default", (p.default?.map .text).getD .null), ("required", .bool p.required)]

def given (p : Param) (params : Params) : Except Unwritable String :=
  match params.get? p.name with
  | some value => if value.isNull then .ok "" else value.written.map Text.trim
  | none => .ok (Text.trim (p.default?.getD ""))

inductive Problem where
  | missing (p : Param)
  | unwritable (u : Unwritable)
  deriving DecidableEq, Repr

/-- The declared parameters with their texts; none that is required may be missing or blank. -/
def resolve (declared : List Param) (params : Params) : Except Problem (Entries String String) :=
  declared.foldlM (fun found p => do
    let text ← (p.given params).mapError .unwritable
    if text.isEmpty && p.required then throw (.missing p)
    return found.set p.name text) []

end Param
end FilterGraph
