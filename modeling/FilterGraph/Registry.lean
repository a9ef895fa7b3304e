import FilterGraph.Builtin
import FilterGraph.Bundle
import FilterGraph.ExtensionError

namespace FilterGraph

structure Registry where
  types : List NodeType := []
  extensions : Entries String String := []

inductive RegistryError where
  | duplicateType (typeId : String)
  | unknownType (typeId : String)
  deriving DecidableEq, Repr

def RegistryError.message : RegistryError → String
  | .duplicateType typeId => s!"Node type '{typeId}' is already registered"
  | .unknownType typeId => s!"Unknown node type '{typeId}'"

namespace Registry

def builtin : Registry := { types := Builtin.all.map Builtin.nodeType }

def typeIds (r : Registry) : List String := r.types.map (·.typeId)

def get? (r : Registry) (typeId : String) : Option NodeType := r.types.find? (·.typeId == typeId)

def contains (r : Registry) (typeId : String) : Bool := r.typeIds.contains typeId

def hasExtension (r : Registry) (id : String) : Bool := (r.extensions.get? id).isSome

def extensionIds (r : Registry) : List String := (r.extensions.map (·.1)).mergeSort

def register (r : Registry) (t : NodeType) : Except RegistryError Registry :=
  if r.contains t.typeId then .error (.duplicateType t.typeId)
  else .ok { r with types := r.types ++ [t] }

def resolve (r : Registry) (typeId : String) : Except RegistryError NodeType :=
  match r.get? typeId with
  | some t => .ok t
  | none => .error (.unknownType typeId)

def repeated (known : List String) : List String → List String
  | [] => []
  | id :: rest => if known.contains id then id :: repeated known rest else repeated (id :: known) rest

def clashes (r : Registry) (b : Bundle) : List String :=
  (repeated r.typeIds (b.types.map (·.typeId))).eraseDups.mergeSort

/-- Adds the types of a bundle. Gives false, and the registry as it was, for a bundle that is there. -/
def load (r : Registry) (b : Bundle) : Except ExtensionError (Registry × Bool) :=
  match r.extensions.get? b.id with
  | some fingerprint =>
    if fingerprint == b.fingerprint then .ok (r, false) else .error (.conflict b.id [])
  | none =>
    match r.clashes b with
    | [] => .ok (⟨r.types ++ b.types, r.extensions ++ [(b.id, b.fingerprint)]⟩, true)
    | clashes => .error (.conflict b.id clashes)

end Registry
end FilterGraph
