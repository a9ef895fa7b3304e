import FilterGraph.DocumentFile
import FilterGraph.Event
import FilterGraph.Manifest.Reader
import FilterGraph.Registry

namespace FilterGraph

structure Loader where
  folders : List Path
  deriving DecidableEq, Repr

namespace Bundle

def ofValue (v : Value) (source? : Option Path := none) : Except ExtensionError Bundle :=
  match Manifest.check v with
  | .ok m => .ok (ofManifest m source?)
  | .error issues => .error (.invalid (source?.map Path.toText) issues)

def ofFile (t : FileTree) (p : Path) : Except ExtensionError Bundle :=
  match t.readYaml p with
  | .error (.unreadable e) => .error (.unreadable p.toText e)
  | .error .malformed => .error (.unparsable p.toText)
  | .error (.fault f) => .error (.fault f)
  | .ok v => if v.entries?.isSome then ofValue v (some p) else .error (.notAMap p.toText)

end Bundle

structure Logged (ε α : Type) where
  events : List Event := []
  outcome : Except ε α

namespace Loader

def endings : List String := [".yaml", ".yml", ".json"]

def looking {α : Type} (t : FileTree) (p : Path) (seen : α) : Except ExtensionError α :=
  if t.isTooLong p then .error (.fault (.file p.toText .nameTooLong)) else .ok seen

def bundleFiles (t : FileTree) (folder : Path) : List Path :=
  if t.isFolder folder then
    (((t.names folder).filter fun name => endings.contains (Path.suffixOf name)).mergeSort).map folder.child
  else []

def candidates (l : Loader) (t : FileTree) : Except ExtensionError (List Path) :=
  (l.folders.mapM fun folder => looking t folder (bundleFiles t folder)).map List.flatten

def namesakes (l : Loader) (id : String) : List Path :=
  l.folders.flatMap fun folder => endings.map fun ending => folder.child (id ++ ending)

def firstFile (t : FileTree) : List Path → Except ExtensionError (Option Path)
  | [] => .ok none
  | p :: rest => do
    if ← looking t p (t.isFile p) then return some p else firstFile t rest

/-- The first of the files that gives this id; unreadable ones are passed over. -/
def declaring (t : FileTree) (id : String) : List Path → Logged ExtensionError (Option Path)
  | [] => { outcome := .ok none }
  | p :: rest =>
    match t.readYaml p with
    | .error (.fault f) => { outcome := .error (.fault f) }
    | .error e =>
      let later := declaring t id rest
      { later with events := .bundleSkipped p.toText e :: later.events }
    | .ok v =>
      if ((v.field? "id").bind Value.text?) == some id then { outcome := .ok (some p) }
      else declaring t id rest

def find (l : Loader) (t : FileTree) (id : String) : Logged ExtensionError (Option Path) :=
  match firstFile t (l.namesakes id), l.candidates t with
  | .error e, _ => { outcome := .error e }
  | .ok (some p), _ => { outcome := .ok (some p) }
  | .ok none, .error e => { outcome := .error e }
  | .ok none, .ok paths => declaring t id paths

def loadFound (t : FileTree) (id : String) : Option Path → Except ExtensionError Bundle
  | none => .error (.notFound id)
  | some p => do
    let b ← Bundle.ofFile t p
    -- a file found by its name may hold another bundle
    if b.id == id then return b else throw (.misnamed p.toText b.id id)

def load (l : Loader) (t : FileTree) (id : String) : Logged ExtensionError Bundle :=
  let found := l.find t id
  { found with outcome := found.outcome.bind (loadFound t id) }

def available (l : Loader) (t : FileTree) : Except ExtensionError (List String) := do
  let ids ← (← l.candidates t).filterMapM fun p =>
    match Bundle.ofFile t p with
    | .ok b => .ok (some b.id)
    | .error (.fault f) => .error (.fault f)
    | .error _ => .ok none
  return ids.eraseDups.mergeSort

end Loader

structure Loading where
  registry : Registry
  events : List Event := []
  failure? : Option ExtensionError := none

namespace Registry

def loadEvent (b : Bundle) (isNew : Bool) : Event :=
  if isNew then .extensionLoaded b.id b.types.length else .extensionKnown b.id

def loadFrom (r : Registry) (l : Loader) (t : FileTree) (id : String) : Loading :=
  let found := l.load t id
  match found.outcome with
  | .error e => { registry := r, events := found.events, failure? := some e }
  | .ok b =>
    match r.load b with
    | .error e => { registry := r, events := found.events, failure? := some e }
    | .ok (r, isNew) => { registry := r, events := found.events ++ [loadEvent b isNew] }

def loadAll (r : Registry) (l : Loader) (t : FileTree) : List String → Loading
  | [] => { registry := r }
  | id :: rest =>
    let first := r.loadFrom l t id
    match first.failure? with
    | some _ => first
    | none =>
      let others := loadAll first.registry l t rest
      { others with events := first.events ++ others.events }

def require (r : Registry) (loader? : Option Loader) (t : FileTree) : List String → Loading
  | [] => { registry := r }
  | id :: rest =>
    if r.hasExtension id then require r loader? t rest
    else
      match loader? with
      | none => { registry := r, failure? := some (.notFound id) }
      | some l =>
        let first := r.loadFrom l t id
        match first.failure? with
        | some _ => first
        | none =>
          let others := require first.registry loader? t rest
          { others with events := first.events ++ others.events }

end Registry
end FilterGraph
