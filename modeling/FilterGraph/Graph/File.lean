import FilterGraph.Graph.Document
import FilterGraph.Loader
import FilterGraph.Snapshot.Text

namespace FilterGraph

inductive SaveError where
  | dump (e : DumpError)
  | file (f : FileFailure)
  deriving DecidableEq, Repr

namespace Snapshot

def ofValue (source : String) (v : Value) : Except GraphError Snapshot :=
  if v.entries?.isNone then .error (.corrupt (.notAMap source))
  else (check v).mapError fun issues => .corrupt (.invalid (some source) issues)

def load (t : FileTree) (p : Path) : Except GraphError Snapshot :=
  let read := if Format.ofPath p == .yaml then t.readYaml p else t.readJson p
  match read with
  | .error (.unreadable e) => .error (.corrupt (.unreadable p.toText e))
  | .error .malformed => .error (.corrupt (.unparsable p.toText))
  | .error (.fault f) => .error (.fault f)
  | .ok v => ofValue p.toText v

def saveText (text : String) (t : FileTree) (p : Path) : FileTree × Except FileFailure Unit :=
  match t.makeFolders p.parent with
  | (t, .error f) => (t, .error f)
  | (t, .ok ()) => t.attempt p (t.write p (Utf8.encode text))

/-- Writes a snapshot in the form that is asked for, or else in that of the file; gives the text. Nothing is
    written unless there is a text. -/
def save (s : Snapshot) (format? : Option (Except String Format)) (t : FileTree) (p : Path) :
    FileTree × Except SaveError String :=
  match s.dump (format?.getD (.ok (Format.ofPath p))) with
  | .error e => (t, .error (.dump e))
  | .ok text =>
    match saveText text t p with
    | (t, .error f) => (t, .error (.file f))
    | (t, .ok ()) => (t, .ok text)

end Snapshot

structure Opening where
  registry : Registry
  events : List Event := []
  outcome : Except GraphError Graph

namespace Graph

def openSnapshot (r : Registry) (loader? : Option Loader) (t : FileTree) (s : Snapshot) : Opening :=
  let loading := r.require loader? t s.extensions
  { registry := loading.registry, events := loading.events
    outcome := match loading.failure? with
      | some e => .error (.extension e)
      | none => ofSnapshot loading.registry s }

def openValue (r : Registry) (loader? : Option Loader) (t : FileTree) (v : Value) : Opening :=
  match Snapshot.check v with
  | .error issues => { registry := r, outcome := .error (.corrupt (.invalid none issues)) }
  | .ok s => openSnapshot r loader? t s

def openFile (r : Registry) (loader? : Option Loader) (t : FileTree) (p : Path) : Opening :=
  match Snapshot.load t p with
  | .error e => { registry := r, outcome := .error e }
  | .ok s => openSnapshot r loader? t s

end Graph
end FilterGraph
