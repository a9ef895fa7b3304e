import FilterGraph.DocumentFile
import FilterGraph.Settings

namespace FilterGraph

inductive SettingsError where
  | unreadable (path : String) (e : FileError)
  | malformed (path : String)
  | notAMap (path : String)
  | invalid (path : String) (issues : List Issue)
  | fault (f : Fault)
  deriving DecidableEq, Repr

def SettingsError.message : SettingsError → String
  | .unreadable path e => s!"Cannot read settings file {path}: {e.reason path}"
  | .malformed path => s!"Cannot read settings file {path}"
  | .notAMap path => s!"Settings file {path} must contain a mapping"
  | .invalid path _ => s!"Invalid settings in {path}"
  | .fault f => f.message

namespace Settings

def resolveFolder (t : FileTree) (file : Path) (folder : String) : Except SettingsError String :=
  if folder.startsWith "/" then .ok folder
  else if FileTree.hasZero folder then .error (.fault (.file folder .zeroByte))
  else .ok (t.absolute (file.parent.join (Path.ofText folder))).collapse.toText

def resolved (t : FileTree) (file : Path) (s : Settings) : Except SettingsError Settings := do
  return { s with extensionPaths := ← s.extensionPaths.mapM (resolveFolder t file) }

def ofFileValue (t : FileTree) (p : Path) (v : Value) : Except SettingsError Settings :=
  let v := if v.isNull then .map [] else v
  if v.entries?.isNone then .error (.notAMap p.toText)
  else
    match check v with
    | .ok s => s.resolved t p
    | .error issues => .error (.invalid p.toText issues)

def ofFile (t : FileTree) (p : Path) : Except SettingsError Settings :=
  match t.readYaml p with
  | .error (.unreadable e) => .error (.unreadable p.toText e)
  | .error .malformed => .error (.malformed p.toText)
  | .error (.fault f) => .error (.fault f)
  | .ok v => ofFileValue t p v

def load (t : FileTree) : Option Path → Except SettingsError Settings
  | none => .ok {}
  | some p =>
    if t.isTooLong p then .error (.fault (.file p.toText .nameTooLong))
    else if t.exists? p then ofFile t p
    else .ok {}

end Settings
end FilterGraph
