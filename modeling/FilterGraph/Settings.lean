import FilterGraph.Issue
import FilterGraph.Text.Blank

namespace FilterGraph

inductive TableFamily where
  | inet
  | ip
  | ip6
  deriving DecidableEq, Repr

inductive Hook where
  | prerouting
  | input
  | forward
  | output
  | postrouting
  deriving DecidableEq, Repr

inductive LogLevel where
  | debug
  | info
  | warning
  | error
  deriving DecidableEq, Repr

namespace TableFamily

def all : List TableFamily := [.inet, .ip, .ip6]

def name : TableFamily → String
  | .inet => "inet"
  | .ip => "ip"
  | .ip6 => "ip6"

def ofName? (s : String) : Option TableFamily := all.find? (·.name == s)

end TableFamily

namespace Hook

def all : List Hook := [.prerouting, .input, .forward, .output, .postrouting]

def name : Hook → String
  | .prerouting => "prerouting"
  | .input => "input"
  | .forward => "forward"
  | .output => "output"
  | .postrouting => "postrouting"

def ofName? (s : String) : Option Hook := all.find? (·.name == s)

end Hook

namespace LogLevel

def all : List LogLevel := [.debug, .info, .warning, .error]

def name : LogLevel → String
  | .debug => "DEBUG"
  | .info => "INFO"
  | .warning => "WARNING"
  | .error => "ERROR"

def rank : LogLevel → Nat
  | .debug => 0
  | .info => 1
  | .warning => 2
  | .error => 3

def ofName? (s : String) : Option LogLevel := all.find? (·.name == s)

end LogLevel

structure Settings where
  tableName : String := "nfgraph"
  tableFamily : TableFamily := .inet
  nftBinary : String := "nft"
  entryPoint : String := "apply.sh"
  dataFolder : String := "data"
  baseHook : Hook := .prerouting
  basePriority : Int := -150
  extensionPaths : List String := []
  logLevel : LogLevel := .warning
  deriving DecidableEq, Repr

namespace Settings

def isTableName : List Char → Bool
  | [] => false
  | c :: rest => (c.isAlpha || c == '_') && rest.all fun c => c.isAlphanum || c == '_'

def isEntryPoint (cs : List Char) : Bool := !cs.isEmpty && !cs.contains '/'

def isFolderName : List Char → Bool
  | [] => false
  | c :: rest =>
    (c.isAlphanum || c == '_') && rest.all fun c => c.isAlphanum || c == '_' || c == '.' || c == '-'

open Checked

def tableNameCheck : Value → Checked String := matching isTableName
def tableFamilyCheck : Value → Checked TableFamily := choice TableFamily.ofName?
def entryPointCheck : Value → Checked String := matching isEntryPoint
def dataFolderCheck : Value → Checked String := matching isFolderName
def baseHookCheck : Value → Checked Hook := choice Hook.ofName?
def extensionPathsCheck : Value → Checked (List String) := list string
def logLevelCheck : Value → Checked LogLevel := choice LogLevel.ofName?

def fieldNames : List String :=
  ["table_name", "table_family", "nft_binary", "entry_point", "data_dir", "base_hook", "base_priority",
    "extension_paths", "log_level"]

def check : Value → Checked Settings :=
  record fun entries =>
    (Except.ok Settings.mk
      |> apply (defaulted "table_name" tableNameCheck "nfgraph" entries)
      |> apply (defaulted "table_family" tableFamilyCheck .inet entries)
      |> apply (defaulted "nft_binary" string "nft" entries)
      |> apply (defaulted "entry_point" entryPointCheck "apply.sh" entries)
      |> apply (defaulted "data_dir" dataFolderCheck "data" entries)
      |> apply (defaulted "base_hook" baseHookCheck .prerouting entries)
      |> apply (defaulted "base_priority" int (-150) entries)
      |> apply (defaulted "extension_paths" extensionPathsCheck [] entries)
      |> apply (defaulted "log_level" logLevelCheck .warning entries)
      |> andAlso) (noOthers fieldNames entries)

def assignField (s : Settings) (name : String) (v : Value) : Checked Settings :=
  under (.field name) <|
    match name with
    | "table_name" => (tableNameCheck v).map fun a => { s with tableName := a }
    | "table_family" => (tableFamilyCheck v).map fun a => { s with tableFamily := a }
    | "nft_binary" => (string v).map fun a => { s with nftBinary := a }
    | "entry_point" => (entryPointCheck v).map fun a => { s with entryPoint := a }
    | "data_dir" => (dataFolderCheck v).map fun a => { s with dataFolder := a }
    | "base_hook" => (baseHookCheck v).map fun a => { s with baseHook := a }
    | "base_priority" => (int v).map fun a => { s with basePriority := a }
    | "extension_paths" => (extensionPathsCheck v).map fun a => { s with extensionPaths := a }
    | "log_level" => (logLevelCheck v).map fun a => { s with logLevel := a }
    | _ => fail .noSuchAttribute

inductive AssignError where
  | invalid (issues : List Issue)
  | readOnly (name : String)
  | wrongKind (name : String)
  deriving DecidableEq, Repr

def readOnlyNames : List String :=
  ["model_fields_set", "model_extra", "__fields_set__", "__weakref__"]

/-- Sets something by name. Names that start with an underscore are private and change no field. -/
def assign (s : Settings) (name : String) (v : Value) : Except AssignError Settings :=
  if readOnlyNames.contains name then .error (.readOnly name)
  else if name == "__class__" || (name == "__dict__" && v.entries?.isNone) then .error (.wrongKind name)
  else if name.startsWith "_" then .ok s
  else (s.assignField name v).mapError .invalid

def toValue (s : Settings) : Value :=
  .record [("table_name", .text s.tableName), ("table_family", .text s.tableFamily.name),
    ("nft_binary", .text s.nftBinary), ("entry_point", .text s.entryPoint),
    ("data_dir", .text s.dataFolder), ("base_hook", .text s.baseHook.name),
    ("base_priority", .int s.basePriority), ("extension_paths", .texts s.extensionPaths),
    ("log_level", .text s.logLevel.name)]

def pathOfVariable? (value : String) : Option String :=
  let name := Text.trim value
  if name.isEmpty then none else some name

end Settings
end FilterGraph
