import FilterGraph.Fault
import FilterGraph.Text.Quoted
import FilterGraph.Text.Utf8

namespace FilterGraph

inductive ExportCause where
  | missingParam (name typeId : String)
  | invalidAddress (token : String)
  | noAddress
  | mixedFamilies
  | invalidPort (token : String)
  | noPort
  | invalidProtocol (token : String)
  | noProtocol
  | invalidInterface (name : String)
  | unknownField (name : String)
  | unreadableList (path : String) (f : FileFailure)
  | invalidListLine (path : String) (line : Nat) (token : String)
  | severalTargets
  | unsafeValue (param : String)
  | unknownPlaceholder (name template : String)
  | invalidPlaceholder (template : String) (line column : Nat)
  | invalidFileName (name : String)
  | unknownHook (hook : String)
  | lateBaseChain (hook baseHook : String) (basePriority : Int)
  | chainTaken (chain owner : String)
  | failed (kind text : String)
  | notAFragment (typeId kind : String)
  | cyclic (ordered total : Nat)
  | unstaged (folder : String) (f : FileFailure)
  | unwritten (folder : String) (f : FileFailure)
  | notAFolder (path : String)
  | fault (f : Fault)
  | other (text : String)
  deriving DecidableEq, Repr

structure ExportError where
  node? : Option String
  cause : ExportCause
  deriving DecidableEq, Repr

def notAnAddress (token : String) : String :=
  s!"{Text.quote token} does not appear to be an IPv4 or IPv6 network"

namespace ExportCause

def message : ExportCause → String
  | .missingParam name typeId => s!"parameter '{name}' is required by {typeId}"
  | .invalidAddress token => s!"invalid address '{token}': {notAnAddress token}"
  | .noAddress => "no address given"
  | .mixedFamilies => "cannot mix IPv4 and IPv6 addresses in one filter"
  | .invalidPort token => s!"invalid port '{token}'"
  | .noPort => "no port given"
  | .invalidProtocol token => s!"invalid protocol '{token}'"
  | .noProtocol => "no protocol given"
  | .invalidInterface name => s!"invalid interface name '{name}'"
  | .unknownField name => s!"field must be 'source' or 'destination', got '{name}'"
  | .unreadableList path f => s!"cannot read address list '{path}': {f.message}"
  | .invalidListLine path line token => s!"{path}:{line}: {notAnAddress token}"
  | .severalTargets => "translation needs exactly one address"
  | .unsafeValue param =>
    s!"parameter '{param}' may only contain letters, digits and _ . : / , @ + -"
  | .unknownPlaceholder name template => s!"unknown placeholder {Text.quote name} in '{template}'"
  | .invalidPlaceholder template line column =>
    s!"bad template '{template}': Invalid placeholder in string: line {line}, col {column}"
  | .invalidFileName name => s!"invalid data file name '{name}'"
  | .unknownHook hook => s!"unsupported NAT hook '{hook}'"
  | .lateBaseChain hook baseHook basePriority =>
    s!"{hook} NAT needs the base chain to run earlier " ++
      s!"(base_hook={baseHook}, base_priority={basePriority})"
  | .chainTaken chain owner => s!"chain name '{chain}' is already used by node '{owner}'"
  | .failed kind text => s!"{kind}: {text}"
  | .notAFragment typeId kind => s!"{typeId} returned {kind}, not a Fragment"
  | .cyclic ordered total =>
    s!"Topological sort failed: {ordered}/{total} nodes sorted (graph is not acyclic)"
  | .unstaged folder f => s!"cannot create staging directory in {folder}: {f.message}"
  | .unwritten folder f => s!"cannot write export to {folder}: {f.message}"
  | .notAFolder path => s!"{path} exists and is not a directory"
  | .fault f => f.message
  | .other text => text

end ExportCause

def ExportError.message (e : ExportError) : String :=
  match e.node? with
  | none => e.cause.message
  | some node => s!"Node '{node}': {e.cause.message}"

/-- What can go wrong while a node type emits a node. All but a refusal become refusals of the export,
    with the kind of failure in front. -/
inductive EmitError where
  | refused (e : ExportError)
  | missingChain (node : String)
  | undecodable (e : Utf8.DecodeError)
  | unwritable (u : Unwritable)
  | unsupported (typeId : String)
  | noHome
  | zeroInPath
  | failure (kind text : String)
  | notAFragment (kind : String)
  deriving DecidableEq, Repr

namespace EmitError

def description : EmitError → String × String
  | .refused e => ("ExportError", e.message)
  | .missingChain node => ("KeyError", Text.quote node)
  | .undecodable e => ("UnicodeDecodeError", e.message)
  | .unwritable u => ("ValueError", u.message)
  | .unsupported typeId => ("NotImplementedError", s!"Node type '{typeId}' cannot be exported")
  | .noHome => ("RuntimeError", "Could not determine home directory.")
  | .zeroInPath => ("ValueError", "embedded null byte")
  | .failure kind text => (kind, text)
  | .notAFragment kind => ("", kind)

def toExportError (node typeId : String) : EmitError → ExportError
  | .refused e => e
  | .notAFragment kind => ⟨some node, .notAFragment typeId kind⟩
  | e => ⟨some node, .failed e.description.1 e.description.2⟩

end EmitError
end FilterGraph
