import FilterGraph.Graph
import FilterGraph.Settings

namespace FilterGraph

def isChainChar (c : Char) : Bool := c.isAlphanum || c == '_'

def chainName (id : String) : String :=
  if isPermanentId id then id
  else "n_" ++ String.ofList (id.toList.map fun c => if isChainChar c then c else '_')

def chainNames : List String → Except ExportError (Entries String String) :=
  List.foldlM (fun known id =>
    let name := chainName id
    match known.find? (·.2 == name) with
    | some (owner, _) => .error ⟨some id, .chainTaken name owner⟩
    | none => .ok (known ++ [(id, name)])) []

def Side.priority : Side → Int
  | .source => 100
  | .destination => -100

def Side.all : List Side := [.source, .destination]

def Side.ofHook? (hook : String) : Option Side := all.find? (·.hook == hook)

namespace Settings

def baseChain (s : Settings) : String :=
  s!"\x7b type filter hook {s.baseHook.name} priority {s.basePriority}; policy accept; \x7d"

def table (s : Settings) : String := s!"{s.tableFamily.name} {s.tableName}"

/-- The base chain has to mark packets before their addresses are changed. -/
def admitsNat (s : Settings) : Side → Bool
  | .destination => s.baseHook == .prerouting && s.basePriority < Side.destination.priority
  | .source => s.baseHook != .postrouting || s.basePriority < Side.source.priority

def hookProblem? (s : Settings) (hook : String) : Option ExportCause :=
  match Side.ofHook? hook with
  | none => some (.unknownHook hook)
  | some side =>
    if s.admitsNat side then none
    -- the refusal tells the priority, which may be too long to be written
    else if (Scalar.int s.basePriority).isLongNumber then some (.fault (.unwritable .longNumber))
    else some (.lateBaseChain hook s.baseHook.name s.basePriority)

end Settings

namespace Script

def opening (s : Settings) : List ScriptLine :=
  [.text "#!/bin/sh", .text "# Generated by nfgraph; edit the graph, not this file.",
    .text "set -eu", .text "cd \"$(dirname \"$0\")\"",
    .text s!"NFT=\"$\x7bNFT:-{s.nftBinary}\x7d\"", .text s!"TABLE={Shell.quote s.table}", .text "",
    .text "\"$NFT\" add table $TABLE", .text "\"$NFT\" flush table $TABLE"]

def preamble (s : Settings) (g : Graph) (chains : Entries String String) : List ScriptLine :=
  opening s ++
    chains.map (fun (id, name) => .addChain name (if id == sourceId then some s.baseChain else none)) ++
    (g.outgoing sourceId).map fun c =>
      .rule ⟨chainName sourceId, .always, .goto ((chains.get? c.input.node).getD "")⟩

def natBase (hook : String) (side : Side) : String :=
  s!"\x7b type nat hook {hook} priority {side.priority}; \x7d"

def natChain (hook : String) (statements : List String) : List ScriptLine :=
  match Side.ofHook? hook with
  | none => []
  | some side =>
    let name := "nat_" ++ hook
    .addChain name (some (natBase hook side)) :: statements.map (.statement name)

def natLines (nat : Entries String (List String)) : List ScriptLine :=
  .text "# nat" ::
    (nat.mergeSort fun a b => a.1 ≤ b.1).flatMap fun (hook, statements) =>
      natChain hook statements

def epilogue : List ScriptLine :=
  [.text "# localhost", .rule ⟨chainName localhostId, .always, .accept⟩]

end Script
end FilterGraph
