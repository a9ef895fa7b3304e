import FilterGraph.Address.Network
import FilterGraph.NodeType
import FilterGraph.Text.LowerCase

namespace FilterGraph

inductive Side where
  | source
  | destination
  deriving DecidableEq, Repr

inductive Criterion where
  | interface
  | address (side : Side)
  | ports (side : Side)
  | protocol
  deriving DecidableEq, Repr

inductive Builtin where
  | source
  | localhost
  | filter (criterion : Criterion)
  | addressList
  | familySplitter
  | nat (side : Side)
  | drop
  | accept
  deriving DecidableEq, Repr

namespace Side

def addressSelector : Side → String
  | .source => "saddr"
  | .destination => "daddr"

def portSelector : Side → String
  | .source => "sport"
  | .destination => "dport"

def hook : Side → String
  | .source => "postrouting"
  | .destination => "prerouting"

def natKeyword : Side → String
  | .source => "snat"
  | .destination => "dnat"

end Side

def sourceType : String := "core:source"
def localhostType : String := "core:localhost"

def listItems (s : String) : List String :=
  ((Text.pieces ',' s.toList).map Text.trimChars).filterMap fun item =>
    if item.isEmpty then none else some (String.ofList item)

def itemSet : List String → String
  | [item] => item
  | items => "\x7b " ++ ", ".intercalate items ++ " \x7d"

def networks (value : String) : Except ExportCause (List Network) := do
  let found ← (listItems value).mapM fun token =>
    match Network.ofText? token with
    | some n => .ok n
    | none => .error (.invalidAddress token)
  match found with
  | [] => throw .noAddress
  | first :: rest =>
    if rest.all (·.isV4 == first.isV4) then return found else throw .mixedFamilies

def familyKeyword (isV4 : Bool) : String := if isV4 then "ip" else "ip6"

def isPortToken (token : String) : Bool :=
  let parts := Text.pieces '-' token.toList
  parts.length ≤ 2 && parts.all fun part =>
    !part.isEmpty && part.length ≤ 5 && part.all Text.isDecimalDigit &&
      (Text.decimalNumber? part).any (· ≤ 65535)

def isProtocolToken (token : String) : Bool :=
  match token.toList with
  | [] => false
  | c :: rest => c.isLower && rest.all fun c => c.isLower || c.isDigit || c == '-'

def isInterfaceName (name : String) : Bool :=
  let cs := name.toList
  !cs.isEmpty && cs.length ≤ 15 && cs.all fun c => c.isAlphanum || "_.:@*-".toList.contains c

namespace Criterion

def param : Criterion → Param
  | .interface => { name := "interface", displayName := "Match interface" }
  | .address .source => { name := "address", displayName := "Match source address" }
  | .address .destination => { name := "address", displayName := "Match destination address" }
  | .ports .source => { name := "ports", displayName := "Match source port" }
  | .ports .destination => { name := "ports", displayName := "Match destination port" }
  | .protocol => { name := "protocol", displayName := "Match protocol" }

def expression (value : String) : Criterion → Except ExportCause String
  | .interface =>
    if isInterfaceName value then .ok s!"iifname \"{value}\"" else .error (.invalidInterface value)
  | .address side => do
    let found ← networks value
    let keyword := familyKeyword (found.all Network.isV4)
    let set := itemSet (found.map Network.toText)
    return s!"{keyword} {side.addressSelector} {set}"
  | .ports side => do
    let tokens := listItems value
    if tokens.isEmpty then throw .noPort
    match tokens.find? fun token => !isPortToken token with
    | some token => throw (.invalidPort token)
    | none =>
      let set := itemSet tokens
      return s!"th {side.portSelector} {set}"
  | .protocol => do
    let tokens := (listItems value).map Text.lower
    if tokens.isEmpty then throw .noProtocol
    match tokens.find? fun token => !isProtocolToken token with
    | some token => throw (.invalidProtocol token)
    | none => return s!"meta l4proto {itemSet tokens}"

end Criterion

structure AddressList where
  v4 : List Network := []
  v6 : List Network := []

namespace AddressList

def lineText (line : String) : String :=
  String.ofList (Text.trimChars (line.toList.takeWhile (· != '#')))

def read (path : String) (number : Nat) : List String → Except ExportCause AddressList
  | [] => .ok {}
  | line :: rest =>
    let token := lineText line
    if token.isEmpty then read path (number + 1) rest
    else match Network.ofText? token with
      | none => .error (.invalidListLine path (number + 1) token)
      | some n => do
        let l ← read path (number + 1) rest
        return if n.isV4 then { l with v4 := n :: l.v4 } else { l with v6 := n :: l.v6 }

def content (l : AddressList) : String :=
  String.join ((l.v4 ++ l.v6).map fun n => n.toText ++ "\n")

def unreadable (node path : String) (e : FileError) : EmitError :=
  .refused ⟨some node, .unreadableList path ⟨e, Path.ofText path, none⟩⟩

/-- The file a list is read from. A home folder is never among the files at hand, and where it lies is not known. -/
def load (site : Site) (node path : String) : Except EmitError AddressList :=
  match (Path.ofText path).parts with
  | first :: rest =>
    if !path.startsWith "/" && first.startsWith "~" then
      if FileTree.hasZero first || (first == "~" && FileTree.hasZero path) then .error .zeroInPath
      else if first == "~" then .error (unreadable node path (if rest.isEmpty then .isAFolder else .missing))
      else .error .noHome
    else match site.files.readText (Path.ofText path) with
      | .error (.file .zeroByte) => .error .zeroInPath
      | .error (.file e) => .error (unreadable node path e)
      | .error (.undecodable e) => .error (.undecodable e)
      | .ok text =>
        (read path 0 (Text.lines (String.ofList text))).mapError fun cause => .refused ⟨some node, cause⟩
  | [] => .error (unreadable node path .isAFolder)

def familyLines (chain file selector : String) (isV4 : Bool) (entries : List Network)
    (verdict : Verdict) : List ScriptLine :=
  let keyword := familyKeyword isV4
  let set := s!"{chain}_{keyword}"
  .addSet set (if isV4 then "ipv4_addr" else "ipv6_addr") ::
    (if entries.isEmpty then [] else [.fillSet set file (!isV4)]) ++
    [.rule ⟨chain, .expression s!"{keyword} {selector} @{set}", verdict⟩]

end AddressList

namespace Builtin

def all : List Builtin :=
  [.source, .localhost, .filter .interface, .addressList, .filter (.address .source),
    .filter (.address .destination), .filter (.ports .source), .filter (.ports .destination),
    .filter .protocol, .familySplitter, .nat .source, .nat .destination, .drop, .accept]

def typeId : Builtin → String
  | .source => sourceType
  | .localhost => localhostType
  | .filter .interface => "core:interface_filter"
  | .filter (.address .source) => "core:source_address_filter"
  | .filter (.address .destination) => "core:destination_address_filter"
  | .filter (.ports .source) => "core:source_port_filter"
  | .filter (.ports .destination) => "core:destination_port_filter"
  | .filter .protocol => "core:protocol_filter"
  | .addressList => "core:file_ip_list"
  | .familySplitter => "core:family_splitter"
  | .nat .source => "core:source_nat"
  | .nat .destination => "core:destination_nat"
  | .drop => "core:drop"
  | .accept => "core:accept"

def displayName : Builtin → String
  | .source => "Incoming Source"
  | .localhost => "Local Machine"
  | .filter .interface => "Interface Filter"
  | .filter (.address .source) => "Source Address Filter"
  | .filter (.address .destination) => "Destination Address Filter"
  | .filter (.ports .source) => "Source Port Filter"
  | .filter (.ports .destination) => "Destination Port Filter"
  | .filter .protocol => "Protocol Filter"
  | .addressList => "IP File Filter"
  | .familySplitter => "Family Splitter"
  | .nat .source => "Source Address Translation"
  | .nat .destination => "Destination Address Translation"
  | .drop => "Drop"
  | .accept => "Accept"

def kind : Builtin → String
  | .source => "SourceNode"
  | .localhost => "LocalhostNode"
  | .filter .interface => "InterfaceFilter"
  | .filter (.address .source) => "SourceAddressFilter"
  | .filter (.address .destination) => "DestinationAddressFilter"
  | .filter (.ports .source) => "SourcePortFilter"
  | .filter (.ports .destination) => "DestinationPortFilter"
  | .filter .protocol => "ProtocolFilter"
  | .addressList => "FileIpList"
  | .familySplitter => "FamilySplitter"
  | .nat .source => "SourceNAT"
  | .nat .destination => "DestinationNAT"
  | .drop => "Drop"
  | .accept => "Accept"

def matchPorts : List Port := [.input, .output "match", .output "non-match"]

def ports : Builtin → List Port
  | .source => [.output "out" "incoming"]
  | .localhost => [.input "in" "delivered"]
  | .filter _ => matchPorts
  | .addressList => matchPorts
  | .familySplitter =>
    [.input, { Port.output "ipv4" with family := .ipv4 }, { Port.output "ipv6" with family := .ipv6 }]
  | .nat _ => [.input, .output "out"]
  | .drop => [.input]
  | .accept => [.input]

def params : Builtin → List Param
  | .filter criterion => [criterion.param]
  | .addressList =>
    [{ name := "path", displayName := "Matching list file" },
      { name := "field", displayName := "Address field", default? := some "source", required := false }]
  | .nat .source => [{ name := "address", displayName := "Send packet from" }]
  | .nat .destination => [{ name := "address", displayName := "Direct packet to" }]
  | _ => []

def resolve (b : Builtin) (node : NodeView) : Except EmitError (Entries String String) :=
  NodeType.resolve b.params b.typeId node

def header (b : Builtin) (node : NodeView) : Except EmitError ScriptLine :=
  (node.header b.displayName b.typeId).map .text

private def refuse {α : Type} (node : NodeView) : Except ExportCause α → Except EmitError α :=
  Except.mapError fun cause => .refused ⟨some node.id, cause⟩

def filterListing (criterion : Criterion) (node : NodeView) (outgoing : List Connection) (site : Site) :
    Except EmitError Listing := do
  let b := Builtin.filter criterion
  let values ← b.resolve node
  let chain ← site.chain node.id
  let expression ← refuse node (criterion.expression ((values.get? criterion.param.name).getD ""))
  let header ← b.header node
  let onMatch ← site.portVerdict outgoing "match"
  let otherwise ← site.portVerdict outgoing "non-match"
  return { lines := [header, .rule ⟨chain, .expression expression, onMatch⟩,
    .rule ⟨chain, .always, otherwise⟩] }

def fieldSelector? (field : String) : Option String :=
  if field == "source" then some "saddr" else if field == "destination" then some "daddr" else none

def addressListListing (node : NodeView) (outgoing : List Connection) (site : Site) :
    Except EmitError Listing := do
  let b := Builtin.addressList
  let values ← b.resolve node
  let field := (values.get? "field").getD ""
  let selector ← match fieldSelector? field with
    | some selector => .ok selector
    | none => refuse node (.error (.unknownField field))
  let list ← AddressList.load site node.id ((values.get? "path").getD "")
  let chain ← site.chain node.id
  let file := site.dataPath node.id "addresses.txt"
  let onMatch ← site.portVerdict outgoing "match"
  let header ← b.header node
  let otherwise ← site.portVerdict outgoing "non-match"
  return {
    lines := header :: AddressList.familyLines chain file selector true list.v4 onMatch ++
      AddressList.familyLines chain file selector false list.v6 onMatch ++
      [.rule ⟨chain, .always, otherwise⟩]
    files := [("addresses.txt", list.content)] }

def splitterListing (node : NodeView) (outgoing : List Connection) (site : Site) :
    Except EmitError Listing := do
  let chain ← site.chain node.id
  let header ← Builtin.familySplitter.header node
  let v4 ← site.portVerdict outgoing "ipv4"
  let v6 ← site.portVerdict outgoing "ipv6"
  return { lines := [header, .rule ⟨chain, .family .ipv4, v4⟩,
    .rule ⟨chain, .family .ipv6, v6⟩] }

def natStatement (side : Side) (mark : Int) (target : Network) : String :=
  let address := String.ofList (target.toChars.takeWhile (· != '/'))
  s!"meta mark {markText mark} {side.natKeyword} {familyKeyword target.isV4} to {address}"

def natListing (side : Side) (node : NodeView) (outgoing : List Connection) (site : Site) :
    Except EmitError Listing := do
  let b := Builtin.nat side
  let values ← b.resolve node
  let found ← refuse node (networks ((values.get? "address").getD ""))
  let target ← match found with
    | [target] => .ok target
    | _ => refuse node (.error .severalTargets)
  let chain ← site.chain node.id
  let header ← b.header node
  let next ← site.portVerdict outgoing "out"
  return {
    lines := [header, .rule ⟨chain, .always, .mark site.mark⟩, .rule ⟨chain, .always, next⟩]
    nat := [(side.hook, [natStatement side site.mark target])] }

def terminalListing (b : Builtin) (verdict : Verdict) (node : NodeView) (site : Site) :
    Except EmitError Listing := do
  let chain ← site.chain node.id
  return { lines := [← b.header node, .rule ⟨chain, .always, verdict⟩] }

def listing (b : Builtin) (node : NodeView) (outgoing : List Connection) (site : Site) :
    Except EmitError Listing :=
  match b with
  | .source | .localhost => .ok {}
  | .filter criterion => filterListing criterion node outgoing site
  | .addressList => addressListListing node outgoing site
  | .familySplitter => splitterListing node outgoing site
  | .nat side => natListing side node outgoing site
  | .drop => terminalListing .drop .drop node site
  | .accept => terminalListing .accept .accept node site

def rawText (node : NodeView) (name : String) : Except Unwritable String :=
  ((node.params.get? name).map Value.written).getD (.ok "")

def predicate (b : Builtin) (node : NodeView) (output : String) : Except Unwritable Predicate :=
  let matching (param : String) : Except Unwritable Predicate := do
    return ⟨b.typeId, [(if output == "match" then "allow" else "exclude", ← rawText node param)]⟩
  match b with
  | .filter criterion => matching criterion.param.name
  | .addressList => matching "path"
  | .familySplitter => .ok ⟨b.typeId, [("family", output)]⟩
  | .nat _ => do return ⟨b.typeId, [("addr", ← rawText node "address")]⟩
  | _ => .ok ⟨b.typeId, []⟩

def nodeType (b : Builtin) : NodeType :=
  { kind := b.kind, typeId := b.typeId, displayName := b.displayName, ports := b.ports,
    params := b.params
    emit := fun node _ outgoing site => (b.listing node outgoing site).map Listing.fragment
    predicate := fun node output => (b.predicate node output).map some }

def ofTypeId? (s : String) : Option Builtin := all.find? (·.typeId == s)

end Builtin
end FilterGraph
