import FilterGraph.Port
import FilterGraph.Shell.Word
import FilterGraph.Text.Blank

namespace FilterGraph

inductive Condition where
  | always
  | family (f : AddressFamily)
  | expression (text : String)
  deriving DecidableEq, Repr

inductive Verdict where
  | goto (chain : String)
  | leave
  | accept
  | drop
  | mark (n : Int)
  deriving DecidableEq, Repr

structure Rule where
  chain : String
  condition : Condition := .always
  verdict : Verdict
  deriving DecidableEq, Repr

/-- A mark in hexadecimal; a sign stands behind the mark of the base. -/
def markText (n : Int) : String :=
  "0x" ++ (if n < 0 then "-" else "") ++ String.ofList (Nat.toDigits 16 n.natAbs)

def Verdict.toText : Verdict → String
  | .goto chain => s!"goto {chain}"
  | .leave => "return"
  | .accept => "accept"
  | .drop => "drop"
  | .mark n => s!"meta mark set {markText n}"

namespace Rule

def statement (r : Rule) : String :=
  match r.condition with
  | .always => r.verdict.toText
  | .family f => s!"meta nfproto {f.name} {r.verdict.toText}"
  | .expression text => s!"{text} {r.verdict.toText}"

def line (chain statement : String) : String :=
  s!"\"$NFT\" add rule $TABLE {chain} {Shell.quote statement}"

end Rule

inductive ScriptLine where
  | text (s : String)
  | addChain (name : String) (base : Option String)
  | addSet (name : String) (elementType : String)
  | fillSet (name : String) (file : String) (colons : Bool)
  | rule (r : Rule)
  | statement (chain : String) (s : String)
  deriving DecidableEq, Repr

def ScriptLine.toText : ScriptLine → String
  | .text s => s
  | .addChain name none => s!"\"$NFT\" add chain $TABLE {name}"
  | .addChain name (some base) => s!"\"$NFT\" add chain $TABLE {name} {Shell.quote base}"
  | .addSet name elementType =>
    s!"\"$NFT\" add set $TABLE {name} '\x7b type {elementType}; flags interval; \x7d'"
  | .fillSet name file colons =>
    let option := if colons then "-F" else "-vF"
    s!"grep {option} ':' {file} | while read -r addr; do " ++
      s!"\"$NFT\" add element $TABLE {name} \"\x7b $addr \x7d\"; done"
  | .rule r => Rule.line r.chain r.statement
  | .statement chain s => Rule.line chain s

def ScriptLine.joined (ls : List ScriptLine) : String :=
  "\n".intercalate (ls.map toText)

end FilterGraph
