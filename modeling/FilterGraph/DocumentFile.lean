import FilterGraph.Fault
import FilterGraph.Json.Reader
import FilterGraph.Yaml.Reader

namespace FilterGraph

inductive DocumentError where
  | unreadable (e : FileError)
  | malformed
  | fault (f : Fault)
  deriving DecidableEq, Repr

namespace FileTree

def readDocument (t : FileTree) (p : Path) (parse : List Char → Except DocumentError Value) :
    Except DocumentError Value :=
  match t.readText p with
  | .error (.file .zeroByte) => .error (.fault (.file p.toText .zeroByte))
  | .error (.file e) => .error (.unreadable e)
  | .error (.undecodable _) => .error .malformed
  | .ok text => parse text

def readYaml (t : FileTree) (p : Path) : Except DocumentError Value :=
  t.readDocument p fun text =>
    match Yaml.read text with
    | .ok v => .ok v
    | .error .malformed => .error .malformed
    | .error f => .error (.fault (.yaml f))

def readJson (t : FileTree) (p : Path) : Except DocumentError Value :=
  t.readDocument p fun text =>
    match Json.read text with
    | .ok v => .ok v
    | .error .malformed => .error .malformed
    | .error f => .error (.fault (.json f))

end FileTree
end FilterGraph
