import FilterGraph.ExportError
import FilterGraph.Text.Blank
import FilterGraph.Value

namespace FilterGraph.Template

inductive Piece where
  | literal (c : Char)
  | placeholder (name : String)
  | malformed (line column : Nat)
  deriving DecidableEq, Repr

def startsName (c : Char) : Bool := c.isAlpha || c == '_'

def continuesName (c : Char) : Bool := c.isAlphanum || c == '_'

def name? (cs : List Char) : Option (List Char) :=
  match cs with
  | c :: rest => if startsName c then some (c :: rest.takeWhile continuesName) else none
  | [] => none

def place (read : List Char) : Nat × Nat :=
  let found := Text.cutLines [] read.reverse
  (found.length, (found.getLastD []).length)

def afterDollar (read rest : List Char) : Piece × Nat :=
  let malformed := Piece.malformed (place read).1 (place read).2
  match rest with
  | '$' :: _ => (.literal '$', 1)
  | '\x7b' :: inner =>
    match name? inner with
    | some found =>
      if (inner.drop found.length).head? == some '\x7d' then
        (.placeholder (String.ofList found), found.length + 2)
      else (malformed, 0)
    | none => (malformed, 0)
  | rest =>
    match name? rest with
    | some found => (.placeholder (String.ofList found), found.length)
    | none => (malformed, 0)

/-- `skip` characters of a placeholder are still to pass; `read` holds the characters read, last
    first. -/
def piecesFrom (read : List Char) (skip : Nat) : List Char → List Piece
  | [] => []
  | c :: rest =>
    match skip with
    | skip + 1 => piecesFrom (c :: read) skip rest
    | 0 =>
      if c = '$' then
        let (piece, size) := afterDollar (c :: read) rest
        piece :: piecesFrom (c :: read) size rest
      else .literal c :: piecesFrom (c :: read) 0 rest

def pieces (template : String) : List Piece := piecesFrom [] 0 template.toList

def fill (template : String) (values : Entries String String) : Piece → Except ExportCause (List Char)
  | .literal c => .ok [c]
  | .placeholder name =>
    match values.get? name with
    | some value => .ok value.toList
    | none => .error (.unknownPlaceholder name template)
  | .malformed line column => .error (.invalidPlaceholder template line column)

def render (template : String) (values : Entries String String) : Except ExportCause String := do
  let filled ← (pieces template).mapM (fill template values)
  return String.ofList filled.flatten

end FilterGraph.Template
