import FilterGraph.Text.DecimalDigit
import FilterGraph.Yaml.Cursor
import FilterGraph.Yaml.Failure

namespace FilterGraph.Yaml

def folded (first : Char) (breaks : List Char) : List Char :=
  (if first != '\n' then [first] else if breaks.isEmpty then [' '] else []) ++ breaks

def escaped? (c : Char) : Option Char :=
  [('0', '\x00'), ('a', '\x07'), ('b', '\x08'), ('t', '\t'), ('\t', '\t'), ('n', '\n'), ('v', '\x0b'),
    ('f', '\x0c'), ('r', '\r'), ('e', '\x1b'), (' ', ' '), ('"', '"'), ('\\', '\\'), ('/', '/'),
    ('N', '\x85'), ('_', '\xa0'), ('L', '\u2028'), ('P', '\u2029')].lookup c

def escapeWidth? (c : Char) : Option Nat := [('x', 2), ('u', 4), ('U', 8)].lookup c

namespace Cursor

def quotedBreaks (fuel : Nat) (c : Cursor) : Reading (List Char × Cursor) :=
  match fuel with
  | 0 => .malformed
  | fuel + 1 =>
    if c.atDocumentMark then .malformed
    else
      let c := c.skipWhile fun ch => ch == ' ' || ch == '\t'
      match c.lineBreak? with
      | some (b, c) => (quotedBreaks fuel c).map fun (bs, c) => (b :: bs, c)
      | none => .ok ([], c)

def quotedSpace (c : Cursor) : Reading (List Char × Cursor) := do
  let (blanks, c) := c.takeWhile fun ch => ch == ' ' || ch == '\t'
  Reading.ensure (!c.rest.isEmpty)
  match c.lineBreak? with
  | some (b, c) =>
    let (bs, c) ← c.quotedBreaks (c.left + 1)
    return (folded b bs, c)
  | none => return (blanks, c)

def numbered (code : Nat) : Reading Char :=
  if code ≥ 0x110000 then .error (.character code)
  else if code.isValidChar then .ok (Char.ofNat code)
  else .malformed

def escape (c : Cursor) : Reading (List Char × Cursor) :=
  match c.rest with
  | [] => .malformed
  | ch :: rest =>
    match escaped? ch, escapeWidth? ch with
    | some plain, _ => .ok ([plain], c.past ch)
    | none, some width => do
      let digits := rest.take width
      Reading.ensure (digits.length == width && digits.all Text.isHexDigit)
      return ([← numbered (Text.asciiNumber 16 digits)], (c.past ch).beyond digits)
    | none, none =>
      match c.lineBreak? with
      | some (_, c) => c.quotedBreaks (c.left + 1)
      | none => .malformed

def quoted (double : Bool) (fuel : Nat) (c : Cursor) : Reading (List Char × Cursor) :=
  match fuel, c.rest with
  | fuel + 1, ch :: rest =>
    let after (piece : List Char) (c : Cursor) : Reading (List Char × Cursor) :=
      (quoted double fuel c).map fun (text, c) => (piece ++ text, c)
    if ch == '\'' && !double then
      if rest.head? == some '\'' then after ['\''] (c.skip 2) else .ok ([], c.past ch)
    else if ch == '"' && double then .ok ([], c.past ch)
    else if ch == '\\' && double then (c.past ch).escape >>= fun (piece, c) => after piece c
    else if ch == ' ' || ch == '\t' || isBreak ch then
      c.quotedSpace >>= fun (piece, c) => after piece c
    else after [ch] (c.past ch)
  | _, _ => .malformed

def plainBreaks? (fuel : Nat) (c : Cursor) : Option (List Char) × Cursor :=
  match fuel with
  | 0 => (none, c)
  | fuel + 1 =>
    let c := c.skipSpaces
    match c.lineBreak? with
    | none => (some [], c)
    | some (b, c) =>
      if c.atDocumentMark then (none, c)
      else
        let (bs?, c) := plainBreaks? fuel c
        (bs?.map (b :: ·), c)

def plainSpace (c : Cursor) : List Char × Bool × Cursor :=
  let (spaces, c) := c.takeWhile (· == ' ')
  match c.lineBreak? with
  | none => (spaces, false, c)
  | some (b, c) =>
    if c.atDocumentMark then ([], true, c)
    else
      match c.plainBreaks? (c.left + 1) with
      | (none, c) => ([], true, c)
      | (some bs, c) => (folded b bs, true, c)

def endsPlain (flow : Bool) (ch : Char) (next? : Option Char) : Bool :=
  isBreak ch || ch == ' ' || ch == '\t' ||
    (ch == ':' && (separates next? || (flow && next?.any fun c => ",[]\x7b\x7d".toList.contains c))) ||
    (flow && ",?[]\x7b\x7d".toList.contains ch)

def plainPiece (flow : Bool) : List Char → List Char
  | [] => []
  | ch :: rest => if endsPlain flow ch rest.head? then [] else ch :: plainPiece flow rest

/-- The text of a plain scalar, and whether a simple key may follow it: it may after a line end. Lines
    that go on have to be indented. -/
def plain (flow : Bool) (indent : Int) (fuel : Nat) (spaces : List Char) (keyMayFollow : Bool)
    (c : Cursor) : List Char × Bool × Cursor :=
  match fuel with
  | 0 => ([], keyMayFollow, c)
  | fuel + 1 =>
    let piece := plainPiece flow c.rest
    if c.peek? == some '#' || piece.isEmpty then ([], keyMayFollow, c)
    else
      let (next, crossed, c) := (c.beyond piece).plainSpace
      if next.isEmpty || c.peek? == some '#' || (!flow && (c.column : Int) < indent) then
        (spaces ++ piece, crossed, c)
      else
        let (text, keyMayFollow, c) := plain flow indent fuel next crossed c
        (spaces ++ piece ++ text, keyMayFollow, c)

inductive Chomping where
  | clip
  | strip
  | keep
  deriving DecidableEq, Repr

def chomping? : Char → Option Chomping
  | '+' => some .keep
  | '-' => some .strip
  | _ => none

def increment? (c : Char) : Option Nat := if '1' ≤ c && c ≤ '9' then some (c.toNat - '0'.toNat) else none

def blockHeader? (c : Cursor) : Option (Chomping × Option Nat × Cursor) :=
  let found :=
    match c.rest with
    | a :: b :: _ =>
      match chomping? a, increment? a with
      | some k, _ =>
        match increment? b with
        | some n => (k, some n, c.skip 2)
        | none => (k, none, c.skip 1)
      | none, some n =>
        match chomping? b with
        | some k => (k, some n, c.skip 2)
        | none => (.clip, some n, c.skip 1)
      | none, none => (.clip, none, c)
    | [a] =>
      match chomping? a, increment? a with
      | some k, _ => (k, none, c.skip 1)
      | none, some n => (.clip, some n, c.skip 1)
      | none, none => (.clip, none, c)
    | [] => (.clip, none, c)
  let (chomping, increment?, c) := found
  if endsWord c.peek? then c.restOfLine?.map fun c => (chomping, increment?, c) else none

def blockStart (fuel : Nat) (deepest : Nat) (c : Cursor) : List Char × Nat × Cursor :=
  match fuel with
  | 0 => ([], deepest, c)
  | fuel + 1 =>
    let c := c.skipSpaces
    let deepest := max deepest c.column
    match c.lineBreak? with
    | some (b, c) =>
      let (bs, deepest, c) := blockStart fuel deepest c
      (b :: bs, deepest, c)
    | none => ([], deepest, c)

def indentTo (indent : Nat) (c : Cursor) : Cursor :=
  c.beyond ((c.rest.take (indent - c.column)).takeWhile (· == ' '))

def blockBreaks (indent : Nat) (fuel : Nat) (c : Cursor) : List Char × Cursor :=
  match fuel with
  | 0 => ([], c)
  | fuel + 1 =>
    let c := c.indentTo indent
    match c.lineBreak? with
    | some (b, c) =>
      let (bs, c) := blockBreaks indent fuel c
      (b :: bs, c)
    | none => ([], c)

def blockLines (fold : Bool) (indent : Nat) (fuel : Nat) (c : Cursor) :
    List Char × List Char × List Char × Cursor :=
  match fuel with
  | 0 => ([], [], [], c)
  | fuel + 1 =>
    let isBlank (c? : Option Char) := c? == some ' ' || c? == some '\t'
    let starts := !isBlank c.peek?
    let (text, c) := c.takeWhile fun ch => !isBreak ch
    let (ending, c) := (c.lineBreak?.map fun (b, c) => ([b], c)).getD ([], c)
    let (breaks, c) := c.blockBreaks indent (c.left + 1)
    if c.column == indent && !c.rest.isEmpty then
      let joint :=
        if fold && ending == ['\n'] && starts && !isBlank c.peek? then
          (if breaks.isEmpty then [' '] else [])
        else ending
      let (more, lastEnding, lastBreaks, c) := blockLines fold indent fuel c
      (text ++ joint ++ breaks ++ more, lastEnding, lastBreaks, c)
    else (text, ending, breaks, c)

def block? (fold : Bool) (indent : Int) (c : Cursor) : Option (List Char × Cursor) := do
  let (chomping, increment?, c) ← c.blockHeader?
  let least := (max (indent + 1) 1).toNat
  let fuel := c.left + 1
  let (breaks, depth, c) :=
    match increment? with
    | some n =>
      let depth := least + n - 1
      let (breaks, c) := c.blockBreaks depth fuel
      (breaks, depth, c)
    | none =>
      let (breaks, deepest, c) := c.blockStart fuel 0
      (breaks, max least deepest, c)
  let (text, ending, breaks, c) :=
    if c.column == depth && !c.rest.isEmpty then
      let (text, ending, rest, c) := c.blockLines fold depth fuel
      (breaks ++ text, ending, rest, c)
    else ([], [], breaks, c)
  match chomping with
  | .clip => return (text ++ ending, c)
  | .strip => return (text, c)
  | .keep => return (text ++ ending ++ breaks, c)

end Cursor
end FilterGraph.Yaml
