import FilterGraph.Text.DecimalDigit
import FilterGraph.Yaml.Cursor

namespace FilterGraph.Yaml

structure Sheet where
  text : String := ""
  column : Nat := 0
  blank : Bool := true
  indented : Bool := true

namespace Sheet

def width : Nat := 80

def write (s : Sheet) (data : String) : Sheet :=
  { s with text := s.text ++ data, column := s.column + data.length }

def indicator (s : Sheet) (data : String) (needsBlank : Bool) (leavesBlank : Bool := false)
    (keepsIndented : Bool := false) : Sheet :=
  let data := if s.blank || !needsBlank then data else " " ++ data
  { s.write data with blank := leavesBlank, indented := s.indented && keepsIndented }

def newLine (s : Sheet) : Sheet :=
  { text := s.text.push '\n', column := 0, blank := true, indented := true }

def indentTo (s : Sheet) (indent : Nat) : Sheet :=
  let s := if !s.indented || s.column > indent || (s.column == indent && !s.blank) then s.newLine else s
  if s.column < indent then
    { s.write (String.ofList (List.replicate (indent - s.column) ' ')) with blank := true }
  else s

def inScalar (s : Sheet) : Sheet := { s with blank := false, indented := false }

inductive Run where
  | word (cs : List Char)
  | spaces (n : Nat)
  | breaks (cs : List Char)
  deriving DecidableEq, Repr

def runs : List Char → List Run
  | [] => []
  | c :: rest =>
    match runs rest with
    | .word cs :: more =>
      if c != ' ' && !isBreak c then .word (c :: cs) :: more else start c :: .word cs :: more
    | .spaces n :: more => if c == ' ' then .spaces (n + 1) :: more else start c :: .spaces n :: more
    | .breaks cs :: more => if isBreak c then .breaks (c :: cs) :: more else start c :: .breaks cs :: more
    | [] => [start c]
where
  start (c : Char) : Run :=
    if c == ' ' then .spaces 1 else if isBreak c then .breaks [c] else .word [c]

def spaces (s : Sheet) (n : Nat) : Sheet := s.write (String.ofList (List.replicate n ' '))

def plain (split : Bool) (indent : Nat) (cs : List Char) (s : Sheet) : Sheet :=
  if cs.isEmpty then s
  else
    let s := (if s.blank then s else s.write " ").inScalar
    (runs cs).foldl (fun (s : Sheet) run =>
      match run with
      | .word cs => s.write (String.ofList cs)
      | .spaces n => if n == 1 && s.column > width && split then (s.indentTo indent).inScalar else s.spaces n
      | .breaks cs => s.write (String.ofList cs)) s

/-- Line ends in a quoted scalar: one more than are meant, because one is folded. -/
def breaks (s : Sheet) (cs : List Char) (indent : Nat) : Sheet :=
  let s := if cs.head? == some '\n' then s.newLine else s
  (cs.foldl (fun (s : Sheet) _ => s.newLine) s).indentTo indent

def singleRuns (split : Bool) (indent : Nat) (first : Bool) (s : Sheet) : List Run → Sheet
  | [] => s
  | .word cs :: rest =>
    let doubled := cs.flatMap fun c => if c == '\'' then ['\'', '\''] else [c]
    singleRuns split indent false (s.write (String.ofList doubled)) rest
  | .spaces n :: rest =>
    let folds := n == 1 && s.column > width && split && !first && !rest.isEmpty
    singleRuns split indent false (if folds then s.indentTo indent else s.spaces n) rest
  | .breaks cs :: rest => singleRuns split indent false (s.breaks cs indent) rest

def single (split : Bool) (indent : Nat) (cs : List Char) (s : Sheet) : Sheet :=
  (singleRuns split indent true (s.indicator "'" true) (runs cs)).indicator "'" false

def escape (c : Char) : String :=
  let short? := [('\x00', '0'), ('\x07', 'a'), ('\x08', 'b'), ('\t', 't'), ('\n', 'n'), ('\x0b', 'v'),
    ('\x0c', 'f'), ('\r', 'r'), ('\x1b', 'e'), ('"', '"'), ('\\', '\\'), ('\x85', 'N'), ('\xa0', '_'),
    ('\u2028', 'L'), ('\u2029', 'P')].lookup c
  match short? with
  | some letter => String.ofList ['\\', letter]
  | none =>
    let n := c.toNat
    let digits (width : Nat) := (Text.hexPadded width n).toUpper
    if n ≤ 0xFF then "\\x" ++ digits 2
    else if n ≤ 0xFFFF then "\\u" ++ digits 4
    else "\\U" ++ digits 8

def standsForItself (c : Char) : Bool :=
  let n := c.toNat
  0x20 ≤ n && n ≤ 0x7E && c != '"' && c != '\\'

/-- Double quotes: `waiting` are the characters that have been read and not written. A line is ended
    with a backslash before a space or behind an escape; `place` counts the characters read, and neither
    the first nor the last can be split from the others. -/
def doubleFrom (split : Bool) (indent last place : Nat) (waiting : List Char) (s : Sheet) :
    List Char → Sheet
  | [] => s.write (String.ofList waiting.reverse)
  | c :: rest =>
    let escapes := !standsForItself c
    let s := if escapes then (s.write (String.ofList waiting.reverse)).write (escape c) else s
    let waiting := if escapes then [] else waiting
    let isFull := if escapes then s.column > width + 1 else s.column + waiting.length > width
    let folds := 0 < place && place < last && (c == ' ' || waiting.isEmpty) && isFull && split
    if folds then
      let s := ((s.write (String.ofList waiting.reverse ++ "\\")).indentTo indent).inScalar
      let next? := if escapes then rest.head? else some c
      let s := if next? == some ' ' then s.write "\\" else s
      doubleFrom split indent last (place + 1) (if escapes then [] else [c]) s rest
    else doubleFrom split indent last (place + 1) (if escapes then [] else c :: waiting) s rest

def double (split : Bool) (indent : Nat) (cs : List Char) (s : Sheet) : Sheet :=
  (doubleFrom split indent (cs.length - 1) 0 [] (s.indicator "\"" true) cs).indicator "\"" false

end Sheet
end FilterGraph.Yaml
