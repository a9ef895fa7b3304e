import FilterGraph.Text.Blank
import FilterGraph.Text.DecimalDigit

namespace FilterGraph

inductive Address where
  | v4 (number : Nat)
  | v6 (number : Nat) (scope : Option (List Char))
  deriving DecidableEq, Repr

namespace Address

def width : Address → Nat
  | .v4 _ => 32
  | .v6 _ _ => 128

def number : Address → Nat
  | .v4 n => n
  | .v6 n _ => n

def byte? (cs : List Char) : Option Nat := do
  guard (!cs.isEmpty && cs.all Char.isDigit && cs.length ≤ 3)
  guard (cs = ['0'] || cs.head? != some '0')
  let n := Text.asciiNumber 10 cs
  guard (n ≤ 255)
  return n

def ofDigits (base : Nat) (digits : List Nat) : Nat := digits.foldl (fun n d => base * n + d) 0

def v4Number? (cs : List Char) : Option Nat := do
  let parts := Text.pieces '.' cs
  guard (parts.length = 4)
  let bytes ← parts.mapM byte?
  return ofDigits 256 bytes

def group? (cs : List Char) : Option Nat :=
  if !cs.isEmpty && cs.length ≤ 4 && cs.all Text.isHexDigit then some (Text.asciiNumber 16 cs) else none

def lastGroups? (cs : List Char) : Option (List (List Char)) :=
  if cs.contains '.' then
    (v4Number? cs).map fun n => [Nat.toDigits 16 (n / 0x10000), Nat.toDigits 16 (n % 0x10000)]
  else some [cs]

def gapGroups? (before after : List (List Char)) : Option (List Nat) := do
  let before ← match before with
    | [] :: [] => some []
    | [] :: _ => none
    | parts => some parts
  let after ← match after.reverse with
    | [] :: [] => some []
    | [] :: _ => none
    | _ => some after
  let gap := 8 - (before.length + after.length)
  guard (1 ≤ gap)
  return (← before.mapM group?) ++ List.replicate gap 0 ++ (← after.mapM group?)

/-- The parts before and after the only empty part that is neither first nor last; `none` for a second
    such part. -/
def splitAtGap? (parts : List (List Char)) : Option (Option (List (List Char) × List (List Char))) :=
  let inner := (List.range parts.length).filter fun i =>
    0 < i && i + 1 < parts.length && (parts.getD i []).isEmpty
  match inner with
  | [] => some none
  | [i] => some (some (parts.take i, parts.drop (i + 1)))
  | _ => none

def v6Groups? (cs : List Char) : Option (List Nat) := do
  let parts := Text.pieces ':' cs
  guard (3 ≤ parts.length)
  let last ← lastGroups? (parts.getLastD [])
  let parts := parts.dropLast ++ last
  guard (parts.length ≤ 9)
  match ← splitAtGap? parts with
  | some (before, after) => gapGroups? before after
  | none =>
    guard (parts.length = 8)
    parts.mapM group?

def v6? (cs : List Char) : Option Address :=
  let body := cs.takeWhile (· != '%')
  let groups := (v6Groups? body).map (ofDigits 0x10000)
  match cs.dropWhile (· != '%') with
  | [] => groups.map fun n => .v6 n none
  | _ :: scope =>
    if scope.isEmpty || scope.contains '%' then none
    else groups.map fun n => .v6 n (some scope)

def v4? (cs : List Char) : Option Address := (v4Number? cs).map .v4

def toDigits (base count n : Nat) : List Nat :=
  (List.range count).map fun i => n / Nat.pow base (count - 1 - i) % base

def zeroRun (groups : List Nat) : Nat := (groups.takeWhile (· == 0)).length

def longestZeroRun (groups : List Nat) : Nat :=
  (List.range groups.length).foldl
    -- of the longest runs the first counts
    (fun best i => if zeroRun (groups.drop best) < zeroRun (groups.drop i) then i else best) 0

def hexGroups (groups : List Nat) : List Char :=
  [':'].intercalate (groups.map (Nat.toDigits 16))

def v6Text (n : Nat) : List Char :=
  let groups := toDigits 0x10000 8 n
  let start := longestZeroRun groups
  let length := zeroRun (groups.drop start)
  if length < 2 then hexGroups groups
  else hexGroups (groups.take start) ++ [':', ':'] ++ hexGroups (groups.drop (start + length))

def v4Text (n : Nat) : List Char :=
  ['.'].intercalate ((toDigits 256 4 n).map (Nat.toDigits 10))

def toChars : Address → List Char
  | .v4 n => v4Text n
  | .v6 n none => v6Text n
  | .v6 n (some scope) => v6Text n ++ '%' :: scope

end Address
end FilterGraph
