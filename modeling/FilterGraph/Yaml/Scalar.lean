import FilterGraph.Binary64.Text
import FilterGraph.Text.LowerCase
import FilterGraph.Value
import FilterGraph.Yaml.Failure
import FilterGraph.Yaml.Kind

namespace FilterGraph.Yaml

def basedNumber (base : Nat) (cs : List Char) : Reading Int :=
  let failure := Failure.integer base (String.ofList cs)
  let body := Text.trimNumber cs
  let (negative, body) := Binary64.takeSign body
  let body := match body with
    | '0' :: m :: rest =>
      if (base == 2 && (m == 'b' || m == 'B')) || (base == 8 && (m == 'o' || m == 'O')) ||
          (base == 16 && (m == 'x' || m == 'X')) then rest else body
    | body => body
  let digits := Binary64.asciiDigits body
  let isDigit (c : Char) : Bool := Text.isHexDigit c && Text.asciiNumber 16 [c] < base
  if digits.isEmpty || !digits.all isDigit then .error failure
  else if base == 10 && digits.length > 4300 then .error (.longInteger digits.length)
  else
    let n : Int := Text.asciiNumber base digits
    .ok (if negative then -n else n)

def isNegative (cs : List Char) : Bool := cs.head? == some '-'

def sixties (cs : List Char) : Reading Int := do
  let parts ← (Text.pieces ':' cs).mapM (basedNumber 10)
  return parts.foldl (fun sum part => sum * 60 + part) 0

def readInteger (s : String) : Reading Int := do
  let cs := s.toList.filter (· != '_')
  let body := takeSign cs
  if body.isEmpty then throw .emptyNumber
  let size ← match body with
    | ['0'] => pure 0
    | '0' :: 'b' :: digits => basedNumber 2 digits
    | '0' :: 'x' :: digits => basedNumber 16 digits
    | '0' :: _ => basedNumber 8 body
    | _ => if body.contains ':' then sixties body else basedNumber 10 body
  return if isNegative cs then -size else size

def addSixties (sum : Binary64) (base : Nat) : List Binary64 → Reading Binary64
  | [] => .ok sum
  | x :: rest =>
    let unit := Binary64.ofInt base
    if unit.isFinite then addSixties (sum.add (x.mul unit)) (base * 60) rest else .error .floatingParts

def floatingSixties (cs : List Char) : Reading Binary64 := do
  let parts ← (Text.pieces ':' cs).mapM fun part =>
    match Binary64.ofText? (String.ofList part) with
    | some x => .ok x
    | none => .error (.floating (String.ofList part))
  addSixties .zero 1 parts.reverse

def readFloating (s : String) : Reading Binary64 := do
  let cs := (Text.lower (String.ofList (s.toList.filter (· != '_')))).toList
  let body := takeSign cs
  if cs.isEmpty then throw .emptyNumber
  let text := String.ofList body
  let size ←
    if text == ".inf" then pure (Binary64.infinity false)
    else if text == ".nan" then pure Binary64.nan
    else if body.contains ':' then floatingSixties body
    else match Binary64.ofText? text with
      | some x => pure x
      | none => throw (.floating text)
  return if isNegative cs && !size.isNaN then size.negate else size

def readTimestamp (s : String) : Reading Scalar :=
  match timeParts? (withoutLastBreak s.toList) with
  | none => .error .timestamp
  | some p =>
    match p.clock? with
    | none => ((Date.of p.year p.month p.day).map Scalar.date).mapError .date
    | some (hour, minute, second, micro) =>
      ((DateTime.of p.year p.month p.day hour minute second micro p.offset).map
        Scalar.dateTime).mapError .date

def base64Digit? (c : Char) : Option Nat :=
  if c.isUpper then some (c.toNat - 'A'.toNat)
  else if c.isLower then some (c.toNat - 'a'.toNat + 26)
  else if c.isDigit then some (c.toNat - '0'.toNat + 52)
  else if c == '+' then some 62
  else if c == '/' then some 63
  else none

/-- Reads digits of six bits each; `left` are the bits kept so far, `place` how many digits of a group
    of four have been read, `pads` how many padding marks. Other characters do not count. -/
def base64? (place left pads : Nat) : List Char → Option (List UInt8)
  | [] => if place == 0 then some [] else none
  | c :: rest =>
    if c == '=' then
      if place ≥ 2 && place + pads + 1 ≥ 4 then some []
      else base64? place left (if place ≥ 2 then pads + 1 else pads) rest
    else match base64Digit? c with
      | none => base64? place left pads rest
      | some v =>
        let emit (n : Nat) (place left : Nat) := (base64? place left 0 rest).map (UInt8.ofNat n :: ·)
        match place with
        | 0 => base64? 1 v 0 rest
        | 1 => emit (left * 4 + v / 16) 2 (v % 16)
        | 2 => emit (left * 16 + v / 4) 3 (v % 4)
        | _ => emit (left * 64 + v) 0 0

def readBinary (s : String) : Reading (List UInt8) :=
  if s.toList.any (·.toNat ≥ 128) then .error .malformed
  else match base64? 0 0 0 s.toList with
    | some bytes => .ok bytes
    | none => .error .malformed

def readTruth (s : String) : Reading Bool :=
  let word := Text.lower s
  match truths.lookup word with
  | some b => .ok b
  | none => .error (.truth word)

def Kind.readText (kind : Kind) (s : String) : Reading Scalar :=
  match kind with
  | .null => .ok .null
  | .truth => (readTruth s).map .bool
  | .integer => (readInteger s).map .int
  | .floating => (readFloating s).map .float
  | .timestamp => readTimestamp s
  | .binary => (readBinary s).map .bytes
  | .text => .ok (.text s)
  | _ => .malformed

end FilterGraph.Yaml
