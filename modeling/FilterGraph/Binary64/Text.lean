import FilterGraph.Binary64.Shortest
import FilterGraph.Text.Blank
import FilterGraph.Text.DecimalDigit

namespace FilterGraph.Binary64

structure Layout where
  /-- The least and the first too large decimal exponent written without an exponent. -/
  positional : Int × Int
  exponentWidth : Nat
  infinity : String
  nan : String

def Layout.plain : Layout := ⟨(-4, 16), 2, "inf", "nan"⟩

private def trimZeros (ds : List Char) : List Char :=
  let kept := (ds.reverse.dropWhile (· == '0')).reverse
  if kept.isEmpty then ['0'] else kept

def scientific (d : Decimal) : List Char × Int :=
  let ds := Nat.toDigits 10 d.digits
  (trimZeros ds, d.exponent + ds.length - 1)

def positionalText (ds : List Char) (exponent : Int) : List Char :=
  if exponent < 0 then '0' :: '.' :: List.replicate (-exponent - 1).toNat '0' ++ ds
  else
    let whole := exponent.toNat + 1
    let padded := ds ++ List.replicate (whole - ds.length) '0'
    let fraction := padded.drop whole
    padded.take whole ++ '.' :: (if fraction.isEmpty then ['0'] else fraction)

def exponentText (width : Nat) (ds : List Char) (exponent : Int) : List Char :=
  let sign := if exponent < 0 then '-' else '+'
  let power := (Text.decimalPadded width exponent.natAbs).toList
  match ds with
  | [d] => d :: 'e' :: sign :: power
  | d :: rest => d :: '.' :: rest ++ 'e' :: sign :: power
  | [] => []

def textWith (layout : Layout) (x : Binary64) : String :=
  if x.isNaN then layout.nan
  else
    let body :=
      if x.isInfinite then layout.infinity.toList
      else if x.isZero then ['0', '.', '0']
      else
        let (ds, exponent) := scientific x.shortest
        if layout.positional.1 ≤ exponent && exponent < layout.positional.2 then
          positionalText ds exponent
        else exponentText layout.exponentWidth ds exponent
    String.ofList (if x.isNegative then '-' :: body else body)

def toText (x : Binary64) : String := x.textWith .plain

def takeSign : List Char → Bool × List Char
  | '-' :: rest => (true, rest)
  | '+' :: rest => (false, rest)
  | rest => (false, rest)

def decimal? (cs : List Char) : Option (Nat × Int) := do
  let whole := cs.takeWhile Char.isDigit
  let rest := cs.dropWhile Char.isDigit
  let (fraction, rest) := match rest with
    | '.' :: rest => (rest.takeWhile Char.isDigit, rest.dropWhile Char.isDigit)
    | rest => ([], rest)
  guard (!(whole.isEmpty && fraction.isEmpty))
  let digits := Text.asciiNumber 10 (whole ++ fraction)
  match rest with
  | [] => return (digits, -(fraction.length : Int))
  | e :: rest =>
    guard (e == 'e' || e == 'E')
    let (negative, power) := takeSign rest
    guard (!power.isEmpty && power.all Char.isDigit)
    let power : Int := Text.asciiNumber 10 power
    return (digits, (if negative then -power else power) - fraction.length)

def ofChars? (cs : List Char) : Option Binary64 :=
  let (negative, body) := takeSign cs
  let word := body.map Char.toLower
  if word == "inf".toList || word == "infinity".toList then some (infinity negative)
  else if word == "nan".toList then some nan
  else (decimal? body).map fun (digits, exponent) => ofDecimal negative digits exponent

def withoutUnderscores? : List Char → Option (List Char)
  | [] => some []
  | '_' :: _ => none
  | [c] => some [c]
  | c :: '_' :: d :: rest =>
    if c.isDigit && d.isDigit then (withoutUnderscores? (d :: rest)).map (c :: ·) else none
  | c :: rest => (withoutUnderscores? rest).map (c :: ·)
termination_by cs => cs.length

def asciiDigits (cs : List Char) : List Char :=
  cs.map fun c => match Text.decimalDigit? c with
    | some n => Char.ofNat ('0'.toNat + n)
    | none => c

def ofText? (s : String) : Option Binary64 := do
  ofChars? (← withoutUnderscores? (asciiDigits (Text.trimNumber s.toList)))

end FilterGraph.Binary64
