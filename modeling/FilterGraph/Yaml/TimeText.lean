import FilterGraph.Text.DecimalDigit

namespace FilterGraph.Yaml

def takeTwo? (cs : List Char) : Option (Nat × List Char) :=
  match cs with
  | a :: b :: rest =>
    if a.isDigit && b.isDigit then some (Text.asciiNumber 10 [a, b], rest)
    else if a.isDigit then some (Text.asciiNumber 10 [a], b :: rest)
    else none
  | [a] => if a.isDigit then some (Text.asciiNumber 10 [a], []) else none
  | [] => none

def takeDigits? (n : Nat) (cs : List Char) : Option (Nat × List Char) :=
  let digits := cs.take n
  if digits.length == n && digits.all Char.isDigit then
    some (Text.asciiNumber 10 digits, cs.drop n)
  else none

def takeChar? (c : Char) : List Char → Option (List Char)
  | d :: rest => if c == d then some rest else none
  | [] => none

structure TimeParts where
  year : Nat
  month : Nat
  day : Nat
  clock? : Option (Nat × Nat × Nat × Nat) := none
  offset : Option Int := none

def microseconds (digits : List Char) : Nat :=
  let digits := digits.take 6
  Text.asciiNumber 10 (digits ++ List.replicate (6 - digits.length) '0')

def zoneMinutes? (cs : List Char) : Option Nat :=
  match cs with
  | [] => some 0
  | ':' :: rest =>
    match takeDigits? 2 rest with
    | some (minutes, []) => some minutes
    | _ => none
  | _ => none

def zone? (cs : List Char) : Option (Option Int) :=
  match cs.dropWhile fun c => c == ' ' || c == '\t' with
  | [] => if cs.isEmpty then some none else none
  | ['Z'] => some (some 0)
  | sign :: rest =>
    if sign == '+' || sign == '-' then do
      let (hours, rest) ← takeTwo? rest
      let minutes ← zoneMinutes? rest
      let distance : Int := hours * 60 + minutes
      return some (if sign == '-' then -distance else distance)
    else none

def clock? (cs : List Char) : Option ((Nat × Nat × Nat × Nat) × Option Int) := do
  let cs ← match cs with
    | 'T' :: rest => some rest
    | 't' :: rest => some rest
    | c :: rest =>
      if c == ' ' || c == '\t' then some (rest.dropWhile fun c => c == ' ' || c == '\t') else none
    | [] => none
  let (hour, cs) ← takeTwo? cs
  let (minute, cs) ← takeDigits? 2 (← takeChar? ':' cs)
  let (second, cs) ← takeDigits? 2 (← takeChar? ':' cs)
  let (fraction, cs) := match cs with
    | '.' :: rest => (rest.takeWhile Char.isDigit, rest.dropWhile Char.isDigit)
    | cs => ([], cs)
  return ((hour, minute, second, microseconds fraction), ← zone? cs)

def withoutLastBreak (cs : List Char) : List Char :=
  if cs.length > 1 && cs.getLast? == some '\n' then cs.dropLast else cs

def timeParts? (cs : List Char) : Option TimeParts := do
  let (year, cs) ← takeDigits? 4 cs
  let (month, cs) ← takeTwo? (← takeChar? '-' cs)
  let (day, cs) ← takeTwo? (← takeChar? '-' cs)
  if cs.isEmpty then return { year, month, day }
  let (clock, offset) ← clock? cs
  return { year, month, day, clock? := some clock, offset }

end FilterGraph.Yaml
