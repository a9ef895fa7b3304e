import FilterGraph.Text.Blank
import FilterGraph.Text.DecimalDigit

namespace FilterGraph.WholeNumber

inductive Refusal where
  | malformed
  | tooLong
  deriving DecidableEq, Repr

/-- The rest of a text that starts with zeros. It begins at the first digit that is none, or at a minus
    sign; in front of a fraction and at the end the character before stays. -/
def pastZeros? (before : Char) : List Char → Option (List Char)
  | [] => some [before]
  | c :: rest =>
    if c == '0' || c == '_' then pastZeros? c rest
    else if c == '.' then some (before :: c :: rest)
    else if c.isDigit || c == '-' then some (c :: rest)
    else none

def withoutZeros? : List Char → Option (List Char)
  | [] => none
  | c :: rest =>
    if c == '0' then pastZeros? c rest
    else if c.isDigit then some (c :: rest)
    else none

def withoutFraction (cs : List Char) : List Char :=
  let fraction := (cs.dropWhile (· != '.')).drop 1
  if !fraction.isEmpty && fraction.all (· == '0') then cs.takeWhile (· != '.') else cs

def withoutUnderscores (cs : List Char) : List Char :=
  let doubled := (cs.zip (cs.drop 1)).any fun (a, b) => a == '_' && b == '_'
  if cs.head? == some '_' || cs.getLast? == some '_' || doubled then cs else cs.filter (· != '_')

def plain (cs : List Char) : Except Refusal Int :=
  let (negative, body) := match cs with
    | '-' :: rest => (true, rest)
    | rest => (false, rest)
  let digits := body.takeWhile Char.isDigit
  if digits.isEmpty || (digits.head? == some '0' && body.length > 1) then .error .malformed
  else if digits.length > 4300 then .error .tooLong
  else if digits.length < body.length then .error .malformed
  else
    let n : Int := Text.asciiNumber 10 digits
    .ok (if negative then -n else n)

def read (s : String) : Except Refusal Int :=
  let cs := Text.trimNumber s.toList
  let (sign, body) := match cs with
    | '-' :: rest => (['-'], rest)
    | '+' :: rest => ([], rest)
    | rest => ([], rest)
  match withoutZeros? body with
  | none => .error .malformed
  | some body => plain (sign ++ withoutUnderscores (withoutFraction body))

end FilterGraph.WholeNumber
