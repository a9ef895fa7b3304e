import FilterGraph.Binary64.Text
import FilterGraph.Json.Failure
import FilterGraph.Text.DecimalDigit
import FilterGraph.Value

namespace FilterGraph.Json

def skipSpace (cs : List Char) : List Char :=
  cs.dropWhile fun c => c == ' ' || c == '\t' || c == '\n' || c == '\r'

def takeUnit? : List Char → Option (Nat × List Char)
  | a :: b :: c :: d :: rest =>
    if [a, b, c, d].all Text.isHexDigit then some (Text.asciiNumber 16 [a, b, c, d], rest) else none
  | _ => none

def takeNumbered? (cs : List Char) : Option (Char × List Char) := do
  let (high, rest) ← takeUnit? cs
  if 0xD800 ≤ high && high < 0xDC00 then
    match rest with
    | '\\' :: 'u' :: more =>
      match takeUnit? more with
      | some (low, rest') =>
        if 0xDC00 ≤ low && low < 0xE000 then
          return (Char.ofNat (0x10000 + (high - 0xD800) * 0x400 + (low - 0xDC00)), rest')
        else return ('\ufffd', rest)
      | none => return ('\ufffd', rest)
    | _ => return ('\ufffd', rest)
  else if 0xDC00 ≤ high && high < 0xE000 then return ('\ufffd', rest)
  else return (Char.ofNat high, rest)

def takeString (fuel : Nat) (read : List Char) (cs : List Char) : Option (String × List Char) :=
  match fuel, cs with
  | _ + 1, '"' :: rest => some (String.ofList read.reverse, rest)
  | fuel + 1, '\\' :: 'u' :: rest => do
    let (c, rest) ← takeNumbered? rest
    takeString fuel (c :: read) rest
  | fuel + 1, '\\' :: c :: rest =>
    match c with
    | '"' | '\\' | '/' => takeString fuel (c :: read) rest
    | 'b' => takeString fuel ('\x08' :: read) rest
    | 'f' => takeString fuel ('\x0c' :: read) rest
    | 'n' => takeString fuel ('\n' :: read) rest
    | 'r' => takeString fuel ('\r' :: read) rest
    | 't' => takeString fuel ('\t' :: read) rest
    | _ => none
  | fuel + 1, c :: rest =>
    if c.toNat < 0x20 || c == '\\' then none else takeString fuel (c :: read) rest
  | _, _ => none

def takeNumber (negative : Bool) (cs : List Char) : Except Failure (Value × List Char) := do
  let digits := cs.takeWhile Char.isDigit
  let (whole, rest) ← match digits with
    | [] => .error .malformed
    | '0' :: _ => .ok (['0'], cs.drop 1)
    | _ => .ok (digits, cs.dropWhile Char.isDigit)
  let (fraction, rest) := match rest with
    | '.' :: more =>
      let fraction := more.takeWhile Char.isDigit
      if fraction.isEmpty then ([], rest) else (fraction, more.dropWhile Char.isDigit)
    | _ => ([], rest)
  let (power, rest) := takePower rest
  match fraction, power with
  | [], none =>
    if whole.length > 4300 then throw (.longInteger whole.length)
    let n : Int := Text.asciiNumber 10 whole
    return (.int (if negative then -n else n), rest)
  | _, _ =>
    let exponent := power.getD 0 - fraction.length
    return (.float (.ofDecimal negative (Text.asciiNumber 10 (whole ++ fraction)) exponent), rest)
where
  takePower (cs : List Char) : Option Int × List Char :=
    match cs with
    | e :: more =>
      if e == 'e' || e == 'E' then
        let (negative, digits) := Binary64.takeSign more
        let power := digits.takeWhile Char.isDigit
        if power.isEmpty then (none, cs)
        else
          let n : Int := Text.asciiNumber 10 power
          (some (if negative then -n else n), digits.dropWhile Char.isDigit)
      else (none, cs)
    | [] => (none, cs)

def takeWord (word : String) (value : Value) (cs : List Char) : Except Failure (Value × List Char) :=
  if word.toList.isPrefixOf cs then .ok (value, cs.drop word.length) else .error .malformed

def takeQuoted (cs : List Char) : Except Failure (String × List Char) :=
  match takeString (cs.length + 1) [] cs with
  | some found => .ok found
  | none => .error .malformed

def depthLimit : Nat := 988

mutual

/-- Every step takes a character or opens something, so the length of the text is fuel enough. -/
def takeValue (fuel depth : Nat) (cs : List Char) : Except Failure (Value × List Char) :=
  match fuel with
  | 0 => .error .malformed
  | fuel + 1 =>
    match cs with
    | '"' :: rest => (takeQuoted rest).map fun (s, rest) => (.text s, rest)
    | '[' :: rest =>
      if depth ≥ depthLimit then .error .tooDeep
      else match skipSpace rest with
        | ']' :: rest => .ok (.list [], rest)
        | rest => do
          let (items, rest) ← takeItems fuel (depth + 1) rest
          return (.list items, rest)
    | '\x7b' :: rest =>
      if depth ≥ depthLimit then .error .tooDeep
      else match skipSpace rest with
        | '\x7d' :: rest => .ok (.map [], rest)
        | rest => do
          let (entries, rest) ← takeEntries fuel (depth + 1) rest
          return (.map (Entries.ofRepeated entries), rest)
    | 'n' :: _ => takeWord "null" .null cs
    | 't' :: _ => takeWord "true" (.bool true) cs
    | 'f' :: _ => takeWord "false" (.bool false) cs
    | 'N' :: _ => takeWord "NaN" (.float .nan) cs
    | 'I' :: _ => takeWord "Infinity" (.float (.infinity false)) cs
    | '-' :: 'I' :: _ => takeWord "-Infinity" (.float (.infinity true)) cs
    | '-' :: rest => takeNumber true rest
    | _ => takeNumber false cs

def takeItems (fuel depth : Nat) (cs : List Char) : Except Failure (List Value × List Char) :=
  match fuel with
  | 0 => .error .malformed
  | fuel + 1 => do
    let (item, rest) ← takeValue fuel depth cs
    match skipSpace rest with
    | ']' :: rest => return ([item], rest)
    | ',' :: rest =>
      let (items, rest) ← takeItems fuel depth (skipSpace rest)
      return (item :: items, rest)
    | _ => throw .malformed

def takeEntries (fuel depth : Nat) (cs : List Char) :
    Except Failure (List (Scalar × Value) × List Char) :=
  match fuel, cs with
  | fuel + 1, '"' :: rest => do
    let (key, rest) ← takeQuoted rest
    match skipSpace rest with
    | ':' :: rest =>
      let (value, rest) ← takeValue fuel depth (skipSpace rest)
      match skipSpace rest with
      | '\x7d' :: rest => return ([(.text key, value)], rest)
      | ',' :: rest =>
        let (entries, rest) ← takeEntries fuel depth (skipSpace rest)
        return ((.text key, value) :: entries, rest)
      | _ => throw .malformed
    | _ => throw .malformed
  | _, _ => .error .malformed

end

def read (cs : List Char) : Except Failure Value := do
  let (value, rest) ← takeValue (cs.length + 1) 0 (skipSpace cs)
  if (skipSpace rest).isEmpty then return value else throw .malformed

end FilterGraph.Json
