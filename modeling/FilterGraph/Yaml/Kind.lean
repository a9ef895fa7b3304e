import FilterGraph.Text.Blank
import FilterGraph.Yaml.TimeText

namespace FilterGraph.Yaml

inductive Kind where
  | null
  | truth
  | integer
  | floating
  | timestamp
  | binary
  | text
  | merge
  | default
  | sequence
  | pairs
  | orderedMap
  | mapping
  | set
  deriving DecidableEq, Repr

def coreTag (name : String) : String := "tag:yaml.org,2002:" ++ name

namespace Kind

def all : List Kind :=
  [.null, .truth, .integer, .floating, .timestamp, .binary, .text, .merge, .default, .sequence, .pairs,
    .orderedMap, .mapping, .set]

def tagName : Kind → String
  | .null => "null"
  | .truth => "bool"
  | .integer => "int"
  | .floating => "float"
  | .timestamp => "timestamp"
  | .binary => "binary"
  | .text => "str"
  | .merge => "merge"
  | .default => "value"
  | .sequence => "seq"
  | .pairs => "pairs"
  | .orderedMap => "omap"
  | .mapping => "map"
  | .set => "set"

def ofTag? (tag : String) : Option Kind := all.find? fun k => coreTag k.tagName == tag

end Kind

def truths : List (String × Bool) :=
  [("yes", true), ("no", false), ("true", true), ("false", false), ("on", true), ("off", false)]

def nulls : List String := ["~", "null", "Null", "NULL", ""]

def isTruthWord (s : String) : Bool :=
  truths.any fun (word, _) => s == word || s == word.toUpper || s == word.capitalize

def isDigitOrLine (c : Char) : Bool := c.isDigit || c == '_'

def takeSign (cs : List Char) : List Char :=
  match cs with
  | '+' :: rest => rest
  | '-' :: rest => rest
  | cs => cs

def isSixty (cs : List Char) : Bool :=
  match cs with
  | [a] => a.isDigit
  | [a, b] => '0' ≤ a && a ≤ '5' && b.isDigit
  | _ => false

def startsCount (cs : List Char) : Bool :=
  match cs with
  | c :: rest => '1' ≤ c && c ≤ '9' && rest.all isDigitOrLine
  | [] => false

def isInteger (cs : List Char) : Bool :=
  match takeSign cs with
  | [] => false
  | ['0'] => true
  | '0' :: 'b' :: digits => !digits.isEmpty && digits.all fun c => c == '0' || c == '1' || c == '_'
  | '0' :: 'x' :: digits => !digits.isEmpty && digits.all fun c => Text.isHexDigit c || c == '_'
  | '0' :: digits => digits.all fun c => ('0' ≤ c && c ≤ '7') || c == '_'
  | body =>
    match Text.pieces ':' body with
    | first :: rest => startsCount first && rest.all isSixty
    | [] => false

def isExponent (cs : List Char) : Bool :=
  match cs with
  | [] => true
  | e :: sign :: digits =>
    (e == 'e' || e == 'E') && (sign == '+' || sign == '-') && !digits.isEmpty && digits.all Char.isDigit
  | _ => false

def isFraction (cs : List Char) : Bool :=
  (cs.dropWhile isDigitOrLine |> isExponent)

def startsDigits (cs : List Char) : Bool :=
  match cs with
  | c :: rest => c.isDigit && rest.all isDigitOrLine
  | [] => false

def isFloating (cs : List Char) : Bool :=
  let body := takeSign cs
  let isWord (words : List String) (cs : List Char) := words.any (·.toList == cs)
  if isWord [".nan", ".NaN", ".NAN"] cs || isWord [".inf", ".Inf", ".INF"] body then true
  else
    let whole := body.takeWhile (· != '.')
    match body.drop whole.length with
    | '.' :: fraction =>
      if whole.isEmpty then
        (body == cs) && fraction.head?.any Char.isDigit && isFraction fraction
      else (startsDigits whole && isFraction fraction) ||
        match Text.pieces ':' whole with
        | first :: second :: rest =>
          startsDigits first && (second :: rest).all isSixty && fraction.all isDigitOrLine
        | _ => false
    | _ => false

/-- Times are recognized without a tag; a date alone has to have two digits for month and day. -/
def isTimestamp (cs : List Char) : Bool :=
  match timeParts? cs with
  | some p => p.clock?.isSome || cs.length == 10
  | none => false

/-- What a plain scalar is by the way it is written; a line feed at its end does not count. -/
def plainKind? (s : String) : Option Kind :=
  let cs := withoutLastBreak s.toList
  let word := String.ofList cs
  if nulls.contains word then some .null
  else if isTruthWord word then some .truth
  else if isFloating cs then some .floating
  else if isInteger cs then some .integer
  else if word == "<<" then some .merge
  else if isTimestamp cs then some .timestamp
  else if word == "=" then some .default
  else if word == "!" || word == "&" || word == "*" then none
  else some .text

inductive Tag where
  | explicit (name : String)
  | plain
  | quoted
  deriving DecidableEq, Repr

namespace Tag

def kindOr (tag : Tag) (otherwise : Kind) : Option Kind :=
  match tag with
  | .explicit name => Kind.ofTag? name
  | _ => some otherwise

def kindOfText? (tag : Tag) (s : String) : Option Kind :=
  if tag = .plain then plainKind? s else tag.kindOr .text

end Tag

end FilterGraph.Yaml
