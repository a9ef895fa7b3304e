import FilterGraph.Calendar
import FilterGraph.Text.Quoted

namespace FilterGraph.Yaml

inductive Failure where
  | malformed
  | tooDeep
  | character (code : Nat)
  | date (e : CalendarError)
  | timestamp
  | timestampOfMapping
  | integer (base : Nat) (text : String)
  | longInteger (digits : Nat)
  | floating (text : String)
  | floatingParts
  | truth (text : String)
  | emptyNumber
  deriving DecidableEq, Repr

namespace Failure

/-- Numbers of characters are held in 32 bits with a sign. -/
def isHugeCharacter (code : Nat) : Bool := code ≥ Nat.pow 2 31

def message : Failure → String
  | .malformed => "malformed document"
  | .tooDeep => "maximum recursion depth exceeded"
  | .character code =>
    if isHugeCharacter code then "number of a character too large"
    else "chr() arg not in range(0x110000)"
  | .date e => e.message
  | .timestamp => "not a timestamp"
  | .timestampOfMapping => "a mapping is no timestamp"
  | .integer base text =>
    let shown := String.ofList ((Text.quote text).toList.take 200)
    s!"invalid literal for int() with base {base}: {shown}"
  | .longInteger digits =>
    s!"Exceeds the limit (4300 digits) for integer string conversion: value has {digits} digits; " ++
      "use sys.set_int_max_str_digits() to increase the limit"
  | .floating text => s!"could not convert string to float: {Text.quote text}"
  | .floatingParts => "int too large to convert to float"
  | .truth text => Text.quote text
  | .emptyNumber => "string index out of range"

end Failure

abbrev Reading (α : Type) := Except Failure α

namespace Reading

def malformed {α : Type} : Reading α := .error .malformed

def ensure (b : Bool) : Reading Unit := if b then .ok () else malformed

def ofOption {α : Type} : Option α → Reading α
  | some a => .ok a
  | none => malformed

end Reading
end FilterGraph.Yaml
