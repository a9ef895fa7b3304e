import FilterGraph.Text.Utf8

namespace FilterGraph

/-- A whole number may be too long for decimal text, bytes may be no text, and a collection that contains
    itself or goes too deep has no end. -/
inductive Unwritable where
  | longNumber
  | undecodable (e : Utf8.DecodeError)
  | circular
  | tooDeep
  deriving DecidableEq, Repr

def Unwritable.message : Unwritable → String
  | .longNumber =>
    "Exceeds the limit (4300 digits) for integer string conversion; " ++
      "use sys.set_int_max_str_digits() to increase the limit"
  | .undecodable e => e.message
  | .circular => "Circular reference detected (id repeated)"
  | .tooDeep => "Maximum serialization depth exceeded"

end FilterGraph
