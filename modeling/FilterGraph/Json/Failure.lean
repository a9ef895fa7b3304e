namespace FilterGraph.Json

inductive Failure where
  | malformed
  | longInteger (digits : Nat)
  | tooDeep
  deriving DecidableEq, Repr

def Failure.message : Failure → String
  | .malformed => "malformed document"
  | .longInteger digits =>
    s!"Exceeds the limit (4300 digits) for integer string conversion: value has {digits} digits; " ++
      "use sys.set_int_max_str_digits() to increase the limit"
  | .tooDeep => "maximum recursion depth exceeded while decoding a JSON document"

end FilterGraph.Json
