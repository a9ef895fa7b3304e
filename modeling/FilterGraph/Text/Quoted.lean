import FilterGraph.Text.DecimalDigit
import FilterGraph.Text.Printable

namespace FilterGraph.Text

def quotedChar (mark c : Char) : List Char :=
  let n := c.toNat
  if c = mark || c = '\\' then ['\\', c]
  else if c = '\n' then ['\\', 'n']
  else if c = '\r' then ['\\', 'r']
  else if c = '\t' then ['\\', 't']
  else if 0x20 ≤ n && n < 0x7F then [c]
  else if isPrintable c then [c]
  else if n ≤ 0xFF then '\\' :: 'x' :: (hexPadded 2 n).toList
  else if n ≤ 0xFFFF then '\\' :: 'u' :: (hexPadded 4 n).toList
  else '\\' :: 'U' :: (hexPadded 8 n).toList

def quoteMark (cs : List Char) : Char :=
  if cs.contains '\'' && !cs.contains '"' then '"' else '\''

def quote (s : String) : String :=
  let cs := s.toList
  let mark := quoteMark cs
  String.ofList (mark :: cs.flatMap (quotedChar mark) ++ [mark])

end FilterGraph.Text
