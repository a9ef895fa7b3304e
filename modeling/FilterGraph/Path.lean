namespace FilterGraph

/-- Two dots stay among the parts, because what they lead to depends on the files there are. Two slashes at the start stay
    two, three or more are one. -/
structure Path where
  absolute : Bool
  doubled : Bool := false
  parts : List String
  deriving DecidableEq, Repr

namespace Path

def ofText (s : String) : Path :=
  let cs := s.toList
  { absolute := ['/'].isPrefixOf cs
    doubled := ['/', '/'].isPrefixOf cs && !(['/', '/', '/'].isPrefixOf cs)
    parts := ((cs.splitOn '/').map String.ofList).filter fun part => part != "" && part != "." }

def toText (p : Path) : String :=
  let joined := "/".intercalate p.parts
  if p.absolute then (if p.doubled then "//" else "/") ++ joined
  else if p.parts.isEmpty then "." else joined

def join (p q : Path) : Path :=
  if q.absolute then q else { p with parts := p.parts ++ q.parts }

def child (p : Path) (name : String) : Path := p.join (ofText name)

def below (p : Path) (names : List String) : Path := { p with parts := p.parts ++ names }

def parent (p : Path) : Path := { p with parts := p.parts.dropLast }

def name (p : Path) : String := p.parts.getLastD ""

def suffixOf (name : String) : String :=
  let after := name.toList.reverse.takeWhile (· != '.')
  let before := name.toList.dropLast.length - after.length
  if after.length < name.length && !after.isEmpty && 0 < before then
    String.ofList ('.' :: after.reverse)
  else ""

def suffix (p : Path) : String := suffixOf p.name

def collapse (p : Path) : Path :=
  let step (parts : List String) (part : String) :=
    if part == ".." then parts.dropLast else parts ++ [part]
  { p with parts := p.parts.foldl step [] }

def le (p q : Path) : Bool := !q.parts.lex p.parts fun a b => a < b

end Path
end FilterGraph
