import FilterGraph.Text.Blank

namespace FilterGraph.Yaml

def isBreak (c : Char) : Bool := c == '\n' || c == '\x85' || c == '\u2028' || c == '\u2029'

def endsLine (c? : Option Char) : Bool := c?.all isBreak

def endsWord (c? : Option Char) : Bool := c?.all fun c => isBreak c || c == ' '

def separates (c? : Option Char) : Bool := c?.all fun c => isBreak c || c == ' ' || c == '\t'

def isWordChar (c : Char) : Bool := c.isAlphanum || c == '-' || c == '_'

structure Cursor where
  rest : List Char
  left : Nat
  index : Nat := 0
  line : Nat := 0
  column : Nat := 0

namespace Cursor

def peek? (c : Cursor) : Option Char := c.rest.head?

def peekAt? (c : Cursor) (n : Nat) : Option Char := c.rest[n]?

/-- Moves past one character; a byte order mark takes no column. -/
def past (c : Cursor) (ch : Char) : Cursor :=
  { rest := c.rest.tail
    left := c.left - 1
    index := c.index + 1
    line := if isBreak ch then c.line + 1 else c.line
    column := if isBreak ch then 0 else if ch == '\ufeff' then c.column else c.column + 1 }

def beyond (c : Cursor) (taken : List Char) : Cursor := taken.foldl past c

def skip (c : Cursor) (n : Nat) : Cursor := c.beyond (c.rest.take n)

def takeWhile (c : Cursor) (p : Char → Bool) : List Char × Cursor :=
  let taken := c.rest.takeWhile p
  (taken, c.beyond taken)

def skipWhile (c : Cursor) (p : Char → Bool) : Cursor := (c.takeWhile p).2

def skipSpaces (c : Cursor) : Cursor := c.skipWhile (· == ' ')

def skipLine (c : Cursor) : Cursor := c.skipWhile fun ch => !isBreak ch

def lineBreak? (c : Cursor) : Option (Char × Cursor) :=
  match c.rest with
  | ch :: _ =>
    if isBreak ch then some (if ch == '\x85' then '\n' else ch, c.past ch) else none
  | [] => none

def atDocumentMark (c : Cursor) : Bool :=
  let front := c.rest.take 3
  (front == ['-', '-', '-'] || front == ['.', '.', '.']) && separates (c.peekAt? 3)

def restOfLine? (c : Cursor) : Option Cursor :=
  let c := c.skipSpaces
  let c := if c.peek? == some '#' then c.skipLine else c
  match c.lineBreak? with
  | some (_, c) => some c
  | none => if c.rest.isEmpty then some c else none

def toToken (fuel : Nat) (crossed : Bool) (c : Cursor) : Cursor × Bool :=
  let c := c.skipSpaces
  let c := if c.peek? == some '#' then c.skipLine else c
  match fuel, c.lineBreak? with
  | fuel + 1, some (_, c) => toToken fuel true c
  | _, _ => (c, crossed)

end Cursor
end FilterGraph.Yaml
