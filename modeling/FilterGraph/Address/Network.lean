import FilterGraph.Address

namespace FilterGraph

structure Network where
  address : Address
  prefixLength : Nat
  deriving DecidableEq, Repr

namespace Network

/-- An address with all but the first `length` bits set to zero; one that has to change leaves its
    scope. -/
def truncate (address : Address) (length : Nat) : Address :=
  let unit := Nat.pow 2 (address.width - length)
  match address with
  | .v4 n => .v4 (n / unit * unit)
  | .v6 n scope => if n % unit = 0 then .v6 n scope else .v6 (n / unit * unit) none

def length? (width : Nat) (cs : List Char) : Option Nat := do
  guard (!cs.isEmpty && cs.all Char.isDigit && cs.length ≤ 4300)
  let n := Text.asciiNumber 10 cs
  guard (n ≤ width)
  return n

def maskLength? (n : Nat) : Option Nat :=
  (List.range 33).find? fun length => n == Nat.pow 2 32 - Nat.pow 2 (32 - length)

def maskedLength? (cs : List Char) : Option Nat := do
  let n ← Address.v4Number? cs
  maskLength? n <|> maskLength? (Nat.pow 2 32 - 1 - n)

def parts? (cs : List Char) : Option (List Char × Option (List Char)) :=
  match Text.pieces '/' cs with
  | [address] => some (address, none)
  | [address, length] => some (address, some length)
  | _ => none

def readV4? (address : List Char) (length : Option (List Char)) : Option Network := do
  let address ← Address.v4? address
  let length ← match length with
    | none => some 32
    | some cs => length? 32 cs <|> maskedLength? cs
  return ⟨truncate address length, length⟩

def readV6? (address : List Char) (length : Option (List Char)) : Option Network := do
  let address ← Address.v6? address
  let length ← match length with
    | none => some 128
    | some cs => length? 128 cs
  return ⟨truncate address length, length⟩

def ofChars? (cs : List Char) : Option Network := do
  let (address, length) ← parts? cs
  readV4? address length <|> readV6? address length

def ofText? (s : String) : Option Network := ofChars? s.toList

def isV4 (n : Network) : Bool :=
  match n.address with
  | .v4 _ => true
  | .v6 _ _ => false

def toChars (n : Network) : List Char := n.address.toChars ++ '/' :: Nat.toDigits 10 n.prefixLength

def toText (n : Network) : String := String.ofList n.toChars

end Network
end FilterGraph
