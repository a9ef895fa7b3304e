import FilterGraph.Value

namespace FilterGraph.MemberTable

def modulus : Nat := Nat.pow 2 61 - 1

def remainder (n : Nat) (exponent : Int) : Nat := n * Nat.pow 2 (exponent.emod 61).toNat % modulus

def signed (negative : Bool) (n : Nat) : Nat :=
  if negative && n != 0 then Nat.pow 2 64 - (if n = 1 then 2 else n) else n

def key? : Scalar → Option Nat
  | .bool b => some (if b then 1 else 0)
  | .int n => some (signed (n < 0) (remainder n.natAbs 0))
  | .float x =>
    if x.isFinite then some (signed x.isNegative (remainder x.significand x.exponent))
    else if x.isInfinite then some (signed x.isNegative 314159)
    else none
  | _ => none

def sizeFrom (fuel n members : Nat) : Nat :=
  match fuel with
  | 0 => n
  | fuel + 1 => if n ≤ 2 * members then sizeFrom fuel (2 * n) members else n

def size (members : Nat) : Nat := if members ≤ 4 then 8 else sizeFrom members 8 members

/-- The first free place: nine neighbours are tried before each jump. -/
def freePlace (fuel size : Nat) (taken : List Nat) (place rest : Nat) : Nat :=
  match fuel with
  | 0 => place
  | fuel + 1 =>
    let near := if place + 9 < size then (List.range 10).map (place + ·) else [place]
    match near.find? fun p => !taken.contains p with
    | some p => p
    | none =>
      let rest := rest / 32
      freePlace fuel size taken ((place * 5 + 1 + rest) % size) rest

def places (size : Nat) (taken : List Nat) : List Nat → List Nat
  | [] => []
  | key :: others =>
    let place := freePlace (64 + size) size taken (key % size) key
    place :: places size (place :: taken) others

/-- Numbers stand in a table, each at the place that its remainder gives, or further on where that is taken. Members of other
    sorts are met in the order in which they came. -/
def ordered (members : List Scalar) : List Scalar :=
  match members.mapM key? with
  | none => members
  | some keys =>
    let placed := (places (size members.length) [] keys).zip members
    (placed.mergeSort fun a b => a.1 ≤ b.1).map (·.2)

end FilterGraph.MemberTable
