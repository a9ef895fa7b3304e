import FilterGraph.Binary64

namespace FilterGraph.Binary64

structure Decimal where
  digits : Nat
  exponent : Int
  deriving DecidableEq, Repr

structure Interval where
  value : Nat
  low : Nat
  high : Nat
  den : Nat
  closed : Bool

/-- Below a power of two the gap is half as wide, the least one apart. -/
def interval (x : Binary64) : Interval :=
  let m := x.significand
  let (unit, den) := if x.exponent < 0 then (1, Nat.pow 2 (-x.exponent).toNat) else (Nat.pow 2 x.exponent.toNat, 1)
  let below := if m = Nat.pow 2 52 && x.exponentField > 1 then 1 else 2
  { value := 4 * m * unit, low := (4 * m - below) * unit, high := (4 * m + 2) * unit,
    den := 4 * den, closed := m % 2 == 0 }

def Interval.holds (i : Interval) (num den : Nat) : Bool :=
  let low := i.low * den
  let high := i.high * den
  let point := num * i.den
  if i.closed then low ≤ point && point ≤ high else low < point && point < high

def leadingPlace (num den : Nat) : Int :=
  let rec up (fuel : Nat) (e : Nat) : Nat :=
    match fuel with
    | 0 => e
    | fuel + 1 => if num < den * Nat.pow 10 e then e else up fuel (e + 1)
  let rec down (fuel : Nat) (e : Nat) : Nat :=
    match fuel with
    | 0 => e
    | fuel + 1 => if num * Nat.pow 10 (e + 1) < den then down fuel (e + 1) else e
  if num < den then -(down 400 0 : Int) else up 400 1

def onGrid (i : Interval) (place : Int) : Option Decimal :=
  let (num, den, unit) : Nat × Nat × Nat :=
    if place < 0 then (i.value * Nat.pow 10 (-place).toNat, i.den, 1)
    else (i.value, i.den * Nat.pow 10 place.toNat, 1)
  let floor := num / den
  let holds (n : Nat) : Bool :=
    if place < 0 then i.holds (n * unit) (Nat.pow 10 (-place).toNat) else i.holds (n * Nat.pow 10 place.toNat) 1
  let below := 0 < floor && holds floor
  let above := holds (floor + 1)
  -- of two neighbours that are equally near the even one is taken
  let twice := 2 * (num % den)
  let nearer := if twice > den || (twice == den && floor % 2 == 1) then floor + 1 else floor
  if below && above then some ⟨nearer, place⟩
  else if below then some ⟨floor, place⟩
  else if above then some ⟨floor + 1, place⟩
  else none

/-- The shortest decimal of a positive finite number, found by trying grids from coarse to fine. -/
def shortest (x : Binary64) : Decimal :=
  let i := x.interval
  let top := leadingPlace i.value i.den
  match (List.range 17).findSome? fun (n : Nat) => onGrid i (top - 1 - n) with
  | some d => d
  | none => ⟨x.significand, 0⟩

end FilterGraph.Binary64
