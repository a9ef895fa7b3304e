namespace FilterGraph

structure Binary64 where
  bits : UInt64
  deriving DecidableEq, Repr, Inhabited

namespace Binary64

def signBit : Nat := Nat.pow 2 63

def isNegative (x : Binary64) : Bool := signBit ≤ x.bits.toNat

def exponentField (x : Binary64) : Nat := x.bits.toNat / Nat.pow 2 52 % Nat.pow 2 11

def fractionField (x : Binary64) : Nat := x.bits.toNat % Nat.pow 2 52

def isFinite (x : Binary64) : Bool := x.exponentField != 2047

def isNaN (x : Binary64) : Bool := !x.isFinite && x.fractionField != 0

def isInfinite (x : Binary64) : Bool := !x.isFinite && x.fractionField == 0

def significand (x : Binary64) : Nat :=
  if x.exponentField = 0 then x.fractionField else Nat.pow 2 52 + x.fractionField

def exponent (x : Binary64) : Int :=
  if x.exponentField = 0 then -1074 else (x.exponentField : Int) - 1075

def isZero (x : Binary64) : Bool := x.isFinite && x.significand == 0

def ofFields (negative : Bool) (rest : Nat) : Binary64 :=
  ⟨UInt64.ofNat ((if negative then signBit else 0) + rest)⟩

def zero : Binary64 := ofFields false 0

def infinity (negative : Bool) : Binary64 := ofFields negative (2047 * Nat.pow 2 52)

def nan : Binary64 := ofFields false (2047 * Nat.pow 2 52 + Nat.pow 2 51)

def roundHalfEven (num den : Nat) : Nat :=
  let quotient := num / den
  let twice := 2 * (num % den)
  if twice > den || (twice == den && quotient % 2 == 1) then quotient + 1 else quotient

def scaled (num den : Nat) (exponent : Int) : Nat × Nat :=
  if exponent < 0 then (num * Nat.pow 2 (-exponent).toNat, den) else (num, den * Nat.pow 2 exponent.toNat)

def unitExponent (num den : Nat) : Int :=
  let guess : Int := (num.log2 : Int) - den.log2 - 52
  let (n, d) := scaled num den guess
  max (-1074) (if n / d < Nat.pow 2 52 then guess - 1 else guess)

def ofRatio (negative : Bool) (num den : Nat) : Binary64 :=
  if num = 0 then ofFields negative 0
  else
    let exponent := unitExponent num den
    let (n, d) := scaled num den exponent
    let significand := roundHalfEven n d
    if exponent > 971 then infinity negative
    else if significand < Nat.pow 2 52 then ofFields negative significand
    else
      let rest := (exponent + 1075).toNat * Nat.pow 2 52 + (significand - Nat.pow 2 52)
      if rest ≥ 2047 * Nat.pow 2 52 then infinity negative else ofFields negative rest

/-- The number nearest to `digits * 10 ^ exponent`. Past the ends of the range no power of ten is
    computed. -/
def ofDecimal (negative : Bool) (digits : Nat) (exponent : Int) : Binary64 :=
  let length : Int := (Nat.toDigits 10 digits).length
  if digits = 0 then ofFields negative 0
  else if length + exponent > 310 then infinity negative
  else if length + exponent < -330 then ofFields negative 0
  else if exponent < 0 then ofRatio negative digits (Nat.pow 10 (-exponent).toNat)
  else ofRatio negative (digits * Nat.pow 10 exponent.toNat) 1

def ofInt (n : Int) : Binary64 := ofRatio (n < 0) n.natAbs 1

def ofBool (b : Bool) : Binary64 := ofInt (if b then 1 else 0)

def toInt? (x : Binary64) : Option Int :=
  if !x.isFinite then none
  else
    let size : Option Nat :=
      if x.exponent < 0 then
        let unit := Nat.pow 2 (-x.exponent).toNat
        if x.significand % unit = 0 then some (x.significand / unit) else none
      else some (x.significand * Nat.pow 2 x.exponent.toNat)
    size.map fun n => if x.isNegative then -(n : Int) else n

def negate (x : Binary64) : Binary64 := ofFields (!x.isNegative) (x.bits.toNat % signBit)

def signedSignificand (x : Binary64) : Int :=
  if x.isNegative then -(x.significand : Int) else x.significand

def ofScaled (negative : Bool) (n : Nat) (exponent : Int) : Binary64 :=
  if exponent < 0 then ofRatio negative n (Nat.pow 2 (-exponent).toNat)
  else ofRatio negative (n * Nat.pow 2 exponent.toNat) 1

def add (x y : Binary64) : Binary64 :=
  if x.isNaN || y.isNaN then nan
  else if x.isInfinite && y.isInfinite then (if x = y then x else nan)
  else if x.isInfinite then x
  else if y.isInfinite then y
  else
    let unit := min x.exponent y.exponent
    let part (z : Binary64) : Int := z.signedSignificand * Nat.pow 2 (z.exponent - unit).toNat
    let sum := part x + part y
    ofScaled (if sum = 0 then x.isNegative && y.isNegative else sum < 0) sum.natAbs unit

def mul (x y : Binary64) : Binary64 :=
  let negative := x.isNegative != y.isNegative
  if x.isNaN || y.isNaN then nan
  else if x.isInfinite || y.isInfinite then
    (if x.isZero || y.isZero then nan else infinity negative)
  else ofScaled negative (x.significand * y.significand) (x.exponent + y.exponent)

end Binary64
end FilterGraph
