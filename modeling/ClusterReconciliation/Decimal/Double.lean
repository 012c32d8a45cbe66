/-! Binary64 numbers as bits. Each operation takes the exact quotient of two integers and rounds
it once, to nearest with ties to even, so nothing here rests on the machine's own arithmetic. -/
namespace ClusterReconciliation.Decimal

structure Double where
  bits : UInt64
  deriving DecidableEq, Repr

namespace Double

def signWeight : Nat := 0x8000000000000000

def fractionWeight : Nat := 0x10000000000000

def isNegative (x : Double) : Bool := x.bits.toNat / signWeight == 1

def exponentField (x : Double) : Nat := x.bits.toNat / fractionWeight % 2048

def fractionField (x : Double) : Nat := x.bits.toNat % fractionWeight

def isFinite (x : Double) : Bool := x.exponentField != 2047

def isNaN (x : Double) : Bool := x.exponentField == 2047 && x.fractionField != 0

def isInfinite (x : Double) : Bool := x.exponentField == 2047 && x.fractionField == 0

/-- The significand `m` of a finite value `m · 2 ^ x.exponent`. -/
def significand (x : Double) : Nat :=
  if x.exponentField = 0 then x.fractionField else x.fractionField + fractionWeight

def exponent (x : Double) : Int :=
  if x.exponentField = 0 then -1074 else x.exponentField - 1075

def isZero (x : Double) : Bool := x.isFinite && x.significand == 0

def ofMagnitude (negative : Bool) (magnitude : Nat) : Double :=
  ⟨UInt64.ofNat (magnitude + if negative then signWeight else 0)⟩

def infinity (negative : Bool) : Double := ofMagnitude negative (2047 * fractionWeight)

def nan : Double := ofMagnitude false (2047 * fractionWeight + fractionWeight / 2)

def zero : Double := ⟨0⟩

/-- `num / den` to the nearest integer, a half going to the even one. -/
def roundDiv (num den : Nat) : Nat :=
  let q := num / den
  let r := num % den
  if 2 * r < den then q else if den < 2 * r then q + 1 else q + q % 2

/-- The quotient scaled by a power of two: `num · 2 ^ e / den` as numerator and denominator. -/
def scaled (num den : Nat) (e : Int) : Nat × Nat :=
  (num * Nat.pow 2 e.toNat, den * Nat.pow 2 (-e).toNat)

/-- The greatest `e` with `2 ^ e ≤ num / den`, for positive arguments. -/
def floorLog2 (num den : Nat) : Int :=
  let e : Int := (num.log2 : Int) - den.log2
  let (n, d) := scaled num den (-e)
  if d ≤ n then e else e - 1

/-- The value nearest to `± num / den`. A significand that carries into the next binade makes
the right bits by addition alone, and so does the step from the subnormal range. -/
def ofRatio (negative : Bool) (num den : Nat) : Double :=
  if num = 0 then ofMagnitude negative 0 else
    let e := max (-1074) (floorLog2 num den - 52)
    let (n, d) := scaled num den (-e)
    let magnitude := (e + 1074).toNat * fractionWeight + roundDiv n d
    if magnitude < 2047 * fractionWeight then ofMagnitude negative magnitude else infinity negative

def ofNat (n : Nat) : Double := ofRatio false n 1

def ofInt (n : Int) : Double := ofRatio (n < 0) n.natAbs 1

/-- The value nearest to `± digits · 10 ^ e`. Exponents out of the range of all values are cut
short before any power is taken. -/
def ofDecimal (negative : Bool) (digits : Nat) (e : Int) : Double :=
  if digits = 0 then ofMagnitude negative 0
  else if 400 < e then infinity negative
  else if e + (Nat.log2 digits : Int) < -1200 then ofMagnitude negative 0
  else ofRatio negative (digits * Nat.pow 10 e.toNat) (Nat.pow 10 (-e).toNat)

def ratio (x : Double) : Nat × Nat := scaled x.significand 1 x.exponent

def neg (x : Double) : Double := ofMagnitude (!x.isNegative) (x.bits.toNat % signWeight)

def mul (x y : Double) : Double :=
  let s := x.isNegative != y.isNegative
  if x.isNaN || y.isNaN then nan
  else if x.isInfinite || y.isInfinite then
    if x.isZero || y.isZero then nan else infinity s
  else ofRatio s (x.ratio.1 * y.ratio.1) (x.ratio.2 * y.ratio.2)

def div (x y : Double) : Double :=
  let s := x.isNegative != y.isNegative
  if x.isNaN || y.isNaN then nan
  else if x.isInfinite then if y.isInfinite then nan else infinity s
  else if y.isInfinite then ofMagnitude s 0
  else if y.isZero then if x.isZero then nan else infinity s
  else ofRatio s (x.ratio.1 * y.ratio.2) (x.ratio.2 * y.ratio.1)

def addMagnitudes (x y : Double) : Double :=
  ofRatio false (x.ratio.1 * y.ratio.2 + y.ratio.1 * x.ratio.2) (x.ratio.2 * y.ratio.2)

def key (x : Double) : Int :=
  let magnitude : Int := (x.bits.toNat % signWeight : Nat)
  if x.isNegative then -magnitude else magnitude

def lt (x y : Double) : Bool := !x.isNaN && !y.isNaN && x.key < y.key

/-- Equality of values: the zeros are equal, and NaN equals nothing. -/
def eqv (x y : Double) : Bool := !x.isNaN && !y.isNaN && x.key == y.key

theorem eqv_refl {x : Double} (h : x.isNaN = false) : x.eqv x := by simp [eqv, h]

theorem isNaN_of_isFinite {x : Double} (h : x.isFinite) : x.isNaN = false := by
  simp_all [isFinite, isNaN]

end Double
end ClusterReconciliation.Decimal
