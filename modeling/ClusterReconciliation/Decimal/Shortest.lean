import ClusterReconciliation.Decimal.Double

/-! The fewest decimal digits that read back as a given binary64 value, and the two styles
numbers are written in. -/
namespace ClusterReconciliation.Decimal

structure Scaled where
  digits : Nat
  exponent : Int
  deriving DecidableEq, Repr

namespace Double

/-- The ends of the interval that rounds to `x`, in units of `2 ^ (x.exponent - 2)`. Below a
power of two the gap is half as wide. -/
def interval (x : Double) : Nat × Nat :=
  let m := x.significand
  if x.fractionField = 0 && 1 < x.exponentField then (4 * m - 1, 4 * m + 2)
  else (4 * m - 2, 4 * m + 2)

/-- Both sides of a comparison of `c · 10 ^ p` with `b · 2 ^ q`, free of fractions. -/
def crossed (c : Nat) (p : Int) (b : Nat) (q : Int) : Nat × Nat :=
  (c * Nat.pow 10 p.toNat * Nat.pow 2 (-q).toNat, b * Nat.pow 2 q.toNat * Nat.pow 10 (-p).toNat)

/-- `c · 10 ^ p` rounds to `x`; the ends do so when the significand is even. -/
def reaches (x : Double) (c : Nat) (p : Int) : Bool :=
  let (low, high) := x.interval
  let (l, l') := crossed c p low (x.exponent - 2)
  let (h, h') := crossed c p high (x.exponent - 2)
  if x.significand % 2 = 0 then l' ≤ l && h ≤ h' else l' < l && h < h'

/-- The greatest `p` with `10 ^ p ≤ x`, for positive `x`, sought downwards from `p`. -/
def decade (x : Double) : Nat → Int → Int
  | 0, p => p
  | fuel + 1, p =>
    let (t, v) := crossed 1 p x.significand x.exponent
    if t ≤ v then p else decade x fuel (p - 1)

/-- The neighbours of `x` among the multiples of `10 ^ p`: the nearer one that reads back, of two
equally near the even one. -/
def onGrid (x : Double) (p : Int) : Option Nat :=
  let (unit, v) := crossed 1 p x.significand x.exponent
  let c := v / unit
  let up := c + 1
  match x.reaches c p && c != 0, x.reaches up p with
  | true, true =>
    let r := v % unit
    some (if 2 * r < unit then c else if unit < 2 * r then up else c + c % 2)
  | true, false => some c
  | false, true => some up
  | false, false => none

def search (x : Double) (top : Int) : List Nat → Scaled
  | [] => ⟨0, 0⟩
  | n :: rest =>
    match x.onGrid (top + 1 - n) with
    | some c => if c % 10 = 0 then ⟨c / 10, top + 2 - n⟩ else ⟨c, top + 1 - n⟩
    | none => search x top rest

def shortest (x : Double) : Scaled :=
  if x.significand = 0 then ⟨0, 0⟩
  else
    let top : Int := ((x.significand.log2 : Int) + x.exponent) * 30103 / 100000 + 1
    x.search (x.decade 4 top) (List.range' 1 17)

end Double

/-- How exponents are written. -/
structure NumberStyle where
  plusSign : Bool
  exponentWidth : Nat

/-- Exponents carry a sign and two digits at least. -/
def NumberStyle.signed : NumberStyle := ⟨true, 2⟩

def NumberStyle.bare : NumberStyle := ⟨false, 1⟩

def zeros (n : Nat) : String := String.ofList (List.replicate n '0')

def NumberStyle.exponentText (style : NumberStyle) (e : Int) : String :=
  let digits := toString e.natAbs
  let sign := if e < 0 then "-" else if style.plusSign then "+" else ""
  "e" ++ sign ++ zeros (style.exponentWidth - digits.length) ++ digits

/-- Positional with a fraction for leading digits at `10 ^ -5` to `10 ^ 15`, else with one digit
before the point and an exponent. -/
def NumberStyle.magnitude (style : NumberStyle) (d : Scaled) : String :=
  let digits := toString d.digits
  let leading : Int := d.exponent + digits.length - 1
  if d.digits = 0 then "0.0"
  else if 0 ≤ d.exponent && leading < 16 then digits ++ zeros d.exponent.toNat ++ ".0"
  else if 0 ≤ leading && leading < 16 then
    (digits.take (leading.toNat + 1)).toString ++ "." ++ (digits.drop (leading.toNat + 1)).toString
  else if -5 ≤ leading && leading < 0 then "0." ++ zeros (-leading - 1).toNat ++ digits
  else if digits.length = 1 then digits ++ style.exponentText leading
  else (digits.take 1).toString ++ "." ++ (digits.drop 1).toString ++ style.exponentText leading

def NumberStyle.render (style : NumberStyle) (x : Double) : String :=
  (if x.isNegative then "-" else "") ++ style.magnitude x.shortest

end ClusterReconciliation.Decimal
