import ClusterReconciliation.Decimal.Double

/-! Lengths of time in whole nanoseconds. -/
namespace ClusterReconciliation
open Decimal

abbrev Duration := Nat

namespace Duration

def ofSeconds (n : Nat) : Duration := n * 1000000000

def ofMilliseconds (n : Nat) : Duration := n * 1000000

def ceilMilliseconds (d : Duration) : Nat := (d + 999999) / 1000000

def wholeMilliseconds (d : Duration) : Nat := d / 1000000

/-- `num / Nat.pow 10 places` without trailing zeros. -/
def decimalText (num places : Nat) : String :=
  let whole := toString (num / Nat.pow 10 places)
  let digits := (toString (num % Nat.pow 10 places + Nat.pow 10 places)).toList.drop 1
  let digits := (digits.reverse.dropWhile (· == '0')).reverse
  if digits.isEmpty then whole else whole ++ "." ++ String.ofList digits

def display (d : Duration) : String :=
  if 1000000000 ≤ d then decimalText d 9 ++ "s"
  else if 1000000 ≤ d then decimalText d 6 ++ "ms"
  else if 1000 ≤ d then decimalText d 3 ++ "µs"
  else toString d ++ "ns"

/-- The length in seconds. Whole seconds and the rest are rounded each for themselves. -/
def seconds (d : Duration) : Double :=
  (Double.ofNat (d / 1000000000)).addMagnitudes
    ((Double.ofNat (d % 1000000000)).div (Double.ofNat 1000000000))

/-- A number of seconds to the nearest nanosecond, a half going to the even one. There is none
below zero, and none from `2 ^ 64` seconds on. -/
def ofSecondsDouble? (x : Double) : Option Duration :=
  if !x.isFinite || x.lt .zero then none
  else
    let d := Double.roundDiv (x.ratio.1 * 1000000000) x.ratio.2
    if d < UInt64.size * 1000000000 then some d else none

def scale (factor : Double) (d : Duration) : Option Duration :=
  ofSecondsDouble? (d.seconds.mul factor)

end Duration
end ClusterReconciliation
