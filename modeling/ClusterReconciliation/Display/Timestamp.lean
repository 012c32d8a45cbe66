/-! Instants of Universal Time as texts. -/
namespace ClusterReconciliation

/-- Year, month and day of a day counted from the first of January 1970. Years are counted from
March, so that a leap day ends them. -/
def civilOfDays (days : Int) : Int × Nat × Nat :=
  let z := days + 719468
  let era := z.fdiv 146097
  let doe := (z - era * 146097).toNat
  let yoe := (doe - doe / 1460 + doe / 36524 - doe / 146096) / 365
  let doy := doe - (365 * yoe + yoe / 4 - yoe / 100)
  let mp := (5 * doy + 2) / 153
  let day := doy - (153 * mp + 2) / 5 + 1
  let month := if mp < 10 then mp + 3 else mp - 9
  let year := (yoe : Int) + era * 400 + if month ≤ 2 then 1 else 0
  (year, month, day)

def padded (width n : Nat) : String :=
  let digits := toString n
  String.ofList (List.replicate (width - digits.length) '0') ++ digits

/-- Four digits at least, with a sign unless they are enough. -/
def yearText (y : Int) : String :=
  if y < 0 then "-" ++ padded 4 y.natAbs
  else if y ≤ 9999 then padded 4 y.toNat
  else "+" ++ padded 4 y.toNat

/-- The first and the last millisecond that have a calendar date. -/
def firstInstant : Int := -8334601228800000
def lastInstant : Int := 8210266876799999

def timestampText (millis : Option Int64) : String :=
  match millis.map (·.toInt) with
  | none => "-"
  | some t =>
    if t < firstInstant || lastInstant < t then "-"
    else
      let seconds := t.fdiv 1000
      let (year, month, day) := civilOfDays (seconds.fdiv 86400)
      let s := (seconds.fmod 86400).toNat
      yearText year ++ "-" ++ padded 2 month ++ "-" ++ padded 2 day ++ " " ++
        padded 2 (s / 3600) ++ ":" ++ padded 2 (s / 60 % 60) ++ ":" ++ padded 2 (s % 60) ++ " UTC"

end ClusterReconciliation
