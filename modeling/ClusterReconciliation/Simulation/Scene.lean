import ClusterReconciliation.ControlPlane

/-! A state under a clock of whole milliseconds that moves only while everybody sleeps. Besides the
one who sleeps there may be a cancellation and a schedule of happenings; at an instant that they
share with the end of a sleep they come after it. -/
namespace ClusterReconciliation

structure Happening (τ : Type) where
  time : Duration
  effect : τ → τ

structure Scene (τ : Type) where
  state : τ
  now : Duration := 0
  cancelled : Bool := false
  cancelAt : Option Duration := none
  schedule : List (Happening τ) := []

namespace Scene
variable {τ : Type}

/-- Happenings in the order of their times, and of their listing at one time. -/
def inOrder (l : List (Happening τ)) : List (Happening τ) := l.mergeSort fun a b => a.time ≤ b.time

def endOfSleep (s : Scene τ) (d : Duration) : Duration :=
  .ofMilliseconds (Duration.ceilMilliseconds (s.now + d))

/-- Moves the clock, and lets everything happen that `due` holds for. -/
def moveTo (s : Scene τ) (now : Duration) (due : Duration → Bool) : Scene τ :=
  { s with
    now := now
    state := (s.schedule.filter fun h => due h.time).foldl (fun x h => h.effect x) s.state
    schedule := s.schedule.filter fun h => !due h.time }

def isDue (limit : Duration) (time : Option Duration) : Bool := time.any (· < limit)

/-- Lets time pass, whether anybody cancels or not. -/
def pass (d : Duration) (s : Scene τ) : Scene τ :=
  let stop := s.endOfSleep d
  { s.moveTo stop (· < stop) with cancelled := s.cancelled || isDue stop s.cancelAt }

/-- Lets time pass until a cancellation at most. -/
def sleep (d : Duration) (s : Scene τ) : Scene τ :=
  if s.cancelled then s
  else
    match s.cancelAt with
    | some t =>
      if t < s.endOfSleep d then
        let stop := max t s.now
        { s.moveTo stop (· ≤ stop) with cancelled := true }
      else s.pass d
    | none => s.pass d

def cancel (s : Scene τ) : Scene τ := { s with cancelled := true }

def clock : Clock (Scene τ) := ⟨now, sleep, cancelled⟩

def world (answer : (c : Call) → τ → Except ClientError c.Reply × τ) : World (Scene τ) where
  toClock := clock
  answer c s :=
    let (reply, state) := answer c s.state
    (reply, { s with state := state })

end Scene
end ClusterReconciliation
