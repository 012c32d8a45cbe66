import ClusterReconciliation.ClientError
import ClusterReconciliation.Duration

/-! Waiting: fetch, decide, sleep, and again. Failures of the connection are tolerated up to a
budget of them in a row and never reach the decision; every other answer does. Between fetches the
delay grows up to a bound. -/
namespace ClusterReconciliation
open Decimal

def minPollInterval : Duration := .ofMilliseconds 100

structure PollConfig where
  timeout : Duration := .ofSeconds 1800
  interval : Duration := .ofSeconds 10
  multiplier : Double := .ofRatio false 3 2
  maxInterval : Duration := .ofSeconds 60
  /-- Failures of the connection in a row that do not end the wait. -/
  maxTransientErrors : Nat := 5
  deriving DecidableEq, Repr

namespace PollConfig

instance : Inhabited PollConfig := ⟨{}⟩

def fixed (timeout interval : Duration) : PollConfig :=
  { timeout := timeout, interval := interval, multiplier := .ofNat 1, maxInterval := interval }

/-- A delay never shrinks: a factor that is not above one counts as one. -/
def withBackoff (c : PollConfig) (multiplier : Double) (maxInterval : Duration) : PollConfig :=
  { c with
    multiplier := if (Double.ofNat 1).lt multiplier then multiplier else .ofNat 1
    maxInterval := max maxInterval c.interval }

def withTransientBudget (c : PollConfig) (n : Nat) : PollConfig :=
  { c with maxTransientErrors := n }

/-- The delay after one of length `d`, by a given way of scaling. A product that is no length of
time counts as too long. -/
def nextDelay (scale : Double → Duration → Option Duration) (c : PollConfig) (d : Duration) :
    Duration :=
  max (match scale c.multiplier d with
    | some d => min d c.maxInterval
    | none => c.maxInterval) minPollInterval

def firstDelay (c : PollConfig) : Duration := max c.interval minPollInterval

/-- The last instant of a wait begun at `started`; a timeout out of the range of the clock sets
none. -/
def deadline (c : PollConfig) (started : Duration) : Option Duration :=
  if c.timeout < .ofSeconds 0x7FFFFFFF00000000 then some (started + c.timeout) else none

/-- How long to sleep at `now`, never past the deadline; there is no sleep once that is reached. -/
def pause (c : PollConfig) (started now delay : Duration) : Option Duration :=
  match c.deadline started with
  | none => some delay
  | some deadline => if deadline ≤ now then none else some (min delay (deadline - now))

end PollConfig

inductive Check (α : Type)
  | done (value : α)
  | again
  deriving DecidableEq, Repr

inductive PollError
  | timeout (what : String) (elapsed : Duration)
  | cancelled (what : String)
  | client (error : ClientError)
  deriving DecidableEq, Repr

def PollError.message : PollError → String
  | timeout what elapsed => "timed out after " ++ elapsed.display ++ " waiting for " ++ what
  | cancelled what => "cancelled while waiting for " ++ what
  | client e => e.message

inductive Ending (α ε : Type)
  | done (value : α)
  | rejected (error : ε)
  | stopped (error : PollError)
  | unfinished
  deriving DecidableEq, Repr

/-- The time and the cancellation, as a state tells them. -/
structure Clock (σ : Type) where
  now : σ → Duration
  /-- Lets time pass; a cancellation may cut the sleep short. -/
  sleep : Duration → σ → σ
  isCancelled : σ → Bool

structure Watch (σ β α ε : Type) where
  what : String
  fetch : σ → Except ClientError β × σ
  decide : Except ClientError β → σ → Except ε (Check α) × σ

namespace Watch
variable {σ β α ε : Type}

/-- What the decision on an answer makes of the wait: its end, or the failures in a row by now. -/
def judge (w : Watch σ β α ε) (answer : Except ClientError β) (s : σ) : (Ending α ε ⊕ Nat) × σ :=
  match w.decide answer s with
  | (.ok (.done value), s) => (.inl (.done value), s)
  | (.ok .again, s) => (.inr 0, s)
  | (.error e, s) => (.inl (.rejected e), s)

def weigh (w : Watch σ β α ε) (budget failures : Nat) (answer : Except ClientError β) (s : σ) :
    (Ending α ε ⊕ Nat) × σ :=
  match answer with
  | .error e =>
    if e.isTransient then
      if budget < failures + 1 then (.inl (.stopped (.client e)), s) else (.inr (failures + 1), s)
    else w.judge answer s
  | .ok _ => w.judge answer s

/-- One fetch and the sleep after it: the end of the wait, or the next delay and the failures of
the connection in a row. -/
def step (w : Watch σ β α ε) (scale : Double → Duration → Option Duration) (clock : Clock σ)
    (config : PollConfig) (started delay : Duration) (failures : Nat) (s : σ) :
    (Ending α ε ⊕ Duration × Nat) × σ :=
  if clock.isCancelled s then (.inl (.stopped (.cancelled w.what)), s)
  else
    let (answer, s) := w.fetch s
    match w.weigh config.maxTransientErrors failures answer s with
    | (.inl ending, s) => (.inl ending, s)
    | (.inr failures, s) =>
      let now := clock.now s
      match config.pause started now delay with
      | none => (.inl (.stopped (.timeout w.what (now - started))), s)
      | some pause => (.inr (config.nextDelay scale delay, failures), clock.sleep pause s)

/-- The steps of a wait. A cancellation during a sleep is noticed at the step after it. -/
def loop (w : Watch σ β α ε) (scale : Double → Duration → Option Duration) (clock : Clock σ)
    (config : PollConfig) (started : Duration) : Nat → Duration → Nat → σ → Ending α ε × σ
  | 0, _, _, s => (.unfinished, s)
  | fuel + 1, delay, failures, s =>
    match w.step scale clock config started delay failures s with
    | (.inl ending, s) => (ending, s)
    | (.inr (delay, failures), s) => w.loop scale clock config started fuel delay failures s

def run (w : Watch σ β α ε) (clock : Clock σ) (config : PollConfig) (fuel : Nat) (s : σ) :
    Ending α ε × σ :=
  w.loop Duration.scale clock config (clock.now s) fuel config.firstDelay 0 s

end Watch
end ClusterReconciliation
