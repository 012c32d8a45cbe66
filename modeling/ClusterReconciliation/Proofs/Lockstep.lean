import ClusterReconciliation.Poll
import Mathlib.Tactic

/-! Waits in lockstep. Two waits for the same thing, whose looks and sleeps go together and whose
clocks are a fixed time apart, end alike, unless a cancellation cuts the first one short. What a
wait does depends on how much time has passed and not on what the clock says. -/
namespace ClusterReconciliation

namespace PollConfig
variable (c : PollConfig)

theorem deadline_lag (started lag : Duration) :
    c.deadline (started + lag) = (c.deadline started).map (· + lag) := by
  unfold deadline
  split_ifs
  · rw [Option.map_some, Nat.add_right_comm]
  · rfl

/-- A pause is the same when everything happens later. -/
theorem pause_lag (started now delay lag : Duration) :
    c.pause (started + lag) (now + lag) delay = c.pause started now delay := by
  unfold pause
  rw [deadline_lag]
  cases c.deadline started with
  | none => rfl
  | some deadline =>
    simp only [Option.map_some, Nat.add_le_add_iff_right, Nat.add_sub_add_right]

end PollConfig

section
variable {σ τ α β ε : Type}

/-- The wait was cancelled, or there was no fuel for its end. -/
def Ending.IsCut : Ending α ε → Prop
  | .stopped (.cancelled _) => True
  | .unfinished => True
  | _ => False

/-- States that go together for two clocks, the first of which is ahead by a fixed time. They do not
go together any longer when the first one is cut short by a cancellation. -/
structure Clock.Lockstep (clock : Clock σ) (clock' : Clock τ) (lag : Duration) (R : σ → τ → Prop)
    (Cut : σ → Prop) : Prop where
  now : ∀ s t, R s t → clock.now s = clock'.now t + lag
  isCancelled : ∀ s t, R s t → clock'.isCancelled t = clock.isCancelled s ∨ Cut s
  sleep : ∀ d s t, R s t → R (clock.sleep d s) (clock'.sleep d t) ∨ Cut (clock.sleep d s)
  cancelled : ∀ s, Cut s → clock.isCancelled s = true

theorem Clock.Lockstep.isCancelled_eq_false {clock : Clock σ} {clock' : Clock τ} {lag : Duration}
    {R : σ → τ → Prop} {Cut : σ → Prop} {s : σ} {t : τ} (h : clock.Lockstep clock' lag R Cut)
    (hs : R s t) (hc : clock.isCancelled s = false) : clock'.isCancelled t = false := by
  rcases h.isCancelled s t hs with he | hcut
  · rw [he, hc]
  · rw [h.cancelled s hcut] at hc
    cases hc

namespace Watch

/-- Waits for the same, whose looks and sleeps go together. -/
structure Lockstep (w : Watch σ β α ε) (v : Watch τ β α ε) (clock : Clock σ) (clock' : Clock τ)
    (lag : Duration) (R : σ → τ → Prop) (Cut : σ → Prop) : Prop
    extends clock.Lockstep clock' lag R Cut where
  what : v.what = w.what
  fetch : ∀ s t, R s t → clock.isCancelled s = false →
    (v.fetch t).1 = (w.fetch s).1 ∧ R (w.fetch s).2 (v.fetch t).2
  decide : ∀ answer s t, R s t →
    (v.decide answer t).1 = (w.decide answer s).1 ∧ R (w.decide answer s).2 (v.decide answer t).2

variable {w : Watch σ β α ε} {v : Watch τ β α ε} {clock : Clock σ} {clock' : Clock τ}
  {lag : Duration} {R : σ → τ → Prop} {Cut : σ → Prop} {s : σ} {t : τ}

theorem Lockstep.judge (h : w.Lockstep v clock clock' lag R Cut) (answer : Except ClientError β)
    (hs : R s t) :
    ∃ x u u', w.judge answer s = (x, u) ∧ v.judge answer t = (x, u') ∧ R u u' := by
  obtain ⟨hd, hr⟩ := h.decide answer s t hs
  have hv : v.decide answer t = ((w.decide answer s).1, (v.decide answer t).2) := Prod.ext hd rfl
  unfold Watch.judge
  rw [hv]
  rcases hw : w.decide answer s with ⟨e | a | _, u⟩ <;> rw [hw] at hr <;>
    exact ⟨_, u, _, rfl, rfl, hr⟩

theorem Lockstep.weigh (h : w.Lockstep v clock clock' lag R Cut) (budget failures : Nat)
    (answer : Except ClientError β) (hs : R s t) :
    ∃ x u u', w.weigh budget failures answer s = (x, u) ∧
      v.weigh budget failures answer t = (x, u') ∧ R u u' := by
  cases answer with
  | ok b => exact h.judge (.ok b) hs
  | error e =>
    simp only [Watch.weigh]
    split_ifs
    · exact ⟨_, s, t, rfl, rfl, hs⟩
    · exact ⟨_, s, t, rfl, rfl, hs⟩
    · exact h.judge (.error e) hs

theorem step_of_cancelled (w : Watch σ β α ε) (hc : clock.isCancelled s = true)
    (scale : Decimal.Double → Duration → Option Duration) (config : PollConfig)
    (started delay : Duration) (failures : Nat) :
    w.step scale clock config started delay failures s =
      (.inl (.stopped (.cancelled w.what)), s) := if_pos hc

/-- Steps that start together end their waits alike, or lead on to sleeps that end together unless
the first one is cut short. -/
theorem Lockstep.step (h : w.Lockstep v clock clock' lag R Cut) (hs : R s t)
    (scale : Decimal.Double → Duration → Option Duration) (config : PollConfig)
    (started delay : Duration) (failures : Nat) :
    Cut s ∨
    (∃ ending u u', w.step scale clock config (started + lag) delay failures s = (.inl ending, u) ∧
      v.step scale clock' config started delay failures t = (.inl ending, u') ∧ R u u') ∨
    ∃ next u u', w.step scale clock config (started + lag) delay failures s = (.inr next, u) ∧
      v.step scale clock' config started delay failures t = (.inr next, u') ∧ (R u u' ∨ Cut u) := by
  cases hc : clock.isCancelled s with
  | true =>
    refine (h.isCancelled s t hs).symm.imp_right fun he => .inl ?_
    exact ⟨_, s, t, w.step_of_cancelled hc .., h.what ▸ v.step_of_cancelled (he.trans hc) .., hs⟩
  | false =>
    obtain ⟨hf, hr⟩ := h.fetch s t hs hc
    obtain ⟨x, u, u', hx, hy, hu⟩ := h.weigh config.maxTransientErrors failures (w.fetch s).1 hr
    simp only [Watch.step, hc, h.isCancelled_eq_false hs hc, hf, hx, hy, h.what,
      Bool.false_eq_true, if_false]
    match x with
    | .inl ending => exact .inr (.inl ⟨ending, u, u', rfl, rfl, hu⟩)
    | .inr n =>
      simp only [h.now u u' hu, config.pause_lag, Nat.add_sub_add_right]
      cases config.pause started (clock'.now u') delay with
      | none => exact .inr (.inl ⟨_, u, u', rfl, rfl, hu⟩)
      | some d => exact .inr (.inr ⟨_, _, _, rfl, rfl, h.sleep d u u' hu⟩)

theorem Lockstep.loop (h : w.Lockstep v clock clock' lag R Cut)
    (scale : Decimal.Double → Duration → Option Duration) (config : PollConfig)
    (started : Duration) (fuel : Nat) (delay : Duration) (failures : Nat) (hs : R s t ∨ Cut s) :
    (∃ x u, w.loop scale clock config (started + lag) fuel delay failures s = (x, u) ∧
      x.IsCut ∧ Cut u) ∨
    ∃ x u u', w.loop scale clock config (started + lag) fuel delay failures s = (x, u) ∧
      v.loop scale clock' config started fuel delay failures t = (x, u') ∧ R u u' := by
  -- A sleep that is cut short may end apart, but then the next step ends the wait.
  induction fuel generalizing delay failures s t with
  | zero =>
    rcases hs with hs | hcut
    · exact .inr ⟨_, s, t, rfl, rfl, hs⟩
    · exact .inl ⟨_, s, rfl, trivial, hcut⟩
  | succ fuel ih =>
    have ends (hcut : Cut s) : ∃ x u, w.loop scale clock config (started + lag) (fuel + 1) delay
        failures s = (x, u) ∧ x.IsCut ∧ Cut u := by
      simp only [Watch.loop, w.step_of_cancelled (h.cancelled s hcut)]
      exact ⟨_, s, rfl, trivial, hcut⟩
    rcases hs with hs | hcut
    · rcases h.step hs scale config started delay failures with
        hcut | ⟨ending, u, u', hx, hy, hu⟩ | ⟨⟨d, n⟩, u, u', hx, hy, hu⟩
      · exact .inl (ends hcut)
      · simp only [Watch.loop, hx, hy]
        exact .inr ⟨ending, u, u', rfl, rfl, hu⟩
      · simp only [Watch.loop, hx, hy]
        exact ih d n hu
    · exact .inl (ends hcut)

/-- A wait by a given way of scaling. -/
def runWith (w : Watch σ β α ε) (scale : Decimal.Double → Duration → Option Duration)
    (clock : Clock σ) (config : PollConfig) (fuel : Nat) (s : σ) : Ending α ε × σ :=
  w.loop scale clock config (clock.now s) fuel config.firstDelay 0 s

theorem run_eq_runWith (w : Watch σ β α ε) (clock : Clock σ) (config : PollConfig) (fuel : Nat)
    (s : σ) : w.run clock config fuel s = w.runWith Duration.scale clock config fuel s := rfl

/-- Waits that start together end alike, in states that go together, unless the first one is cut
short. -/
theorem Lockstep.runWith (h : w.Lockstep v clock clock' lag R Cut)
    (scale : Decimal.Double → Duration → Option Duration) (config : PollConfig) (fuel : Nat)
    (hs : R s t) :
    (∃ x u, w.runWith scale clock config fuel s = (x, u) ∧ x.IsCut ∧ Cut u) ∨
    ∃ x u u', w.runWith scale clock config fuel s = (x, u) ∧
      v.runWith scale clock' config fuel t = (x, u') ∧ R u u' := by
  unfold Watch.runWith
  rw [h.now s t hs]
  exact h.loop scale config (clock'.now t) fuel config.firstDelay 0 (.inl hs)

theorem Lockstep.run (h : w.Lockstep v clock clock' lag R Cut) (config : PollConfig) (fuel : Nat)
    (hs : R s t) :
    (∃ x u, w.run clock config fuel s = (x, u) ∧ x.IsCut ∧ Cut u) ∨
    ∃ x u u', w.run clock config fuel s = (x, u) ∧ v.run clock' config fuel t = (x, u') ∧
      R u u' := by
  simp only [run_eq_runWith]
  exact h.runWith Duration.scale config fuel hs

end Watch
end

section Recording
variable {σ ρ α β ε : Type}

/-- A clock beside which a record is kept of its sleeps. -/
def Clock.recording (clock : Clock σ) (slept : Duration → Duration → ρ → ρ) : Clock (σ × ρ) where
  now x := clock.now x.1
  sleep d x := (clock.sleep d x.1, slept (clock.now x.1) d x.2)
  isCancelled x := clock.isCancelled x.1

/-- A watch beside which a record is kept of its fetches and decisions. -/
def Watch.recording (w : Watch σ β α ε) (fetched : Except ClientError β → ρ → ρ)
    (decided : Except ClientError β → Except ε (Check α) → ρ → ρ) : Watch (σ × ρ) β α ε where
  what := w.what
  fetch x := ((w.fetch x.1).1, (w.fetch x.1).2, fetched (w.fetch x.1).1 x.2)
  decide answer x :=
    ((w.decide answer x.1).1, (w.decide answer x.1).2, decided answer (w.decide answer x.1).1 x.2)

/-- A record makes no difference to a wait. -/
theorem Watch.runWith_recording (w : Watch σ β α ε) (clock : Clock σ)
    (fetched : Except ClientError β → ρ → ρ)
    (decided : Except ClientError β → Except ε (Check α) → ρ → ρ)
    (slept : Duration → Duration → ρ → ρ) (scale : Decimal.Double → Duration → Option Duration)
    (config : PollConfig) (fuel : Nat) (s : σ) (r : ρ) :
    w.runWith scale clock config fuel s =
      (((w.recording fetched decided).runWith scale (clock.recording slept) config fuel (s, r)).1,
        ((w.recording fetched decided).runWith scale (clock.recording slept) config fuel
          (s, r)).2.1) := by
  have hlock : (w.recording fetched decided).Lockstep w (clock.recording slept) clock 0
      (fun x s => s = x.1) fun _ => False :=
    { now := by
        rintro x _ rfl
        rfl
      isCancelled := by
        rintro x _ rfl
        exact .inl rfl
      sleep := by
        rintro d x _ rfl
        exact .inl rfl
      cancelled := fun _ => False.elim
      what := rfl
      fetch := by
        rintro x _ rfl -
        exact ⟨rfl, rfl⟩
      decide := by
        rintro answer x _ rfl
        exact ⟨rfl, rfl⟩ }
  rcases hlock.runWith scale config fuel (show (fun x s => s = x.1) (s, r) s from rfl) with
    ⟨-, -, -, -, hcut⟩ | ⟨x, u, _, hx, hy, rfl⟩
  · exact hcut.elim
  · rw [hx, hy]

end Recording
end ClusterReconciliation
