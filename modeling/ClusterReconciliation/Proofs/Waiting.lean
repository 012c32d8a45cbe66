import ClusterReconciliation.Proofs.Execution
import Mathlib.Tactic

/-! What a wait leaves behind. A wait is a row of looks with sleeps between them: an invariant of
both holds before its last look, and the last look decides how it ends. -/
namespace ClusterReconciliation

namespace Watch
variable {σ β α ε : Type} {w : Watch σ β α ε} {clock : Clock σ} {I : σ → Prop}

/-- The verdict on what a look finds, and the state after it. -/
def look (w : Watch σ β α ε) (s : σ) : Except ε (Check α) × σ :=
  w.decide (w.fetch s).1 (w.fetch s).2

theorem judge_eq (w : Watch σ β α ε) (s : σ) :
    w.judge (w.fetch s).1 (w.fetch s).2 =
      match w.look s with
      | (.ok (.done v), t) => (.inl (.done v), t)
      | (.ok .again, t) => (.inr 0, t)
      | (.error e, t) => (.inl (.rejected e), t) := rfl

/-- An invariant that holds as long as a wait goes on. -/
structure Keeps (w : Watch σ β α ε) (clock : Clock σ) (I : σ → Prop) : Prop where
  sleep : ∀ d s, I s → I (clock.sleep d s)
  tolerate : ∀ e s, I s → clock.isCancelled s = false → (w.fetch s).1 = .error e →
    e.isTransient = true → I (w.fetch s).2
  again : ∀ s, I s → clock.isCancelled s = false → (w.look s).1 = .ok .again → I (w.look s).2

/-- A verdict was found by a look at a state in which the invariant held. -/
def Found (w : Watch σ β α ε) (clock : Clock σ) (I : σ → Prop) (verdict : Except ε (Check α))
    (t : σ) : Prop :=
  ∃ s, I s ∧ clock.isCancelled s = false ∧ w.look s = (verdict, t)

def Ended (w : Watch σ β α ε) (clock : Clock σ) (I : σ → Prop) : Ending α ε × σ → Prop
  | (.done v, t) => w.Found clock I (.ok (.done v)) t
  | (.rejected e, t) => w.Found clock I (.error e) t
  | (.stopped _, t) => I t
  | (.unfinished, t) => I t

/-- A part of a wait ended it, or it goes on with the invariant. -/
def Passed {γ : Type} (w : Watch σ β α ε) (clock : Clock σ) (I : σ → Prop) :
    (Ending α ε ⊕ γ) × σ → Prop
  | (.inl ending, t) => w.Ended clock I (ending, t)
  | (.inr _, t) => I t

theorem judge_passed (hk : w.Keeps clock I) {s : σ} (hs : I s)
    (hc : clock.isCancelled s = false) :
    w.Passed clock I (w.judge (w.fetch s).1 (w.fetch s).2) := by
  have ha := hk.again s hs hc
  rw [judge_eq]
  rcases hd : w.look s with ⟨e | v | _, t⟩
  · exact ⟨s, hs, hc, hd⟩
  · exact ⟨s, hs, hc, hd⟩
  · rw [hd] at ha
    exact ha rfl

theorem weigh_passed (hk : w.Keeps clock I) {s : σ} (hs : I s)
    (hc : clock.isCancelled s = false) (budget failures : Nat) :
    w.Passed clock I (w.weigh budget failures (w.fetch s).1 (w.fetch s).2) := by
  have hj := judge_passed hk hs hc
  cases hf : (w.fetch s).1 with
  | ok b =>
    rw [hf] at hj
    exact hj
  | error e =>
    have ht := hk.tolerate e s hs hc hf
    rw [hf] at hj
    simp only [weigh]
    split_ifs with he
    · exact ht he
    · exact ht he
    · exact hj

theorem step_passed (hk : w.Keeps clock I) {s : σ} (hs : I s)
    (scale : Decimal.Double → Duration → Option Duration) (config : PollConfig)
    (started delay : Duration) (failures : Nat) :
    w.Passed clock I (w.step scale clock config started delay failures s) := by
  cases hc : clock.isCancelled s with
  | true => simpa [step, hc, Passed, Ended] using hs
  | false =>
    have hw := weigh_passed hk hs hc config.maxTransientErrors failures
    rcases he : w.weigh config.maxTransientErrors failures (w.fetch s).1 (w.fetch s).2
      with ⟨ending | n, t⟩ <;> rw [he] at hw
    · simpa [step, hc, he, Passed] using hw
    · cases hp : config.pause started (clock.now t) delay with
      | none => simpa [step, hc, he, hp, Passed, Ended] using hw
      | some d => simpa [step, hc, he, hp, Passed] using hk.sleep d t hw

theorem loop_ended (hk : w.Keeps clock I) (scale : Decimal.Double → Duration → Option Duration)
    (config : PollConfig) (started : Duration) (fuel : Nat) (delay : Duration) (failures : Nat)
    {s : σ} (hs : I s) :
    w.Ended clock I (w.loop scale clock config started fuel delay failures s) := by
  induction fuel generalizing delay failures s with
  | zero => exact hs
  | succ fuel ih =>
    have hp := step_passed hk hs scale config started delay failures
    rcases he : w.step scale clock config started delay failures s with ⟨ending | ⟨d, n⟩, t⟩ <;>
      rw [he] at hp <;> simp only [loop, he]
    · exact hp
    · exact ih d n hp

/-- A wait ends with a look from the invariant, or in a state in which it holds. -/
theorem run_ended (hk : w.Keeps clock I) (config : PollConfig) (fuel : Nat) {s : σ} (hs : I s) :
    w.Ended clock I (w.run clock config fuel s) :=
  loop_ended hk _ config _ fuel _ 0 hs

section Stopped
variable {scale : Decimal.Double → Duration → Option Duration} {config : PollConfig}
  {started delay : Duration} {failures fuel : Nat} {s t : σ} {e : ClientError}

theorem judge_ne_stopped (w : Watch σ β α ε) (answer : Except ClientError β) (s t : σ)
    (e : PollError) : w.judge answer s ≠ (.inl (.stopped e), t) := by
  unfold judge
  split <;> simp

theorem weigh_stopped {budget : Nat} {answer : Except ClientError β}
    (h : w.weigh budget failures answer s = (.inl (.stopped (.client e)), t)) :
    e.isTransient = true := by
  unfold weigh at h
  split at h
  · split_ifs at h with ht hb
    · cases h
      exact ht
    · cases h
    · exact absurd h (w.judge_ne_stopped _ _ _ _)
  · exact absurd h (w.judge_ne_stopped _ _ _ _)

theorem step_stopped
    (h : w.step scale clock config started delay failures s = (.inl (.stopped (.client e)), t)) :
    e.isTransient = true := by
  unfold step at h
  split at h
  · cases h
  · rcases hw : w.weigh config.maxTransientErrors failures (w.fetch s).1 (w.fetch s).2
      with ⟨ending | n, u⟩ <;> simp only [hw] at h
    · cases h
      exact weigh_stopped hw
    · split at h <;> cases h

theorem loop_stopped
    (h : w.loop scale clock config started fuel delay failures s = (.stopped (.client e), t)) :
    e.isTransient = true := by
  induction fuel generalizing delay failures s with
  | zero => cases h
  | succ fuel ih =>
    rcases hx : w.step scale clock config started delay failures s with ⟨ending | ⟨d, n⟩, u⟩ <;>
      simp only [loop, hx] at h
    · cases h
      exact step_stopped hx
    · exact ih h

/-- Of the errors that are answered only failures of the connection stop a wait by themselves. -/
theorem run_stopped (h : w.run clock config fuel s = (.stopped (.client e), t)) :
    e.isTransient = true := loop_stopped h

end Stopped

end Watch
end ClusterReconciliation
