import ClusterReconciliation.Proofs.Lockstep
import Mathlib.Algebra.Order.Floor.Div

/-! How often a wait fetches, and when it gives up. Sleeps between fetches are of a least length, but
for one that is cut short to end with the deadline, so that only so many fit in before it. The notes of
one who looks on say what is fetched, decided and slept. -/
namespace ClusterReconciliation

/-- What a wait is seen to do. A sleep is noted with the time it is asked for at. -/
inductive Note (β α ε : Type)
  | fetched (answer : Except ClientError β)
  | decided (verdict : Except ε (Check α))
  | slept (now d : Duration)

namespace Note
variable {β α ε : Type}

def isFetch : Note β α ε → Bool
  | fetched _ => true
  | _ => false

/-- The fetches that are noted. -/
def fetches (notes : List (Note β α ε)) : Nat := notes.countP isFetch

/-- A fetch and what was made of it, after which a wait goes on: the decision was to, or the
connection failed and that was tolerated. -/
inductive GoesOn : List (Note β α ε) → Prop
  | again (answer : Except ClientError β) : GoesOn [fetched answer, decided (.ok .again)]
  | tolerated {e : ClientError} (h : e.isTransient = true) : GoesOn [fetched (.error e)]

/-- A fetch and what was made of it, after which a wait ends. -/
inductive Concludes : List (Note β α ε) → Ending α ε → Prop
  | done (answer : Except ClientError β) (a : α) :
    Concludes [fetched answer, decided (.ok (.done a))] (.done a)
  | rejected (answer : Except ClientError β) (e : ε) :
    Concludes [fetched answer, decided (.error e)] (.rejected e)
  | exhausted {e : ClientError} (h : e.isTransient = true) :
    Concludes [fetched (.error e)] (.stopped (.client e))

/-- Nothing that is noted has ended a wait. -/
def Undecided (notes : List (Note β α ε)) : Prop :=
  ∀ verdict, decided verdict ∈ notes → verdict = .ok .again

theorem fetches_append (ns ms : List (Note β α ε)) :
    fetches (ns ++ ms) = fetches ns + fetches ms := List.countP_append

theorem Undecided.append {ns ms : List (Note β α ε)} (hn : Undecided ns) (hm : Undecided ms) :
    Undecided (ns ++ ms) := fun verdict h => (List.mem_append.1 h).elim (hn verdict) (hm verdict)

section
variable {seen : List (Note β α ε)} {ending : Ending α ε}

theorem GoesOn.fetches (h : GoesOn seen) : Note.fetches seen = 1 := by
  cases h <;> rfl

theorem GoesOn.undecided (h : GoesOn seen) : Undecided seen := by
  intro verdict hv
  cases h with
  | again answer => simpa using hv
  | tolerated => simp at hv

theorem GoesOn.slept_notMem (h : GoesOn seen) (now d : Duration) : slept now d ∉ seen := by
  cases h <;> simp

theorem Concludes.fetches (h : Concludes seen ending) : Note.fetches seen = 1 := by
  cases h <;> rfl

theorem Concludes.done_of_mem (h : Concludes seen ending) {a : α}
    (ha : decided (.ok (.done a)) ∈ seen) : ending = .done a := by
  cases h with
  | done answer b => simpa [eq_comm] using ha
  | rejected answer e => simp at ha
  | exhausted => simp at ha

theorem Concludes.rejected_of_mem (h : Concludes seen ending) {e : ε}
    (he : decided (.error e) ∈ seen) : ending = .rejected e := by
  cases h with
  | done answer a => simp at he
  | rejected answer e' => simpa [eq_comm] using he
  | exhausted => simp at he

theorem Concludes.slept_notMem (h : Concludes seen ending) (now d : Duration) :
    slept now d ∉ seen := by
  cases h <;> simp

end

end Note

open Note

section
variable {σ β α ε : Type}

/-- A clock whose sleeps are noted. -/
def Clock.noted (clock : Clock σ) : Clock (σ × List (Note β α ε)) where
  now x := clock.now x.1
  sleep d x := (clock.sleep d x.1, x.2 ++ [.slept (clock.now x.1) d])
  isCancelled x := clock.isCancelled x.1

/-- A watch whose fetches and decisions are noted. -/
def Watch.noted (w : Watch σ β α ε) : Watch (σ × List (Note β α ε)) β α ε where
  what := w.what
  fetch x := ((w.fetch x.1).1, (w.fetch x.1).2, x.2 ++ [.fetched (w.fetch x.1).1])
  decide answer x :=
    ((w.decide answer x.1).1, (w.decide answer x.1).2, x.2 ++ [.decided (w.decide answer x.1).1])

/-- Time does not go back, and a sleep that is not cut short by a cancellation is as long as was asked
for. -/
structure Watch.Steady (w : Watch σ β α ε) (clock : Clock σ) : Prop where
  fetch : ∀ s, clock.now s ≤ clock.now (w.fetch s).2
  decide : ∀ answer s, clock.now s ≤ clock.now (w.decide answer s).2
  sleep : ∀ d s, clock.isCancelled (clock.sleep d s) = false →
    clock.now s + d ≤ clock.now (clock.sleep d s)

end

namespace Watch
variable {σ β α ε : Type} {w : Watch σ β α ε} {clock : Clock σ}

/-- It makes no difference to a wait that it is noted. -/
theorem runWith_eq_noted (w : Watch σ β α ε)
    (scale : Decimal.Double → Duration → Option Duration) (clock : Clock σ) (config : PollConfig)
    (fuel : Nat) (s : σ) (ns : List (Note β α ε)) :
    w.runWith scale clock config fuel s =
      ((w.noted.runWith scale clock.noted config fuel (s, ns)).1,
        (w.noted.runWith scale clock.noted config fuel (s, ns)).2.1) :=
  w.runWith_recording clock (fun answer ns => ns ++ [fetched answer])
    (fun _ verdict ns => ns ++ [decided verdict]) (fun now d ns => ns ++ [slept now d]) scale config
    fuel s ns

theorem run_eq_noted (w : Watch σ β α ε) (clock : Clock σ) (config : PollConfig) (fuel : Nat)
    (s : σ) (ns : List (Note β α ε)) :
    w.run clock config fuel s =
      ((w.noted.run clock.noted config fuel (s, ns)).1,
        (w.noted.run clock.noted config fuel (s, ns)).2.1) :=
  runWith_eq_noted w Duration.scale clock config fuel s ns

/-- What a fetch can come to, from a state with these notes. -/
inductive Weighed (clock : Clock σ) (s : σ) (ns : List (Note β α ε)) :
    (Ending α ε ⊕ Nat) × σ × List (Note β α ε) → Prop
  | ends {seen : List (Note β α ε)} {ending : Ending α ε} {u : σ} (h : Concludes seen ending)
    (hn : clock.now s ≤ clock.now u) : Weighed clock s ns (.inl ending, u, ns ++ seen)
  | goesOn {seen : List (Note β α ε)} (failures : Nat) {u : σ} (h : GoesOn seen)
    (hn : clock.now s ≤ clock.now u) : Weighed clock s ns (.inr failures, u, ns ++ seen)

theorem weigh_noted (hw : w.Steady clock) (budget failures : Nat) (s : σ)
    (ns : List (Note β α ε)) :
    Weighed clock s ns
      (w.noted.weigh budget failures (w.noted.fetch (s, ns)).1 (w.noted.fetch (s, ns)).2) := by
  have hfetch := hw.fetch s
  have hjudge : Weighed clock s ns
      (w.noted.judge (w.fetch s).1 (w.noted.fetch (s, ns)).2) := by
    have hdecide := hfetch.trans (hw.decide (w.fetch s).1 (w.fetch s).2)
    simp only [Watch.judge, noted, List.append_assoc, List.singleton_append]
    generalize w.decide (w.fetch s).1 (w.fetch s).2 = x at hdecide
    match x with
    | (.ok (.done a), u) => exact .ends (.done _ a) hdecide
    | (.ok .again, u) => exact .goesOn 0 (.again _) hdecide
    | (.error e, u) => exact .ends (.rejected _ e) hdecide
  change Weighed clock s ns (w.noted.weigh budget failures (w.fetch s).1 (w.noted.fetch (s, ns)).2)
  cases hf : (w.fetch s).1 with
  | ok b =>
    rw [hf] at hjudge
    exact hjudge
  | error e =>
    rw [hf] at hjudge
    have hnotes : (w.noted.fetch (s, ns)).2 = ((w.fetch s).2, ns ++ [.fetched (.error e)]) := by
      simp only [noted, hf]
    simp only [Watch.weigh]
    split_ifs with ht
    · rw [hnotes]
      exact .ends (.exhausted ht) hfetch
    · rw [hnotes]
      exact .goesOn _ (.tolerated ht) hfetch
    · exact hjudge

/-- All that a step can do. It ends the wait without a fetch if that is cancelled, or by what it has
fetched, or for want of time; or it sleeps. -/
inductive Stepped (w : Watch σ β α ε) (clock : Clock σ) (config : PollConfig)
    (started delay : Duration) (s : σ) (ns : List (Note β α ε)) :
    (Ending α ε ⊕ Duration × Nat) × σ × List (Note β α ε) → Prop
  | cancelled (hc : clock.isCancelled s = true) :
    Stepped w clock config started delay s ns (.inl (.stopped (.cancelled w.what)), s, ns)
  | ends {seen : List (Note β α ε)} {ending : Ending α ε} {u : σ}
    (hc : clock.isCancelled s = false) (h : Concludes seen ending)
    (hn : clock.now s ≤ clock.now u) :
    Stepped w clock config started delay s ns (.inl ending, u, ns ++ seen)
  | late {seen : List (Note β α ε)} {u : σ} (hc : clock.isCancelled s = false)
    (h : GoesOn seen) (hn : clock.now s ≤ clock.now u)
    (hp : config.pause started (clock.now u) delay = none) :
    Stepped w clock config started delay s ns
      (.inl (.stopped (.timeout w.what (clock.now u - started))), u, ns ++ seen)
  | sleeps {seen : List (Note β α ε)} {u : σ} {d : Duration} (failures : Nat)
    (hc : clock.isCancelled s = false) (h : GoesOn seen) (hn : clock.now s ≤ clock.now u)
    (hp : config.pause started (clock.now u) delay = some d) :
    Stepped w clock config started delay s ns
      (.inr (config.nextDelay Duration.scale delay, failures), clock.sleep d u,
        ns ++ seen ++ [.slept (clock.now u) d])

theorem step_noted (hw : w.Steady clock) (config : PollConfig) (started delay : Duration)
    (failures : Nat) (s : σ) (ns : List (Note β α ε)) :
    Stepped w clock config started delay s ns
      (w.noted.step Duration.scale clock.noted config started delay failures (s, ns)) := by
  unfold Watch.step
  change Stepped w clock config started delay s ns (if clock.isCancelled s then _ else _)
  cases hc : clock.isCancelled s with
  | true => exact .cancelled hc
  | false =>
    have hweighed := weigh_noted hw config.maxTransientErrors failures s ns
    simp only [Bool.false_eq_true, if_false]
    generalize w.noted.weigh config.maxTransientErrors failures (w.noted.fetch (s, ns)).1
      (w.noted.fetch (s, ns)).2 = x at hweighed ⊢
    cases hweighed with
    | ends h hn => exact .ends hc h hn
    | @goesOn seen n u h hn =>
      cases hp : config.pause started (clock.now u) delay with
      | none =>
        simp only [Clock.noted, hp]
        exact .late hc h hn hp
      | some d =>
        simp only [Clock.noted, hp]
        exact .sleeps n hc h hn hp

/-- A wait with a deadline between two of its steps. Unless it is cancelled by now, every fetch so far
has taken a least time, or the deadline is reached. -/
structure Midway (clock : Clock σ) (config : PollConfig) (start : σ) (delay : Duration) (s : σ)
    (ns : List (Note β α ε)) : Prop where
  delay : minPollInterval ≤ delay
  undecided : Undecided ns
  wakes : ∀ now d, slept now d ∈ ns → now + d ≤ clock.now start + config.timeout
  fetches_le : fetches ns ≤ config.timeout ⌈/⌉ minPollInterval
  paced : clock.isCancelled s = false →
    clock.now start + minPollInterval * fetches ns ≤ clock.now s ∨
      clock.now start + config.timeout ≤ clock.now s
  looked : fetches ns = 0 ∧ clock.isCancelled s = clock.isCancelled start ∨
    0 < fetches ns ∧ clock.isCancelled start = false

/-- What holds of a wait with a deadline once it has ended. -/
structure Bounded (w : Watch σ β α ε) (clock : Clock σ) (config : PollConfig) (start : σ)
    (ending : Ending α ε) (s : σ) (ns : List (Note β α ε)) : Prop where
  finished : ending ≠ .unfinished
  fetches_le : fetches ns ≤ config.timeout ⌈/⌉ minPollInterval + 1
  fetches_eq_zero_iff : fetches ns = 0 ↔ clock.isCancelled start = true
  timeout : ∀ what elapsed, ending = .stopped (.timeout what elapsed) →
    what = w.what ∧ elapsed = clock.now s - clock.now start ∧ config.timeout ≤ elapsed ∧
      clock.now start + config.timeout ≤ clock.now s ∧
      ∃ before last, ns = before ++ last ∧ GoesOn last
  done : ∀ a, decided (.ok (.done a)) ∈ ns → ending = .done a
  rejected : ∀ e, decided (.error e) ∈ ns → ending = .rejected e
  wakes : ∀ now d, slept now d ∈ ns → now + d ≤ clock.now start + config.timeout

variable {config : PollConfig} {start s u : σ} {ns seen : List (Note β α ε)}
  {delay d : Duration} {ending : Ending α ε}

namespace Midway

theorem init (clock : Clock σ) (config : PollConfig) (start : σ) :
    Midway clock config start config.firstDelay start ([] : List (Note β α ε)) where
  delay := Nat.le_max_right _ _
  undecided _ h := absurd h List.not_mem_nil
  wakes _ _ h := absurd h List.not_mem_nil
  fetches_le := Nat.zero_le _
  paced _ := .inl (Nat.le_refl _)
  looked := .inl ⟨rfl, rfl⟩

theorem not_cancelled (h : Midway clock config start delay s ns)
    (hc : clock.isCancelled s = false) : clock.isCancelled start = false := by
  obtain ⟨-, h⟩ | ⟨-, h⟩ := h.looked
  · rw [← h, hc]
  · exact h

theorem wakes_append (h : Midway clock config start delay s ns)
    (hseen : ∀ now d, slept now d ∉ seen) (now d : Duration) (hd : slept now d ∈ ns ++ seen) :
    now + d ≤ clock.now start + config.timeout :=
  (List.mem_append.1 hd).elim (h.wakes now d) fun hd => absurd hd (hseen now d)

/-- A fetch that leaves time for a sleep comes after no more of them than fit in before the
deadline. -/
theorem fetches_lt (h : Midway clock config start delay s ns) (hc : clock.isCancelled s = false)
    (hs : clock.now s < clock.now start + config.timeout) :
    fetches ns < config.timeout ⌈/⌉ minPollInterval := by
  have hpos : 0 < minPollInterval := by decide
  by_contra hge
  have hle := (ceilDiv_le_iff_le_mul hpos).1 (Nat.le_of_not_lt hge)
  obtain hp | hp := h.paced hc
  · exact absurd (hs.trans_le (Nat.add_le_add_left hle _)) hp.not_gt
  · exact absurd hs hp.not_gt

/-- A step that sleeps keeps it. -/
theorem sleep (h : Midway clock config start delay s ns) (hw : w.Steady clock)
    (hc : clock.isCancelled s = false) (hg : GoesOn seen) (hn : clock.now s ≤ clock.now u)
    (hu : clock.now u < clock.now start + config.timeout)
    (hd : d = min delay (clock.now start + config.timeout - clock.now u)) :
    Midway clock config start (config.nextDelay Duration.scale delay) (clock.sleep d u)
      (ns ++ seen ++ [slept (clock.now u) d]) := by
  have hlt := h.fetches_lt hc (hn.trans_lt hu)
  have hfetches : fetches (ns ++ seen ++ [slept (clock.now u) d]) = fetches ns + 1 := by
    rw [fetches_append, fetches_append, hg.fetches]
    rfl
  refine ⟨Nat.le_max_right _ _, ?_, ?_, ?_, ?_, ?_⟩
  · exact (h.undecided.append hg.undecided).append fun verdict hv => by simp at hv
  · intro now d' hd'
    obtain hd' | hd' := List.mem_append.1 hd'
    · exact h.wakes_append hg.slept_notMem now d' hd'
    · cases List.mem_singleton.1 hd'
      rw [hd]
      calc clock.now u + min delay (clock.now start + config.timeout - clock.now u)
        _ ≤ clock.now u + (clock.now start + config.timeout - clock.now u) :=
          Nat.add_le_add_left (Nat.min_le_right _ _) _
        _ = clock.now start + config.timeout := Nat.add_sub_cancel' hu.le
  · rw [hfetches]
    exact hlt
  · intro hcu
    obtain hp | hp := h.paced hc
    · rw [hfetches, Nat.mul_add_one, ← Nat.add_assoc]
      obtain hle | hle := le_total delay (clock.now start + config.timeout - clock.now u)
      · rw [Nat.min_eq_left hle] at hd
        exact .inl (calc
          clock.now start + minPollInterval * fetches ns + minPollInterval
          _ ≤ clock.now u + d := Nat.add_le_add (hp.trans hn) (hd ▸ h.delay)
          _ ≤ clock.now (clock.sleep d u) := hw.sleep d u hcu)
      · rw [Nat.min_eq_right hle] at hd
        exact .inr (calc
          clock.now start + config.timeout
          _ = clock.now u + d := by rw [hd, Nat.add_sub_cancel' hu.le]
          _ ≤ clock.now (clock.sleep d u) := hw.sleep d u hcu)
    · exact absurd (hn.trans_lt hu) hp.not_gt
  · rw [hfetches]
    exact .inr ⟨Nat.succ_pos _, h.not_cancelled hc⟩

/-- A step that ends a wait ends it as it should. -/
theorem cancelled (h : Midway clock config start delay s ns) (hc : clock.isCancelled s = true) :
    Bounded w clock config start (.stopped (.cancelled w.what)) s ns where
  finished := by simp
  fetches_le := h.fetches_le.trans (Nat.le_succ _)
  fetches_eq_zero_iff := by
    obtain ⟨hz, hs⟩ | ⟨hz, hs⟩ := h.looked
    · rw [hz, ← hs, hc]
      simp
    · simp [hs, hz.ne']
  timeout _ _ he := by cases he
  done a ha := by cases h.undecided _ ha
  rejected e he := by cases h.undecided _ he
  wakes := h.wakes

theorem concluded (h : Midway clock config start delay s ns) (hc : clock.isCancelled s = false)
    (hs : Concludes seen ending) : Bounded w clock config start ending u (ns ++ seen) where
  finished := by cases hs <;> simp
  fetches_le := by
    rw [fetches_append, hs.fetches]
    exact Nat.succ_le_succ h.fetches_le
  fetches_eq_zero_iff := by
    rw [fetches_append, hs.fetches, h.not_cancelled hc]
    simp
  timeout _ _ he := by
    subst he
    cases hs
  done a ha := by
    obtain ha | ha := List.mem_append.1 ha
    · cases h.undecided _ ha
    · exact hs.done_of_mem ha
  rejected e he := by
    obtain he | he := List.mem_append.1 he
    · cases h.undecided _ he
    · exact hs.rejected_of_mem he
  wakes := h.wakes_append hs.slept_notMem

theorem late (h : Midway clock config start delay s ns) (hc : clock.isCancelled s = false)
    (hg : GoesOn seen) (hu : clock.now start + config.timeout ≤ clock.now u) :
    Bounded w clock config start (.stopped (.timeout w.what (clock.now u - clock.now start))) u
      (ns ++ seen) where
  finished := by simp
  fetches_le := by
    rw [fetches_append, hg.fetches]
    exact Nat.succ_le_succ h.fetches_le
  fetches_eq_zero_iff := by
    rw [fetches_append, hg.fetches, h.not_cancelled hc]
    simp
  timeout _ _ he := by
    cases he
    exact ⟨rfl, rfl, Nat.le_sub_of_add_le' hu, hu, ns, seen, rfl, hg⟩
  done a ha := by cases h.undecided.append hg.undecided _ ha
  rejected e he := by cases h.undecided.append hg.undecided _ he
  wakes := h.wakes_append hg.slept_notMem

end Midway

/-- There is fuel for as many fetches as fit in before the deadline, and for one more. -/
theorem loop_bounded (hw : w.Steady clock)
    (hdeadline : config.deadline (clock.now start) = some (clock.now start + config.timeout))
    (fuel failures : Nat) (h : Midway clock config start delay s ns)
    (hfuel : config.timeout ⌈/⌉ minPollInterval < fuel + fetches ns) :
    ∃ ending u notes,
      w.noted.loop Duration.scale clock.noted config (clock.now start) fuel delay failures (s, ns) =
        (ending, u, notes) ∧ Bounded w clock config start ending u notes := by
  induction fuel generalizing delay failures s ns with
  | zero => exact absurd h.fetches_le (Nat.not_le_of_lt (Nat.zero_add (fetches ns) ▸ hfuel))
  | succ fuel ih =>
    have hstep := step_noted hw config (clock.now start) delay failures s ns
    simp only [Watch.loop]
    generalize w.noted.step Duration.scale clock.noted config (clock.now start) delay failures
      (s, ns) = x at hstep ⊢
    cases hstep with
    | cancelled hc => exact ⟨_, _, _, rfl, h.cancelled hc⟩
    | ends hc hs hn => exact ⟨_, _, _, rfl, h.concluded hc hs⟩
    | late hc hg hn hp =>
      refine ⟨_, _, _, rfl, h.late hc hg ?_⟩
      simpa [PollConfig.pause, hdeadline] using hp
    | @sleeps seen u d n hc hg hn hp =>
      simp only [PollConfig.pause, hdeadline, Option.ite_none_left_eq_some, not_le,
        Option.some.injEq] at hp
      refine ih n (h.sleep hw hc hg hn hp.1 hp.2.symm) ?_
      rw [fetches_append, fetches_append, hg.fetches]
      simpa [fetches, isFetch, Nat.add_assoc, Nat.add_comm 1] using hfuel

theorem Bounded.fetches_of_timeout_eq_zero {notes : List (Note β α ε)}
    (h : Bounded w clock config start ending s notes) (hz : config.timeout = 0) :
    fetches notes = if clock.isCancelled start then 0 else 1 := by
  have hle : fetches notes ≤ 1 := by simpa [hz] using h.fetches_le
  split_ifs with hc
  · exact h.fetches_eq_zero_iff.2 hc
  · exact hle.antisymm (Nat.one_le_iff_ne_zero.2 fun h0 => hc (h.fetches_eq_zero_iff.1 h0))

/-- A wait with a deadline fetches a bounded number of times, whatever the answers and the decisions
on them are. -/
theorem run_bounded (hw : w.Steady clock) (config : PollConfig) (s : σ)
    (hdeadline : config.deadline (clock.now s) ≠ none) (fuel : Nat)
    (hfuel : config.timeout ⌈/⌉ minPollInterval < fuel) :
    ∃ ending u notes, w.noted.run clock.noted config fuel (s, []) = (ending, u, notes) ∧
      w.run clock config fuel s = (ending, u) ∧ Bounded w clock config s ending u notes ∧
      (config.timeout = 0 → fetches notes = if clock.isCancelled s then 0 else 1) := by
  have hsome : config.deadline (clock.now s) = some (clock.now s + config.timeout) := by
    unfold PollConfig.deadline at hdeadline ⊢
    exact if_pos (of_not_not fun h => hdeadline (if_neg h))
  obtain ⟨ending, u, notes, hrun, hb⟩ :=
    loop_bounded hw hsome fuel 0 (.init clock config s) hfuel
  change w.noted.run clock.noted config fuel (s, []) = _ at hrun
  refine ⟨ending, u, notes, hrun, ?_, hb, hb.fetches_of_timeout_eq_zero⟩
  rw [run_eq_noted w clock config fuel s [], hrun]

end Watch

/-- A clock that only sleeps move. -/
def Clock.ideal : Clock Duration where
  now := id
  sleep d s := s + d
  isCancelled _ := false

/-- A wait for what never comes. -/
def Watch.idle : Watch Duration Unit Unit Unit where
  what := "nothing"
  fetch s := (.ok (), s)
  decide _ s := (.ok .again, s)

/-- The bound is attained. -/
theorem Watch.run_bounded_idle :
    ∃ notes, Watch.idle.Steady Clock.ideal ∧
      (PollConfig.fixed (.ofMilliseconds 250) 0).deadline (0 : Duration) ≠ none ∧
      Duration.ofMilliseconds 250 ⌈/⌉ minPollInterval < 4 ∧
      Watch.idle.run Clock.ideal (.fixed (.ofMilliseconds 250) 0) 4 (0 : Duration) =
        (.stopped (.timeout "nothing" (.ofMilliseconds 250)), .ofMilliseconds 250) ∧
      Bounded Watch.idle Clock.ideal (.fixed (.ofMilliseconds 250) 0) (0 : Duration)
        (.stopped (.timeout "nothing" (.ofMilliseconds 250))) (.ofMilliseconds 250) notes ∧
      fetches notes = 4 := by
  have hsteady : Watch.idle.Steady Clock.ideal :=
    ⟨fun _ => Nat.le_refl _, fun _ _ => Nat.le_refl _, fun _ _ _ => Nat.le_refl _⟩
  have hfuel : Duration.ofMilliseconds 250 ⌈/⌉ minPollInterval < 4 := by decide +kernel
  have hdeadline : (PollConfig.fixed (.ofMilliseconds 250) 0).deadline (0 : Duration) ≠ none := by
    decide +kernel
  have hrun : Watch.idle.run Clock.ideal (.fixed (.ofMilliseconds 250) 0) 4 (0 : Duration) =
      (.stopped (.timeout "nothing" (.ofMilliseconds 250)), .ofMilliseconds 250) := by
    decide +kernel
  have hfetches : fetches (Watch.idle.noted.run Clock.ideal.noted
      (.fixed (.ofMilliseconds 250) 0) 4 ((0 : Duration), [])).2.2 = 4 := by
    decide +kernel
  obtain ⟨ending, u, notes, hnoted, hplain, hb, -⟩ :=
    Watch.run_bounded hsteady (.fixed (.ofMilliseconds 250) 0) (0 : Duration) hdeadline 4 hfuel
  obtain ⟨rfl, rfl⟩ := Prod.mk.inj (hplain.symm.trans hrun)
  rw [hnoted] at hfetches
  exact ⟨notes, hsteady, hdeadline, hfuel, hrun, hb, hfetches⟩

end ClusterReconciliation
