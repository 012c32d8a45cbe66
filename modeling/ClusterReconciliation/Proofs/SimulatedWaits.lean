import ClusterReconciliation.Proofs.Arrivals
import ClusterReconciliation.Proofs.SimulatedRounds

/-! Waits that end well. Where every look brings a simulation nearer to rest, a wait only needs the
time and the fuel for as many looks as a transition is seen in. -/
namespace ClusterReconciliation
open Run
variable {options : Options} {fuel : Nat} {s t : Session (Scene Simulation)} {id : String}
  {v w : View}

namespace PollConfig

/-- From an instant and a delay on there is time for so many more fetches. -/
def lasts (c : PollConfig) (started : Duration) : Nat → Duration → Duration → Prop
  | 0, _, _ => True
  | n + 1, delay, now => ∃ d, c.pause started now delay = some d ∧
    c.lasts started n (c.nextDelay Duration.scale delay)
      (.ofMilliseconds (Duration.ceilMilliseconds (now + d)))

/-- Every wait has time for so many fetches after its first one. -/
def Allows (c : PollConfig) (n : Nat) : Prop := ∀ started, c.lasts started n c.firstDelay started

theorem allows_one {c : PollConfig} (h : 0 < c.timeout) : c.Allows 1 := by
  intro started
  have hp : ∃ d, c.pause started started c.firstDelay = some d := by
    simp only [pause, deadline]
    split_ifs
    · exact ⟨_, if_neg (Nat.not_le.2 (Nat.lt_add_of_pos_right h))⟩
    · exact ⟨_, rfl⟩
  obtain ⟨d, hd⟩ := hp
  exact ⟨d, hd, trivial⟩

end PollConfig

namespace Watch
variable {α β ε : Type} {w : Watch (Session (Scene Simulation)) β α ε}
  {J : Nat → Session (Scene Simulation) → Prop}

/-- As long as the wait goes on, every look at a still world brings its end nearer. -/
structure Nears (w : Watch (Session (Scene Simulation)) β α ε)
    (J : Nat → Session (Scene Simulation) → Prop) : Prop where
  still : ∀ m s, J m s → s.world.Still
  sleep : ∀ m s now, J m s → J m { s with world := { s.world with now := now } }
  fetch : ∀ m s, J m s → ∃ b, (w.fetch s).1 = .ok b
  now : ∀ m s, J m s → (w.look s).2.world.now = s.world.now
  look : ∀ m s, J m s → (∃ v, (w.look s).1 = .ok (.done v)) ∨
    ∃ k, m = k + 1 ∧ (w.look s).1 = .ok .again ∧ J k (w.look s).2

theorem Nears.step_eq (h : w.Nears J) {m n : Nat} (hs : J m s) (hmn : m ≤ n)
    {config : PollConfig} {started delay : Duration}
    (ht : config.lasts started n delay s.world.now) (failures : Nat) :
    (∃ v t, w.step Duration.scale (Reconciler.simulated options fuel).clock config started delay
      failures s = (.inl (.done v), t)) ∨
    ∃ k l t, m = k + 1 ∧ n = l + 1 ∧ J k t ∧
      config.lasts started l (config.nextDelay Duration.scale delay) t.world.now ∧
      w.step Duration.scale (Reconciler.simulated options fuel).clock config started delay
        failures s = (.inr (config.nextDelay Duration.scale delay, 0), t) := by
  have hc : (Reconciler.simulated options fuel).clock.isCancelled s = false := (h.still m s hs).cancelled
  obtain ⟨b, hb⟩ := h.fetch m s hs
  have hnow := h.now m s hs
  have hw : w.weigh config.maxTransientErrors failures (w.fetch s).1 (w.fetch s).2 =
      w.judge (w.fetch s).1 (w.fetch s).2 := by rw [hb]; rfl
  rcases h.look m s hs with ⟨v, hd⟩ | ⟨k, rfl, ha, hk⟩
  · have hj : w.judge (w.fetch s).1 (w.fetch s).2 = (.inl (.done v), (w.look s).2) := by
      rw [judge_eq, ← Prod.mk.eta (p := w.look s), hd]
    refine .inl ⟨v, (w.look s).2, ?_⟩
    simp only [step, hc, Bool.false_eq_true, if_false, hw, hj]
  · have hj : w.judge (w.fetch s).1 (w.fetch s).2 = (.inr 0, (w.look s).2) := by
      rw [judge_eq, ← Prod.mk.eta (p := w.look s), ha]
    obtain ⟨l, rfl⟩ := Nat.exists_eq_succ_of_ne_zero (by omega : n ≠ 0)
    obtain ⟨d, hp, hl⟩ := ht
    have hp' : config.pause started ((Reconciler.simulated options fuel).clock.now (w.look s).2) delay =
        some d := by
      rw [← hp]
      exact congrArg (config.pause started · delay) hnow
    refine .inr ⟨k, l, (Reconciler.simulated options fuel).clock.sleep d (w.look s).2, rfl, rfl, ?_, ?_, ?_⟩
    · rw [Reconciler.simulated_sleep, (h.still k _ hk).sleep_eq]
      exact h.sleep k _ _ hk
    · rw [Reconciler.simulated_sleep, (h.still k _ hk).sleep_eq]
      dsimp only
      rw [Scene.endOfSleep, hnow]
      exact hl
    · simp only [step, hc, Bool.false_eq_true, if_false, hw, hj, hp']

/-- A wait that comes nearer to its end with every look ends well, if there is time for the looks. -/
theorem Nears.loop_done (h : w.Nears J) {m n : Nat} (hs : J m s) (hmn : m ≤ n)
    {config : PollConfig} {started delay : Duration}
    (ht : config.lasts started n delay s.world.now) {looks : Nat} (hf : m < looks)
    (failures : Nat) :
    ∃ v t, w.loop Duration.scale (Reconciler.simulated options fuel).clock config started looks delay
      failures s = (.done v, t) := by
  -- A look that does not end the wait takes one from `m`, which stays below the looks that are left.
  induction looks generalizing m n delay failures s with
  | zero => omega
  | succ looks ih =>
    rw [loop]
    rcases h.step_eq hs hmn ht failures with ⟨v, t, hd⟩ | ⟨k, l, t, rfl, rfl, hk, hl, hd⟩
    · rw [hd]
      exact ⟨v, t, rfl⟩
    · rw [hd]
      exact ih hk (by omega) hl (by omega) 0

theorem Nears.run_done (h : w.Nears J) {n : Nat} (hs : J n s)
    (ht : options.poll.Allows n) (hf : n < fuel) :
    ∃ v t, w.run (Reconciler.simulated options fuel).clock options.poll fuel s = (.done v, t) :=
  h.loop_done hs (Nat.le_refl n) (ht s.world.now) hf 0

theorem Nears.await_ok {w : Watch (Session (Scene Simulation)) β α ReconcileError} (h : w.Nears J)
    {n : Nat} (hs : J n s) (ht : options.poll.Allows n) (hf : n < fuel) (stage : Stage) :
    ∃ v t, exec ((Reconciler.simulated options fuel).await stage w) s = (.ok v, t) := by
  obtain ⟨v, t, hr⟩ := h.run_done hs ht hf
  refine ⟨v, t, ?_⟩
  rw [Reconciler.exec_await, Reconciler.simulated_options, Reconciler.simulated_fuel, hr]

end Watch

/-- The cluster runs, or is seen on its way for so many observations at most. -/
structure View.Arrives (v : View) (m : Nat) : Prop where
  goal : v.cluster.goal = .running
  phase : v.cluster.info.phase = .running ∨ v.cluster.info.phase = .pending ∧ v.cluster.pollsLeft < m

namespace Reconciler

theorem nears_running (id : String) :
    ((simulated options fuel).watchCluster id ("cluster " ++ id ++ " to be running")
      (judgeRunning id)).Nears fun m s => ∃ v, s.Shows id v ∧ v.Arrives m where
  still m s := fun ⟨v, hv, _⟩ => hv.still
  sleep m s now := fun ⟨v, hv, ha⟩ => ⟨v, hv.atTime now, ha⟩
  fetch m s := fun ⟨v, hv, _⟩ => ⟨_, hv.getCluster options fuel⟩
  now m s := fun ⟨v, hv, _⟩ => by
    change ((simulated options fuel).lookAtCluster id s).world.now = s.world.now
    rw [lookAtCluster_world]
    rfl
  look m s := by
    rintro ⟨v, hv, hgoal, hp⟩
    have hj : ((simulated options fuel).watchCluster id ("cluster " ++ id ++ " to be running")
        (judgeRunning id)).look s = (judgeRunning id (.ok v.cluster.info),
          (simulated options fuel).lookAtCluster id s) := by
      rw [← hv.getCluster options fuel]
      rfl
    rw [hj]
    rcases hp with hp | ⟨hp, hm⟩
    · refine .inl ⟨v.cluster.info, ?_⟩
      simp [judgeRunning, hp]
    · obtain ⟨k, rfl⟩ := Nat.exists_eq_succ_of_ne_zero (by omega : m ≠ 0)
      refine .inr ⟨k, rfl, by simp [judgeRunning, hp], _, hv.lookAtCluster options fuel, ?_⟩
      have hne : ¬v.cluster.info.phase = v.cluster.goal := by simp [hp, hgoal]
      unfold SimulatedCluster.observe
      rw [if_neg hne]
      split_ifs with hz
      · exact ⟨hgoal, .inl hgoal⟩
      · exact ⟨hgoal, .inr ⟨hp, by simp only [View.withCluster]; omega⟩⟩

theorem waitRunning_ok {n : Nat} (hs : s.Shows id v) (ha : v.Arrives n)
    (ht : options.poll.Allows n) (hf : n < fuel) (stage : Stage) :
    ∃ info t, exec ((simulated options fuel).waitRunning stage id) s = (.ok info, t) :=
  (nears_running id).await_ok ⟨v, hs, ha⟩ ht hf stage

/-- The libraries are at rest after so many observations at most, and then the wait is over. -/
theorem nears_libraries (id : String) (desired submitted removing : List Library) :
    ((simulated options fuel).watchLibraries id desired submitted removing).Nears fun m s =>
      ∃ v, s.Shows id v ∧ (∀ l ∈ v.cluster.libraries, l.remaining ≤ m) ∧
        isSettled desired submitted removing v.cluster.finals = true where
  still m s := fun ⟨v, hv, _⟩ => hv.still
  sleep m s now := fun ⟨v, hv, ha⟩ => ⟨v, hv.atTime now, ha⟩
  fetch m s := fun ⟨v, hv, _⟩ => ⟨_, hv.libraryStatuses options fuel⟩
  now m s := fun ⟨v, hv, _⟩ => by
    change ((simulated options fuel).lookAtLibraries id s).world.now = s.world.now
    rw [lookAtLibraries_world]
    rfl
  look m s := by
    rintro ⟨v, hv, hm, hset⟩
    have hj : ((simulated options fuel).watchLibraries id desired submitted removing).look s =
        (judgeLibraries desired submitted removing (.ok v.cluster.statuses),
          (simulated options fuel).lookAtLibraries id s) := by
      rw [← hv.libraryStatuses options fuel]
      rfl
    rw [hj]
    by_cases hdone : isSettled desired submitted removing v.cluster.statuses = true
    · refine .inl ⟨v.cluster.statuses, ?_⟩
      simp [judgeLibraries, hdone]
    · have hmoves : ∃ l ∈ v.cluster.libraries, ¬l.IsAtRest := by
        by_contra hn
        rw [SimulatedCluster.finals_eq (by simpa using hn), isSettled_bare] at hset
        exact hdone hset
      obtain ⟨l, hl, hn⟩ := hmoves
      have hpos : l.remaining ≠ 0 := fun hz => hn (SimulatedLibrary.remaining_eq_zero.1 hz)
      have hle := hm l hl
      obtain ⟨k, rfl⟩ := Nat.exists_eq_succ_of_ne_zero (by omega : m ≠ 0)
      refine .inr ⟨k, rfl, by simp [judgeLibraries, hdone], _, hv.lookAtLibraries options fuel, ?_,
        ?_⟩
      · intro x hx
        obtain ⟨y, hy, rfl⟩ := List.mem_map.1 hx
        rw [y.remaining_observe]
        exact Nat.sub_le_of_le_add (hm y hy)
      · simpa [View.withCluster] using hset

theorem endRound_ok {n : Nat} {desired : List Library} {p : Progress} {d : LibraryDiff}
    (hs : s.Shows id v) (hm : ∀ l ∈ v.cluster.libraries, l.remaining ≤ n)
    (hset : isSettled desired d.install p.removing v.cluster.finals = true)
    (ht : options.poll.Allows n) (hf : n < fuel) :
    ∃ q t, exec ((simulated options fuel).endRound id desired p d) s = (.ok q, t) := by
  obtain ⟨o, t, ho⟩ :=
    (nears_libraries id desired d.install p.removing).await_ok ⟨v, hs, hm, hset⟩ ht hf d.stage
  exact ⟨_, t, exec_bind_of_ok ho⟩

end Reconciler
end ClusterReconciliation
