import ClusterReconciliation.Proofs.Steps
import ClusterReconciliation.Simulation
import ClusterReconciliation.Simulation.Scene

/-! Reconciliations against a simulated control plane, seen from one cluster. With nothing queued
and nothing happening besides, a run only ever moves that cluster, and what its next call does
depends on a view of it. -/
namespace ClusterReconciliation
open Run

/-- The reconciler whose calls a simulation answers, on a clock of its own. -/
def Reconciler.simulated (options : Options) (fuel : Nat) : Reconciler (Scene Simulation) :=
  ⟨Scene.world Simulation.answer, options, fuel⟩

@[simp] theorem Reconciler.simulated_options (options : Options) (fuel : Nat) :
    (simulated options fuel).options = options := rfl

@[simp] theorem Reconciler.simulated_fuel (options : Options) (fuel : Nat) :
    (simulated options fuel).fuel = fuel := rfl

theorem Reconciler.perform_scene {τ : Type}
    (answer : (c : Call) → τ → Except ClientError c.Reply × τ) (options : Options) (fuel : Nat)
    (c : Call) (s : Session (Scene τ)) :
    Reconciler.perform ⟨Scene.world answer, options, fuel⟩ c s =
      ((answer c s.world.state).1,
        { s with
          world := { s.world with state := (answer c s.world.state).2 }
          history := ⟨s.world, c, (answer c s.world.state).1⟩ :: s.history }) := rfl

theorem Reconciler.simulated_perform (options : Options) (fuel : Nat) (c : Call)
    (s : Session (Scene Simulation)) :
    (simulated options fuel).perform c s =
      ((s.world.state.answer c).1,
        { s with
          world := { s.world with state := (s.world.state.answer c).2 }
          history := ⟨s.world, c, (s.world.state.answer c).1⟩ :: s.history }) :=
  perform_scene Simulation.answer options fuel c s

theorem Reconciler.simulated_sleep (options : Options) (fuel : Nat) (d : Duration)
    (s : Session (Scene Simulation)) :
    (simulated options fuel).clock.sleep d s = { s with world := s.world.sleep d } := rfl

/-- A small cluster with one library. -/
def sample : Desired where
  cluster := { name := "n", sparkVersion := "7", nodeType := some "m", sizing := .fixed 1 }
  libraries := [.jar "a.jar"]

/-- That cluster in a phase, without the library. -/
def sampleWorld (phase : Phase) : Scene Simulation where
  state := ({} : Simulation).insert
    (SimulatedCluster.reshape { id := "c", phase := phase } sample.cluster) []

/-- The calls about a cluster other than those that end it. -/
def Call.Concerns (id : String) : Call → Prop
  | .createCluster _ => False
  | .deleteCluster _ => False
  | .permanentDeleteCluster _ => False
  | c => c.id = id

/-- The part of a simulation that matters to one cluster. -/
structure View where
  polls : Nat
  /-- How many more submissions of each library fail. -/
  failing : Library → Nat
  cluster : SimulatedCluster

namespace SimulatedCluster

def observeLibraries (c : SimulatedCluster) : SimulatedCluster :=
  { c with libraries := c.libraries.map (·.observe) }

def edit (c : SimulatedCluster) (spec : Cluster.Spec) (polls : Nat) : SimulatedCluster :=
  { c with info := reshape c.info spec }.depart .pending .running polls

def statuses (c : SimulatedCluster) : List LibraryStatus := c.libraries.map (·.reported)

end SimulatedCluster

namespace View

def withCluster (v : View) (c : SimulatedCluster) : View := { v with cluster := c }

/-- A change of a cluster that must be in the given phase. -/
def change (v : View) (phase : Phase) (f : SimulatedCluster → SimulatedCluster) : View :=
  if v.cluster.info.phase = phase then v.withCluster (f v.cluster) else v

/-- One submission, which fails if it is to fail. -/
def submit (v : View) (l : Library) : View where
  polls := v.polls
  failing := Function.update v.failing l (v.failing l - 1)
  cluster := v.cluster.submit l (if v.failing l = 0 then .installed else .failed) v.polls

def submitAll (v : View) (ls : List Library) : View := ls.foldl submit v

def next (v : View) : Call → View
  | .getCluster _ => v.withCluster v.cluster.observe
  | .startCluster _ => v.change .terminated (·.depart .pending .running v.polls)
  | .editCluster _ spec => v.change .running (·.edit spec v.polls)
  | .libraryStatuses _ => v.withCluster v.cluster.observeLibraries
  | .installLibraries _ ls => if v.cluster.info.phase = .running then v.submitAll ls else v
  | .uninstallLibraries _ ls => v.change .running (·.remove ls)
  | _ => v

theorem change_of_phase {v : View} {phase : Phase} (h : v.cluster.info.phase = phase)
    (f : SimulatedCluster → SimulatedCluster) :
    v.change phase f = v.withCluster (f v.cluster) := if_pos h

end View

namespace Simulation
variable {s : Simulation} {id : String} {v : View}

/-- No failure is queued, nor anything else that would come before one. -/
def Clear (s : Simulation) : Prop := ∀ m, (s.queued.get? m).getD [] = []

/-- Nothing is queued, and the cluster of an id is seen as it is. -/
structure Shows (s : Simulation) (id : String) (v : View) : Prop where
  clear : s.Clear
  polls : s.transitionPolls = v.polls
  failing : s.failuresLeft = v.failing
  cluster : s.clusters.get? id = some v.cluster

theorem Shows.put (h : s.Shows id v) (c : SimulatedCluster) :
    (s.put id c).Shows id (v.withCluster c) :=
  ⟨h.clear, h.polls, h.failing, s.clusters.get?_insert_self id c⟩

theorem failuresLeft_failInstall (s : Simulation) (l : Library) (n : Nat) :
    (s.failInstall l n).failuresLeft = Function.update s.failuresLeft l n := by
  funext k
  by_cases h : k = l
  · simp [failuresLeft, failInstall, h]
  · simp [failuresLeft, failInstall, List.lookup_cons, h, beq_eq_false_iff_ne.2 h]

theorem nextGoal_eq (s : Simulation) (l : Library) :
    (s.nextGoal l).1 = (if s.failuresLeft l = 0 then .installed else .failed) ∧
      (s.nextGoal l).2.failuresLeft =
        Function.update s.failuresLeft l (s.failuresLeft l - 1) ∧
      (s.nextGoal l).2.transitionPolls = s.transitionPolls ∧
      (s.nextGoal l).2.clusters = s.clusters ∧ (s.nextGoal l).2.queued = s.queued := by
  unfold nextGoal
  cases h : s.failuresLeft l with
  | zero =>
    have hz : Function.update s.failuresLeft l 0 = s.failuresLeft := by
      rw [← h, Function.update_eq_self]
    exact ⟨rfl, hz.symm, rfl, rfl, rfl⟩
  | succ n => exact ⟨rfl, failuresLeft_failInstall s l n, rfl, rfl, rfl⟩

theorem Shows.submit (h : s.Shows id v) (l : Library) :
    (s.submit id v.cluster l).1 = (v.submit l).cluster ∧
      (s.submit id v.cluster l).2.Shows id (v.submit l) := by
  obtain ⟨hg, hf, hp, hc, hq⟩ := s.nextGoal_eq l
  rw [h.failing] at hg hf
  rw [h.polls] at hp
  have hcl : (s.submit id v.cluster l).1 = (v.submit l).cluster := by
    simp only [Simulation.submit, View.submit, hg, hp]
  refine ⟨hcl, ⟨?_, hp, hf, ?_⟩⟩
  · intro m
    change ((s.nextGoal l).2.queued.get? m).getD [] = []
    rw [hq]
    exact h.clear m
  · rw [← hcl]
    exact (s.nextGoal l).2.clusters.get?_insert_self id _

theorem Shows.submitAll (h : s.Shows id v) (ls : List Library) :
    (Simulation.submitAll id ls (v.cluster, s)).Shows id (v.submitAll ls) := by
  induction ls generalizing s v with
  | nil => exact h
  | cons l ls ih =>
    obtain ⟨hc, hs⟩ := h.submit l
    have hn := ih hs
    rw [← hc] at hn
    exact hn

theorem answer_of_clear (h : s.Clear) (c : Call) :
    s.answer c = { s with calls := s.calls ++ [c] }.serve c := by
  have hc := h c.method
  unfold answer enter
  cases hq : s.queued.get? c.method with
  | none => simp [hq]
  | some results =>
    obtain rfl : results = [] := by simpa [hq] using hc
    simp [hq]

theorem Shows.change (h : s.Shows id v) (phase : Phase) (operation : String)
    (f : SimulatedCluster → SimulatedCluster) :
    (s.change id phase operation f).2.Shows id (v.change phase f) ∧
      (v.cluster.info.phase = phase → (s.change id phase operation f).1 = .ok ()) := by
  unfold Simulation.change View.change
  rw [h.cluster]
  by_cases hp : v.cluster.info.phase = phase
  · simp only [hp, if_true]
    exact ⟨h.put _, fun _ => trivial⟩
  · simp only [hp, if_false]
    exact ⟨h, fun hx => hx.elim⟩

theorem Shows.look {α : Type} (h : s.Shows id v) (f : SimulatedCluster → α)
    (after : SimulatedCluster → SimulatedCluster) :
    (s.look id f after).2.Shows id (v.withCluster (after v.cluster)) ∧
      (s.look id f after).1 = .ok (f v.cluster) := by
  unfold Simulation.look
  rw [h.cluster]
  exact ⟨h.put _, rfl⟩

theorem Shows.enter (h : s.Shows id v) (c : Call) :
    { s with calls := s.calls ++ [c] }.Shows id v := ⟨h.clear, h.polls, h.failing, h.cluster⟩

theorem Shows.install (h : s.Shows id v) (ls : List Library) :
    (s.install id ls).2.Shows id (v.next (.installLibraries id ls)) ∧
      (v.cluster.info.phase = .running → (s.install id ls).1 = .ok ()) := by
  unfold Simulation.install View.next
  rw [h.cluster]
  by_cases hp : v.cluster.info.phase = .running
  · simp only [hp, if_true]
    exact ⟨h.submitAll ls, fun _ => trivial⟩
  · simp only [hp, if_false]
    exact ⟨h, fun hx => hx.elim⟩

theorem Shows.serve (h : s.Shows id v) {c : Call} (hc : c.Concerns id) :
    (s.serve c).2.Shows id (v.next c) := by
  cases c with
  | getCluster i =>
    obtain rfl : i = id := hc
    exact (h.look (·.info) (·.observe)).1
  | startCluster i =>
    obtain rfl : i = id := hc
    have hs := (h.change .terminated "start" (·.depart .pending .running s.transitionPolls)).1
    simp only [h.polls] at hs
    simpa only [Simulation.serve, View.next, h.polls] using hs
  | editCluster i t =>
    obtain rfl : i = id := hc
    have hs := (h.change .running "edit" (·.edit t s.transitionPolls)).1
    simp only [h.polls] at hs
    simpa only [Simulation.serve, View.next, h.polls, SimulatedCluster.edit] using hs
  | libraryStatuses i =>
    obtain rfl : i = id := hc
    exact (h.look (·.statuses) (·.observeLibraries)).1
  | installLibraries i ls =>
    obtain rfl : i = id := hc
    exact (h.install ls).1
  | uninstallLibraries i ls =>
    obtain rfl : i = id := hc
    exact (h.change .running "library uninstall" (·.remove ls)).1
  | createCluster _ => exact hc.elim
  | deleteCluster _ => exact hc.elim
  | permanentDeleteCluster _ => exact hc.elim

/-- A simulation answers the calls about a cluster as the view of the cluster says. -/
theorem Shows.answer (h : s.Shows id v) {c : Call} (hc : c.Concerns id) :
    (s.answer c).2.Shows id (v.next c) := by
  rw [answer_of_clear h.clear]
  exact (h.enter c).serve hc

theorem Shows.answer_getCluster (h : s.Shows id v) :
    (s.answer (.getCluster id)).1 = .ok v.cluster.info := by
  rw [answer_of_clear h.clear]
  exact ((h.enter _).look (·.info) (·.observe)).2

theorem Shows.answer_libraryStatuses (h : s.Shows id v) :
    (s.answer (.libraryStatuses id)).1 = .ok v.cluster.statuses := by
  rw [answer_of_clear h.clear]
  exact ((h.enter _).look (·.statuses) (·.observeLibraries)).2

theorem Shows.answer_startCluster (h : s.Shows id v) (hp : v.cluster.info.phase = .terminated) :
    (s.answer (.startCluster id)).1 = .ok () := by
  rw [answer_of_clear h.clear]
  exact ((h.enter _).change .terminated "start" _).2 hp

theorem Shows.answer_editCluster (h : s.Shows id v) (hp : v.cluster.info.phase = .running)
    (spec : Cluster.Spec) : (s.answer (.editCluster id spec)).1 = .ok () := by
  rw [answer_of_clear h.clear]
  exact ((h.enter _).change .running "edit" _).2 hp

theorem Shows.answer_installLibraries (h : s.Shows id v)
    (hp : v.cluster.info.phase = .running) (ls : List Library) :
    (s.answer (.installLibraries id ls)).1 = .ok () := by
  rw [answer_of_clear h.clear]
  exact ((h.enter _).install ls).2 hp

theorem Shows.answer_uninstallLibraries (h : s.Shows id v)
    (hp : v.cluster.info.phase = .running) (ls : List Library) :
    (s.answer (.uninstallLibraries id ls)).1 = .ok () := by
  rw [answer_of_clear h.clear]
  exact ((h.enter _).change .running "library uninstall" _).2 hp

end Simulation

/-- Nobody cancels, and nothing happens besides. -/
structure Scene.Still {τ : Type} (w : Scene τ) : Prop where
  cancelled : w.cancelled = false
  cancelAt : w.cancelAt = none
  schedule : w.schedule = []

theorem Scene.Still.sleep_eq {τ : Type} {w : Scene τ} (h : w.Still) (d : Duration) :
    w.sleep d = { w with now := w.endOfSleep d } := by
  obtain ⟨hc, ha, hs⟩ := h
  simp [Scene.sleep, Scene.pass, Scene.moveTo, Scene.isDue, hc, ha, hs]

/-- A session in a still world, in which one cluster is seen as it is. -/
structure Session.Shows (s : Session (Scene Simulation)) (id : String) (v : View) : Prop where
  still : s.world.Still
  state : s.world.state.Shows id v

namespace Session.Shows
variable (options : Options) (fuel : Nat) {s : Session (Scene Simulation)} {id : String} {v : View}

theorem isCancelled (h : s.Shows id v) :
    (Reconciler.simulated options fuel).world.isCancelled s.world = false := h.still.cancelled

/-- What the clock says is of no consequence. -/
theorem atTime (h : s.Shows id v) (now : Duration) :
    Session.Shows { s with world := { s.world with now := now } } id v :=
  ⟨⟨h.still.cancelled, h.still.cancelAt, h.still.schedule⟩, h.state⟩

theorem sleep (h : s.Shows id v) (d : Duration) :
    ((Reconciler.simulated options fuel).clock.sleep d s).Shows id v := by
  rw [Reconciler.simulated_sleep, h.still.sleep_eq]
  exact h.atTime _

theorem perform (h : s.Shows id v) {c : Call} (hc : c.Concerns id) :
    ((Reconciler.simulated options fuel).perform c s).2.Shows id (v.next c) := by
  rw [Reconciler.simulated_perform]
  exact ⟨⟨h.still.cancelled, h.still.cancelAt, h.still.schedule⟩, h.state.answer hc⟩

theorem getCluster (h : s.Shows id v) :
    ((Reconciler.simulated options fuel).perform (.getCluster id) s).1 = .ok v.cluster.info := by
  rw [Reconciler.simulated_perform]
  exact h.state.answer_getCluster

theorem libraryStatuses (h : s.Shows id v) :
    ((Reconciler.simulated options fuel).perform (.libraryStatuses id) s).1 =
      .ok v.cluster.statuses := by
  rw [Reconciler.simulated_perform]
  exact h.state.answer_libraryStatuses

theorem lookAtCluster (h : s.Shows id v) :
    ((Reconciler.simulated options fuel).lookAtCluster id s).Shows id
      (v.withCluster v.cluster.observe) := by
  have hp := h.perform options fuel (c := .getCluster id) rfl
  rw [Reconciler.lookAtCluster, h.getCluster]
  exact ⟨hp.still, hp.state⟩

theorem lookAtLibraries (h : s.Shows id v) :
    ((Reconciler.simulated options fuel).lookAtLibraries id s).Shows id
      (v.withCluster v.cluster.observeLibraries) := by
  have hp := h.perform options fuel (c := .libraryStatuses id) rfl
  rw [Reconciler.lookAtLibraries, h.libraryStatuses]
  exact ⟨hp.still, hp.state⟩

end Session.Shows

end ClusterReconciliation
