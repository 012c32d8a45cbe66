import ClusterReconciliation.Proofs.Soundness
import ClusterReconciliation.Proofs.Transitions

/-! What runs against a simulation leave of the view of their cluster. A wait moves the cluster
through its transition and nothing else, and what a run notes of a settled cluster is how it is. -/
namespace ClusterReconciliation
open Run
variable {options : Options} {fuel : Nat} {s t : Session (Scene Simulation)} {id : String}
  {v w : View}

/-- A settled cluster stays as it is. -/
theorem SimulatedCluster.Sound.settled {c : SimulatedCluster} (h : c.Sound id)
    (hp : c.info.phase.isSettling = false) : c.goal = c.info.phase ∧ c.observe = c := by
  have hg := h.goal_eq (Bool.or_eq_false_iff.1 hp).1
  exact ⟨hg, if_pos hg.symm⟩

/-- Two views that differ at most in how far the cluster has got with its transition. -/
structure View.Like (v w : View) : Prop where
  polls : w.polls = v.polls
  failing : w.failing = v.failing
  info : w.cluster.info = { v.cluster.info with phase := w.cluster.info.phase }
  libraries : w.cluster.libraries = v.cluster.libraries

namespace View.Like

theorem refl (v : View) : v.Like v := ⟨rfl, rfl, rfl, rfl⟩

theorem trans {u : View} (h : u.Like v) (h' : v.Like w) : u.Like w where
  polls := h'.polls.trans h.polls
  failing := h'.failing.trans h.failing
  info := by rw [h'.info, h.info]
  libraries := h'.libraries.trans h.libraries

theorem observe (v : View) : v.Like (v.withCluster v.cluster.observe) := by
  unfold SimulatedCluster.observe
  split_ifs <;> exact ⟨rfl, rfl, rfl, rfl⟩

theorem start (v : View) : v.Like (v.next (.startCluster id)) := by
  unfold View.next View.change
  split_ifs <;> exact ⟨rfl, rfl, rfl, rfl⟩

theorem statuses (h : v.Like w) : w.cluster.statuses = v.cluster.statuses := by
  rw [SimulatedCluster.statuses, h.libraries, SimulatedCluster.statuses]

theorem shapeDiff (h : v.Like w) (spec : Cluster.Spec) :
    spec.shapeDiff w.cluster.info = spec.shapeDiff v.cluster.info := by
  rw [h.info]
  rfl

end View.Like

/-- The cluster is seen as it was noted, and it stays so. -/
structure Session.Notes (s : Session (Scene Simulation)) (id : String) (v : View) : Prop where
  shows : s.Shows id v
  sound : v.cluster.Sound id
  cluster : s.cluster = some v.cluster.info
  goal : v.cluster.goal = v.cluster.info.phase

/-- The libraries were noted just before their last observation moved them on. -/
structure Session.Fresh (s : Session (Scene Simulation)) (id : String) (v : View) : Prop where
  shows : s.Shows id (v.withCluster v.cluster.observeLibraries)
  sound : v.cluster.Sound id
  libraries : s.libraries = v.cluster.statuses

/-- What the calls of a round make of the view of a running cluster. -/
def View.asked (v : View) (d : LibraryDiff) : View :=
  (v.withCluster (v.cluster.remove d.uninstall)).submitAll d.install

@[simp] theorem SimulatedCluster.remove_nil (c : SimulatedCluster) : c.remove [] = c := by
  simp [SimulatedCluster.remove]

def View.created (polls : Nat) (failing : Library → Nat) (id : String) (spec : Cluster.Spec) :
    View where
  polls := polls
  failing := failing
  cluster := ({ info := SimulatedCluster.reshape { id := id } spec, goal := .running } :
    SimulatedCluster).depart .pending .running polls

theorem View.created_sound (polls : Nat) (failing : Library → Nat) (spec : Cluster.Spec) :
    (View.created polls failing id spec).cluster.Sound id := by
  refine SimulatedCluster.sound_depart ?_ ?_ polls (.inl ⟨rfl, rfl⟩)
  · rfl
  · simp

namespace Reconciler

theorem launch_shows {spec : Cluster.Spec} (hw : s.world.Still) (hc : s.world.state.Clear)
    (h : exec ((simulated options fuel).launch spec) s = (.ok id, t)) :
    t.Shows id (.created s.world.state.transitionPolls s.world.state.failuresLeft id spec) ∧
      t.libraries = s.libraries ∧ t.actions = s.actions := by
  rw [exec_launch, simulated_perform, Simulation.answer_of_clear hc] at h
  have hcancel : (simulated options fuel).world.isCancelled s.world = false := hw.cancelled
  simp only [hcancel, Bool.false_eq_true, if_false] at h
  cases h
  exact ⟨⟨⟨hw.cancelled, hw.cancelAt, hw.schedule⟩,
    ⟨hc, rfl, rfl, Dict.get?_insert_self _ _ _⟩⟩, rfl, rfl⟩

theorem exec_fetchCluster_of_shows (hs : s.Shows id v) (stage : Stage) :
    exec ((simulated options fuel).fetchCluster stage id) s =
      (.ok v.cluster.info, (simulated options fuel).lookAtCluster id s) := by
  rw [exec_fetchCluster, hs.isCancelled options fuel, hs.getCluster options fuel]
  rfl

theorem exec_fetchLibraries_of_shows (hs : s.Shows id v) (stage : Stage) :
    exec ((simulated options fuel).fetchLibraries stage id) s =
      (.ok v.cluster.statuses, (simulated options fuel).lookAtLibraries id s) := by
  rw [exec_fetchLibraries, hs.isCancelled options fuel, hs.libraryStatuses options fuel]
  rfl

theorem watchesCluster_like (v : View) :
    (simulated options fuel).WatchesCluster id
      fun u => ∃ w, u.Shows id w ∧ w.cluster.Sound id ∧ v.Like w where
  sleep d _ := fun ⟨w, hw, hsound, hl⟩ => ⟨w, hw.sleep options fuel d, hsound, hl⟩
  look _ := fun ⟨w, hw, hsound, hl⟩ _ =>
    ⟨_, hw.lookAtCluster options fuel, hsound.observe, hl.trans (.observe w)⟩

theorem lookAtCluster_notes (hs : s.Shows id v) (hv : v.cluster.Sound id)
    (hp : v.cluster.info.phase.isSettling = false) :
    ((simulated options fuel).lookAtCluster id s).Notes id v := by
  obtain ⟨hg, ho⟩ := hv.settled hp
  have hl := hs.lookAtCluster options fuel
  rw [ho] at hl
  exact ⟨hl, hv, lookAtCluster_cluster _ (hs.getCluster options fuel), hg⟩

theorem waitRunning_notes {stage : Stage} {info : Cluster.Info} (hs : s.Shows id v)
    (hv : v.cluster.Sound id)
    (h : exec ((simulated options fuel).waitRunning stage id) s = (.ok info, t)) :
    ∃ w, t.Notes id w ∧ v.Like w ∧ w.cluster.info.phase = .running := by
  obtain ⟨u, ⟨w, hw, hsound, hl⟩, -, hi, hp, rfl⟩ :=
    waitRunning_eq_ok (watchesCluster_like v) ⟨v, hs, hv, .refl v⟩ h
  obtain rfl : w.cluster.info = info :=
    Except.ok.inj ((hw.getCluster options fuel).symm.trans hi)
  exact ⟨w, lookAtCluster_notes hw hsound (by rw [hp]; rfl), hl, hp⟩

theorem readStable_notes {info : Cluster.Info} (hs : s.Shows id v) (hv : v.cluster.Sound id)
    (h : exec ((simulated options fuel).readStable id) s = (.ok info, t)) :
    ∃ w, t.Notes id w ∧ v.Like w ∧ w.cluster.info = info ∧ info.phase.isSettling = false := by
  obtain ⟨i, u, hu, hrest⟩ := exec_bind_eq_ok.1 h
  obtain ⟨-, hi, rfl⟩ := fetchCluster_eq_ok _ hu
  obtain rfl : v.cluster.info = i := Except.ok.inj ((hs.getCluster options fuel).symm.trans hi)
  split_ifs at hrest with hp
  · have hl := hs.lookAtCluster options fuel
    obtain ⟨u, ⟨w, hw, hsound, hlike⟩, -, hi, hn, rfl⟩ := waitStable_eq_ok
      (fun what => (watchesCluster_like (v.withCluster v.cluster.observe)).keeps what judgeStable)
      ⟨_, hl, hv.observe, .refl _⟩ hrest
    obtain rfl : w.cluster.info = info :=
      Except.ok.inj ((hw.getCluster options fuel).symm.trans hi)
    exact ⟨w, lookAtCluster_notes hw hsound hn, (View.Like.observe v).trans hlike, rfl, hn⟩
  · cases hrest
    have hn : v.cluster.info.phase.isSettling = false := by simpa using hp
    exact ⟨v, lookAtCluster_notes hs hv hn, .refl v, rfl, hn⟩

theorem lookAtLibraries_fresh (hs : s.Shows id v) (hv : v.cluster.Sound id) :
    ((simulated options fuel).lookAtLibraries id s).Fresh id v :=
  ⟨hs.lookAtLibraries options fuel, hv,
    lookAtLibraries_libraries _ (hs.libraryStatuses options fuel)⟩

theorem fetchLibraries_fresh {stage : Stage} {o : List LibraryStatus} (hs : s.Shows id v)
    (hv : v.cluster.Sound id)
    (h : exec ((simulated options fuel).fetchLibraries stage id) s = (.ok o, t)) :
    t.Fresh id v ∧ o = v.cluster.statuses ∧ t.cluster = s.cluster ∧ t.actions = s.actions := by
  obtain ⟨-, ho, rfl⟩ := fetchLibraries_eq_ok _ h
  exact ⟨lookAtLibraries_fresh hs hv,
    Except.ok.inj (ho.symm.trans (hs.libraryStatuses options fuel)),
    lookAtLibraries_cluster _ id s, lookAtLibraries_actions _ id s⟩

theorem mutate_shows {action : Action} {stage : Stage} {c : Call} {u : Unit} (hs : s.Shows id v)
    (hc : c.Concerns id)
    (h : exec ((simulated options fuel).mutate action stage c) s = (.ok u, t)) :
    t.Shows id (v.next c) ∧ t.cluster = s.cluster ∧ t.libraries = s.libraries ∧
      t.actions = s.actions ++ [action] := by
  obtain ⟨-, -, -, rfl⟩ := mutate_eq_ok _ h
  have hp := hs.perform options fuel hc
  exact ⟨⟨hp.still, hp.state⟩, rfl, rfl, rfl⟩

theorem submitRemovals_shows {p q : Progress} {d : LibraryDiff} (hs : s.Shows id v)
    (hp : v.cluster.info.phase = .running)
    (h : exec ((simulated options fuel).submitRemovals id p d) s = (.ok q, t)) :
    t.Shows id (v.withCluster (v.cluster.remove d.uninstall)) := by
  unfold submitRemovals at h
  split_ifs at h with hd
  · cases h
    rw [List.isEmpty_iff.1 hd, SimulatedCluster.remove_nil]
    exact hs
  · obtain ⟨_, u, hu, hpure⟩ := exec_bind_eq_ok.1 h
    cases hpure
    have hm := (mutate_shows hs (c := .uninstallLibraries id d.uninstall) rfl hu).1
    rwa [View.next, View.change_of_phase hp] at hm

theorem submitInstalls_shows {p q : Progress} {d : LibraryDiff} (hs : s.Shows id v)
    (hp : v.cluster.info.phase = .running)
    (h : exec ((simulated options fuel).submitInstalls id p d) s = (.ok q, t)) :
    t.Shows id (v.submitAll d.install) := by
  unfold submitInstalls at h
  split_ifs at h with hd
  · cases h
    rw [List.isEmpty_iff.1 hd]
    exact hs
  · obtain ⟨_, u, hu, hpure⟩ := exec_bind_eq_ok.1 h
    cases hpure
    have hm := (mutate_shows hs (c := .installLibraries id d.install) rfl hu).1
    rwa [View.next, if_pos hp] at hm

theorem submit_shows {p q : Progress} {d : LibraryDiff} (hs : s.Shows id v)
    (hp : v.cluster.info.phase = .running)
    (h : exec ((simulated options fuel).submit id p d) s = (.ok q, t)) :
    t.Shows id (v.asked d) := by
  obtain ⟨p', u, hu, ht⟩ := exec_bind_eq_ok.1 h
  exact submitInstalls_shows (submitRemovals_shows hs hp hu) hp ht

theorem changeAndWait_notes {action : Action} {stage : Stage} {c : Call} {u : Unit}
    (hs : s.Shows id v) (hv : v.cluster.Sound id) (hc : c.Concerns id)
    (h : exec (do
      (simulated options fuel).mutate action stage c
      let _ ← (simulated options fuel).waitRunning stage id) s = (.ok u, t)) :
    ∃ w, t.Notes id w ∧ (v.next c).Like w ∧ w.cluster.info.phase = .running ∧
      t.libraries = s.libraries ∧ t.actions ≠ [] := by
  obtain ⟨_, s₁, h₁, k₁⟩ := exec_bind_eq_ok.1 h
  obtain ⟨info, s₂, h₂, k₂⟩ := exec_bind_eq_ok.1 k₁
  obtain rfl : s₂ = t := congrArg Prod.snd k₂
  obtain ⟨hm, -, hl, ha⟩ := mutate_shows hs hc h₁
  obtain ⟨w, hw, hlike, hp⟩ := waitRunning_notes hm (View.next_sound hv c) h₂
  have hw₂ := (simulated options fuel).madeOf.waitRunning stage (rfl : Call.getCluster id = _) s₁
  rw [h₂] at hw₂
  have hact : s₂.actions = s₁.actions := hw₂.actions_eq fun c hc => by rw [← hc]; rfl
  refine ⟨w, hw, hlike, hp, (waitRunning_cluster h₂).2.2.trans hl, ?_⟩
  rw [hact, ha]
  simp

end Reconciler
end ClusterReconciliation
