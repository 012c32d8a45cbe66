import ClusterReconciliation.Proofs.Effects

/-! What holds of the clusters of a simulation at any time. A cluster moves only from pending to
running and from terminating to terminated, and a library only once it has been submitted, which
makes it stand in the list once. -/
namespace ClusterReconciliation

namespace SimulatedLibrary

/-- An observation of it changes nothing. -/
def IsAtRest (l : SimulatedLibrary) : Prop := l.reported.status = l.goal

instance (l : SimulatedLibrary) : Decidable l.IsAtRest := inferInstanceAs (Decidable (_ = _))

theorem IsAtRest.observe_eq {l : SimulatedLibrary} (h : l.IsAtRest) : l.observe = l := if_pos h

@[simp] theorem observe_library (l : SimulatedLibrary) :
    l.observe.reported.library = l.reported.library := by
  unfold observe settled
  split_ifs <;> rfl

@[simp] theorem observe_forAllClusters (l : SimulatedLibrary) :
    l.observe.reported.forAllClusters = l.reported.forAllClusters := by
  unfold observe settled
  split_ifs <;> rfl

@[simp] theorem observe_goal (l : SimulatedLibrary) : l.observe.goal = l.goal := by
  unfold observe settled
  split_ifs <;> rfl

/-- A library that moves keeps its status until it comes to rest. -/
theorem observe_status (l : SimulatedLibrary) :
    l.observe.IsAtRest ∨ l.observe.reported.status = l.reported.status := by
  unfold observe
  split_ifs with h
  · exact .inl h
  · exact .inl rfl
  · exact .inr rfl

/-- An observation that changes nothing is one of a library at rest. -/
theorem isAtRest_of_observe_eq {l : SimulatedLibrary} (h : l.observe = l) : l.IsAtRest := by
  by_contra hn
  have hs : ¬l.reported.status = l.goal := hn
  unfold observe at h
  rw [if_neg hs] at h
  split_ifs at h with hp
  · have hg := congrArg (·.reported.status) h
    exact hs hg.symm
  · have hq := congrArg (·.pollsLeft) h
    simp only at hq
    omega

end SimulatedLibrary

/-- A cluster takes every part of the shape that it is given. -/
theorem Cluster.Spec.shapeDiff_reshape (s : Spec) (i : Info) :
    s.shapeDiff (SimulatedCluster.reshape i s) = [] := by
  have hsize : s.sizing = (SimulatedCluster.reshape i s).sizing := by
    cases h : s.sizing <;> simp [SimulatedCluster.reshape, Info.sizing, workers?, autoscale?, h]
  have hcloud : s.cloud.all (SimulatedCluster.reshape i s).carries = true := by
    rcases h : s.cloud with _ | a | a | a <;>
      simp [SimulatedCluster.reshape, Info.carries, aws?, azure?, gcp?, h,
        AwsAttributes.isWithin_self, AzureAttributes.isWithin_self, GcpAttributes.isWithin_self]
  refine List.filter_eq_nil_iff.2 fun f _ => ?_
  cases f with
  | sizing => simp [differsAt, ← hsize]
  | cloud => simp [differsAt, hcloud]
  | _ => simp [differsAt, SimulatedCluster.reshape]

namespace SimulatedCluster
variable {id : String} {c : SimulatedCluster}

def listed (c : SimulatedCluster) (l : Library) : Nat :=
  c.libraries.countP (·.reported.library == l)

/-- The places of a library in the list. -/
def entries (c : SimulatedCluster) (l : Library) : List SimulatedLibrary :=
  c.libraries.filter (·.reported.library == l)

theorem listed_eq_length (c : SimulatedCluster) (l : Library) : c.listed l = (c.entries l).length :=
  List.countP_eq_length_filter

/-- A cluster in transition is on its way to run or to terminate, and a library in transition has
been submitted. -/
structure Sound (id : String) (c : SimulatedCluster) : Prop where
  id : c.info.id = id
  phase : c.info.phase ≠ c.goal → (c.info.phase = .pending ∧ c.goal = .running) ∨
    (c.info.phase = .terminating ∧ c.goal = .terminated)
  libraries : ∀ l ∈ c.libraries, ¬l.IsAtRest → l.reported.status = .pending ∧
    l.reported.forAllClusters = false ∧ c.listed l.reported.library = 1

theorem Sound.atRest (info : Cluster.Info) (libraries : List LibraryStatus) :
    (SimulatedCluster.atRest info libraries).Sound info.id where
  id := rfl
  phase h := absurd rfl h
  libraries l hl hn := by
    obtain ⟨s, -, rfl⟩ := List.mem_map.1 hl
    exact absurd rfl hn

theorem Sound.rest (h : c.Sound id) (phase : Phase) : (c.rest phase).Sound id where
  id := h.id
  phase hn := absurd rfl hn
  libraries := h.libraries

/-- A cluster that is not in transition stays in its phase. -/
theorem Sound.goal_eq (h : c.Sound id) (hp : c.info.phase.isTransitional = false) :
    c.goal = c.info.phase := by
  by_contra hn
  rcases h.phase (Ne.symm hn) with ⟨hx, -⟩ | ⟨hx, -⟩ <;> rw [hx] at hp <;> cases hp

theorem Sound.observe (h : c.Sound id) : c.observe.Sound id := by
  unfold SimulatedCluster.observe
  split_ifs with hp hz
  · exact h
  · exact ⟨h.id, fun hn => absurd rfl hn, h.libraries⟩
  · exact ⟨h.id, h.phase, h.libraries⟩

/-- Where a cluster departs to does not depend on where it was. -/
theorem sound_depart (hid : c.info.id = id)
    (hl : ∀ l ∈ c.libraries, ¬l.IsAtRest → l.reported.status = .pending ∧
      l.reported.forAllClusters = false ∧ c.listed l.reported.library = 1)
    {via goal : Phase} (polls : Nat)
    (hv : (via = .pending ∧ goal = .running) ∨ (via = .terminating ∧ goal = .terminated)) :
    (c.depart via goal polls).Sound id where
  id := hid
  phase hn := by
    by_cases hp : polls = 0
    · simp [SimulatedCluster.depart, hp] at hn
    · simpa [SimulatedCluster.depart, hp] using hv
  libraries := hl

theorem Sound.depart (h : c.Sound id) {via goal : Phase} (polls : Nat)
    (hv : (via = .pending ∧ goal = .running) ∨ (via = .terminating ∧ goal = .terminated)) :
    (c.depart via goal polls).Sound id := sound_depart h.id h.libraries polls hv

theorem Sound.edit (h : c.Sound id) (spec : Cluster.Spec) (polls : Nat) :
    (c.edit spec polls).Sound id := by
  refine sound_depart ?_ ?_ polls (.inl ⟨rfl, rfl⟩)
  · exact h.id
  · exact h.libraries

/-- A library that is listed once stands where it stands alone. -/
theorem entries_eq_of_listed {l : SimulatedLibrary} (hl : l ∈ c.libraries)
    (once : c.listed l.reported.library = 1) : c.entries l.reported.library = [l] := by
  rw [listed_eq_length, List.length_eq_one_iff] at once
  obtain ⟨m, hm⟩ := once
  have hmem : l ∈ c.entries l.reported.library := List.mem_filter.2 ⟨hl, by simp⟩
  rw [hm, List.mem_singleton] at hmem
  rw [hm, hmem]

theorem entries_map {f : SimulatedLibrary → SimulatedLibrary}
    (hf : ∀ l, (f l).reported.library = l.reported.library) (l : Library) :
    entries { c with libraries := c.libraries.map f } l = (c.entries l).map f := by
  simp [entries, List.filter_map, Function.comp_def, hf]

theorem listed_map {f : SimulatedLibrary → SimulatedLibrary}
    (hf : ∀ l, (f l).reported.library = l.reported.library) (l : Library) :
    listed { c with libraries := c.libraries.map f } l = c.listed l := by
  rw [listed_eq_length, entries_map hf, List.length_map, listed_eq_length]

/-- Changes of single libraries that set none of them in motion. -/
theorem Sound.mapLibraries (h : c.Sound id) {f : SimulatedLibrary → SimulatedLibrary}
    (hlib : ∀ l, (f l).reported.library = l.reported.library)
    (hf : ∀ l, ¬(f l).IsAtRest → ¬l.IsAtRest ∧ (f l).reported.status = l.reported.status ∧
      (f l).reported.forAllClusters = l.reported.forAllClusters) :
    Sound id { c with libraries := c.libraries.map f } where
  id := h.id
  phase := h.phase
  libraries l hl hn := by
    obtain ⟨m, hm, rfl⟩ := List.mem_map.1 hl
    obtain ⟨hmn, hs, hall⟩ := hf m hn
    rw [listed_map hlib, hs, hall, hlib]
    exact h.libraries m hm hmn

theorem Sound.observeLibraries (h : c.Sound id) : c.observeLibraries.Sound id := by
  refine h.mapLibraries (fun l => l.observe_library) fun l hn => ⟨fun hr => ?_, ?_, ?_⟩
  · exact hn (hr.observe_eq.symm ▸ hr)
  · exact l.observe_status.resolve_left hn
  · exact l.observe_forAllClusters

theorem Sound.remove (h : c.Sound id) (ls : List Library) : (c.remove ls).Sound id := by
  refine h.mapLibraries (fun l => ?_) fun l hn => ?_
  · split_ifs <;> rfl
  · split_ifs at hn ⊢ with hl
    · exact absurd rfl hn
    · exact ⟨hn, rfl, rfl⟩

theorem isAtRest_remove (h : ∀ l ∈ c.libraries, l.IsAtRest) (ls : List Library) :
    ∀ l ∈ (c.remove ls).libraries, l.IsAtRest := by
  intro l hl
  obtain ⟨k, hk, rfl⟩ := List.mem_map.1 hl
  split_ifs
  · rfl
  · exact h k hk

@[simp] theorem entries_submit_self (c : SimulatedCluster) (l : Library) (goal : InstallStatus)
    (polls : Nat) : (c.submit l goal polls).entries l = [.submitted l goal polls] := by
  have hz : (c.libraries.filter (·.reported.library != l)).filter (·.reported.library == l) = [] :=
    List.filter_eq_nil_iff.2 fun m hm => by simpa using (List.mem_filter.1 hm).2
  simp only [entries, SimulatedCluster.submit, List.filter_append, hz]
  simp [SimulatedLibrary.submitted]

theorem entries_submit_of_ne {k l : Library} (hk : k ≠ l) (c : SimulatedCluster)
    (goal : InstallStatus) (polls : Nat) : (c.submit l goal polls).entries k = c.entries k := by
  have hl : (l == k) = false := beq_eq_false_iff_ne.2 (Ne.symm hk)
  simp only [entries, SimulatedCluster.submit, List.filter_append, List.filter_filter]
  simp only [SimulatedLibrary.submitted, List.filter_singleton, hl, cond_false, List.append_nil]
  refine List.filter_congr fun m _ => ?_
  by_cases hm : m.reported.library = k
  · simp [hm, hk]
  · simp [hm]

@[simp] theorem listed_submit_self (c : SimulatedCluster) (l : Library) (goal : InstallStatus)
    (polls : Nat) : (c.submit l goal polls).listed l = 1 := by
  rw [listed_eq_length, entries_submit_self, List.length_singleton]

theorem listed_submit_of_ne {k l : Library} (hk : k ≠ l) (c : SimulatedCluster)
    (goal : InstallStatus) (polls : Nat) : (c.submit l goal polls).listed k = c.listed k := by
  rw [listed_eq_length, entries_submit_of_ne hk, listed_eq_length]

theorem Sound.submit (h : c.Sound id) (l : Library) (goal : InstallStatus) (polls : Nat) :
    (c.submit l goal polls).Sound id where
  id := h.id
  phase := h.phase
  libraries m hm hn := by
    rcases List.mem_append.1 hm with hm | hm
    · obtain ⟨hmem, hne⟩ := List.mem_filter.1 hm
      rw [listed_submit_of_ne (by simpa using hne)]
      exact h.libraries m hmem hn
    · obtain rfl := List.mem_singleton.1 hm
      refine ⟨?_, rfl, listed_submit_self c l goal polls⟩
      by_cases hp : polls = 0
      · simp [SimulatedLibrary.submitted, SimulatedLibrary.IsAtRest, hp] at hn
      · simp [SimulatedLibrary.submitted, hp]

end SimulatedCluster
namespace View
variable {id : String} {v : View}

/-- Submissions change nothing but the list of libraries. -/
theorem submitAll_cluster (v : View) (ls : List Library) :
    ∃ libraries, (v.submitAll ls).cluster = { v.cluster with libraries := libraries } := by
  induction ls generalizing v with
  | nil => exact ⟨_, rfl⟩
  | cons l ls ih => exact ih (v.submit l)

theorem submitAll_info (v : View) (ls : List Library) :
    (v.submitAll ls).cluster.info = v.cluster.info ∧
      (v.submitAll ls).cluster.goal = v.cluster.goal := by
  obtain ⟨libraries, h⟩ := v.submitAll_cluster ls
  exact ⟨congrArg (·.info) h, congrArg (·.goal) h⟩

theorem entries_submitAll {l : Library} {ls : List Library} (h : l ∉ ls) (v : View) :
    (v.submitAll ls).cluster.entries l = v.cluster.entries l := by
  induction ls generalizing v with
  | nil => rfl
  | cons k ls ih =>
    obtain ⟨hk, hl⟩ := List.ne_and_not_mem_of_not_mem_cons h
    exact (ih hl (v.submit k)).trans (SimulatedCluster.entries_submit_of_ne hk _ _ _)

/-- Submissions make a library stand in the list once. -/
theorem listed_submitAll (v : View) (ls : List Library) (l : Library) :
    (v.submitAll ls).cluster.listed l = if l ∈ ls then 1 else v.cluster.listed l := by
  split_ifs with hl
  · induction ls generalizing v with
    | nil => cases hl
    | cons k ls ih =>
      by_cases hm : l ∈ ls
      · exact ih (v.submit k) hm
      · -- The last submission of it is this one.
        obtain rfl : l = k := (List.mem_cons.1 hl).resolve_right hm
        have hrest := entries_submitAll hm (v.submit l)
        rw [SimulatedCluster.listed_eq_length, View.submitAll, List.foldl_cons]
        exact (congrArg List.length hrest).trans (by simp [View.submit])
  · rw [SimulatedCluster.listed_eq_length, entries_submitAll hl, SimulatedCluster.listed_eq_length]

theorem submitAll_sound (h : v.cluster.Sound id) (ls : List Library) :
    (v.submitAll ls).cluster.Sound id := by
  induction ls generalizing v with
  | nil => exact h
  | cons l ls ih => exact ih (h.submit l _ _)

theorem change_sound (h : v.cluster.Sound id) (phase : Phase)
    {f : SimulatedCluster → SimulatedCluster} (hf : (f v.cluster).Sound id) :
    (v.change phase f).cluster.Sound id := by
  unfold change
  split_ifs
  · exact hf
  · exact h

theorem next_sound (h : v.cluster.Sound id) (c : Call) : (v.next c).cluster.Sound id := by
  cases c with
  | getCluster _ => exact h.observe
  | startCluster _ => exact change_sound h _ (h.depart _ (.inl ⟨rfl, rfl⟩))
  | editCluster _ spec => exact change_sound h _ (h.edit spec _)
  | libraryStatuses _ => exact h.observeLibraries
  | installLibraries _ ls =>
    unfold next
    split_ifs
    · exact submitAll_sound h ls
    · exact h
  | uninstallLibraries _ ls => exact change_sound h _ (h.remove ls)
  | createCluster _ => exact h
  | deleteCluster _ => exact h
  | permanentDeleteCluster _ => exact h

end View

/-- A call puts nothing into motion but what departs or is submitted. -/
theorem Call.Makes.sound {polls : Nat} {id : String} {c : Call} {x : Option SimulatedCluster}
    {d : SimulatedCluster} (h : c.Makes polls id x (some d))
    (hx : ∀ b, x = some b → b.Sound id) : d.Sound id := by
  cases h with
  | created spec =>
    refine SimulatedCluster.sound_depart ?_ ?_ polls (.inl ⟨rfl, rfl⟩)
    · rfl
    · simp
  | seen b => exact (hx b rfl).observe
  | started b => exact (hx b rfl).depart polls (.inl ⟨rfl, rfl⟩)
  | edited b spec => exact (hx b rfl).edit spec polls
  | down => exact hx d rfl
  | broughtDown b => exact (hx b rfl).depart polls (.inr ⟨rfl, rfl⟩)
  | listed b => exact (hx b rfl).observeLibraries
  | installed b ls => exact View.submitAll_sound (hx b rfl) ls
  | removed b ls => exact (hx b rfl).remove ls

/-- An input puts nothing into motion but by a call. -/
theorem Simulation.Input.Makes.sound {polls : Nat} {id : String} {i : Simulation.Input}
    {x : Option SimulatedCluster} {d : SimulatedCluster} (h : i.Makes polls id x (some d))
    (hx : ∀ b, x = some b → b.Sound id) : d.Sound id :=
  h.keeps hx (fun _ _ _ hid => hid ▸ .atRest _ _) (fun _ phase hb => hb.rest phase) fun hm =>
    hm.sound hx

namespace Simulation
variable {s : Simulation} {id : String}

/-- Every cluster is sound under its own id. -/
def Sound (s : Simulation) : Prop := ∀ k c, s.clusters.get? k = some c → c.Sound k

theorem Sound.after (h : s.Sound) (i : Input) : (s.after i).Sound :=
  every_after i (fun hm => hm.sound) h

theorem Sound.answer (h : s.Sound) (c : Call) : (s.answer c).2.Sound := h.after (.call c)

/-- The simulations that come about by seeding, queueing and calls. -/
inductive Reachable : Simulation → Prop
  | start (polls : Nat) : Reachable { transitionPolls := polls }
  | insert {t : Simulation} (h : Reachable t) (info : Cluster.Info)
    (libraries : List LibraryStatus) : Reachable (t.insert info libraries)
  | enqueue {t : Simulation} (h : Reachable t) (method : String) (result : Option ClientError) :
    Reachable (t.enqueue method result)
  | failInstall {t : Simulation} (h : Reachable t) (l : Library) (times : Nat) :
    Reachable (t.failInstall l times)
  | setPhase {t : Simulation} (h : Reachable t) (id : String) (phase : Phase) :
    Reachable (t.setPhase id phase)
  | answer {t : Simulation} (h : Reachable t) (c : Call) : Reachable (t.answer c).2

theorem Reachable.after (h : s.Reachable) (i : Input) : (s.after i).Reachable := by
  cases i with
  | insert info libraries => exact .insert h info libraries
  | enqueue method result => exact .enqueue h method result
  | failInstall l times => exact .failInstall h l times
  | setPhase id phase => exact .setPhase h id phase
  | call c => exact .answer h c

/-- What every input keeps holds of them all. -/
theorem Reachable.invariant {P : Simulation → Prop} (h : s.Reachable)
    (start : ∀ polls, P { transitionPolls := polls }) (after : ∀ t i, P t → P (t.after i)) :
    P s := by
  induction h with
  | start polls => exact start polls
  | insert _ info libraries ih => exact after _ (.insert info libraries) ih
  | enqueue _ method result ih => exact after _ (.enqueue method result) ih
  | failInstall _ l times ih => exact after _ (.failInstall l times) ih
  | setPhase _ id phase ih => exact after _ (.setPhase id phase) ih
  | answer _ c ih => exact after _ (.call c) ih

/-- Seeding and setting put a cluster at rest, and only calls set anything in motion. -/
theorem Reachable.sound (h : s.Reachable) : s.Sound :=
  h.invariant (fun _ _ _ hc => by cases hc) fun _ i ht => ht.after i

end Simulation
end ClusterReconciliation
