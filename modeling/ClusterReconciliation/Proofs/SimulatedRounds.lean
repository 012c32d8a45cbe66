import ClusterReconciliation.Proofs.SimulatedRuns

/-! The rounds of the libraries against a simulation. A submission makes a library stand in the list
once, so rounds that end well leave libraries that are at rest and need no further submission, however
they were listed before. -/
namespace ClusterReconciliation
open Run
variable {options : Options} {fuel : Nat} {s t : Session (Scene Simulation)} {id : String}
  {v w : View}

namespace SimulatedCluster
variable {c : SimulatedCluster} {desired : List Library}

theorem observeLibraries_eq (h : ∀ l ∈ c.libraries, l.IsAtRest) : c.observeLibraries = c := by
  have hm : c.libraries.map (·.observe) = c.libraries := by
    conv_rhs => rw [← List.map_id c.libraries]
    exact List.map_congr_left fun l hl => (h l hl).observe_eq
  rw [observeLibraries, hm]

theorem isAtRest_of_observeLibraries_eq (h : c.observeLibraries = c) :
    ∀ l ∈ c.libraries, l.IsAtRest := by
  have hm : c.libraries.map (·.observe) = c.libraries.map id := by
    rw [List.map_id]
    exact congrArg (·.libraries) h
  intro l hl
  exact SimulatedLibrary.isAtRest_of_observe_eq (List.map_inj_left.1 hm l hl)

theorem eq_of_listed {k l : SimulatedLibrary} (hk : k ∈ c.libraries) (hl : l ∈ c.libraries)
    (h : k.reported.library = l.reported.library) (once : c.listed l.reported.library = 1) :
    k = l := by
  have hmem : k ∈ c.entries l.reported.library := List.mem_filter.2 ⟨hk, by simpa using h⟩
  rwa [entries_eq_of_listed hl once, List.mem_singleton] at hmem

/-- On converged libraries nothing moves any more. -/
theorem Sound.isAtRest (h : c.Sound id) (hc : isConverged desired c.statuses = true) :
    ∀ l ∈ c.libraries, l.IsAtRest := by
  obtain ⟨hd, hr⟩ := isConverged_iff.1 hc
  intro l hl
  by_contra hn
  obtain ⟨hp, hall, once⟩ := h.libraries l hl hn
  by_cases hm : l.reported.library ∈ desired
  · obtain ⟨s, hs, hlib, hi⟩ := hd _ hm
    obtain ⟨k, hk, rfl⟩ := List.mem_map.1 hs
    rw [eq_of_listed hk hl hlib once, hp] at hi
    cases hi
  · have hremovable : isRemovable desired l.reported = true :=
      isRemovable_eq_true.2 ⟨hm, hall, by rw [hp]; simp⟩
    rw [hr _ (List.mem_map_of_mem hl)] at hremovable
    cases hremovable

/-- A library that is listed once and installed need not be submitted. -/
theorem isWanting_of_listed {l : Library} (once : c.listed l = 1)
    (hi : ∃ s ∈ c.statuses, s.library = l ∧ s.status = .installed) :
    isWanting c.statuses l = false := by
  obtain ⟨s, hs, rfl, hi⟩ := hi
  cases hx : lastStatus c.statuses s.library with
  | none => exact absurd rfl (lastStatus_eq_none.1 hx s hs)
  | some status =>
    obtain ⟨u, hu, hlib, rfl⟩ := exists_of_lastStatus hx
    obtain ⟨k, hk, rfl⟩ := List.mem_map.1 hs
    obtain ⟨m, hm, rfl⟩ := List.mem_map.1 hu
    rw [eq_of_listed hm hk hlib once] at hx
    exact isWanting_eq_false.2 ⟨_, hx, by rw [hi]; rfl⟩

end SimulatedCluster

/-- Libraries that are at rest are seen as they were noted. -/
theorem Session.Fresh.shows_of_rest (h : s.Fresh id v)
    (hrest : ∀ l ∈ v.cluster.libraries, l.IsAtRest) : s.Shows id v := by
  have hv := h.shows
  rwa [SimulatedCluster.observeLibraries_eq hrest] at hv

/-- Nothing moves, and the libraries are as desired. -/
structure View.Done (v : View) (desired : List Library) : Prop where
  atRest : ∀ l ∈ v.cluster.libraries, l.IsAtRest
  wanting : ∀ l ∈ desired, isWanting v.cluster.statuses l = false
  converged : isConverged desired v.cluster.statuses = true

namespace View

theorem submitAll_listed {l : Library} {ls : List Library} (h : l ∈ ls ∨ v.cluster.listed l = 1) :
    (v.submitAll ls).cluster.listed l = 1 := by
  rw [listed_submitAll]
  split_ifs with hl
  · rfl
  · exact h.resolve_left hl

theorem asked_info (v : View) (d : LibraryDiff) :
    (v.asked d).cluster.info = v.cluster.info ∧ (v.asked d).cluster.goal = v.cluster.goal :=
  submitAll_info _ _

/-- After the calls of a round what has been submitted is listed once. -/
theorem asked_listed {d : LibraryDiff} {l : Library}
    (h : l ∈ d.install ∨ v.cluster.listed l = 1) : (v.asked d).cluster.listed l = 1 := by
  refine submitAll_listed (h.imp_right fun hl => ?_)
  refine (SimulatedCluster.listed_map (fun m => ?_) l).trans hl
  split_ifs <;> rfl

end View

namespace SimulatedLibrary

/-- How a library is reported once it has come to rest, but for the messages. -/
def final (l : SimulatedLibrary) : LibraryStatus where
  library := l.reported.library
  status := l.goal
  forAllClusters := l.reported.forAllClusters

@[simp] theorem final_observe (l : SimulatedLibrary) : l.observe.final = l.final := by
  simp [final]

end SimulatedLibrary

namespace SimulatedCluster

def finals (c : SimulatedCluster) : List LibraryStatus := c.libraries.map (·.final)

theorem listed_eq (c : SimulatedCluster) (l : Library) :
    c.listed l = c.finals.countP (·.library == l) := by
  simp only [listed, finals, List.countP_map]
  rfl

@[simp] theorem finals_observeLibraries (c : SimulatedCluster) :
    c.observeLibraries.finals = c.finals := by
  simp [finals, observeLibraries]

theorem listed_observeLibraries (c : SimulatedCluster) (l : Library) :
    c.observeLibraries.listed l = c.listed l := by
  rw [listed_eq, finals_observeLibraries, listed_eq]

theorem finals_eq {c : SimulatedCluster} (h : ∀ l ∈ c.libraries, l.IsAtRest) :
    c.finals = c.statuses.map (·.bare) := by
  rw [finals, statuses, List.map_map]
  refine List.map_congr_left fun l hl => ?_
  have hg : l.reported.status = l.goal := h l hl
  simp only [SimulatedLibrary.final, Function.comp_apply, LibraryStatus.bare, hg]

/-- A library that has not come to rest yet. -/
def Moves (c : SimulatedCluster) (l : Library) : Prop :=
  ∃ m ∈ c.libraries, m.reported.library = l ∧ ¬m.IsAtRest

/-- An observation does not set anything in motion. -/
theorem Moves.of_observeLibraries {c : SimulatedCluster} {l : Library}
    (h : c.observeLibraries.Moves l) : c.Moves l := by
  obtain ⟨m, hm, rfl, hn⟩ := h
  obtain ⟨k, hk, rfl⟩ := List.mem_map.1 hm
  refine ⟨k, hk, k.observe_library.symm, fun hr => ?_⟩
  exact hn (hr.observe_eq.symm ▸ hr)

end SimulatedCluster

/-- Two views that differ at most in how far the libraries have got. -/
structure View.Alike (v w : View) : Prop where
  polls : w.polls = v.polls
  failing : w.failing = v.failing
  info : w.cluster.info = v.cluster.info
  goal : w.cluster.goal = v.cluster.goal
  finals : w.cluster.finals = v.cluster.finals
  moves : ∀ l, w.cluster.Moves l → v.cluster.Moves l

namespace View.Alike

theorem refl (v : View) : v.Alike v := ⟨rfl, rfl, rfl, rfl, rfl, fun _ h => h⟩

theorem observe (h : v.Alike w) : v.Alike (w.withCluster w.cluster.observeLibraries) where
  polls := h.polls
  failing := h.failing
  info := h.info
  goal := h.goal
  finals := w.cluster.finals_observeLibraries.trans h.finals
  moves l hl := h.moves l hl.of_observeLibraries

theorem listed (h : v.Alike w) (l : Library) : w.cluster.listed l = v.cluster.listed l := by
  rw [SimulatedCluster.listed_eq, h.finals, SimulatedCluster.listed_eq]

end View.Alike

namespace Reconciler
variable {desired : List Library} {p q : Progress} {d : LibraryDiff}

theorem watchesLibraries_alike (v : View) :
    (simulated options fuel).WatchesLibraries id
      fun u => ∃ w, u.Shows id w ∧ w.cluster.Sound id ∧ v.Alike w where
  sleep d _ := fun ⟨w, hw, hsound, ha⟩ => ⟨w, hw.sleep options fuel d, hsound, ha⟩
  look _ := fun ⟨_, hw, hsound, ha⟩ _ =>
    ⟨_, hw.lookAtLibraries options fuel, hsound.observeLibraries, ha.observe⟩

/-- After the wait of a round the libraries have just been noted. -/
theorem endRound_fresh (hs : s.Shows id v) (hv : v.cluster.Sound id)
    (h : exec ((simulated options fuel).endRound id desired p d) s = (.ok q, t)) :
    ∃ w, t.Fresh id w ∧ v.Alike w ∧ q = { p with observed := w.cluster.statuses } ∧
      isSettled desired d.install p.removing w.cluster.statuses = true := by
  obtain ⟨o, u, hu, hpure⟩ := exec_bind_eq_ok.1 h
  cases hpure
  obtain ⟨u, ⟨w, hw, hsound, ha⟩, -, ho, hsettled, rfl⟩ :=
    awaitLibraries_eq_ok (watchesLibraries_alike v) ⟨v, hs, hv, .refl v⟩ hu
  obtain rfl : w.cluster.statuses = o :=
    Except.ok.inj ((hw.libraryStatuses options fuel).symm.trans ho)
  exact ⟨w, lookAtLibraries_fresh hw hsound, ha, rfl, hsettled⟩

theorem beginRound_shows {p' : Progress} (hs : s.Shows id v)
    (hp : v.cluster.info.phase = .running)
    (h : exec ((simulated options fuel).beginRound id desired p) s = (.ok (some (p', d)), t)) :
    t.Shows id (v.asked d) ∧ d = p.diff desired ∧ p' = p.after d := by
  obtain ⟨_, _, _, _, _, hok⟩ := (simulated options fuel).exec_beginRound_events id desired p s
  obtain ⟨-, hd, hafter, -⟩ := hok p' d t h
  obtain ⟨-, -, hsubmit⟩ := beginRound_eq_some _ h
  rw [← hd] at hsubmit
  exact ⟨submit_shows hs hp hsubmit, hd, hafter⟩

end Reconciler

theorem View.asked_sound (h : v.cluster.Sound id) (d : LibraryDiff) :
    (v.asked d).cluster.Sound id := View.submitAll_sound (h.remove d.uninstall) d.install

/-- A library that has been submitted is listed once, so it cannot both be installed and need a
submission. -/
theorem View.done_of_converged {desired : List Library} {p : Progress} (hv : v.cluster.Sound id)
    (ho : p.observed = v.cluster.statuses) (hb : 0 < p.attempts.budget)
    (once : ∀ l ∈ p.attempts.submitted, v.cluster.listed l = 1)
    (he : (p.diff desired).isEmpty = true) (hc : isConverged desired p.observed = true) :
    v.Done desired := by
  rw [ho] at hc
  refine ⟨hv.isAtRest hc, fun l hl => ?_, hc⟩
  by_contra hw
  have hi := (LibraryDiff.isEmpty_iff.1 he).1
  have hn : p.attempts.allows l = false := by
    by_contra ha
    have hm : l ∈ (p.diff desired).install :=
      mem_install.2 ⟨hl, by simpa [ho] using hw, by simpa using ha⟩
    rw [hi] at hm
    cases hm
  have hused : 0 < p.attempts.used l := by
    simp only [InstallAttempts.allows, decide_eq_false_iff_not] at hn
    omega
  have honce := once l (List.count_pos_iff.1 hused)
  exact hw (SimulatedCluster.isWanting_of_listed honce ((isConverged_iff.1 hc).1 l hl))

/-- Rounds that end well leave the libraries as desired, and do not touch the cluster itself. -/
theorem Rounds.done {desired : List Library} {n : Nat} {p : Progress}
    {x : Except Halt Unit × Session (Scene Simulation)} {ws : List (LibraryWait (Scene Simulation))}
    (h : Rounds (.simulated options fuel) id desired n p s x ws) (hx : x.1 = .ok ())
    (hs : s.Fresh id v) (hp : v.cluster.info.phase = .running)
    (ho : p.observed = v.cluster.statuses) (hb : 0 < p.attempts.budget)
    (once : ∀ l ∈ p.attempts.submitted, v.cluster.listed l = 1) :
    ∃ w, x.2.Fresh id w ∧ w.cluster.info = v.cluster.info ∧ w.cluster.goal = v.cluster.goal ∧
      w.Done desired := by
  induction h generalizing v with
  | spent p s => cases hx
  | converged _ hbegin =>
    obtain ⟨he, hc, rfl⟩ := beginRound_eq_none hbegin
    exact ⟨v, hs, rfl, rfl, View.done_of_converged hs.sound ho hb once he hc⟩
  | refused _ hbegin => cases hx
  | halted _ hbegin hend => cases hx
  | next hbegin hend _ ih =>
    obtain ⟨hshows, -, rfl⟩ := Reconciler.beginRound_shows hs.shows hp hbegin
    have hsound := View.asked_sound (v := v.withCluster v.cluster.observeLibraries)
      hs.sound.observeLibraries
    obtain ⟨w, hw, ha, rfl, -⟩ := Reconciler.endRound_fresh hshows (hsound _) hend
    obtain ⟨hinfo, hgoal⟩ := View.asked_info (v.withCluster v.cluster.observeLibraries) _
    have hi := ha.info.trans hinfo
    have hg := ha.goal.trans hgoal
    obtain ⟨u, hu, hui, hug, hdone⟩ := ih hx hw (hi ▸ hp) rfl hb <| by
      intro l hl
      -- What is listed once after an earlier round stays so, and this round adds what it submits.
      rw [ha.listed]
      refine View.asked_listed ?_
      rcases List.mem_append.1 hl with hl | hl
      · exact .inr ((v.cluster.listed_observeLibraries l).trans (once l hl))
      · exact .inl hl
    exact ⟨u, hu, hui.trans hi, hug.trans hg, hdone⟩

theorem Reconciler.convergeLibraries_done {desired : List Library} {o : List LibraryStatus}
    {u : Unit} (hs : s.Fresh id v) (hp : v.cluster.info.phase = .running)
    (ho : o = v.cluster.statuses)
    (h : exec ((simulated options fuel).convergeLibraries id desired o) s = (.ok u, t)) :
    ∃ w, t.Fresh id w ∧ w.cluster.info = v.cluster.info ∧ w.cluster.goal = v.cluster.goal ∧
      w.Done desired := by
  have hr := (simulated options fuel).rounds_libraryRounds id desired fuel
    ⟨o, .ofBudget options.attemptBudget, []⟩ s
  change Rounds _ id desired _ _ s (exec ((simulated options fuel).convergeLibraries id desired o) s) _
    at hr
  rw [h] at hr
  exact hr.done rfl hs hp ho (InstallAttempts.budget_pos _) (by simp [InstallAttempts.ofBudget])

end ClusterReconciliation
