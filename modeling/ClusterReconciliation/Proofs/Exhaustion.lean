import ClusterReconciliation.Proofs.LibraryCalls
import ClusterReconciliation.Proofs.Stages

/-! Runs that give up. Libraries are reported as failed only at the beginning of a round that finds
everything at rest and nothing to ask for. What is reported is then exactly what keeps the libraries
from being as desired, and all of it has been submitted as often as it may be. -/
namespace ClusterReconciliation
open Run
variable {σ α : Type}

/-- The entry that stands for a library that is not reported. -/
def LibraryStatus.unreported (l : Library) : LibraryStatus :=
  { library := l, status := .failed, messages := ["not reported by the control plane"] }

/-- How libraries stand when a run gives up on some of them: `o` was reported last, the failed ones
have no submissions left, and all others are as desired. -/
structure PartlyConverged (desired : List Library) (budget : Nat) (calls : List (Event σ))
    (o failed : List LibraryStatus) : Prop where
  reported : lastReport calls = some o
  nonempty : failed ≠ []
  declared : (failed.map (·.library)).Sublist (distinct desired)
  spent : ∀ s ∈ failed, submissions calls s.library = budget
  status : ∀ s ∈ failed,
    s ∈ o ∧ (s.status = .failed ∨ s.status = .skipped ∨ s.status = .uninstallOnRestart) ∨
      (∀ t ∈ o, t.library ≠ s.library) ∧
        s = .unreported s.library
  installed : ∀ l ∈ desired, l ∉ failed.map (·.library) →
    ∃ s ∈ o, s.library = l ∧ s.status = .installed
  foreign : ∀ s ∈ o, s.library ∉ desired → s.status = .uninstallOnRestart ∨ s.forAllClusters = true

section Verdict
variable {desired : List Library} {observed failed : List LibraryStatus} {p : Progress}
  {d : LibraryDiff} {l : Library} {s : LibraryStatus}

theorem verdict_eq_gaveUp (h : Reconciler.verdict desired p d = .gaveUp failed) :
    d.isEmpty = true ∧ d.exhausted ≠ [] ∧
      isSettled desired [] p.removing p.observed = true ∧
      failed = d.exhausted.map (exhaustedStatus p.observed) := by
  unfold Reconciler.verdict at h
  split_ifs at h with hd hc hs
  rw [Bool.not_eq_true, Bool.not_eq_false'] at hd
  rw [Bool.and_eq_true] at hs
  exact ⟨hd, by simpa using hs.1, hs.2, (Reconciler.Verdict.gaveUp.inj h).symm⟩

/-- The entry for a library that is wanted is the reported one, or there is none. -/
theorem exhaustedStatus_cases (once : ReportedOnce observed) (hw : isWanting observed l = true) :
    exhaustedStatus observed l ∈ observed ∧
        (exhaustedStatus observed l).status.needsInstall = true ∨
      (∀ t ∈ observed, t.library ≠ l) ∧
        exhaustedStatus observed l = .unreported l := by
  cases hf : observed.find? (·.library == l) with
  | none =>
    have hnone : firstStatus observed l = none := by rw [firstStatus, hf]; rfl
    exact .inr ⟨firstStatus_eq_none.1 hnone, by rw [exhaustedStatus, hf]; rfl⟩
  | some s =>
    have hmem : s ∈ observed := List.mem_of_find?_eq_some hf
    have hlib : s.library = l := by simpa using List.find?_some hf
    have hlast : lastStatus observed l = some s.status := hlib ▸ once.lastStatus_eq hmem
    have heq : exhaustedStatus observed l = s := by rw [exhaustedStatus, hf]; rfl
    exact .inl (heq ▸ ⟨hmem, isWanting_eq_true.1 hw _ hlast⟩)

/-- A desired library that is neither submitted nor out of attempts is installed, if nothing
moves. -/
theorem installed_of_not_exhausted (once : ReportedOnce p.observed)
    (hs : isSettled desired [] p.removing p.observed = true)
    (hempty : (p.diff desired).isEmpty = true) (hl : l ∈ desired)
    (hn : l ∉ (p.diff desired).exhausted) :
    ∃ s ∈ p.observed, s.library = l ∧ s.status = .installed := by
  have hnotin : l ∉ (p.diff desired).install := by
    simp [(LibraryDiff.isEmpty_iff.1 hempty).1]
  have hwant : isWanting p.observed l = false := by
    by_contra hw
    rw [Bool.not_eq_false] at hw
    cases ha : p.attempts.allows l with
    | true => exact hnotin (mem_install.2 ⟨hl, hw, ha⟩)
    | false => exact hn (mem_exhausted.2 ⟨hl, hw, ha⟩)
  obtain ⟨status, hlast, hneeds⟩ := isWanting_eq_false.1 hwant
  obtain ⟨s, hmem, rfl, rfl⟩ := exists_of_lastStatus hlast
  have hrest : s.status.isInFlight = false :=
    (isSettled_iff.1 hs).2.1 _ hl _ (once.firstStatus_eq hmem)
  exact ⟨s, hmem, rfl, InstallStatus.eq_installed hneeds hrest⟩

/-- A library that nobody desires and that is not to be removed any more is about to go or belongs
to all clusters, if nothing moves. -/
theorem foreign_of_isSettled (once : ReportedOnce p.observed)
    (hs : isSettled desired [] p.removing p.observed = true)
    (hempty : (p.diff desired).isEmpty = true) (hmem : s ∈ p.observed)
    (hforeign : s.library ∉ desired) :
    s.status = .uninstallOnRestart ∨ s.forAllClusters = true := by
  have hnotin : s.library ∉ (p.diff desired).uninstall := by
    simp [(LibraryDiff.isEmpty_iff.1 hempty).2]
  by_contra hneither
  rw [not_or, Bool.not_eq_true] at hneither
  have hrem : isRemovable desired s = true :=
    isRemovable_eq_true.2 ⟨hforeign, hneither.2, hneither.1⟩
  have hremoving : s.library ∈ p.removing := by
    by_contra hr
    exact hnotin (Progress.mem_diff_uninstall.2 ⟨⟨s, hmem, hrem, rfl⟩, hr⟩)
  have hgone : s.status = .uninstallOnRestart :=
    (isSettled_iff.1 hs).2.2 _ hremoving _ (once.firstStatus_eq hmem)
  exact hneither.1 hgone

end Verdict

namespace Progress
variable {desired : List Library} {budget : Nat} {p : Progress} {s : Session σ} {l : Library}

/-- The rule bounds how often a library is submitted. -/
theorem Tracks.submissions_le (h : p.Tracks desired budget s) (l : Library) :
    submissions s.calls l ≤ budget := by
  refine Obeys.countP_le h.sparing fun before c hc hl => ?_
  cases c with
  | installLibraries i ls => exact hc.within l (by simpa [Call.submits] using hl)
  | _ => cases hl

/-- A library that has no attempts left has been submitted as often as the budget allows. -/
theorem Tracks.submissions_eq (h : p.Tracks desired budget s)
    (hl : l ∈ (p.diff desired).exhausted) : submissions s.calls l = budget := by
  have hused : p.attempts.budget ≤ p.attempts.used l := by
    simpa [InstallAttempts.allows] using (mem_exhausted.1 hl).2.2
  rw [h.budget, ← h.submitted] at hused
  exact le_antisymm (h.submissions_le l) hused

/-- A progress that is given up on stands as the last report says. -/
theorem Ready.partlyConverged (h : p.Ready desired budget s) (hpos : 0 < budget)
    {failed : List LibraryStatus}
    (hv : Reconciler.verdict desired p (p.diff desired) = .gaveUp failed)
    (once : ∀ o ∈ reports s.calls, ReportedOnce o) :
    PartlyConverged desired budget s.calls p.observed failed := by
  obtain ⟨hempty, hsome, hsettled, rfl⟩ := verdict_eq_gaveUp hv
  have hlibs : ((p.diff desired).exhausted.map (exhaustedStatus p.observed)).map (·.library) =
      (p.diff desired).exhausted := by
    rw [List.map_map]
    exact List.map_id'' (exhaustedStatus_library p.observed) _
  -- A library without attempts has been submitted, so there has been a report.
  have hreport : lastReport s.calls = some p.observed := by
    obtain ⟨l, hl⟩ := List.exists_mem_of_ne_nil _ hsome
    have heq : submissions s.calls l = budget := h.submissions_eq hl
    refine h.current.resolve_right fun hnone => ?_
    rw [hnone.2 l] at heq
    omega
  have honce : ReportedOnce p.observed := once _ (List.mem_of_getLast? hreport)
  refine ⟨hreport, by simpa using hsome, ?_, ?_, ?_, ?_, ?_⟩
  · rw [hlibs]
    exact List.filter_sublist.trans List.filter_sublist
  · intro st hst
    obtain ⟨l, hl, rfl⟩ := List.mem_map.1 hst
    rw [exhaustedStatus_library]
    exact h.submissions_eq hl
  · intro st hst
    obtain ⟨l, hl, rfl⟩ := List.mem_map.1 hst
    rw [exhaustedStatus_library]
    have hcases := exhaustedStatus_cases honce (mem_exhausted.1 hl).2.1
    exact hcases.imp_left fun hin => ⟨hin.1, InstallStatus.needsInstall_iff.1 hin.2⟩
  · intro l hl hn
    rw [hlibs] at hn
    exact installed_of_not_exhausted honce hsettled hempty hl hn
  · intro st hst hforeign
    exact foreign_of_isSettled honce hsettled hempty hst hforeign

end Progress

/-- What a run that gives up has to show for it: a progress that stands as everything that has been
called says, and that is given up on. -/
def Halt.Exhausted (desired : List Library) (budget : Nat) (h : Halt) (s : Session σ) : Prop :=
  ∀ stage failed, h = .failed ⟨stage, .partialConvergence failed⟩ →
    stage = .libraryInstall ∧ ∃ p : Progress, p.Ready desired budget s ∧
      Reconciler.verdict desired p (p.diff desired) = .gaveUp failed

theorem Halt.Within.exhausted {stage : Stage} {h : Halt} (hw : h.Within stage)
    (desired : List Library) (budget : Nat) (s : Session σ) : h.Exhausted desired budget s := by
  rintro stage' failed rfl
  exact hw.elim

namespace Reconciler
variable {r : Reconciler σ} {s : Session σ} {id : String} {budget : Nat}

/-- No call or wait halts for libraries without attempts. -/
theorem haltsAt_exhausted (r : Reconciler σ) (stage : Stage) (desired : List Library)
    (budget : Nat) : r.HaltsAt stage (Halt.Exhausted desired budget) :=
  (r.haltsAt_within stage).mono fun _ t hw => hw.exhausted desired budget t

/-- What halts within a stage is not for libraries without attempts. -/
theorem exhausted_of_within {m : Run σ α} {stage : Stage} {desired : List Library}
    (h : Halts m s fun e _ => e.Within stage) : Halts m s (Halt.Exhausted desired budget) :=
  h.mono fun _ t hw => hw.exhausted desired budget t

section Rounds
variable {desired : List Library} {p : Progress}

theorem exhausted_libraryRound (hp : p.Ready desired budget s) :
    Halts (r.libraryRound id desired p) s (Halt.Exhausted desired budget) := by
  refine libraryRound_halts ?gaveUp ?submitted fun d => r.haltsAt_exhausted d.stage desired budget
  case gaveUp =>
    intro failed hv stage failed' heq
    cases heq
    exact ⟨rfl, p, hp, hv⟩
  case submitted =>
    refine (within_submit p _).mono fun e t hw => ?_
    rcases hw with hw | hw <;> exact hw.exhausted desired budget t

/-- Every round begins with a progress that stands as everything that has been called says, so the
one that gives up does. -/
theorem exhausted_convergeLibraries (o : List LibraryStatus)
    (hp : Progress.Ready desired budget ⟨o, .ofBudget r.options.attemptBudget, []⟩ s) :
    Halts (r.convergeLibraries id desired o) s (Halt.Exhausted desired budget) := by
  refine convergeLibraries_ensures (fun p s hp => ?_) (fun _ _ _ _ _ heq => by cases heq) hp
  refine ⟨fun x t hx => ⟨fun _ => trivial, ?_⟩, (exhausted_libraryRound hp).halted⟩
  exact ((libraryRound_ready hp).ok x t hx).2

theorem exhausted_finishLibraries (o : List LibraryStatus)
    (hp : Progress.Ready desired budget ⟨o, .ofBudget r.options.attemptBudget, []⟩ s) :
    Halts (r.finishLibraries id desired o) s (Halt.Exhausted desired budget) := by
  refine Ensures.bind ensures_get fun _ t _ hx => ?_
  obtain ⟨rfl, rfl⟩ := hx
  split_ifs
  · have hinstall := r.haltsAt_exhausted .libraryInstall desired budget
    refine (hinstall.currentLibraries o).bind fun o' t hx => ?_
    exact exhausted_convergeLibraries o' ((currentLibraries_ready o hp).ok o' t hx)
  · exact halts_pure ()

end Rounds

variable {desired : Desired}

theorem exhausted_create (hp : Progress.Ready desired.libraries budget
      ⟨[], .ofBudget r.options.attemptBudget, []⟩ s) :
    Halts (r.create desired) s (Halt.Exhausted desired.libraries budget) := by
  refine (exhausted_of_within within_validate).bind fun _ t hx => ?_
  have hp := (ensures_ready (r.madeOf.validate desired) hp).ok _ t hx
  have hcreate := r.haltsAt_exhausted .create desired.libraries budget
  refine (hcreate.launch desired.cluster).bind fun i t hx => ?_
  have hp := (ensures_ready (r.madeOf_launch fun _ h => h) hp).ok i t hx
  refine hcreate.waitRunning.bind fun info t hx => ?_
  have hp := (ensures_ready (r.madeOf.waitRunning .create fun _ h => h) hp).ok info t hx
  split_ifs
  · exact exhausted_convergeLibraries [] hp
  · exact halts_pure ()

theorem exhausted_inspect {libraries : List Library} :
    Halts (r.inspect id) s (Halt.Exhausted libraries budget) := by
  refine within_inspect.mono fun h t hw => ?_
  rcases hw with hw | hw <;> exact hw.exhausted libraries budget t

theorem exhausted_update (hp : Progress.Ready desired.libraries budget
      ⟨[], .ofBudget r.options.attemptBudget, []⟩ s) :
    Halts (r.update id desired) s (Halt.Exhausted desired.libraries budget) := by
  refine (exhausted_of_within within_validate).bind fun _ t hx => ?_
  have hp := (ensures_ready (r.madeOf.validate desired) hp).ok _ t hx
  refine exhausted_inspect.bind fun o t hx => ?_
  have hp := (inspect_ready hp).ok o t hx
  refine (exhausted_of_within (within_startFor _ _)).bind fun _ t hx => ?_
  have hstart := (r.madeOf (K := Call.IsAside)).startFor id
  have hp := (ensures_ready (hstart _ _ (fun _ h => h) fun _ h => h) hp).ok _ t hx
  refine (exhausted_of_within (within_editTo _ _)).bind fun _ t hx => ?_
  have hedit := (r.madeOf (K := Call.IsAside)).editTo id desired.cluster
  have hp := (ensures_ready (hedit _ (fun _ h => h) fun _ h => h) hp).ok _ t hx
  exact exhausted_finishLibraries o.libraries hp

/-- A run that gives up on libraries does so while it installs. What it reports is desired and has
been submitted exactly as often as the budget allows, and was last reported as failed, skipped or
about to go, or not at all. Every other desired library was last reported as installed, and every
one that nobody desires as about to go or as belonging to all clusters. -/
theorem reconcile_partlyConverged (r : Reconciler σ) (desired : Desired) (existing : Option String)
    (world : σ) {stage : Stage} {failed : List LibraryStatus}
    (h : (r.reconcile desired existing world).outcome =
      .error (.failed ⟨stage, .partialConvergence failed⟩))
    (once : ∀ o ∈ reports (r.reconcile desired existing world).session.calls, ReportedOnce o) :
    stage = .libraryInstall ∧ (failed.map (·.library)).Nodup ∧
      ∃ o, PartlyConverged desired.libraries (max 1 r.options.attemptBudget)
        (r.reconcile desired existing world).session.calls o failed := by
  have hstart := Progress.Ready.start desired.libraries r.options.attemptBudget world
  have hexhausted : Halt.Exhausted desired.libraries (max 1 r.options.attemptBudget)
      (.failed ⟨stage, .partialConvergence failed⟩)
      (r.reconcile desired existing world).session := by
    cases existing with
    | none => exact (exhausted_create hstart).halted _ _ (Prod.ext h rfl)
    | some id => exact (exhausted_update hstart).halted _ _ (Prod.ext h rfl)
  obtain ⟨hstage, p, hp, hv⟩ := hexhausted stage failed rfl
  have hpos : 0 < max 1 r.options.attemptBudget := by omega
  have hpartly := hp.partlyConverged hpos hv once
  exact ⟨hstage, (nodup_distinct _).sublist hpartly.declared, _, hpartly⟩

/-- The sample is running, and its library fails whenever it is submitted. -/
def brokenWorld : Scene Simulation where
  state := (sampleWorld .running).state.failInstall (.jar "a.jar") 5

theorem reconcile_partlyConverged_broken :
    let x := (simulated {} 9).reconcile sample (some "c") brokenWorld
    let failed : List LibraryStatus :=
      [{ library := .jar "a.jar", status := .failed, messages := ["Library resolution failed"] }]
    x.outcome = .error (.failed ⟨.libraryInstall, .partialConvergence failed⟩) ∧
      submissions x.session.calls (.jar "a.jar") = max 1 3 ∧
      ∃ o, PartlyConverged sample.libraries (max 1 3) x.session.calls o failed := by
  intro x failed
  have h : x.outcome = .error (.failed ⟨.libraryInstall, .partialConvergence failed⟩) := by
    decide +kernel
  have once : ∀ o ∈ reports x.session.calls, ReportedOnce o := by decide +kernel
  obtain ⟨-, -, o, ho⟩ :=
    reconcile_partlyConverged (simulated {} 9) sample (some "c") brokenWorld h once
  have hspent := ho.spent _ (List.mem_singleton_self _)
  exact ⟨h, hspent, o, ho⟩

end Reconciler
end ClusterReconciliation
