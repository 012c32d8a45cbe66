import ClusterReconciliation.Proofs.Termination
import ClusterReconciliation.Proofs.Traces

/-! The calls by which a whole run changes libraries, whatever a control plane answers. Each of them
goes by what was last reported. A desired library is submitted within the budget, and again only if
the report leaves it wanting; one that nobody desires is removed once, if the report has it. -/
namespace ClusterReconciliation
open Run
variable {σ α : Type}

namespace Call

def removes (l : Library) : Call → Bool
  | uninstallLibraries _ ls => ls.contains l
  | _ => false

/-- The call installs no libraries and uninstalls none. -/
def LeavesLibraries (c : Call) : Prop := c.isInstall = false ∧ c.isUninstall = false

/-- The call has nothing to do with libraries. -/
def IsAside (c : Call) : Prop := ∀ id, ¬c.OfLibraries id

theorem LeavesLibraries.submits {c : Call} (h : c.LeavesLibraries) (l : Library) :
    c.submits l = false := by
  cases c <;> first | rfl | cases h.1

theorem LeavesLibraries.removes {c : Call} (h : c.LeavesLibraries) (l : Library) :
    c.removes l = false := by
  cases c <;> first | rfl | cases h.2

theorem IsAside.leavesLibraries {c : Call} (h : c.IsAside) : c.LeavesLibraries := by
  cases c <;> first | exact ⟨rfl, rfl⟩ | exact absurd rfl (h _)

theorem leavesLibraries_of_read {c : Call} {id : String} (h : libraryStatuses id = c) :
    c.LeavesLibraries := by
  rw [← h]
  exact ⟨rfl, rfl⟩

end Call

theorem Event.report_eq_none {e : Event σ} (h : ∀ id, e.call ≠ .libraryStatuses id) :
    e.report = none := by
  rcases e with ⟨w, c, answer⟩
  cases c <;> first | rfl | exact absurd rfl (h _)

/-- How often the removal of a library has been asked for. -/
def removals (es : List (Event σ)) (l : Library) : Nat := es.countP (·.call.removes l)

theorem submissions_concat (es : List (Event σ)) (e : Event σ) (l : Library) :
    submissions (es ++ [e]) l = submissions es l + (e.call.submits l).toNat := by
  cases h : e.call.submits l <;> simp [submissions, h]

theorem removals_concat (es : List (Event σ)) (e : Event σ) (l : Library) :
    removals (es ++ [e]) l = removals es l + (e.call.removes l).toNat := by
  cases h : e.call.removes l <;> simp [removals, h]

/-- Libraries that may be submitted after these events. -/
structure MaySubmit (desired : List Library) (budget : Nat) (before : List (Event σ))
    (ls : List Library) : Prop where
  nonempty : ls ≠ []
  sublist : ls.Sublist (distinct desired)
  within : ∀ l ∈ ls, submissions before l < budget
  wanting : ∀ l ∈ ls, 0 < submissions before l →
    ∃ o, lastReport before = some o ∧ isWanting o l = true

theorem MaySubmit.nodup {desired : List Library} {budget : Nat} {before : List (Event σ)}
    {ls : List Library} (h : MaySubmit desired budget before ls) : ls.Nodup :=
  (nodup_distinct desired).sublist h.sublist

/-- Libraries whose removal may be asked for after these events. -/
structure MayRemove (desired : List Library) (before : List (Event σ)) (ls : List Library) :
    Prop where
  nodup : ls.Nodup
  once : ∀ l ∈ ls, removals before l = 0
  removable : ∀ l ∈ ls, ∃ o, lastReport before = some o ∧
    ∃ s ∈ o, isRemovable desired s = true ∧ s.library = l

/-- The rule for calls that change libraries. -/
def Sparing (desired : List Library) (budget : Nat) (before : List (Event σ)) : Call → Prop
  | .installLibraries _ ls => MaySubmit desired budget before ls
  | .uninstallLibraries _ ls => MayRemove desired before ls
  | _ => True

theorem Call.LeavesLibraries.sparing {desired : List Library} {budget : Nat} {c : Call}
    (h : c.LeavesLibraries) (before : List (Event σ)) : Sparing desired budget before c := by
  cases c with
  | installLibraries i ls => cases h.1
  | uninstallLibraries i ls => cases h.2
  | _ => trivial

namespace Session
variable {s t : Session σ}

/-- All calls so far keep to the rule. -/
abbrev IsSparing (s : Session σ) (desired : List Library) (budget : Nat) : Prop :=
  Obeys (Sparing desired budget) s.calls

theorem Grows.countP_calls_eq {P : Event σ → Prop} (h : s.Grows P t) {p : Call → Bool}
    (hP : ∀ e, P e → p e.call = false) :
    t.calls.countP (p ·.call) = s.calls.countP (p ·.call) := by
  rw [calls, List.countP_reverse, h.countP_eq hP, calls, List.countP_reverse]

theorem Grows.lastReport_eq {P : Event σ → Prop} (h : s.Grows P t)
    (hP : ∀ e, P e → e.report = none) : lastReport t.calls = lastReport s.calls := by
  obtain ⟨es, hes, hp⟩ := h
  have hnone : reports es.reverse = [] :=
    List.filterMap_eq_nil_iff.2 fun e he => hP e (hp e (List.mem_reverse.1 he))
  rw [lastReport, calls_eq hes, reports_append, hnone, List.append_nil, lastReport]

end Session

namespace Progress
variable {desired : List Library} {budget : Nat} {p : Progress} {s t : Session σ}

/-- What a progress has recorded is what has been asked for, and all of it by the rule. -/
structure Tracks (desired : List Library) (budget : Nat) (p : Progress) (s : Session σ) : Prop where
  sparing : s.IsSparing desired budget
  budget : p.attempts.budget = budget
  submitted : ∀ l, submissions s.calls l = p.attempts.used l
  removed : ∀ l, 0 < removals s.calls l → l ∈ p.removing

/-- A progress that is about to be compared with what is desired. It goes by the last report, or by
nothing as long as nothing has been submitted. -/
structure Ready (desired : List Library) (budget : Nat) (p : Progress) (s : Session σ) : Prop
    extends Tracks desired budget p s where
  current : lastReport s.calls = some p.observed ∨
    p.observed = [] ∧ ∀ l, submissions s.calls l = 0

theorem Ready.start (desired : List Library) (n : Nat) (world : σ) :
    Ready desired (max 1 n) ⟨[], .ofBudget n, []⟩ { world := world } where
  sparing := obeys_nil
  budget := Nat.max_comm n 1
  submitted _ := rfl
  removed _ h := absurd h (Nat.lt_irrefl 0)
  current := .inr ⟨rfl, fun _ => rfl⟩

theorem Tracks.of_grows (h : p.Tracks desired budget s) {P : Event σ → Prop} (hg : s.Grows P t)
    (hP : ∀ e, P e → e.call.LeavesLibraries) : p.Tracks desired budget t where
  sparing := hg.obeys (fun before e he => (hP e he).sparing before) h.sparing
  budget := h.budget
  submitted l := by
    rw [submissions, hg.countP_calls_eq fun e he => (hP e he).submits l]
    exact h.submitted l
  removed l hl := by
    rw [removals, hg.countP_calls_eq fun e he => (hP e he).removes l] at hl
    exact h.removed l hl

theorem Ready.of_grows (h : p.Ready desired budget s) (hg : s.Grows (·.call.IsAside) t) :
    p.Ready desired budget t where
  toTracks := h.toTracks.of_grows hg fun e he => he.leavesLibraries
  current := by
    rw [hg.lastReport_eq fun e he => Event.report_eq_none fun i hi => he i (by rw [hi]; rfl)]
    refine h.current.imp_right fun ho => ⟨ho.1, fun l => ?_⟩
    rw [submissions, hg.countP_calls_eq fun e he => he.leavesLibraries.submits l]
    exact ho.2 l

/-- After a look the progress goes by what was seen. -/
theorem Tracks.look (h : p.Tracks desired budget s) {r : Reconciler σ} {id : String}
    {o : List LibraryStatus} (ho : (r.perform (.libraryStatuses id) s).1 = .ok o) :
    Ready desired budget { p with observed := o } (r.lookAtLibraries id s) where
  toTracks :=
    have hg : s.Grows (Call.libraryStatuses id = ·.call) (r.lookAtLibraries id s) :=
      .of_cons (r.lookAtLibraries_history id s) rfl
    have ht := h.of_grows hg fun _ he => Call.leavesLibraries_of_read he
    ⟨ht.sparing, ht.budget, ht.submitted, ht.removed⟩
  current := by
    rw [Session.calls_cons (r.lookAtLibraries_history id s), lastReport_concat, ho]
    exact .inl rfl

theorem Ready.maySubmit (h : p.Ready desired budget s) (hne : (p.diff desired).install ≠ []) :
    MaySubmit desired budget s.calls (p.diff desired).install where
  nonempty := hne
  sublist := List.filter_sublist.trans List.filter_sublist
  within l hl := by
    have hallows : p.attempts.used l < p.attempts.budget := by
      simpa [InstallAttempts.allows] using (mem_install.1 hl).2.2
    rwa [h.submitted, ← h.budget]
  wanting l hl hpos := by
    rcases h.current with ho | ⟨-, hz⟩
    · exact ⟨p.observed, ho, (mem_install.1 hl).2.1⟩
    · exact absurd (hz l) (Nat.ne_of_gt hpos)

theorem Ready.mayRemove (h : p.Ready desired budget s) :
    MayRemove desired s.calls (p.diff desired).uninstall where
  nodup := nodup_diff_uninstall
  once l hl := by
    by_contra hn
    exact (mem_diff_uninstall.1 hl).2 (h.removed l (Nat.pos_of_ne_zero hn))
  removable l hl := by
    obtain ⟨⟨st, hst, hr, hlib⟩, -⟩ := mem_diff_uninstall.1 hl
    rcases h.current with ho | ⟨hnil, -⟩
    · exact ⟨p.observed, ho, st, hst, hr, hlib⟩
    · simp [hnil] at hst

/-- A removal that was allowed and asked for is recorded, and changes no report. -/
theorem Ready.remove (h : p.Ready desired budget s) {e : Event σ} {id : String} {ls : List Library}
    (hm : MayRemove desired s.calls ls) (he : e.call = .uninstallLibraries id ls)
    (ht : t.calls = s.calls ++ [e]) :
    Ready desired budget { p with removing := p.removing ++ ls } t where
  sparing := by
    rw [Session.IsSparing, ht, obeys_concat, he]
    exact ⟨h.sparing, hm⟩
  budget := h.budget
  submitted l := by
    rw [ht, submissions_concat, he]
    exact h.submitted l
  removed l hl := by
    rw [ht, removals_concat, he] at hl
    by_cases hmem : l ∈ ls
    · exact List.mem_append_right _ hmem
    · exact List.mem_append_left _ (h.removed l (by simpa [Call.removes, hmem] using hl))
  current := by
    have hnone : e.report = none := Event.report_eq_none fun i => by simp [he]
    rw [ht, lastReport_concat, hnone, Option.none_or]
    refine h.current.imp_right fun ho => ⟨ho.1, fun l => ?_⟩
    rw [submissions_concat, he]
    exact ho.2 l

/-- A submission that was allowed and made is counted. -/
theorem Tracks.submit (h : p.Tracks desired budget s) {e : Event σ} {id : String}
    {ls : List Library} (hm : MaySubmit desired budget s.calls ls)
    (he : e.call = .installLibraries id ls) (ht : t.calls = s.calls ++ [e]) :
    Tracks desired budget { p with attempts := p.attempts.record ls } t where
  sparing := by
    rw [Session.IsSparing, ht, obeys_concat, he]
    exact ⟨h.sparing, hm⟩
  budget := h.budget
  submitted l := by
    rw [ht, submissions_concat, he, InstallAttempts.used_record, h.submitted]
    by_cases hmem : l ∈ ls
    · rw [List.count_eq_one_of_mem hm.nodup hmem]
      simp [Call.submits, hmem]
    · rw [List.count_eq_zero_of_not_mem hmem]
      simp [Call.submits, hmem]
  removed l hl := by
    rw [ht, removals_concat, he] at hl
    exact h.removed l hl

/-- What has been removed is not desired, and nothing has been removed twice. -/
structure Spares (desired : List Library) (p : Progress) : Prop where
  nodup : p.removing.Nodup
  foreign : ∀ l ∈ p.removing, l ∉ desired

theorem Spares.after (h : p.Spares desired) : (p.after (p.diff desired)).Spares desired where
  nodup := nodup_removing_after h.nodup
  foreign l hl := by
    rcases List.mem_append.1 hl with hl | hl
    · exact h.foreign l hl
    · obtain ⟨⟨st, -, hr, rfl⟩, -⟩ := mem_diff_uninstall.1 hl
      exact (isRemovable_eq_true.1 hr).1

end Progress

theorem Rounds.spares {r : Reconciler σ} {id : String} {desired : List Library} {fuel : Nat}
    {p : Progress} {s : Session σ} {x : Except Halt Unit × Session σ} {ws : List (LibraryWait σ)}
    (h : Rounds r id desired fuel p s x ws) (hp : p.Spares desired) :
    ∀ w ∈ ws, w.progress.Spares desired := by
  induction h with
  | spent | converged | refused => simp
  | halted fuel hb he =>
    obtain ⟨-, -, -, rfl, rfl⟩ := Reconciler.asks_of_beginRound hb
    simpa using hp.after
  | @next fuel p p' q d s t u x ws hb he hr ih =>
    obtain ⟨-, -, -, rfl, rfl⟩ := Reconciler.asks_of_beginRound hb
    obtain ⟨es, -, -, -, hok⟩ := r.exec_endRound_events id desired (p.after (p.diff desired))
      (p.diff desired) t
    obtain ⟨o, -, -, rfl⟩ := hok q u he
    have hlater := ih ⟨hp.after.nodup, hp.after.foreign⟩
    exact List.forall_mem_cons.2 ⟨hp.after, hlater⟩

namespace Reconciler
variable {r : Reconciler σ} {desired : List Library} {budget : Nat} {p : Progress} {id : String}
  {s : Session σ}

/-- Calls that have nothing to do with libraries leave a progress ready. -/
theorem ensures_ready {m : Run σ α} (hm : MadeOf r Call.IsAside m) (h : p.Ready desired budget s) :
    Ensures m s (fun _ t => p.Ready desired budget t) fun _ t => t.IsSparing desired budget :=
  (hm.endsIn s).mono (fun _ _ ht => h.of_grows ht.grows) fun _ _ ht => (h.of_grows ht.grows).sparing

theorem endsIn_sparing {m : Run σ α} (hm : MadeOf r (Call.libraryStatuses id = ·) m)
    (hs : s.IsSparing desired budget) : EndsIn m s (·.IsSparing desired budget) :=
  endsIn_obeys hm (fun before _ hc => (Call.leavesLibraries_of_read hc).sparing before) hs

theorem fetchLibraries_ready (stage : Stage) (h : p.Tracks desired budget s) :
    Ensures (r.fetchLibraries stage id) s
      (fun o t => Progress.Ready desired budget { p with observed := o } t)
      fun _ t => t.IsSparing desired budget := by
  refine ⟨fun o t hx => ?_, (endsIn_sparing (r.madeOf_fetchLibraries stage rfl) h.sparing).halted⟩
  obtain ⟨-, ho, rfl⟩ := r.fetchLibraries_eq_ok hx
  exact h.look ho

theorem submit_tracks (h : p.Ready desired budget s) :
    Ensures (r.submit id p (p.diff desired)) s (fun q t => q.Tracks desired budget t)
      fun _ t => t.IsSparing desired budget := by
  -- What is to be installed does not depend on what has just been removed.
  have hremove : Ensures (r.submitRemovals id p (p.diff desired)) s
      (fun q t => q.Ready desired budget t ∧ (q.diff desired).install = (p.diff desired).install)
      fun _ t => t.IsSparing desired budget := by
    unfold submitRemovals
    split_ifs
    · exact ensures_pure ⟨h, rfl⟩
    · refine (mutate_obeys .libraryUninstall h.mayRemove h.sparing).bind fun _ t _ ht => ?_
      obtain ⟨e, he, ht⟩ := ht
      exact ensures_pure ⟨h.remove h.mayRemove he ht, rfl⟩
  refine hremove.bind fun q t _ hq => ?_
  obtain ⟨hq, hsame⟩ := hq
  unfold submitInstalls
  split_ifs with hn
  · exact ensures_pure hq.toTracks
  · rw [← hsame] at hn ⊢
    have hmay := hq.maySubmit (by simpa using hn)
    refine (mutate_obeys .libraryInstall hmay hq.sparing).bind fun _ u _ hu => ?_
    obtain ⟨e, he, hu⟩ := hu
    exact ensures_pure (hq.toTracks.submit hmay he hu)

theorem beginRound_tracks (h : p.Ready desired budget s) :
    Ensures (r.beginRound id desired p) s
      (fun x t => t.IsSparing desired budget ∧ ∀ y ∈ x, y.1.Tracks desired budget t)
      fun _ t => t.IsSparing desired budget := by
  simp only [beginRound]
  cases verdict desired p (p.diff desired) with
  | converged => exact ensures_pure ⟨h.sparing, by simp⟩
  | gaveUp failed => exact ensures_fail h.sparing
  | goOn =>
    exact (submit_tracks h).bind fun q t _ hq => ensures_pure ⟨hq.sparing, by simpa using hq⟩

theorem endRound_ready (d : LibraryDiff) (h : p.Tracks desired budget s) :
    Ensures (r.endRound id desired p d) s (fun q t => q.Ready desired budget t)
      fun _ t => t.IsSparing desired budget := by
  have hm := r.madeOf_awaitLibraries d.stage desired d.install p.removing
    (rfl : Call.libraryStatuses id = _)
  have hawait : Ensures (r.await d.stage (r.watchLibraries id desired d.install p.removing)) s
      (fun o t => Progress.Ready desired budget { p with observed := o } t)
      fun _ t => t.IsSparing desired budget := by
    refine ⟨fun o t hx => ?_, (endsIn_sparing hm h.sparing).halted⟩
    obtain ⟨u, hu, -, ho, -, rfl⟩ := awaitLibraries_eq_ok
      (r.watchesLibraries_steps (rfl : Call.libraryStatuses id = _) s) .refl hx
    exact (h.of_grows hu.grows fun _ he => Call.leavesLibraries_of_read he).look ho
  exact hawait.bind fun o t _ ht => ensures_pure ht

theorem libraryRound_ready (h : p.Ready desired budget s) :
    Ensures (r.libraryRound id desired p) s
      (fun x t => t.IsSparing desired budget ∧ ∀ q ∈ x, q.Ready desired budget t)
      fun _ t => t.IsSparing desired budget := by
  refine (beginRound_tracks h).bind fun x t _ hx => ?_
  rcases x with _ | ⟨q, d⟩
  · exact ensures_pure ⟨hx.1, by simp⟩
  · refine (endRound_ready d (hx.2 (q, d) rfl)).bind fun q' u _ hu => ?_
    exact ensures_pure ⟨hu.sparing, by simpa using hu⟩

theorem convergeLibraries_sparing (o : List LibraryStatus)
    (h : Progress.Ready desired budget ⟨o, .ofBudget r.options.attemptBudget, []⟩ s) :
    EndsIn (r.convergeLibraries id desired o) s (·.IsSparing desired budget) := by
  refine convergeLibraries_ensures (fun p s h => ?_) (fun _ _ h => h.sparing) h
  exact (libraryRound_ready h).mono (fun _ _ hx => ⟨fun _ => hx.1, hx.2⟩) fun _ _ h => h

/-- The rounds start from what was last reported. -/
theorem currentLibraries_ready {attempts : InstallAttempts} (o : List LibraryStatus)
    (h : Progress.Ready desired budget ⟨o, attempts, []⟩ s) :
    Ensures (r.currentLibraries id o) s
      (fun o' t => Progress.Ready desired budget ⟨o', attempts, []⟩ t)
      fun _ t => t.IsSparing desired budget := by
  refine Ensures.bind ensures_get fun _ t _ hx => ?_
  obtain ⟨rfl, rfl⟩ := hx
  split_ifs
  · exact ensures_pure h
  · exact fetchLibraries_ready .libraryInstall h.toTracks

theorem finishLibraries_sparing (o : List LibraryStatus)
    (h : Progress.Ready desired budget ⟨o, .ofBudget r.options.attemptBudget, []⟩ s) :
    EndsIn (r.finishLibraries id desired o) s (·.IsSparing desired budget) := by
  refine Ensures.bind ensures_get fun _ t _ hx => ?_
  obtain ⟨rfl, rfl⟩ := hx
  split_ifs
  · exact (currentLibraries_ready o h).bind fun o' t _ ht => convergeLibraries_sparing o' ht
  · exact ensures_pure h.sparing

section Whole
variable {desired : Desired} {attempts : InstallAttempts}

/-- An inspection leaves a progress ready that goes by what it has observed. -/
theorem inspect_ready (h : Progress.Ready desired.libraries budget ⟨[], attempts, []⟩ s) :
    Ensures (r.inspect id) s
      (fun o t => Progress.Ready desired.libraries budget ⟨o.libraries, attempts, []⟩ t)
      fun _ t => t.IsSparing desired.libraries budget := by
  refine (ensures_ready (r.madeOf.readStable id fun _ h => h) h).bind fun info t _ h => ?_
  refine (ensures_ready (r.madeOf.refuseFailed id info) h).bind fun _ t _ h => ?_
  exact (fetchLibraries_ready .read h.toTracks).bind fun o t _ h => ensures_pure h

theorem create_sparing (h : Progress.Ready desired.libraries budget
      ⟨[], .ofBudget r.options.attemptBudget, []⟩ s) :
    EndsIn (r.create desired) s (·.IsSparing desired.libraries budget) := by
  refine (ensures_ready (r.madeOf.validate desired) h).bind fun _ t _ h => ?_
  refine (ensures_ready (r.madeOf_launch fun _ h => h) h).bind fun i t _ h => ?_
  refine (ensures_ready (r.madeOf.waitRunning .create fun _ h => h) h).bind fun _ t _ h => ?_
  split_ifs
  · exact convergeLibraries_sparing [] h
  · exact ensures_pure h.sparing

theorem update_sparing (h : Progress.Ready desired.libraries budget
      ⟨[], .ofBudget r.options.attemptBudget, []⟩ s) :
    EndsIn (r.update id desired) s (·.IsSparing desired.libraries budget) := by
  refine (ensures_ready (r.madeOf.validate desired) h).bind fun _ t _ h => ?_
  refine (inspect_ready h).bind fun o t _ h => ?_
  have hstart := (r.madeOf (K := Call.IsAside)).startFor id
  refine (ensures_ready (hstart _ _ (fun _ h => h) fun _ h => h) h).bind fun _ t _ h => ?_
  have hedit := (r.madeOf (K := Call.IsAside)).editTo id desired.cluster
  refine (ensures_ready (hedit _ (fun _ h => h) fun _ h => h) h).bind fun _ t _ h => ?_
  exact finishLibraries_sparing o.libraries h

/-- A reconciliation keeps to the rule with all its calls, whatever it is answered. -/
theorem reconcile_sparing (r : Reconciler σ) (desired : Desired) (existing : Option String)
    (world : σ) : (r.reconcile desired existing world).session.IsSparing desired.libraries
      (max 1 r.options.attemptBudget) := by
  have h := Progress.Ready.start desired.libraries r.options.attemptBudget world
  cases existing with
  | none => exact (create_sparing h).always
  | some id => exact (update_sparing h).always

end Whole

/-- Every submission of a run is of desired libraries, in the order of their declaration and each of
them once. No library is submitted more often than the budget allows, and none again that was not
last reported as failed, skipped or about to go, or was not in that report at all. -/
theorem reconcile_submissions (r : Reconciler σ) (desired : Desired) (existing : Option String)
    (world : σ) :
    let calls := (r.reconcile desired existing world).session.calls
    (∀ before e after id ls, calls = before ++ e :: after → e.call = .installLibraries id ls →
      ls ≠ [] ∧ ls.Nodup ∧ ls.Sublist (distinct desired.libraries) ∧
        ∀ l ∈ ls, 0 < submissions before l → ∃ o, lastReport before = some o ∧
          ∀ status, lastStatus o l = some status →
            status = .failed ∨ status = .skipped ∨ status = .uninstallOnRestart) ∧
      ∀ l, submissions calls l ≤ max 1 r.options.attemptBudget := by
  intro calls
  have hs : Obeys (Sparing desired.libraries (max 1 r.options.attemptBudget)) calls :=
    r.reconcile_sparing desired existing world
  refine ⟨fun before e after id ls hsplit he => ?_, fun l => hs.countP_le fun before c hc hl => ?_⟩
  · have hmay := hs before e after hsplit
    rw [he] at hmay
    refine ⟨hmay.nonempty, hmay.nodup, hmay.sublist, fun l hl hpos => ?_⟩
    obtain ⟨o, ho, hwant⟩ := hmay.wanting l hl hpos
    have hneeds := isWanting_eq_true.1 hwant
    exact ⟨o, ho, fun status hst => InstallStatus.needsInstall_iff.1 (hneeds status hst)⟩
  · cases c with
    | installLibraries i ls => exact hc.within l (by simpa [Call.submits] using hl)
    | _ => cases hl

/-- The sample is running with a library too many, and its own one fails when it is first
submitted. -/
def crowdedWorld : Scene Simulation where
  state := (({} : Simulation).insert
    (SimulatedCluster.reshape { id := "c", phase := .running } sample.cluster)
    [{ library := .jar "old.jar", status := .installed }]).failInstall (.jar "a.jar") 1

theorem reconcile_submissions_crowded :
    let calls := ((simulated {} 9).reconcile sample (some "c") crowdedWorld).session.calls
    submissions calls (.jar "a.jar") ≤ 3 ∧
      ∃ before e after, calls = before ++ e :: after ∧
        e.call = .installLibraries "c" [.jar "a.jar"] ∧ submissions before (.jar "a.jar") = 1 ∧
        ∃ o, lastReport before = some o ∧ ∀ status, lastStatus o (.jar "a.jar") = some status →
          status = .failed ∨ status = .skipped ∨ status = .uninstallOnRestart := by
  intro calls
  obtain ⟨hcalls, hlimit⟩ := (simulated {} 9).reconcile_submissions sample (some "c") crowdedWorld
  have hsecond : calls[6]?.map (·.call) = some (.installLibraries "c" [.jar "a.jar"]) := by
    decide +kernel
  have hone : submissions (calls.take 6) (.jar "a.jar") = 1 := by decide +kernel
  obtain ⟨e, he, hcall⟩ := Option.map_eq_some_iff.1 hsecond
  obtain ⟨hlen, rfl⟩ := List.getElem?_eq_some_iff.1 he
  have hsplit : calls = calls.take 6 ++ calls[6] :: calls.drop 7 := by
    rw [List.getElem_cons_drop, List.take_append_drop]
  obtain ⟨-, -, -, hagain⟩ := hcalls _ _ _ _ _ hsplit hcall
  exact ⟨hlimit _, _, _, _, hsplit, hcall, hone, hagain _ (by simp) (by rw [hone]; decide)⟩

/-- No library is removed that is desired, none twice, and none that was not last reported with an
entry that can be removed. What the rounds keep in mind as removed is free of desired libraries and
of repetitions. -/
theorem reconcile_removals (r : Reconciler σ) (desired : Desired) (existing : Option String)
    (world : σ) :
    let calls := (r.reconcile desired existing world).session.calls
    (∀ before e after id ls, calls = before ++ e :: after → e.call = .uninstallLibraries id ls →
      ls.Nodup ∧ ∀ l ∈ ls, l ∉ desired.libraries ∧ ∃ o, lastReport before = some o ∧
        ∃ s ∈ o, s.library = l ∧ s.status ≠ .uninstallOnRestart ∧ s.forAllClusters = false) ∧
      (∀ l, removals calls l ≤ 1) ∧
      ∀ id observed s, ∀ w ∈ r.convergenceWaits id desired.libraries observed s,
        w.progress.removing.Nodup ∧ ∀ l ∈ w.progress.removing, l ∉ desired.libraries := by
  intro calls
  have hs : Obeys (Sparing desired.libraries (max 1 r.options.attemptBudget)) calls :=
    r.reconcile_sparing desired existing world
  refine ⟨fun before e after id ls hsplit he => ?_, fun l => hs.countP_le fun before c hc hl => ?_,
    fun id observed s w hw => ?_⟩
  · have hmay := hs before e after hsplit
    rw [he] at hmay
    refine ⟨hmay.nodup, fun l hl => ?_⟩
    obtain ⟨o, ho, st, hst, hr, rfl⟩ := hmay.removable l hl
    obtain ⟨hforeign, hall, hstatus⟩ := isRemovable_eq_true.1 hr
    exact ⟨hforeign, o, ho, st, hst, rfl, hstatus, hall⟩
  · cases c with
    | uninstallLibraries i ls =>
      have hzero := hc.once l (by simpa [Call.removes] using hl)
      exact Nat.lt_one_iff.2 hzero
    | _ => cases hl
  · have hrounds := r.rounds_libraryRounds id desired.libraries r.fuel
      ⟨observed, .ofBudget r.options.attemptBudget, []⟩ s
    have hw := hrounds.spares ⟨List.nodup_nil, by simp⟩ w hw
    exact ⟨hw.nodup, hw.foreign⟩

theorem reconcile_removals_crowded :
    let calls := ((simulated {} 9).reconcile sample (some "c") crowdedWorld).session.calls
    let ws := (simulated {} 9).convergenceWaits "c" sample.libraries
      [{ library := .jar "old.jar", status := .installed }]
      { world := crowdedWorld, cluster := some { id := "c", phase := .running } }
    (removals calls (.jar "old.jar") = 1 ∧ ∃ before e after, calls = before ++ e :: after ∧
      e.call = .uninstallLibraries "c" [.jar "old.jar"] ∧ .jar "old.jar" ∉ sample.libraries ∧
      ∃ o, lastReport before = some o ∧ ∃ s ∈ o, s.library = .jar "old.jar" ∧
        s.status ≠ .uninstallOnRestart ∧ s.forAllClusters = false) ∧
      ∃ w ∈ ws, w.progress.removing = [.jar "old.jar"] ∧ w.progress.removing.Nodup := by
  intro calls ws
  obtain ⟨hcalls, -, hwaits⟩ :=
    (simulated {} 9).reconcile_removals sample (some "c") crowdedWorld
  have hremoved : ∃ e ∈ calls, e.call = .uninstallLibraries "c" [.jar "old.jar"] := by
    decide +kernel
  have hkept : ∃ w ∈ ws, w.progress.removing = [.jar "old.jar"] := by decide +kernel
  obtain ⟨e, he, hcall⟩ := hremoved
  obtain ⟨before, after, hsplit⟩ := List.append_of_mem he
  obtain ⟨-, hold⟩ := hcalls before e after _ _ hsplit hcall
  obtain ⟨hforeign, hreported⟩ := hold (.jar "old.jar") (by simp)
  obtain ⟨w, hw, hremoving⟩ := hkept
  refine ⟨⟨by decide +kernel, before, e, after, hsplit, hcall, hforeign, hreported⟩, ?_⟩
  exact ⟨w, hw, hremoving, (hwaits _ _ _ w hw).1⟩

end Reconciler
end ClusterReconciliation
