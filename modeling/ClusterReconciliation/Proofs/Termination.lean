import ClusterReconciliation.Proofs.LibraryRounds
import ClusterReconciliation.Proofs.Simulated

/-! The rounds of the libraries come to an end. After its first wait a progress is at rest, and from
there a round ends the run or asks for a change. Each change takes an attempt of a desired library
or marks an undesired one, and there are only so many of either. -/
namespace ClusterReconciliation
open Run
variable {σ : Type}

def undesired (desired : List Library) (reported : List (List LibraryStatus)) : List Library :=
  distinct ((reported.flatten.map (·.library)).filter (!desired.contains ·))

theorem mem_undesired {desired : List Library} {reported : List (List LibraryStatus)}
    {l : Library} :
    l ∈ undesired desired reported ↔
      (∃ observed ∈ reported, ∃ s ∈ observed, s.library = l) ∧ l ∉ desired := by
  rw [undesired, mem_distinct, List.mem_filter]
  simp

/-- Attempts within the budget are bounded by it for each of the libraries. -/
theorem InstallAttempts.length_submitted_le {a : InstallAttempts} {ds : List Library}
    (hds : ∀ l ∈ a.submitted, l ∈ ds) (hb : ∀ l, a.used l ≤ a.budget) :
    a.submitted.length ≤ a.budget * (distinct ds).length := by
  have hsub : a.submitted.toFinset ⊆ (distinct ds).toFinset := fun l hl => by
    simpa using hds l (List.mem_toFinset.1 hl)
  calc a.submitted.length
      = ∑ l ∈ a.submitted.toFinset, a.submitted.count l :=
        (List.sum_toFinset_count_eq_length a.submitted).symm
    _ ≤ ∑ _l ∈ a.submitted.toFinset, a.budget := Finset.sum_le_sum fun l _ => hb l
    _ = a.submitted.toFinset.card * a.budget := by rw [Finset.sum_const, smul_eq_mul]
    _ ≤ (distinct ds).toFinset.card * a.budget :=
        Nat.mul_le_mul_right _ (Finset.card_le_card hsub)
    _ = a.budget * (distinct ds).length := by
        rw [List.toFinset_card_of_nodup (nodup_distinct ds), Nat.mul_comm]

namespace Progress
variable {desired us : List Library} {p : Progress}

/-- Libraries are submitted within the budget and removed at most once, the ones desired and the
others not. -/
structure Within (desired us : List Library) (budget : Nat) (p : Progress) : Prop where
  budget : p.attempts.budget = budget
  submitted : ∀ l ∈ p.attempts.submitted, l ∈ desired
  used : ∀ l, p.attempts.used l ≤ p.attempts.budget
  removing : ∀ l ∈ p.removing, l ∈ us
  nodup : p.removing.Nodup
  observed : ∀ s ∈ p.observed, s.library ∉ desired → s.library ∈ us

theorem Within.submitted_le {budget : Nat} (h : p.Within desired us budget) :
    p.attempts.submitted.length ≤ budget * (distinct desired).length :=
  h.budget ▸ InstallAttempts.length_submitted_le h.submitted h.used

theorem Within.removing_le {budget : Nat} (h : p.Within desired us budget) :
    p.removing.length ≤ us.length :=
  (h.nodup.subperm h.removing).length_le

theorem Within.start (desired us : List Library) (n : Nat) (observed : List LibraryStatus)
    (ho : ∀ s ∈ observed, s.library ∉ desired → s.library ∈ us) :
    Within desired us (max 1 n) ⟨observed, .ofBudget n, []⟩ where
  budget := Nat.max_comm n 1
  submitted := by simp [InstallAttempts.ofBudget]
  used := by simp [InstallAttempts.ofBudget, InstallAttempts.used]
  removing := by simp
  nodup := List.nodup_nil
  observed := ho

theorem Within.observe {budget : Nat} (h : p.Within desired us budget) {o : List LibraryStatus}
    (ho : ∀ s ∈ o, s.library ∉ desired → s.library ∈ us) :
    Within desired us budget { p with observed := o } :=
  { h with observed := ho }

theorem mem_diff_uninstall {l : Library} : l ∈ (p.diff desired).uninstall ↔
    (∃ s ∈ p.observed, isRemovable desired s = true ∧ s.library = l) ∧ l ∉ p.removing := by
  simp only [diff, List.mem_filter, mem_uninstall]
  simp

theorem nodup_diff_uninstall : (p.diff desired).uninstall.Nodup := nodup_uninstall.filter _

theorem submitted_after (d : LibraryDiff) :
    p.attempts.submitted.length + (!d.install.isEmpty).toNat ≤
      (p.after d).attempts.submitted.length := by
  have hd : (!d.install.isEmpty).toNat ≤ d.install.length := by cases d.install <;> simp
  have ha : (p.after d).attempts.submitted.length =
      p.attempts.submitted.length + d.install.length := List.length_append
  omega

theorem removing_after (d : LibraryDiff) :
    p.removing.length + (!d.uninstall.isEmpty).toNat ≤ (p.after d).removing.length := by
  have hd : (!d.uninstall.isEmpty).toNat ≤ d.uninstall.length := by cases d.uninstall <;> simp
  have ha : (p.after d).removing.length = p.removing.length + d.uninstall.length :=
    List.length_append
  omega

theorem nodup_removing_after (h : p.removing.Nodup) :
    (p.after (p.diff desired)).removing.Nodup := by
  refine List.nodup_append.2 ⟨h, nodup_diff_uninstall, fun a ha b hb hab => ?_⟩
  exact (mem_diff_uninstall.1 hb).2 (hab ▸ ha)

/-- What a difference asks for stays within the limits. -/
theorem Within.after {budget : Nat} (h : p.Within desired us budget) :
    (p.after (p.diff desired)).Within desired us budget where
  budget := h.budget
  submitted l hl := by
    rcases List.mem_append.1 hl with hl | hl
    · exact h.submitted l hl
    · exact (mem_install.1 hl).1
  used l := by
    change (p.attempts.record (p.diff desired).install).used l ≤ p.attempts.budget
    rw [InstallAttempts.used_record]
    by_cases hl : l ∈ (p.diff desired).install
    · have hone : (p.diff desired).install.count l = 1 :=
        List.count_eq_one_of_mem nodup_install hl
      have hlt : p.attempts.used l < p.attempts.budget := by
        simpa [InstallAttempts.allows] using (mem_install.1 hl).2.2
      omega
    · have hzero : (p.diff desired).install.count l = 0 := List.count_eq_zero_of_not_mem hl
      have hle := h.used l
      omega
  removing l hl := by
    rcases List.mem_append.1 hl with hl | hl
    · exact h.removing l hl
    · obtain ⟨⟨s, hs, hr, rfl⟩, -⟩ := mem_diff_uninstall.1 hl
      exact h.observed s hs (isRemovable_eq_true.1 hr).1
  nodup := nodup_removing_after h.nodup
  observed := h.observed

/-- Changes that a difference has room for leave room for it within the limits. -/
theorem Within.changes_le {budget : Nat} {es : List (Event σ)} (h : p.Within desired us budget)
    (hi : installs es ≤ (!(p.diff desired).install.isEmpty).toNat)
    (hu : uninstalls es ≤ (!(p.diff desired).uninstall.isEmpty).toNat) :
    installs es + p.attempts.submitted.length ≤ budget * (distinct desired).length ∧
      uninstalls es + p.removing.length ≤ us.length := by
  have hsub := h.after.submitted_le
  have hrem := h.after.removing_le
  have hone := submitted_after (p := p) (p.diff desired)
  have htwo := removing_after (p := p) (p.diff desired)
  omega

/-- What was observed last has come to rest. -/
def Resting (desired : List Library) (p : Progress) : Prop :=
  ReportedOnce p.observed ∧ isSettled desired [] p.removing p.observed = true

/-- From rest a round goes on only if there is something to ask for. -/
theorem Resting.asks (h : p.Resting desired)
    (hv : Reconciler.verdict desired p (p.diff desired) = .goOn) :
    (p.diff desired).isEmpty = false := by
  by_contra he
  rw [Bool.not_eq_false] at he
  obtain ⟨hi, hu⟩ : (p.diff desired).install = [] ∧ (p.diff desired).uninstall = [] := by
    simpa [LibraryDiff.isEmpty] using he
  have hx : isConverged desired p.observed = false ∧ (p.diff desired).exhausted = [] := by
    simp only [Reconciler.verdict, he, h.2] at hv
    cases hc : isConverged desired p.observed <;> simp_all
  have hw : ∀ l ∈ desired, isWanting p.observed l = false := by
    intro l hl
    by_contra hw
    rw [Bool.not_eq_false] at hw
    cases ha : p.attempts.allows l with
    | true => exact List.ne_nil_of_mem (mem_install.2 ⟨hl, hw, ha⟩) hi
    | false => exact List.ne_nil_of_mem (mem_exhausted.2 ⟨hl, hw, ha⟩) hx.2
  have hr : ∀ s ∈ p.observed, isRemovable desired s = true → s.library ∈ p.removing := by
    intro s hs hrem
    by_contra hn
    exact List.ne_nil_of_mem (mem_diff_uninstall.2 ⟨⟨s, hs, hrem, rfl⟩, hn⟩) hu
  have hc := isConverged_of_isSettled h.1.unanimous h.2 hw hr
  exact absurd hc (by simp [hx.1])

end Progress

def LibraryWait.asked (w : LibraryWait σ) : Nat :=
  installs (w.begun.since w.session) + uninstalls (w.begun.since w.session)

def LibraryWait.Returns (r : Reconciler σ) (id : String) (desired : List Library)
    (w : LibraryWait σ) : Prop :=
  (exec (r.endRound id desired w.progress w.diff) w.session).1 ≠ .error .unfinished

instance (r : Reconciler σ) (id : String) (desired : List Library) (w : LibraryWait σ) :
    Decidable (w.Returns r id desired) := inferInstanceAs (Decidable (_ ≠ _))

/-- What is asked for before a wait, by the progress with which its round begins. -/
structure LibraryWait.Asks (w : LibraryWait σ) (desired : List Library) (p : Progress)
    (es : List (Event σ)) : Prop where
  verdict : Reconciler.verdict desired p (p.diff desired) = .goOn
  asked : w.asked = installs es + uninstalls es
  installs : installs es = (!(p.diff desired).install.isEmpty).toNat
  uninstalls : uninstalls es = (!(p.diff desired).uninstall.isEmpty).toNat

/-- From rest a wait follows on a change that is asked for. -/
theorem LibraryWait.Asks.pos {w : LibraryWait σ} {desired : List Library} {p : Progress}
    {es : List (Event σ)} (h : w.Asks desired p es) (hp : p.Resting desired) : 0 < w.asked := by
  have he := hp.asks h.verdict
  rw [h.asked, h.installs, h.uninstalls]
  cases hx : (p.diff desired).install.isEmpty
  · simp
  · cases hy : (p.diff desired).uninstall.isEmpty
    · simp
    · simp [LibraryDiff.isEmpty, hx, hy] at he

theorem Reconciler.asks_of_beginRound {r : Reconciler σ} {id : String} {desired : List Library}
    {p p' : Progress} {d : LibraryDiff} {s t : Session σ}
    (hb : exec (r.beginRound id desired p) s = (.ok (some (p', d)), t)) :
    ∃ es, t.history = es ++ s.history ∧ (LibraryWait.mk s p' d t).Asks desired p es ∧
      d = p.diff desired ∧ p' = p.after d := by
  obtain ⟨es, hh, -, -, -, hok⟩ := r.exec_beginRound_events id desired p s
  obtain ⟨hv, rfl, rfl, hi, hu⟩ := hok p' d t hb
  rw [hb] at hh
  exact ⟨es, hh, ⟨hv, by rw [LibraryWait.asked, Session.since_eq hh], hi, hu⟩, rfl, rfl⟩

theorem length_le_asked {ws : List (LibraryWait σ)} (h : ∀ w ∈ ws.tail, 0 < w.asked) :
    ws.length ≤ 1 + (ws.map (·.asked)).sum := by
  cases ws with
  | nil => simp
  | cons w ws =>
    have hone : ∀ n ∈ ws.map (·.asked), 1 ≤ n := fun n hn => by
      obtain ⟨v, hv, rfl⟩ := List.mem_map.1 hn
      exact h v hv
    have hle := List.length_le_sum_of_one_le _ hone
    simp only [List.length_map] at hle
    simp only [List.length_cons, List.map_cons, List.sum_cons]
    omega

namespace Rounds
variable {r : Reconciler σ} {id : String} {desired : List Library} {fuel : Nat} {p : Progress}
  {s : Session σ} {x : Except Halt Unit × Session σ} {ws : List (LibraryWait σ)}

/-- What holds of the events of the last round, and still holds with those of each earlier round
added to it, holds of all events. -/
theorem exists_events (h : Rounds r id desired fuel p s x ws)
    {P : Progress → List (Event σ) → List (LibraryWait σ) → Prop}
    (last : ∀ p es, installs es ≤ (!(p.diff desired).install.isEmpty).toNat →
      uninstalls es ≤ (!(p.diff desired).uninstall.isEmpty).toNat → P p es [])
    (halted : ∀ p w es fs, w.Asks desired p es → installs fs = 0 → uninstalls fs = 0 →
      P p (fs ++ es) [w])
    (next : ∀ p w o es fs gs ws, w.Asks desired p es → installs fs = 0 → uninstalls fs = 0 →
      o ∈ reports fs →
      isSettled desired (p.diff desired).install (p.after (p.diff desired)).removing o = true →
      P { p.after (p.diff desired) with observed := o } gs ws → P p (gs ++ (fs ++ es)) (w :: ws)) :
    ∃ es, x.2.history = es ++ s.history ∧ P p es ws := by
  -- In each case the later events stand in front: those of the rounds to come, of the wait, of the
  -- calls before it.
  induction h with
  | spent p s => exact ⟨[], rfl, last p [] (Nat.zero_le _) (Nat.zero_le _)⟩
  | @converged fuel p s t hb =>
    obtain ⟨es, hh, -, hi, hu, -⟩ := r.exec_beginRound_events id desired p s
    exact ⟨es, by simpa [hb] using hh, last p es hi hu⟩
  | @refused fuel p s t h hb =>
    obtain ⟨es, hh, -, hi, hu, -⟩ := r.exec_beginRound_events id desired p s
    exact ⟨es, by simpa [hb] using hh, last p es hi hu⟩
  | @halted fuel p p' d s t u h hb he =>
    obtain ⟨es, hh, ha, -, -⟩ := Reconciler.asks_of_beginRound hb
    obtain ⟨fs, hf, hi, hu, -⟩ := r.exec_endRound_events id desired p' d t
    rw [he] at hf
    exact ⟨fs ++ es, by rw [hf, hh, List.append_assoc], halted p _ es fs ha hi hu⟩
  | @next fuel p p' q d s t u x ws hb he hr ih =>
    obtain ⟨es, hh, ha, rfl, rfl⟩ := Reconciler.asks_of_beginRound hb
    obtain ⟨fs, hf, hi, hu, hok⟩ := r.exec_endRound_events id desired (p.after (p.diff desired))
      (p.diff desired) t
    obtain ⟨gs, hg, hgs⟩ := ih
    obtain ⟨o, ho, hset, rfl⟩ := hok q u he
    rw [he] at hf
    refine ⟨gs ++ (fs ++ es), by rw [hg, hf, hh, List.append_assoc, List.append_assoc], ?_⟩
    exact next p _ o es fs gs ws ha hi hu ho hset hgs

/-- All changes are asked for before a wait or in the last round, and they keep to the limits. -/
theorem within (h : Rounds r id desired fuel p s x ws) (us : List Library) (budget : Nat) :
    ∃ es, x.2.history = es ++ s.history ∧
      ((∀ o ∈ reports es, ∀ s ∈ o, s.library ∉ desired → s.library ∈ us) →
        p.Within desired us budget →
        installs es + p.attempts.submitted.length ≤ budget * (distinct desired).length ∧
          uninstalls es + p.removing.length ≤ us.length) := by
  refine h.exists_events (P := fun p es _ =>
    (∀ o ∈ reports es, ∀ s ∈ o, s.library ∉ desired → s.library ∈ us) →
      p.Within desired us budget →
      installs es + p.attempts.submitted.length ≤ budget * (distinct desired).length ∧
        uninstalls es + p.removing.length ≤ us.length) ?last ?halted ?next
  case last => exact fun p es hi hu _ hp => hp.changes_le hi hu
  case halted =>
    intro p w es fs ha hi hu _ hp
    refine hp.changes_le ?_ ?_
    · rw [installs_append, hi, Nat.zero_add, ha.installs]
    · rw [uninstalls_append, hu, Nat.zero_add, ha.uninstalls]
  case next =>
    intro p w o es fs gs ws ha hi hu ho _ hgs hcov hp
    simp only [reports_append, List.mem_append] at hcov
    have hlim : installs gs + (p.after (p.diff desired)).attempts.submitted.length ≤
        budget * (distinct desired).length ∧
          uninstalls gs + (p.after (p.diff desired)).removing.length ≤ us.length :=
      hgs (fun o ho => hcov o (.inl ho)) (hp.after.observe (hcov o (.inr (.inl ho))))
    have hone := Progress.submitted_after (p := p) (p.diff desired)
    have htwo := Progress.removing_after (p := p) (p.diff desired)
    have hes := ha.installs
    have hes' := ha.uninstalls
    simp only [installs_append, uninstalls_append]
    omega

/-- What is asked for before the waits is all there is to count. -/
theorem asked_le (h : Rounds r id desired fuel p s x ws) :
    ∃ es, x.2.history = es ++ s.history ∧
      (ws.map (·.asked)).sum ≤ installs es + uninstalls es := by
  refine h.exists_events (P := fun _ es ws => (ws.map (·.asked)).sum ≤ installs es + uninstalls es)
    ?last ?halted ?next
  case last => exact fun p es _ _ => Nat.zero_le _
  case halted =>
    intro p w es fs ha _ _
    simp only [List.map_cons, List.map_nil, List.sum_cons, List.sum_nil, ha.asked, installs_append,
      uninstalls_append]
    omega
  case next =>
    intro p w o es fs gs ws ha _ _ _ _ hle
    simp only [List.map_cons, List.sum_cons, ha.asked, installs_append, uninstalls_append]
    omega

/-- From rest every wait follows on a change that was asked for; in any case all but the first
wait do. -/
theorem asked_pos (h : Rounds r id desired fuel p s x ws) :
    ∃ es, x.2.history = es ++ s.history ∧ ((∀ o ∈ reports es, ReportedOnce o) →
      (p.Resting desired → ∀ w ∈ ws, 0 < w.asked) ∧ ∀ w ∈ ws.tail, 0 < w.asked) := by
  refine h.exists_events (P := fun p es ws => (∀ o ∈ reports es, ReportedOnce o) →
    (p.Resting desired → ∀ w ∈ ws, 0 < w.asked) ∧ ∀ w ∈ ws.tail, 0 < w.asked) ?last ?halted ?next
  case last => exact fun p es _ _ _ => ⟨by simp, by simp⟩
  case halted => exact fun p w es fs ha _ _ _ => ⟨fun hp => by simpa using ha.pos hp, by simp⟩
  case next =>
    intro p w o es fs gs ws ha _ _ ho hs hpos honce
    simp only [reports_append, List.mem_append] at honce
    -- The wait of this round leaves the progress of the next one at rest.
    have hrest : Progress.Resting desired { p.after (p.diff desired) with observed := o } :=
      ⟨honce o (.inr (.inl ho)), isSettled_nil hs⟩
    have hws := (hpos fun o ho => honce o (.inl ho)).1 hrest
    refine ⟨fun hp v hv => ?_, hws⟩
    rcases List.mem_cons.1 hv with rfl | hv
    · exact ha.pos hp
    · exact hws v hv

/-- Rounds that run out of fuel have used it up, if all of their waits return. -/
theorem length_of_unfinished (h : Rounds r id desired fuel p s x ws) (hx : x.1 = .error .unfinished)
    (hr : ∀ w ∈ ws, w.Returns r id desired) : ws.length = fuel := by
  induction h with
  | spent p s => rfl
  | converged fuel hb => cases hx
  | @refused fuel p s t h hb =>
    cases hx
    exact absurd (congrArg Prod.fst hb) (r.decides_beginRound id desired p s)
  | @halted fuel p p' d s t u h hb he =>
    cases hx
    have hw := hr _ (List.mem_singleton.2 rfl)
    exact absurd (congrArg Prod.fst he) hw
  | @next fuel p p' q d s t u x ws hb he _ ih =>
    rw [List.length_cons, ih hx fun w hw => hr w (List.mem_cons_of_mem _ hw)]

end Rounds

namespace Reconciler
variable (r : Reconciler σ)

/-- The waits that a call to converge the libraries starts, in order. -/
def convergenceWaits (id : String) (desired : List Library) (observed : List LibraryStatus)
    (s : Session σ) : List (LibraryWait σ) :=
  r.libraryWaits id desired r.fuel ⟨observed, .ofBudget r.options.attemptBudget, []⟩ s

/-- Whatever a control plane answers that reports no library twice at once, all waits but the first
follow on a change, and the changes and waits are bounded by the budget and the libraries involved.
With fuel for the rounds the libraries are through whenever their waits are. -/
theorem convergeLibraries_bounded (id : String) (desired : List Library)
    (observed : List LibraryStatus) (s : Session σ) :
    let x := exec (r.convergeLibraries id desired observed) s
    let es := s.since x.2
    let ws := r.convergenceWaits id desired observed s
    let limit := max 1 r.options.attemptBudget * (distinct desired).length
    let others := (undesired desired (observed :: reports es)).length
    (∀ report ∈ reports es, ReportedOnce report) →
      (∀ w ∈ ws.tail, 0 < w.asked) ∧ installs es ≤ limit ∧ uninstalls es ≤ others ∧
        ws.length ≤ 1 + limit + others ∧
        ((∀ w ∈ ws, w.Returns r id desired) → 1 + limit + others < r.fuel →
          x.1 ≠ .error .unfinished) := by
  intro x es ws limit others once
  have hr : Rounds r id desired r.fuel ⟨observed, .ofBudget r.options.attemptBudget, []⟩ s x ws :=
    r.rounds_libraryRounds id desired r.fuel _ s
  obtain ⟨es₁, h₁, hbound⟩ := hr.within (undesired desired (observed :: reports es))
    (max 1 r.options.attemptBudget)
  obtain ⟨es₂, h₂, hsum⟩ := hr.asked_le
  obtain ⟨es₃, h₃, hpos⟩ := hr.asked_pos
  -- All three are about the events that the run adds.
  obtain rfl : es₁ = es := (Session.since_eq h₁).symm
  obtain rfl : es₂ = es := (Session.since_eq h₂).symm
  obtain rfl : es₃ = es := (Session.since_eq h₃).symm
  have hreported : ∀ o ∈ observed :: reports es, ∀ s ∈ o, s.library ∉ desired →
      s.library ∈ undesired desired (observed :: reports es) :=
    fun o ho s hs hl => mem_undesired.2 ⟨⟨o, ho, s, hs, rfl⟩, hl⟩
  have hstart := Progress.Within.start desired _ r.options.attemptBudget observed
    (hreported observed List.mem_cons_self)
  obtain ⟨hi, hu⟩ := hbound (fun o ho => hreported o (List.mem_cons_of_mem _ ho)) hstart
  have hinstalls : installs es ≤ limit := le_trans (Nat.le_add_right _ _) hi
  have huninstalls : uninstalls es ≤ others := le_trans (Nat.le_add_right _ _) hu
  have htail := (hpos once).2
  have hlen := length_le_asked htail
  refine ⟨htail, hinstalls, huninstalls, by omega, fun hret hfuel hunf => ?_⟩
  have hf := hr.length_of_unfinished hunf hret
  omega

/-- A running cluster with a library too many, where the first submission of another one fails. -/
def unsteady : Session (Scene Simulation) :=
  let info : Cluster.Info := { id := "c", phase := .running }
  let old : LibraryStatus := { library := .jar "old", status := .installed }
  let simulation := (({} : Simulation).insert info [old]).failInstall (.jar "new") 1
  { world := { state := simulation }, cluster := some info, libraries := [old] }

/-- How that other library takes the place of the one too many. -/
def unsteadyRun : Except Halt Unit × Session (Scene Simulation) :=
  exec ((simulated {} 9).convergeLibraries "c" [.jar "new"] unsteady.libraries) unsteady

def unsteadyWaits : List (LibraryWait (Scene Simulation)) :=
  (simulated {} 9).convergenceWaits "c" [.jar "new"] unsteady.libraries unsteady

theorem convergeLibraries_bounded_unsteady :
    (∀ report ∈ reports (unsteady.since unsteadyRun.2), ReportedOnce report) ∧
      unsteadyWaits.length = 2 ∧ (∀ w ∈ unsteadyWaits.tail, 0 < w.asked) ∧
      installs (unsteady.since unsteadyRun.2) ≤ 3 ∧
      uninstalls (unsteady.since unsteadyRun.2) ≤ 1 ∧ unsteadyWaits.length ≤ 5 ∧
      unsteadyRun.1 ≠ .error .unfinished := by
  have once : ∀ report ∈ reports (unsteady.since unsteadyRun.2), ReportedOnce report := by
    decide +kernel
  have hothers : (undesired [.jar "new"] (unsteady.libraries ::
      reports (unsteady.since unsteadyRun.2))).length = 1 := by decide +kernel
  have hreturns : ∀ w ∈ unsteadyWaits, w.Returns (simulated {} 9) "c" [.jar "new"] := by
    decide +kernel
  obtain ⟨htail, hi, hu, hlen, hret⟩ := (simulated {} 9).convergeLibraries_bounded "c"
    [.jar "new"] unsteady.libraries unsteady once
  rw [← unsteadyRun, hothers] at hu hlen hret
  exact ⟨once, by decide +kernel, htail, hi, hu, hlen, hret hreturns (by decide +kernel)⟩

end Reconciler
end ClusterReconciliation
