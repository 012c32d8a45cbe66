import ClusterReconciliation.Proofs.SimulatedWaits

/-! What becomes of libraries that are submitted as often as they are needed. Before each round the
attempts made so far and the failures still to come tell the status of every library that is wanted,
and a round makes one more attempt with each of them that has failed. -/
namespace ClusterReconciliation
open Run
variable {options : Options} {fuel : Nat} {s t : Session (Scene Simulation)} {id : String}
  {v w : View}

/-- How a library is reported after its submission has come to rest, with so many failures left. -/
def LibraryStatus.attempted (l : Library) (failures : Nat) : LibraryStatus where
  library := l
  status := if failures = 0 then .installed else .failed

namespace View

theorem finals_submit (v : View) (l : Library) : (v.submit l).cluster.finals =
    v.cluster.finals.filter (·.library != l) ++ [.attempted l (v.failing l)] := by
  simp only [submit, SimulatedCluster.submit, SimulatedCluster.finals, List.map_append,
    List.filter_map]
  rfl

theorem mem_finals_submitAll (v : View) {ls : List Library} (hn : ls.Nodup) (x : LibraryStatus) :
    x ∈ (v.submitAll ls).cluster.finals ↔ x ∈ v.cluster.finals ∧ x.library ∉ ls ∨
      x.library ∈ ls ∧ x = .attempted x.library (v.failing x.library) := by
  induction ls generalizing v with
  | nil => simp [submitAll]
  | cons l ls ih =>
    obtain ⟨hl, hn⟩ := List.nodup_cons.1 hn
    change x ∈ ((v.submit l).submitAll ls).cluster.finals ↔ _
    rw [ih _ hn, finals_submit]
    by_cases hx : x.library = l
    · simp [hx, hl]
    · have hfail : (v.submit l).failing x.library = v.failing x.library :=
        Function.update_of_ne hx _ _
      have hne : x ≠ .attempted l (v.failing l) := fun h => hx (congrArg (·.library) h)
      simp [hx, hfail, hne]

theorem failing_submitAll (v : View) (ls : List Library) (l : Library) :
    (v.submitAll ls).failing l = v.failing l - ls.count l := by
  induction ls generalizing v with
  | nil => rfl
  | cons k ls ih =>
    change ((v.submit k).submitAll ls).failing l = _
    rw [ih]
    by_cases hk : l = k
    · subst hk
      simp [submit]
      omega
    · have hk' : ¬k = l := fun h => hk h.symm
      simp [submit, hk, hk']

theorem reportedOnce_submitAll (h : ReportedOnce v.cluster.finals) (ls : List Library) :
    ReportedOnce (v.submitAll ls).cluster.finals := by
  induction ls generalizing v with
  | nil => exact h
  | cons l ls ih =>
    refine ih ?_
    rw [finals_submit, ReportedOnce, List.map_append]
    refine List.Nodup.append (List.Nodup.sublist (List.filter_sublist.map _) h) ?_ ?_
    · simp
    · simp [LibraryStatus.attempted]

theorem finals_remove (v : View) (ls : List Library) : (v.cluster.remove ls).finals =
    v.cluster.finals.map fun x =>
      if x.library ∈ ls then { x with status := .uninstallOnRestart } else x := by
  simp only [SimulatedCluster.remove, SimulatedCluster.finals, List.map_map]
  refine List.map_congr_left fun l _ => ?_
  simp only [Function.comp_apply, SimulatedLibrary.final, List.contains_iff_mem]
  split_ifs <;> rfl

/-- What a library is reported with after the calls of a round. -/
theorem mem_finals_asked {d : LibraryDiff} (hi : d.install.Nodup) (x : LibraryStatus) :
    x ∈ (v.asked d).cluster.finals ↔
      (∃ y ∈ v.cluster.finals, y.library ∉ d.install ∧
        x = if y.library ∈ d.uninstall then { y with status := .uninstallOnRestart } else y) ∨
      x.library ∈ d.install ∧ x = .attempted x.library (v.failing x.library) := by
  rw [asked, mem_finals_submitAll _ hi]
  refine or_congr ?_ Iff.rfl
  change x ∈ (v.cluster.remove d.uninstall).finals ∧ _ ↔ _
  rw [finals_remove, List.mem_map]
  constructor
  · rintro ⟨⟨y, hy, rfl⟩, hx⟩
    refine ⟨y, hy, ?_, rfl⟩
    split_ifs at hx <;> exact hx
  · rintro ⟨y, hy, hn, rfl⟩
    refine ⟨⟨y, hy, rfl⟩, ?_⟩
    split_ifs <;> exact hn

theorem failing_asked (d : LibraryDiff) (l : Library) :
    (v.asked d).failing l = v.failing l - d.install.count l := failing_submitAll _ _ l

theorem reportedOnce_asked (h : ReportedOnce v.cluster.finals) (d : LibraryDiff) :
    ReportedOnce (v.asked d).cluster.finals := by
  refine reportedOnce_submitAll ?_ _
  change ReportedOnce (v.cluster.remove d.uninstall).finals
  have hl : ((fun x : LibraryStatus => x.library) ∘ fun x : LibraryStatus =>
      if x.library ∈ d.uninstall then { x with status := .uninstallOnRestart } else x) =
        (·.library) := by
    funext x
    simp only [Function.comp_apply]
    split_ifs <;> rfl
  rw [ReportedOnce, finals_remove, List.map_map, hl]
  exact h

@[simp] theorem polls_submitAll (v : View) (ls : List Library) :
    (v.submitAll ls).polls = v.polls := by
  induction ls generalizing v with
  | nil => rfl
  | cons l ls ih => exact ih (v.submit l)

/-- What moves was submitted. -/
theorem moves_submitAll {S ls : List Library} (hS : ∀ l ∈ ls, l ∈ S)
    (h : ∀ m ∈ v.cluster.libraries, ¬m.IsAtRest → m.reported.library ∈ S) :
    ∀ m ∈ (v.submitAll ls).cluster.libraries, ¬m.IsAtRest → m.reported.library ∈ S := by
  induction ls generalizing v with
  | nil => exact h
  | cons l ls ih =>
    refine ih (v := v.submit l) (fun k hk => hS k (List.mem_cons_of_mem l hk)) fun m hm hn => ?_
    rcases List.mem_append.1 hm with hm | hm
    · exact h m (List.mem_filter.1 hm).1 hn
    · rw [List.mem_singleton.1 hm]
      exact hS l List.mem_cons_self

theorem moves_asked (h : ∀ l ∈ v.cluster.libraries, l.IsAtRest) (d : LibraryDiff) :
    ∀ m ∈ (v.asked d).cluster.libraries, ¬m.IsAtRest → m.reported.library ∈ d.install :=
  moves_submitAll (fun _ hl => hl) fun m hm hn =>
    absurd (SimulatedCluster.isAtRest_remove h d.uninstall m hm) hn

/-- What a round asks for does not take longer than a transition. -/
theorem timely_asked (h : ∀ l ∈ v.cluster.libraries, l.IsAtRest) (d : LibraryDiff) :
    ∀ m ∈ (v.asked d).cluster.libraries, m.Timely v.polls :=
  submitAll_timely (v := v.withCluster (v.cluster.remove d.uninstall))
    (fun m hm => (SimulatedCluster.isAtRest_remove h d.uninstall m hm).timely v.polls) d.install

end View
/-- What holds before a round, when so many went before it. The wanted libraries are those to be
submitted at first, and the failures are those that were to come at first. -/
structure Attempting (desired wanted : List Library) (failures : Library → Nat) (i : Nat)
    (p : Progress) (v : View) : Prop where
  rest : ∀ l ∈ v.cluster.libraries, l.IsAtRest
  once : ReportedOnce v.cluster.finals
  observed : p.observed = v.cluster.statuses
  budget : 0 < p.attempts.budget
  subset : ∀ l ∈ wanted, l ∈ desired
  used : ∀ l, p.attempts.used l =
    if l ∈ wanted then min i (min (failures l + 1) p.attempts.budget) else 0
  failing : ∀ l, v.failing l = failures l - p.attempts.used l
  wanting : ∀ l ∈ desired,
    (isWanting v.cluster.finals l = true ↔ l ∈ wanted ∧ p.attempts.used l ≤ failures l)
  still : ∀ x ∈ v.cluster.finals, x.library ∈ desired → x.status.isInFlight = false
  removing : ∀ x ∈ v.cluster.finals, x.library ∈ p.removing → x.status = .uninstallOnRestart
  others : ∀ l ∈ p.removing, l ∉ desired
  gone : 0 < i → ∀ x ∈ v.cluster.finals, isRemovable desired x = false

namespace Attempting
variable {desired wanted : List Library} {failures : Library → Nat} {i : Nat} {p : Progress}

theorem finals_eq (h : Attempting desired wanted failures i p v) :
    v.cluster.finals = p.observed.map (·.bare) := by
  rw [h.observed, SimulatedCluster.finals_eq h.rest]

theorem mem_install (h : Attempting desired wanted failures i p v) {l : Library} :
    l ∈ (p.diff desired).install ↔
      l ∈ wanted ∧ p.attempts.used l ≤ failures l ∧ p.attempts.used l < p.attempts.budget := by
  refine ClusterReconciliation.mem_install.trans ?_
  rw [← isWanting_bare, ← h.finals_eq]
  simp only [InstallAttempts.allows, decide_eq_true_eq]
  constructor
  · rintro ⟨hl, hw, ha⟩
    exact ⟨((h.wanting l hl).1 hw).1, ((h.wanting l hl).1 hw).2, ha⟩
  · rintro ⟨hw, hf, ha⟩
    exact ⟨h.subset l hw, (h.wanting l (h.subset l hw)).2 ⟨hw, hf⟩, ha⟩

theorem mem_uninstall (h : Attempting desired wanted failures i p v) {l : Library} :
    l ∈ (p.diff desired).uninstall ↔
      ∃ x ∈ v.cluster.finals, isRemovable desired x = true ∧ x.library = l := by
  have hd : (p.diff desired).uninstall =
      (diffLibraries desired v.cluster.finals p.attempts).uninstall.filter
        (!p.removing.contains ·) := by
    rw [h.finals_eq, diffLibraries_bare]
    rfl
  rw [hd, List.mem_filter, ClusterReconciliation.mem_uninstall]
  refine ⟨fun hl => hl.1, fun hl => ⟨hl, ?_⟩⟩
  obtain ⟨x, hx, hr, rfl⟩ := hl
  have hn : x.library ∉ p.removing := fun hm =>
    (isRemovable_eq_true.1 hr).2.2 (h.removing x hx hm)
  simpa using hn

theorem nodup_install (p : Progress) (desired : List Library) :
    (p.diff desired).install.Nodup := ClusterReconciliation.nodup_install

theorem count_install (h : Attempting desired wanted failures i p v) (l : Library) :
    (p.diff desired).install.count l =
      if l ∈ wanted ∧ p.attempts.used l ≤ failures l ∧ p.attempts.used l < p.attempts.budget
      then 1 else 0 := by
  split_ifs with hl
  · exact List.count_eq_one_of_mem (nodup_install p desired) (h.mem_install.2 hl)
  · exact List.count_eq_zero_of_not_mem fun hm => hl (h.mem_install.1 hm)

/-- Every failed attempt is repeated as long as the budget lasts. -/
theorem used_next (h : Attempting desired wanted failures i p v) (l : Library) :
    (p.after (p.diff desired)).attempts.used l =
      if l ∈ wanted then min (i + 1) (min (failures l + 1) p.attempts.budget) else 0 := by
  have hu := h.used l
  rw [Progress.after, InstallAttempts.used_record, h.count_install]
  by_cases hl : l ∈ wanted
  · simp only [hl, true_and, if_true] at hu ⊢
    split_ifs <;> omega
  · simp only [hl, false_and, if_false] at hu ⊢
    omega

theorem mem_finals_of_not_mem_install (h : Attempting desired wanted failures i p v)
    {x : LibraryStatus} (hd : x.library ∈ desired) (hi : x.library ∉ (p.diff desired).install) :
    x ∈ (v.asked (p.diff desired)).cluster.finals ↔ x ∈ v.cluster.finals := by
  rw [View.mem_finals_asked (nodup_install p desired)]
  have hu : ∀ y : LibraryStatus, y.library ∈ desired → y.library ∉ (p.diff desired).uninstall := by
    intro y hy hm
    obtain ⟨z, -, hr, hz⟩ := h.mem_uninstall.1 hm
    exact (isRemovable_eq_true.1 hr).1 (hz ▸ hy)
  constructor
  · rintro (⟨y, hy, -, rfl⟩ | ⟨hx, -⟩)
    · split_ifs at hd ⊢ with hm
      · exact absurd hm (hu y hd)
      · exact hy
    · exact absurd hx hi
  · intro hx
    exact .inl ⟨x, hx, hi, by rw [if_neg (hu x hd)]⟩

/-- A library that was submitted wants another attempt exactly if it was to fail. -/
theorem isWanting_next (h : Attempting desired wanted failures i p v) {l : Library}
    (hl : l ∈ desired) :
    isWanting (v.asked (p.diff desired)).cluster.finals l = true ↔
      l ∈ wanted ∧ (p.after (p.diff desired)).attempts.used l ≤ failures l := by
  have honce := View.reportedOnce_asked h.once (p.diff desired)
  rw [Progress.after, InstallAttempts.used_record, h.count_install]
  -- A submission replaces the entry of its library; all other entries of desired ones stay.
  by_cases hi : l ∈ (p.diff desired).install
  · have hmem : LibraryStatus.attempted l (v.failing l) ∈
        (v.asked (p.diff desired)).cluster.finals :=
      (View.mem_finals_asked (nodup_install p desired) _).2 (.inr ⟨hi, rfl⟩)
    have hlast := honce.lastStatus_eq hmem
    have hin := h.mem_install.1 hi
    have hf := h.failing l
    rw [if_pos hin]
    change lastStatus _ l = _ at hlast
    simp only [isWanting, hlast, LibraryStatus.attempted]
    split_ifs with hz
    · simp only [InstallStatus.needsInstall, InstallStatus.isFailed, hin.1, true_and]
      simp
      omega
    · simp only [InstallStatus.needsInstall, InstallStatus.isFailed, hin.1, true_and]
      simp
      omega
  · have hsame : isWanting (v.asked (p.diff desired)).cluster.finals l =
        isWanting v.cluster.finals l := by
      have hlast : lastStatus _ l = lastStatus v.cluster.finals l := honce.lastStatus_congr
        fun x hx => h.mem_finals_of_not_mem_install (hx ▸ hl) (hx ▸ hi)
      simp only [isWanting, hlast]
    rw [hsame, if_neg fun hin => hi (h.mem_install.2 hin)]
    exact h.wanting l hl

/-- An entry after a round is an earlier one, perhaps removed, or that of an attempt. -/
theorem mem_finals_next (h : Attempting desired wanted failures i p v) {x : LibraryStatus}
    (hx : x ∈ (v.asked (p.diff desired)).cluster.finals) :
    x ∈ v.cluster.finals ∧ x.library ∉ (p.diff desired).uninstall ∨
      x.library ∉ desired ∧ x.status = .uninstallOnRestart ∨
      x.library ∈ desired ∧ x = .attempted x.library (v.failing x.library) := by
  rcases (View.mem_finals_asked (nodup_install p desired) x).1 hx with ⟨y, hy, -, rfl⟩ | ⟨hi, ha⟩
  · split_ifs with hm
    · obtain ⟨z, -, hr, hz⟩ := h.mem_uninstall.1 hm
      exact .inr (.inl ⟨hz ▸ (isRemovable_eq_true.1 hr).1, rfl⟩)
    · exact .inl ⟨hy, hm⟩
  · exact .inr (.inr ⟨h.subset _ (h.mem_install.1 hi).1, ha⟩)

theorem still_next (h : Attempting desired wanted failures i p v) {x : LibraryStatus}
    (hx : x ∈ (v.asked (p.diff desired)).cluster.finals) (hd : x.library ∈ desired) :
    x.status.isInFlight = false := by
  rcases h.mem_finals_next hx with ⟨hx, -⟩ | ⟨hn, -⟩ | ⟨-, he⟩
  · exact h.still x hx hd
  · exact absurd hd hn
  · rw [he, LibraryStatus.attempted]
    dsimp only
    split_ifs <;> rfl

theorem others_next (h : Attempting desired wanted failures i p v) :
    ∀ l ∈ (p.after (p.diff desired)).removing, l ∉ desired := by
  intro l hl
  rcases List.mem_append.1 hl with hl | hl
  · exact h.others l hl
  · obtain ⟨z, -, hz, he⟩ := h.mem_uninstall.1 hl
    exact he ▸ (isRemovable_eq_true.1 hz).1

theorem removing_next (h : Attempting desired wanted failures i p v) {x : LibraryStatus}
    (hx : x ∈ (v.asked (p.diff desired)).cluster.finals)
    (hr : x.library ∈ (p.after (p.diff desired)).removing) : x.status = .uninstallOnRestart := by
  have hn := h.others_next _ hr
  rcases h.mem_finals_next hx with ⟨hx, hu⟩ | ⟨-, hs⟩ | ⟨hd, -⟩
  · rcases List.mem_append.1 hr with hr | hr
    · exact h.removing x hx hr
    · exact absurd hr hu
  · exact hs
  · exact absurd hd hn

/-- Once the libraries have come to rest, the wait of the round is over. -/
theorem isSettled_next (h : Attempting desired wanted failures i p v) :
    isSettled desired (p.diff desired).install (p.after (p.diff desired)).removing
      (v.asked (p.diff desired)).cluster.finals = true := by
  refine isSettled_iff.2 ⟨fun l hl => ?_, fun l hl s hs => ?_, fun l hl s hs => ?_⟩
  · have hx : LibraryStatus.attempted l (v.failing l) ∈
        (v.asked (p.diff desired)).cluster.finals :=
      (View.mem_finals_asked (nodup_install p desired) _).2 (.inr ⟨hl, rfl⟩)
    exact ⟨_, (View.reportedOnce_asked h.once _).firstStatus_eq hx,
      h.still_next hx (h.subset l (h.mem_install.1 hl).1)⟩
  · obtain ⟨x, hx, rfl, rfl⟩ := exists_of_firstStatus hs
    exact h.still_next hx hl
  · obtain ⟨x, hx, rfl, rfl⟩ := exists_of_firstStatus hs
    exact h.removing_next hx hl

theorem next (h : Attempting desired wanted failures i p v)
    (ha : (v.asked (p.diff desired)).Alike w) (hw : ∀ l ∈ w.cluster.libraries, l.IsAtRest) :
    Attempting desired wanted failures (i + 1)
      { p.after (p.diff desired) with observed := w.cluster.statuses } w where
  rest := hw
  once := ha.finals ▸ View.reportedOnce_asked h.once (p.diff desired)
  observed := rfl
  budget := h.budget
  subset := h.subset
  used := h.used_next
  failing l := by
    have hf := h.failing l
    rw [ha.failing, View.failing_asked, hf, Progress.after, InstallAttempts.used_record]
    omega
  wanting l hl := by
    rw [ha.finals]
    exact h.isWanting_next hl
  still x hx := h.still_next (ha.finals ▸ hx)
  removing x hx := h.removing_next (ha.finals ▸ hx)
  others := h.others_next
  gone _ x hx := by
    rw [ha.finals] at hx
    by_contra hr
    rw [Bool.not_eq_false] at hr
    obtain ⟨hd, -, hs⟩ := isRemovable_eq_true.1 hr
    rcases h.mem_finals_next hx with ⟨hx, hu⟩ | ⟨-, hs'⟩ | ⟨hd', -⟩
    · exact hu (h.mem_uninstall.2 ⟨x, hx, hr, rfl⟩)
    · exact hs hs'
    · exact hd hd'

/-- After as many rounds as the budget allows, nothing is left to ask for. -/
theorem lt_of_not_isEmpty (h : Attempting desired wanted failures i p v)
    (hd : (p.diff desired).isEmpty = false) : i < p.attempts.budget := by
  by_contra hi
  have hpos := h.budget
  have hinstall : (p.diff desired).install = [] := by
    refine List.eq_nil_iff_forall_not_mem.2 fun l hl => ?_
    obtain ⟨hw, hf, hb⟩ := h.mem_install.1 hl
    have hu := h.used l
    rw [if_pos hw] at hu
    omega
  have huninstall : (p.diff desired).uninstall = [] := by
    refine List.eq_nil_iff_forall_not_mem.2 fun l hl => ?_
    obtain ⟨x, hx, hr, -⟩ := h.mem_uninstall.1 hl
    rw [h.gone (by omega) x hx] at hr
    cases hr
  rw [LibraryDiff.isEmpty_iff.2 ⟨hinstall, huninstall⟩] at hd
  cases hd

section Finished
variable (h : Attempting desired wanted failures i p v) (he : (p.diff desired).isEmpty = true)
include h he

theorem used_of_isEmpty (l : Library) : p.attempts.used l =
    if l ∈ wanted then min (failures l + 1) p.attempts.budget else 0 := by
  have hu := h.used l
  have hn : l ∉ (p.diff desired).install := by simp [(LibraryDiff.isEmpty_iff.1 he).1]
  rw [h.mem_install] at hn
  by_cases hl : l ∈ wanted
  · simp only [hl, true_and, if_true] at hu hn ⊢
    omega
  · simpa only [hl, if_false] using hu

theorem not_removable_of_isEmpty : ∀ x ∈ v.cluster.finals, isRemovable desired x = false := by
  intro x hx
  by_contra hr
  have hm := h.mem_uninstall.2 ⟨x, hx, by simpa using hr, rfl⟩
  rw [(LibraryDiff.isEmpty_iff.1 he).2] at hm
  cases hm

/-- What is left wanting has used up its attempts. -/
theorem isWanting_of_isEmpty {l : Library} (hl : l ∈ desired) :
    isWanting v.cluster.finals l = true ↔ l ∈ wanted ∧ p.attempts.budget ≤ failures l := by
  rw [h.wanting l hl, h.used_of_isEmpty he]
  refine and_congr_right fun hw => ?_
  rw [if_pos hw]
  omega

theorem exhausted_eq {P : Library → Bool} (hw : wanted = (distinct desired).filter P) :
    (p.diff desired).exhausted = wanted.filter (p.attempts.budget ≤ failures ·) := by
  have hd : (p.diff desired).exhausted =
      (diffLibraries desired v.cluster.finals p.attempts).exhausted := by
    rw [h.finals_eq, diffLibraries_bare]
    rfl
  rw [hd, diffLibraries, hw]
  dsimp only
  rw [List.filter_filter, List.filter_filter]
  refine List.filter_congr fun l hl => ?_
  have hmem : l ∈ wanted ↔ P l = true := by
    rw [hw, List.mem_filter]
    exact and_iff_right hl
  have hiff := h.isWanting_of_isEmpty he (mem_distinct.1 hl)
  have hu := h.used_of_isEmpty he l
  rw [Bool.eq_iff_iff]
  simp only [Bool.and_eq_true, Bool.not_eq_true', InstallAttempts.allows, decide_eq_false_iff_not,
    decide_eq_true_eq, hiff, ← hmem]
  constructor
  · rintro ⟨-, hl, hb⟩
    exact ⟨hb, hl⟩
  · rintro ⟨hb, hl⟩
    rw [if_pos hl] at hu
    exact ⟨by omega, hl, hb⟩

theorem isConverged_of_isEmpty :
    isConverged desired p.observed = true ↔ ∀ l ∈ wanted, failures l < p.attempts.budget := by
  rw [← isConverged_bare, ← h.finals_eq, isConverged_iff]
  constructor
  · rintro ⟨hd, -⟩ l hl
    by_contra hb
    obtain ⟨x, hx, rfl, hs⟩ := hd l (h.subset l hl)
    have hw := (h.isWanting_of_isEmpty he (h.subset _ hl)).2 ⟨hl, by omega⟩
    rw [isWanting, h.once.lastStatus_eq hx, hs] at hw
    cases hw
  · intro hb
    refine ⟨fun l hl => ?_, h.not_removable_of_isEmpty he⟩
    have hw : isWanting v.cluster.finals l = false := by
      by_contra hw
      obtain ⟨hmem, hf⟩ := (h.isWanting_of_isEmpty he hl).1 (by simpa using hw)
      have := hb l hmem
      omega
    obtain ⟨status, hlast, hn⟩ := isWanting_eq_false.1 hw
    obtain ⟨x, hx, rfl, rfl⟩ := exists_of_lastStatus hlast
    exact ⟨x, hx, rfl, InstallStatus.eq_installed hn (h.still x hx hl)⟩

/-- When nothing is left to ask for, the failures decide. -/
theorem verdict_of_isEmpty : Reconciler.verdict desired p (p.diff desired) =
    if ∀ l ∈ wanted, failures l < p.attempts.budget then .converged
    else .gaveUp ((p.diff desired).exhausted.map (exhaustedStatus p.observed)) := by
  have hc := h.isConverged_of_isEmpty he
  split_ifs with hb
  · simp [Reconciler.verdict, he, hc.2 hb]
  · have hne : isConverged desired p.observed = false := by
      rw [← Bool.not_eq_true]
      exact fun hx => hb (hc.1 hx)
    have hset : isSettled desired [] p.removing p.observed = true := by
      rw [← isSettled_bare, ← h.finals_eq, isSettled_iff]
      refine ⟨by simp, fun l hl s hs => ?_, fun l hl s hs => ?_⟩
      · obtain ⟨x, hx, rfl, rfl⟩ := exists_of_firstStatus hs
        exact h.still x hx hl
      · obtain ⟨x, hx, rfl, rfl⟩ := exists_of_firstStatus hs
        exact h.removing x hx hl
    have hex : (p.diff desired).exhausted ≠ [] := by
      push Not at hb
      obtain ⟨l, hl, hf⟩ := hb
      have hw := (h.isWanting_of_isEmpty he (h.subset l hl)).2 ⟨hl, hf⟩
      have hu := h.used_of_isEmpty he l
      rw [if_pos hl] at hu
      have hm : l ∈ (p.diff desired).exhausted := by
        refine mem_exhausted.2 ⟨h.subset l hl, ?_, ?_⟩
        · rwa [← isWanting_bare, ← h.finals_eq]
        · simp only [InstallAttempts.allows, decide_eq_false_iff_not]
          omega
      exact List.ne_nil_of_mem hm
    simp [Reconciler.verdict, he, hne, hset, hex]

end Finished

end Attempting
end ClusterReconciliation
