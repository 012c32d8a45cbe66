import ClusterReconciliation.Library.Diff
import Mathlib.Tactic

/-! What the comparison of desired with observed libraries says of each single library. -/
namespace ClusterReconciliation

section Distinct
variable {α : Type} [BEq α] [LawfulBEq α]

theorem mem_foldl_distinct (l seen : List α) (a : α) :
    a ∈ l.foldl (fun seen a => if seen.contains a then seen else seen ++ [a]) seen ↔
      a ∈ seen ∨ a ∈ l := by
  induction l generalizing seen with
  | nil => simp
  | cons b l ih =>
    rw [List.foldl_cons, ih]
    by_cases hb : b ∈ seen
    · have : a = b → a ∈ seen := fun h => h ▸ hb
      simp [hb]
      tauto
    · simp [hb, or_assoc]

theorem nodup_foldl_distinct (l seen : List α) (h : seen.Nodup) :
    (l.foldl (fun seen a => if seen.contains a then seen else seen ++ [a]) seen).Nodup := by
  induction l generalizing seen with
  | nil => exact h
  | cons b l ih =>
    rw [List.foldl_cons]
    apply ih
    by_cases hb : b ∈ seen
    · simpa [hb] using h
    · simpa [hb, List.nodup_append] using ⟨h, fun a ha hab => hb (hab ▸ ha)⟩

@[simp] theorem mem_distinct {l : List α} {a : α} : a ∈ distinct l ↔ a ∈ l := by
  rw [distinct, mem_foldl_distinct]
  simp

theorem nodup_distinct (l : List α) : (distinct l).Nodup :=
  nodup_foldl_distinct l [] List.nodup_nil

theorem distinct_append_singleton (l : List α) (a : α) :
    distinct (l ++ [a]) = if l.contains a then distinct l else distinct l ++ [a] := by
  have hstep : distinct (l ++ [a]) =
      if (distinct l).contains a then distinct l else distinct l ++ [a] := List.foldl_append
  have hmem : (distinct l).contains a = l.contains a := by
    rw [Bool.eq_iff_iff, List.contains_iff_mem, List.contains_iff_mem, mem_distinct]
  rw [hstep, hmem]

end Distinct

def ReportedOnce (observed : List LibraryStatus) : Prop := (observed.map (·.library)).Nodup

instance (observed : List LibraryStatus) : Decidable (ReportedOnce observed) :=
  inferInstanceAs (Decidable (List.Nodup _))

section Status
variable {observed : List LibraryStatus} {l : Library} {s : LibraryStatus} {status : InstallStatus}

theorem exists_of_firstStatus (h : firstStatus observed l = some status) :
    ∃ s ∈ observed, s.library = l ∧ s.status = status := by
  obtain ⟨s, hs, rfl⟩ := Option.map_eq_some_iff.1 h
  exact ⟨s, List.mem_of_find?_eq_some hs, by simpa using List.find?_some hs, rfl⟩

theorem exists_of_lastStatus (h : lastStatus observed l = some status) :
    ∃ s ∈ observed, s.library = l ∧ s.status = status := by
  obtain ⟨s, hs, rfl⟩ := Option.map_eq_some_iff.1 h
  rw [List.findRev?_eq_find?_reverse] at hs
  exact ⟨s, by simpa using List.mem_of_find?_eq_some hs, by simpa using List.find?_some hs, rfl⟩

theorem firstStatus_eq_none : firstStatus observed l = none ↔ ∀ s ∈ observed, s.library ≠ l := by
  simp [firstStatus]

theorem lastStatus_eq_none : lastStatus observed l = none ↔ ∀ s ∈ observed, s.library ≠ l := by
  simp [lastStatus]

/-- An entry without its messages, which nothing is decided by. -/
def LibraryStatus.bare (s : LibraryStatus) : LibraryStatus := { s with messages := [] }

@[simp] theorem firstStatus_bare (observed : List LibraryStatus) (l : Library) :
    firstStatus (observed.map (·.bare)) l = firstStatus observed l := by
  simp only [firstStatus, List.find?_map, Option.map_map]
  rfl

@[simp] theorem lastStatus_bare (observed : List LibraryStatus) (l : Library) :
    lastStatus (observed.map (·.bare)) l = lastStatus observed l := by
  simp only [lastStatus, List.findRev?_eq_find?_reverse, ← List.map_reverse, List.find?_map,
    Option.map_map]
  rfl

@[simp] theorem isWanting_bare (observed : List LibraryStatus) (l : Library) :
    isWanting (observed.map (·.bare)) l = isWanting observed l := by
  simp only [isWanting, lastStatus_bare]

@[simp] theorem isSettled_bare (desired submitted removing : List Library)
    (observed : List LibraryStatus) :
    isSettled desired submitted removing (observed.map (·.bare)) =
      isSettled desired submitted removing observed := by
  simp only [isSettled, firstStatus_bare]

@[simp] theorem reportedOnce_bare (observed : List LibraryStatus) :
    ReportedOnce (observed.map (·.bare)) ↔ ReportedOnce observed := by
  rw [ReportedOnce, List.map_map]
  rfl

theorem ReportedOnce.eq_of_library {t : LibraryStatus} (h : ReportedOnce observed)
    (hs : s ∈ observed) (ht : t ∈ observed) (hl : s.library = t.library) : s = t :=
  List.inj_on_of_nodup_map h hs ht hl

/-- All entries for a library report the same status. -/
def Unanimous (observed : List LibraryStatus) : Prop :=
  ∀ s ∈ observed, ∀ t ∈ observed, s.library = t.library → s.status = t.status

theorem ReportedOnce.unanimous (h : ReportedOnce observed) : Unanimous observed :=
  fun s hs t ht hl => by rw [h.eq_of_library hs ht hl]

theorem Unanimous.firstStatus_eq (h : Unanimous observed) (hs : s ∈ observed) :
    firstStatus observed s.library = some s.status := by
  cases hf : firstStatus observed s.library with
  | none => exact absurd rfl (firstStatus_eq_none.1 hf s hs)
  | some status =>
    obtain ⟨t, ht, hl, rfl⟩ := exists_of_firstStatus hf
    rw [h t ht s hs hl]

theorem ReportedOnce.firstStatus_eq (h : ReportedOnce observed) (hs : s ∈ observed) :
    firstStatus observed s.library = some s.status := h.unanimous.firstStatus_eq hs

theorem ReportedOnce.lastStatus_eq (h : ReportedOnce observed) (hs : s ∈ observed) :
    lastStatus observed s.library = some s.status := by
  cases hf : lastStatus observed s.library with
  | none => exact absurd rfl (lastStatus_eq_none.1 hf s hs)
  | some status =>
    obtain ⟨t, ht, hl, rfl⟩ := exists_of_lastStatus hf
    rw [h.eq_of_library ht hs hl]

/-- What one library is reported with does not depend on the entries for others. -/
theorem ReportedOnce.lastStatus_congr {reported : List LibraryStatus} (h : ReportedOnce observed)
    {l : Library}
    (hl : ∀ s : LibraryStatus, s.library = l → (s ∈ observed ↔ s ∈ reported)) :
    lastStatus observed l = lastStatus reported l := by
  cases hr : lastStatus reported l with
  | none =>
    have hn := lastStatus_eq_none.1 hr
    exact lastStatus_eq_none.2 fun s hs he => hn s ((hl s he).1 hs) he
  | some status =>
    obtain ⟨s, hs, rfl, rfl⟩ := exists_of_lastStatus hr
    exact h.lastStatus_eq ((hl s rfl).2 hs)

theorem InstallStatus.needsInstall_iff {s : InstallStatus} :
    s.needsInstall = true ↔ s = .failed ∨ s = .skipped ∨ s = .uninstallOnRestart := by
  simp [needsInstall, isFailed, or_assoc]

/-- A library that need not be submitted is installed or on its way. -/
theorem InstallStatus.eq_installed {s : InstallStatus} (hw : s.needsInstall = false)
    (hm : s.isInFlight = false) : s = .installed := by
  cases s <;> simp_all [needsInstall, isFailed, isInFlight]

end Status

section Diff
variable {desired submitted removing : List Library} {observed : List LibraryStatus}
  {attempts : InstallAttempts} {l : Library}

theorem isWanting_eq_false : isWanting observed l = false ↔
    ∃ s, lastStatus observed l = some s ∧ s.needsInstall = false := by
  unfold isWanting
  cases lastStatus observed l <;> simp

theorem isWanting_eq_true : isWanting observed l = true ↔
    ∀ s, lastStatus observed l = some s → s.needsInstall = true := by
  unfold isWanting
  cases lastStatus observed l <;> simp

theorem isRemovable_eq_true {s : LibraryStatus} : isRemovable desired s = true ↔
    s.library ∉ desired ∧ s.forAllClusters = false ∧ s.status ≠ .uninstallOnRestart := by
  simp [isRemovable, and_assoc]

theorem mem_install : l ∈ (diffLibraries desired observed attempts).install ↔
    l ∈ desired ∧ isWanting observed l = true ∧ attempts.allows l = true := by
  simp [diffLibraries, and_comm]

theorem mem_exhausted : l ∈ (diffLibraries desired observed attempts).exhausted ↔
    l ∈ desired ∧ isWanting observed l = true ∧ attempts.allows l = false := by
  simp [diffLibraries, and_comm]

theorem mem_uninstall : l ∈ (diffLibraries desired observed attempts).uninstall ↔
    ∃ s ∈ observed, isRemovable desired s = true ∧ s.library = l := by
  simp [diffLibraries, and_assoc]

theorem LibraryDiff.isEmpty_iff {d : LibraryDiff} :
    d.isEmpty = true ↔ d.install = [] ∧ d.uninstall = [] := by
  simp [LibraryDiff.isEmpty]

@[simp] theorem diffLibraries_bare (desired : List Library) (observed : List LibraryStatus)
    (attempts : InstallAttempts) : diffLibraries desired (observed.map (·.bare)) attempts =
      diffLibraries desired observed attempts := by
  have hw : isWanting (observed.map (·.bare)) = isWanting observed := funext fun l => by simp
  simp only [diffLibraries, hw, List.filter_map, List.map_map]
  rfl

@[simp] theorem isConverged_bare (desired : List Library) (observed : List LibraryStatus) :
    isConverged desired (observed.map (·.bare)) = isConverged desired observed := by
  simp only [isConverged, List.any_map, List.all_map]
  rfl

theorem nodup_install : (diffLibraries desired observed attempts).install.Nodup :=
  ((nodup_distinct desired).filter _).filter _

theorem nodup_uninstall : (diffLibraries desired observed attempts).uninstall.Nodup :=
  nodup_distinct _

theorem isConverged_iff : isConverged desired observed = true ↔
    (∀ l ∈ desired, ∃ s ∈ observed, s.library = l ∧ s.status = .installed) ∧
      ∀ s ∈ observed, isRemovable desired s = false := by
  simp [isConverged]

theorem isSettled_iff : isSettled desired submitted removing observed = true ↔
    (∀ l ∈ submitted, ∃ s, firstStatus observed l = some s ∧ s.isInFlight = false) ∧
      (∀ l ∈ desired, ∀ s, firstStatus observed l = some s → s.isInFlight = false) ∧
        ∀ l ∈ removing, ∀ s, firstStatus observed l = some s → s = .uninstallOnRestart := by
  simp [isSettled, Option.any_eq_true, Option.all_eq_true, and_assoc]

/-- Nothing moves whatever has been submitted, if nothing moves after a submission. -/
theorem isSettled_nil (h : isSettled desired submitted removing observed = true) :
    isSettled desired [] removing observed = true := by
  rw [isSettled_iff] at h ⊢
  exact ⟨by simp, h.2⟩

/-- With nothing left to submit and with the removal of all leftovers asked for, everything is as
desired but for libraries that are last reported in flight and for leftovers that are still there. -/
theorem isConverged_iff_of_asked
    (hw : ∀ l ∈ desired, isWanting observed l = false)
    (hr : ∀ s ∈ observed, isRemovable desired s = true → s.library ∈ removing) :
    isConverged desired observed = true ↔
      (∀ l ∈ desired, (∃ s, lastStatus observed l = some s ∧ s.isInFlight = true) →
        ∃ s ∈ observed, s.library = l ∧ s.status = .installed) ∧
      ∀ s ∈ observed, s.library ∈ removing → isRemovable desired s = false := by
  rw [isConverged_iff]
  constructor
  · rintro ⟨hd, hn⟩
    exact ⟨fun l hl _ => hd l hl, fun s hs _ => hn s hs⟩
  · rintro ⟨hd, hn⟩
    refine ⟨fun l hl => ?_, fun s hs => ?_⟩
    · obtain ⟨status, hlast, hneed⟩ := isWanting_eq_false.1 (hw l hl)
      cases hmoves : status.isInFlight with
      | true => exact hd l hl ⟨status, hlast, hmoves⟩
      | false =>
        obtain ⟨s, hs, hls, rfl⟩ := exists_of_lastStatus hlast
        exact ⟨s, hs, hls, InstallStatus.eq_installed hneed hmoves⟩
    · by_contra hx
      rw [Bool.not_eq_false] at hx
      rw [hn s hs (hr s hs hx)] at hx
      cases hx

/-- At rest, with nothing left to submit and with the removal of all leftovers asked for, everything
is as desired. -/
theorem isConverged_of_isSettled (hu : Unanimous observed)
    (hs : isSettled desired submitted removing observed = true)
    (hw : ∀ l ∈ desired, isWanting observed l = false)
    (hr : ∀ s ∈ observed, isRemovable desired s = true → s.library ∈ removing) :
    isConverged desired observed = true := by
  obtain ⟨-, hd, hm⟩ := isSettled_iff.1 hs
  refine (isConverged_iff_of_asked hw hr).2 ⟨?_, fun s hs hl => ?_⟩
  · rintro l hl ⟨status, hlast, hmoves⟩
    obtain ⟨s, hs, rfl, rfl⟩ := exists_of_lastStatus hlast
    rw [hd _ hl _ (hu.firstStatus_eq hs)] at hmoves
    cases hmoves
  · by_contra hx
    rw [Bool.not_eq_false] at hx
    exact (isRemovable_eq_true.1 hx).2.2 (hm _ hl _ (hu.firstStatus_eq hs))

end Diff
end ClusterReconciliation
