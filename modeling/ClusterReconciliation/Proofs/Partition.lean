import ClusterReconciliation.Proofs.Differences

/-! What sets desired and observed libraries apart, said without the way in which it is found. A
desired library goes by its last entry, one that is not desired by any of its entries that lets it be
removed, and nothing is named twice. These rules leave no choice. -/
namespace ClusterReconciliation

section Distinct
variable {α : Type} [BEq α] [LawfulBEq α]

theorem distinct_eq_eraseDups (l : List α) : distinct l = l.eraseDups := by
  induction l using List.reverseRecOn with
  | nil => rfl
  | append_singleton l a ih =>
    have hleft : [a].removeAll l = if l.contains a then [] else [a] := by
      cases h : l.contains a <;> simp_all [List.removeAll]
    rw [distinct_append_singleton, List.eraseDups_append, hleft, ← ih]
    split_ifs
    · exact (List.append_nil _).symm
    · rfl

end Distinct

/-- A part of a list without repeats is told by its members. -/
theorem eq_filter_of_sublist {α : Type} [DecidableEq α] {k l : List α} (h : k.Sublist l)
    (hl : l.Nodup) : k = l.filter (· ∈ k) := by
  have hsub : k.Sublist (l.filter (· ∈ k)) := by
    have hk : k.filter (· ∈ k) = k := List.filter_eq_self.2 fun a ha => by simpa using ha
    have hfilter := h.filter (· ∈ k)
    rwa [hk] at hfilter
  have hperm : k.Perm (l.filter (· ∈ k)) := by
    refine (List.perm_ext_iff_of_nodup (hl.sublist h) (hl.filter _)).2 fun a => ?_
    rw [List.mem_filter, decide_eq_true_iff]
    exact ⟨fun ha => ⟨h.subset ha, ha⟩, fun ha => ha.2⟩
  exact hsub.eq_of_length hperm.length_eq

theorem eq_of_sublist_nodup {α : Type} [DecidableEq α] {j k l : List α} (hj : j.Sublist l)
    (hk : k.Sublist l) (hl : l.Nodup) (h : ∀ a, a ∈ j ↔ a ∈ k) : j = k := by
  rw [eq_filter_of_sublist hj hl, eq_filter_of_sublist hk hl]
  exact List.filter_congr fun a _ => by simp [h a]

/-- A library has to be submitted: no entry is about it, or the last one that is says that it has
failed, was skipped or is about to go. -/
inductive Needs (observed : List LibraryStatus) (l : Library) : Prop
  | unlisted (h : ∀ s ∈ observed, s.library ≠ l) : Needs observed l
  | listed {before after : List LibraryStatus} {s : LibraryStatus}
    (ho : observed = before ++ s :: after) (hl : s.library = l)
    (hlast : ∀ t ∈ after, t.library ≠ l)
    (h : s.status = .failed ∨ s.status = .skipped ∨ s.status = .uninstallOnRestart) :
    Needs observed l

/-- Nobody asked for the library of the entry, it is of this cluster alone, and it is not about to
go. -/
def Leftover (desired : List Library) (s : LibraryStatus) : Prop :=
  s.library ∉ desired ∧ s.forAllClusters = false ∧ s.status ≠ .uninstallOnRestart

instance (desired : List Library) (s : LibraryStatus) : Decidable (Leftover desired s) :=
  inferInstanceAs (Decidable (_ ∧ _ ∧ _))

/-- The rules for what is to be submitted, what would be had it any attempts left, and what is to be
removed. -/
structure IsDifference (desired : List Library) (observed : List LibraryStatus)
    (attempts : InstallAttempts) (d : LibraryDiff) : Prop where
  install : d.install.Nodup ∧ d.install.Sublist desired.eraseDups
  exhausted : d.exhausted.Nodup ∧ d.exhausted.Sublist desired.eraseDups
  disjoint : d.install.Disjoint d.exhausted
  needs : ∀ l ∈ desired, l ∈ d.install ∨ l ∈ d.exhausted ↔ Needs observed l
  budget : ∀ l, l ∈ d.install ∨ l ∈ d.exhausted →
    (l ∈ d.install ↔ attempts.used l < attempts.budget)
  uninstall : d.uninstall.Nodup ∧
    d.uninstall.Sublist ((observed.filter (Leftover desired)).map (·.library)).eraseDups
  removed : ∀ l, l ∈ d.uninstall ↔ ∃ s ∈ observed, s.library = l ∧ Leftover desired s

section
variable {desired : List Library} {observed : List LibraryStatus} {attempts : InstallAttempts}
  {l : Library}

/-- The last entry for a library is followed by none for it. -/
theorem lastStatus_eq_some {status : InstallStatus} : lastStatus observed l = some status ↔
    ∃ before s after, observed = before ++ s :: after ∧ s.library = l ∧
      (∀ t ∈ after, t.library ≠ l) ∧ s.status = status := by
  rw [lastStatus, Option.map_eq_some_iff]
  constructor
  · rintro ⟨s, hs, rfl⟩
    rw [List.findRev?_eq_find?_reverse, List.find?_eq_some_iff_append] at hs
    obtain ⟨hl, after, before, hrev, hlast⟩ := hs
    refine ⟨before.reverse, s, after.reverse, ?_, by simpa using hl, ?_, rfl⟩
    · rw [← List.reverse_reverse observed, hrev]
      simp
    · intro t ht
      simpa using hlast t (List.mem_reverse.1 ht)
  · rintro ⟨before, s, after, rfl, hl, hlast, rfl⟩
    refine ⟨s, ?_, rfl⟩
    rw [List.findRev?_eq_find?_reverse, List.find?_eq_some_iff_append]
    refine ⟨by simpa using hl, after.reverse, before.reverse, by simp, fun t ht => ?_⟩
    simpa using hlast t (List.mem_reverse.1 ht)

theorem isWanting_iff : isWanting observed l = true ↔ Needs observed l := by
  rw [isWanting_eq_true]
  constructor
  · intro h
    cases hlast : lastStatus observed l with
    | none => exact .unlisted (lastStatus_eq_none.1 hlast)
    | some status =>
      obtain ⟨before, s, after, ho, hl, hafter, rfl⟩ := lastStatus_eq_some.1 hlast
      exact .listed ho hl hafter (InstallStatus.needsInstall_iff.1 (h _ hlast))
  · rintro (hnone | ⟨ho, hl, hafter, hstatus⟩) status hlast
    · rw [lastStatus_eq_none.2 hnone] at hlast
      cases hlast
    · rw [lastStatus_eq_some.2 ⟨_, _, _, ho, hl, hafter, rfl⟩] at hlast
      cases hlast
      exact InstallStatus.needsInstall_iff.2 hstatus

theorem install_sublist : (diffLibraries desired observed attempts).install.Sublist
    desired.eraseDups := by
  rw [← distinct_eq_eraseDups]
  exact List.filter_sublist.trans List.filter_sublist

theorem exhausted_sublist : (diffLibraries desired observed attempts).exhausted.Sublist
    desired.eraseDups := by
  rw [← distinct_eq_eraseDups]
  exact List.filter_sublist.trans List.filter_sublist

theorem uninstall_eq : (diffLibraries desired observed attempts).uninstall =
    ((observed.filter (Leftover desired)).map (·.library)).eraseDups := by
  rw [← distinct_eq_eraseDups]
  have hp : isRemovable desired = fun s => decide (Leftover desired s) := by
    funext s
    rw [Bool.eq_iff_iff, isRemovable_eq_true, decide_eq_true_iff, Leftover]
  simp only [diffLibraries, hp]

theorem nodup_eraseDups {α : Type} [BEq α] [LawfulBEq α] (l : List α) : l.eraseDups.Nodup :=
  distinct_eq_eraseDups l ▸ nodup_distinct l

theorem allows_iff : attempts.allows l = true ↔ attempts.used l < attempts.budget := by
  simp [InstallAttempts.allows]

theorem mem_install_or_exhausted : l ∈ (diffLibraries desired observed attempts).install ∨
    l ∈ (diffLibraries desired observed attempts).exhausted ↔ l ∈ desired ∧ Needs observed l := by
  rw [mem_install, mem_exhausted, isWanting_iff]
  cases attempts.allows l <;> simp

theorem diffLibraries_isDifference :
    IsDifference desired observed attempts (diffLibraries desired observed attempts) where
  install := ⟨nodup_install, install_sublist⟩
  exhausted := ⟨(nodup_eraseDups desired).sublist exhausted_sublist, exhausted_sublist⟩
  disjoint l hi he := by
    have hallows := (mem_install.1 hi).2.2
    rw [(mem_exhausted.1 he).2.2] at hallows
    cases hallows
  needs l hl := by simp [mem_install_or_exhausted, hl]
  budget l hl := by
    obtain ⟨hd, hn⟩ := mem_install_or_exhausted.1 hl
    rw [mem_install, isWanting_iff, allows_iff]
    simp [hd, hn]
  uninstall := ⟨nodup_uninstall, by rw [uninstall_eq]⟩
  removed l := by
    rw [mem_uninstall]
    simp only [isRemovable_eq_true, and_comm, Leftover]

/-- The rules say of each library in which of the sets it is. -/
theorem IsDifference.mem_install_iff {d : LibraryDiff}
    (h : IsDifference desired observed attempts d) :
    l ∈ d.install ↔ l ∈ desired ∧ Needs observed l ∧ attempts.used l < attempts.budget := by
  constructor
  · intro hl
    have hd : l ∈ desired := List.mem_eraseDups.1 (h.install.2.subset hl)
    exact ⟨hd, (h.needs l hd).1 (.inl hl), (h.budget l (.inl hl)).1 hl⟩
  · rintro ⟨hd, hn, hb⟩
    exact (h.budget l ((h.needs l hd).2 hn)).2 hb

theorem IsDifference.mem_exhausted_iff {d : LibraryDiff}
    (h : IsDifference desired observed attempts d) :
    l ∈ d.exhausted ↔ l ∈ desired ∧ Needs observed l ∧ ¬attempts.used l < attempts.budget := by
  constructor
  · intro hl
    have hd : l ∈ desired := List.mem_eraseDups.1 (h.exhausted.2.subset hl)
    refine ⟨hd, (h.needs l hd).1 (.inr hl), fun hb => ?_⟩
    exact h.disjoint ((h.budget l (.inr hl)).2 hb) hl
  · rintro ⟨hd, hn, hb⟩
    rcases (h.needs l hd).2 hn with hi | he
    · exact absurd ((h.budget l (.inl hi)).1 hi) hb
    · exact he

end

/-- The comparison of desired with observed libraries keeps these rules, and nothing else does. -/
theorem eq_diffLibraries_iff (desired : List Library) (observed : List LibraryStatus)
    (attempts : InstallAttempts) (d : LibraryDiff) :
    d = diffLibraries desired observed attempts ↔ IsDifference desired observed attempts d := by
  constructor
  · rintro rfl
    exact diffLibraries_isDifference
  · intro h
    have hc : IsDifference desired observed attempts (diffLibraries desired observed attempts) :=
      diffLibraries_isDifference
    have hinstall := eq_of_sublist_nodup h.install.2 hc.install.2 (nodup_eraseDups _)
      fun l => h.mem_install_iff.trans hc.mem_install_iff.symm
    have hexhausted := eq_of_sublist_nodup h.exhausted.2 hc.exhausted.2 (nodup_eraseDups _)
      fun l => h.mem_exhausted_iff.trans hc.mem_exhausted_iff.symm
    have huninstall := eq_of_sublist_nodup h.uninstall.2 hc.uninstall.2 (nodup_eraseDups _)
      fun l => (h.removed l).trans (hc.removed l).symm
    obtain ⟨install, uninstall, exhausted⟩ := d
    obtain rfl : install = _ := hinstall
    obtain rfl : exhausted = _ := hexhausted
    obtain rfl : uninstall = _ := huninstall
    rfl

end ClusterReconciliation
