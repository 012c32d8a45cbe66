import ClusterReconciliation.Http.Url
import ClusterReconciliation.Proofs.Layers
import Mathlib.Data.List.DropRight
import Mathlib.Data.List.Infix

/-! The address of a workspace, from the host that is given for it. A scheme is put in front in two
places, where the host is resolved and where requests are made. The one looks for the end of a scheme
anywhere in the host, the other for a scheme it knows at the beginning of what is left when the slashes
at the end are gone; they agree exactly on a name that has a known scheme or none at all. -/
namespace ClusterReconciliation

namespace Text

theorem toList_trimStart (s : String) : (trimStart s).toList = s.toList.dropWhile isBlank := by
  simp [trimStart]

theorem toList_trimEnd (s : String) : (trimEnd s).toList = s.toList.rdropWhile isBlank := by
  simp [trimEnd, List.rdropWhile]

theorem toList_trim (s : String) :
    (trim s).toList = (s.toList.dropWhile isBlank).rdropWhile isBlank := by
  rw [trim, toList_trimEnd, toList_trimStart]

theorem toList_dropTrailing (c : Char) (s : String) :
    (dropTrailing c s).toList = s.toList.rdropWhile (· == c) := by
  simp [dropTrailing, List.rdropWhile]

theorem contains_iff {needle s : List Char} : contains needle s = true ↔ needle <:+: s := by
  induction s with
  | nil => simp [contains]
  | cons c rest ih =>
    rw [contains, Bool.or_eq_true, ih, List.infix_cons_iff, List.isPrefixOf_iff_prefix]

/-- What is dropped from the end is dropped from the last part, if that is not dropped as a whole. -/
theorem rdropWhile_append {p : Char → Bool} {s t : List Char} (h : ∃ c ∈ t, p c = false) :
    (s ++ t).rdropWhile p = s ++ t.rdropWhile p := by
  obtain ⟨c, hc, hp⟩ := h
  have hkept : t.reverse.dropWhile p ≠ [] := by
    rw [Ne, List.dropWhile_eq_nil_iff]
    exact fun hall => by simp [hall c (by simpa using hc)] at hp
  rw [List.rdropWhile, List.reverse_append, List.dropWhile_append, List.isEmpty_eq_false_iff.2 hkept]
  simp [List.rdropWhile]

theorem rdropWhile_append_eq_self {p : Char → Bool} {s t : List Char} (hs : s.rdropWhile p = s)
    (ht : t.rdropWhile p = t) : (s ++ t).rdropWhile p = s ++ t := by
  rcases eq_or_ne t [] with rfl | hne
  · rwa [List.append_nil]
  · rw [List.rdropWhile_eq_self_iff] at ht ⊢
    intro _
    rw [List.getLast_append_of_ne_nil _ hne]
    exact ht hne

/-- A text with no blank at either end. -/
def IsTrimmed (s : String) : Prop :=
  s.toList.dropWhile isBlank = s.toList ∧ s.toList.rdropWhile isBlank = s.toList

theorem IsTrimmed.trim_eq {s : String} (h : IsTrimmed s) : trim s = s := by
  rw [← String.toList_inj, toList_trim, h.1, h.2]

theorem isTrimmed_trim (s : String) : IsTrimmed (trim s) := by
  refine ⟨?_, by rw [toList_trim, List.rdropWhile_idempotent]⟩
  rw [toList_trim]
  have hfirst := List.head?_dropWhile_not isBlank s.toList
  obtain ⟨dropped, hkept⟩ := List.rdropWhile_prefix isBlank (l := s.toList.dropWhile isBlank)
  -- What is kept begins as it did before its end was trimmed.
  rcases hr : (s.toList.dropWhile isBlank).rdropWhile isBlank with _ | ⟨c, rest⟩
  · rfl
  · rw [hr] at hkept
    rw [← hkept] at hfirst
    exact List.dropWhile_cons_of_neg (by simpa using hfirst)

end Text

namespace Http
open Text

/-- What an address begins with if nothing has to be put in front of it. -/
def schemes : List String := ["http://", "https://"]

/-- The name is more than slashes, so that it does not vanish with those at its end. -/
def IsName (name : String) : Prop := ∃ c ∈ name.toList, c ≠ '/'

/-- A host as it is written, blanks around it apart: a name behind a scheme, or a name alone, which is
then reached securely. -/
inductive Written (host : String) : String → String → Prop
  | bare {name : String} (ht : trim host = name)
    (hn : contains "://".toList name.toList = false) (hname : IsName name) :
    Written host "https://" name
  | schemed {scheme name : String} (hs : scheme ∈ schemes) (ht : trim host = scheme ++ name)
    (hname : IsName name) : Written host scheme name

theorem Written.mem_schemes {host scheme name : String} (h : Written host scheme name) :
    scheme ∈ schemes := by
  cases h with
  | bare => simp [schemes]
  | schemed hs => exact hs

theorem Written.isName {host scheme name : String} (h : Written host scheme name) :
    IsName name := by
  cases h with
  | bare _ _ hname => exact hname
  | schemed _ _ hname => exact hname

theorem contains_of_mem_schemes {scheme : String} (h : scheme ∈ schemes) (name : String) :
    contains "://".toList (scheme ++ name).toList = true := by
  rw [contains_iff, String.toList_append]
  rcases List.mem_pair.1 h with rfl | rfl
  · exact ⟨"http".toList, name.toList, rfl⟩
  · exact ⟨"https".toList, name.toList, rfl⟩

theorem normalizeHost_of_contains {host : String}
    (h : contains "://".toList (trim host).toList = true) : normalizeHost host = trim host := by
  simp only [normalizeHost, h, if_true]

theorem normalizeHost_of_not_contains {host : String}
    (h : contains "://".toList (trim host).toList = false) :
    normalizeHost host = "https://" ++ trim host := by
  simp only [normalizeHost, h, Bool.false_eq_true, if_false]

theorem isTrimmed_normalizeHost (host : String) : IsTrimmed (normalizeHost host) := by
  cases h : contains "://".toList (trim host).toList with
  | true =>
    rw [normalizeHost_of_contains h]
    exact isTrimmed_trim host
  | false =>
    rw [normalizeHost_of_not_contains h, IsTrimmed, String.toList_append]
    exact ⟨rfl, rdropWhile_append_eq_self rfl (isTrimmed_trim host).2⟩

/-- A host that has been resolved is left as it is. -/
theorem normalizeHost_normalizeHost (host : String) :
    normalizeHost (normalizeHost host) = normalizeHost host := by
  have hc : contains "://".toList (normalizeHost host).toList = true := by
    cases h : contains "://".toList (trim host).toList with
    | true => rwa [normalizeHost_of_contains h]
    | false =>
      rw [normalizeHost_of_not_contains h]
      exact contains_of_mem_schemes (by simp [schemes]) _
  have ht := (isTrimmed_normalizeHost host).trim_eq
  rw [← ht] at hc
  rw [normalizeHost_of_contains hc, ht]

/-- A host that is written with a scheme is resolved as it is, and another one with the scheme that it
lacks. -/
theorem Written.resolves {host scheme name : String} (h : Written host scheme name) :
    normalizeHost host = scheme ++ name := by
  cases h with
  | bare ht hn => rw [normalizeHost_of_not_contains (by rwa [ht]), ht]
  | schemed hs ht => rw [normalizeHost_of_contains (by rw [ht]; exact contains_of_mem_schemes hs _), ht]

theorem trimTrailingSlashes_append (scheme : String) {name : String} (h : IsName name) :
    trimTrailingSlashes (scheme ++ name) = scheme ++ trimTrailingSlashes name := by
  obtain ⟨c, hc, hne⟩ := h
  simp only [trimTrailingSlashes, ← String.toList_inj, toList_dropTrailing, String.toList_append]
  exact rdropWhile_append ⟨c, hc, beq_false_of_ne hne⟩

/-- A text begins with a scheme. -/
def Begins (s : String) : Prop := ∃ scheme ∈ schemes, ∃ name, s = scheme ++ name

theorem begins_iff {s : String} :
    Begins s ↔ ("http://".toList.isPrefixOf s.toList || "https://".toList.isPrefixOf s.toList) = true := by
  have hprefix : ∀ scheme : String,
      (∃ name, s = scheme ++ name) ↔ scheme.toList.isPrefixOf s.toList = true := by
    intro scheme
    rw [List.isPrefixOf_iff_prefix]
    constructor
    · rintro ⟨name, rfl⟩
      exact ⟨name.toList, by simp⟩
    · rintro ⟨rest, hrest⟩
      exact ⟨String.ofList rest, by simp [← String.toList_inj, hrest]⟩
  simp only [Begins, schemes, List.mem_cons, List.not_mem_nil, or_false, exists_eq_or_imp,
    exists_eq_left, hprefix, Bool.or_eq_true]

theorem baseUrl_of_begins {host : String} (ht : IsTrimmed host)
    (h : Begins (trimTrailingSlashes host)) : baseUrl host = trimTrailingSlashes host := by
  simp only [baseUrl, ht.trim_eq, begins_iff.1 h, if_true]

theorem baseUrl_of_not_begins {host : String} (ht : IsTrimmed host)
    (h : ¬Begins (trimTrailingSlashes host)) :
    baseUrl host = "https://" ++ trimTrailingSlashes host := by
  rw [begins_iff, Bool.not_eq_true] at h
  simp only [baseUrl, ht.trim_eq, h, Bool.false_eq_true, if_false]

/-- An address is its host less the slashes at the end, if that begins with a scheme. -/
theorem baseUrl_eq_iff {host : String} (ht : IsTrimmed host) :
    baseUrl host = trimTrailingSlashes host ↔ Begins (trimTrailingSlashes host) := by
  refine ⟨fun h => by_contra fun hb => ?_, baseUrl_of_begins ht⟩
  have hlength := congrArg String.length h
  rw [baseUrl_of_not_begins ht hb, String.length_append] at hlength
  simp at hlength

/-- A scheme ends with slashes, so that it is not left alone by the trimming. -/
theorem rdropWhile_scheme_ne {scheme : String} (h : scheme ∈ schemes) :
    scheme.toList.rdropWhile (· == '/') ≠ scheme.toList := by
  rcases List.mem_pair.1 h with rfl | rfl <;> decide

/-- A text that begins with a scheme once the slashes at its end are gone has a name behind it. -/
theorem exists_name_of_begins {s : String} (h : Begins (trimTrailingSlashes s)) :
    ∃ scheme ∈ schemes, ∃ name, s = scheme ++ name ∧ IsName name := by
  obtain ⟨scheme, hs, kept, heq⟩ := h
  have htrim : s.toList.rdropWhile (· == '/') = scheme.toList ++ kept.toList := by
    rw [← String.toList_append, ← heq, trimTrailingSlashes, toList_dropTrailing]
  obtain ⟨slashes, hslashes⟩ := List.rdropWhile_prefix (· == '/') (l := s.toList)
  rw [htrim] at hslashes
  refine ⟨scheme, hs, kept ++ String.ofList slashes, ?_, ?_⟩
  · simp [← String.toList_inj, ← hslashes]
  · have hself : (scheme.toList ++ kept.toList).rdropWhile (· == '/') =
        scheme.toList ++ kept.toList := by rw [← htrim, List.rdropWhile_idempotent]
    have hne : kept.toList ≠ [] := by
      intro hnil
      rw [hnil, List.append_nil] at hself
      exact rdropWhile_scheme_ne hs hself
    rw [List.rdropWhile_eq_self_iff] at hself
    have hlast := hself (by simp [hne])
    rw [List.getLast_append_of_ne_nil _ hne, beq_iff_eq] at hlast
    exact ⟨kept.toList.getLast hne, by simp, hlast⟩

/-- A resolved host tells how the host was written. -/
theorem written_of_normalizeHost {host scheme name : String} (hs : scheme ∈ schemes)
    (hname : IsName name) (h : normalizeHost host = scheme ++ name) :
    ∃ scheme name, Written host scheme name := by
  cases hc : contains "://".toList (trim host).toList with
  | true =>
    rw [normalizeHost_of_contains hc] at h
    exact ⟨scheme, name, .schemed hs h hname⟩
  | false =>
    rw [normalizeHost_of_not_contains hc, ← String.toList_inj, String.toList_append,
      String.toList_append] at h
    refine ⟨"https://", trim host, .bare rfl hc ?_⟩
    rcases List.mem_pair.1 hs with rfl | rfl
    · simp at h
    · rwa [String.toList_inj.1 (List.append_cancel_left h)]

/-- A resolved host begins with a scheme, the slashes at its end apart, exactly if the host is a name
with a scheme or without any. -/
theorem begins_iff_written (host : String) :
    Begins (trimTrailingSlashes (normalizeHost host)) ↔ ∃ scheme name, Written host scheme name := by
  constructor
  · intro h
    obtain ⟨scheme, hs, name, hname, hmore⟩ := exists_name_of_begins h
    exact written_of_normalizeHost hs hmore hname
  · rintro ⟨scheme, name, hw⟩
    refine ⟨scheme, hw.mem_schemes, trimTrailingSlashes name, ?_⟩
    rw [hw.resolves, trimTrailingSlashes_append scheme hw.isName]

theorem Written.address {host scheme name : String} (h : Written host scheme name) :
    baseUrl (normalizeHost host) = scheme ++ trimTrailingSlashes name := by
  have hb := (begins_iff_written host).2 ⟨scheme, name, h⟩
  rw [baseUrl_of_begins (isTrimmed_normalizeHost host) hb, h.resolves,
    trimTrailingSlashes_append scheme h.isName]

/-- The address of a host that is a name, with a scheme or without any, is that name less the slashes
at its end behind one scheme. To any other host a scheme is added that its resolution did not miss. A
host is resolved once and for all. -/
theorem baseUrl_resolved {s : AuthSettings} {host : String} {auth : ResolvedAuth}
    (hh : s.host = some host) (h : s.resolve = .ok auth) :
    (baseUrl auth.host = trimTrailingSlashes auth.host ↔
      ∃ scheme name, Written host scheme name) ∧
    (∀ scheme name, Written host scheme name → scheme ∈ schemes ∧ auth.host = scheme ++ name ∧
      baseUrl auth.host = scheme ++ trimTrailingSlashes name) ∧
    ((¬∃ scheme name, Written host scheme name) →
      baseUrl auth.host = "https://" ++ trimTrailingSlashes auth.host) ∧
    ∀ host, normalizeHost (normalizeHost host) = normalizeHost host := by
  have hauth : auth.host = normalizeHost host := by
    rw [AuthSettings.resolve_eq_iff] at h
    cases h with
    | resolved _ hsome hn => rw [hn, Option.some.inj (hsome.symm.trans hh)]
  have ht := isTrimmed_normalizeHost host
  rw [hauth]
  refine ⟨(baseUrl_eq_iff ht).trans (begins_iff_written host),
    fun scheme name hw => ⟨hw.mem_schemes, hw.resolves, hw.address⟩, fun hno => ?_,
    normalizeHost_normalizeHost⟩
  exact baseUrl_of_not_begins ht fun hb => hno ((begins_iff_written host).1 hb)

/-- Blanks around a host and slashes at its end do not count. -/
theorem baseUrl_resolved_local :
    let s : AuthSettings := { host := some " http://localhost:8080// ", token := some "t" }
    ∃ auth, s.resolve = .ok auth ∧ baseUrl auth.host = "http://localhost:8080" := by
  intro s
  have h : s.resolve = .ok ⟨"http://localhost:8080//", .token "t"⟩ := by decide +kernel
  have hw : Written " http://localhost:8080// " "http://" "localhost:8080//" :=
    .schemed (by decide) (by decide +kernel) ⟨'l', by decide, by decide⟩
  obtain ⟨-, haddress, -⟩ := baseUrl_resolved rfl h
  exact ⟨_, h, (haddress _ _ hw).2.2.trans (by decide +kernel)⟩

/-- A scheme in capitals is one for the resolution, and none where requests are made. -/
theorem baseUrl_resolved_capitals :
    let s : AuthSettings := { host := some "HTTPS://x", token := some "t" }
    ∃ auth, s.resolve = .ok auth ∧ auth.host = "HTTPS://x" ∧
      baseUrl auth.host ≠ trimTrailingSlashes auth.host ∧
      baseUrl auth.host = "https://HTTPS://x" := by
  refine ⟨⟨"HTTPS://x", .token "t"⟩, ?_, rfl, ?_, ?_⟩ <;> decide +kernel

end Http
end ClusterReconciliation
