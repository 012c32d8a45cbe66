import ClusterReconciliation.Credentials
import Mathlib.Data.List.TakeWhile

/-! Settings in layers. Each setting is the first value of the layers that is not blank, whatever the
other settings are, and only then it is judged whether the settings name one way to authenticate and
a host. -/
namespace ClusterReconciliation

theorem Text.isBlankText_iff {s : String} : isBlankText s = true ↔ trim s = "" := by
  simp only [isBlankText, List.all_eq_true, trim, trimEnd, trimStart, String.toList_ofList,
    String.ofList_eq_empty_iff, List.reverse_eq_nil_iff, List.dropWhile_eq_nil_iff,
    List.mem_reverse]
  refine ⟨fun h c hc => h c ((List.dropWhile_suffix _).subset hc), fun h => ?_⟩
  -- What is left after the blanks at the start would begin with no blank.
  have hnil : s.toList.dropWhile isBlank = [] := by
    cases hd : s.toList.dropWhile isBlank with
    | nil => rfl
    | cons c rest =>
      have hc := List.head?_dropWhile_not isBlank s.toList
      rw [hd] at h hc
      simp [h c (by simp)] at hc
  exact List.dropWhile_eq_nil_iff.1 hnil

theorem unlessBlank_eq (v : Option String) : unlessBlank v = v.filter (Text.trim · != "") := by
  have h : (fun s => !Text.isBlankText s) = fun s => Text.trim s != "" := by
    funext s
    rw [Bool.eq_iff_iff, Bool.not_eq_true', ← Bool.not_eq_true, Text.isBlankText_iff, bne_iff_ne]
  rw [unlessBlank, h]

@[simp] theorem unlessBlank_unlessBlank (v : Option String) :
    unlessBlank (unlessBlank v) = unlessBlank v := by
  simp [unlessBlank]

/-- The secrets and names that credentials are made of. -/
def Credentials.values : Credentials → List String
  | token t => [t]
  | basic username password => [username, password]

namespace AuthSettings

/-- What authenticates: a token and nothing else, or a name and a password and nothing else. -/
inductive Names (s : AuthSettings) : Credentials → Prop
  | token {t : String} (ht : s.token = some t) (hu : s.username = none) (hp : s.password = none) :
    Names s (.token t)
  | basic {u p : String} (ht : s.token = none) (hu : s.username = some u)
    (hp : s.password = some p) : Names s (.basic u p)

/-- What comes of settings that are merged. The host counts only once the rest is in order. -/
inductive Settles (s : AuthSettings) : Except AuthError ResolvedAuth → Prop
  | conflicting (ht : s.token.isSome) (hb : s.username.isSome ∨ s.password.isSome) :
    Settles s (.error .conflictingMethods)
  | incomplete (ht : s.token = none) (hb : s.username.isSome ≠ s.password.isSome) :
    Settles s (.error .incompleteBasicAuth)
  | notConfigured (ht : s.token = none) (hu : s.username = none) (hp : s.password = none) :
    Settles s (.error .notConfigured)
  | missingHost {c : Credentials} (hc : s.Names c) (hh : s.host = none) :
    Settles s (.error (.missingHost c.method))
  | resolved {auth : ResolvedAuth} {host : String} (hc : s.Names auth.credentials)
    (hh : s.host = some host) (hn : auth.host = normalizeHost host) : Settles s (.ok auth)

theorem Names.credentials {s : AuthSettings} {c : Credentials} (h : s.Names c) :
    s.credentials = .ok c := by
  cases h with
  | token ht hu hp => simp [AuthSettings.credentials, ht, hu, hp]
  | basic ht hu hp => simp [AuthSettings.credentials, ht, hu, hp]

theorem resolve_of_credentials {s : AuthSettings} {e : AuthError} (h : s.credentials = .error e) :
    s.resolve = .error e := by
  rw [resolve, h]
  rfl

theorem Settles.resolve {s : AuthSettings} {result : Except AuthError ResolvedAuth}
    (h : s.Settles result) : s.resolve = result := by
  cases h with
  | conflicting ht hb =>
    apply resolve_of_credentials
    obtain ⟨host, token, username, password⟩ := s
    cases token <;> cases username <;> cases password <;> simp_all [AuthSettings.credentials]
  | incomplete ht hb =>
    apply resolve_of_credentials
    obtain ⟨host, token, username, password⟩ := s
    cases username <;> cases password <;> simp_all [AuthSettings.credentials]
  | notConfigured ht hu hp =>
    apply resolve_of_credentials
    simp [AuthSettings.credentials, ht, hu, hp]
  | missingHost hc hh =>
    rw [AuthSettings.resolve, hc.credentials, hh]
    rfl
  | resolved hc hh hn =>
    rw [AuthSettings.resolve, hc.credentials, hh]
    simp only [bind, Except.bind, ← hn]
    rfl

theorem settles_of_names {s : AuthSettings} {c : Credentials} (hc : s.Names c) :
    ∃ result, s.Settles result := by
  cases hh : s.host with
  | none => exact ⟨_, .missingHost hc hh⟩
  | some host => exact ⟨_, @Settles.resolved _ ⟨normalizeHost host, c⟩ _ hc hh (by simp only)⟩

/-- Whatever the settings say, something comes of them. -/
theorem exists_settles (s : AuthSettings) : ∃ result, s.Settles result := by
  cases ht : s.token with
  | some t =>
    by_cases hb : s.username.isSome ∨ s.password.isSome
    · exact ⟨_, .conflicting (by simp [ht]) hb⟩
    · obtain ⟨hu, hp⟩ := not_or.1 hb
      exact settles_of_names (.token ht (by simpa using hu) (by simpa using hp))
  | none =>
    cases hu : s.username with
    | none =>
      cases hp : s.password with
      | none => exact ⟨_, .notConfigured ht hu hp⟩
      | some p => exact ⟨_, .incomplete ht (by simp [hu, hp])⟩
    | some u =>
      cases hp : s.password with
      | none => exact ⟨_, .incomplete ht (by simp [hu, hp])⟩
      | some p => exact settles_of_names (.basic ht hu hp)

theorem resolve_eq_iff (s : AuthSettings) (result : Except AuthError ResolvedAuth) :
    s.resolve = result ↔ s.Settles result := by
  refine ⟨fun h => ?_, Settles.resolve⟩
  obtain ⟨_, hs⟩ := s.exists_settles
  rwa [← h, hs.resolve]

end AuthSettings

open AuthSettings

end ClusterReconciliation
