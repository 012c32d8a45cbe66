import ClusterReconciliation.Proofs.Layers

/-! What a lower layer can do to a higher one that is complete. Nothing of it is used, but it can say
something of the other way to authenticate, and then the settings name one way too many. -/
namespace ClusterReconciliation

/-- More than white space is given. -/
def Filled (v : Option String) : Prop := ∃ s, v = some s ∧ Text.trim s ≠ ""

theorem unlessBlank_eq_none {v : Option String} : unlessBlank v = none ↔ ¬Filled v := by
  rw [unlessBlank_eq, Option.filter_eq_none_iff]
  constructor
  · rintro h ⟨s, rfl, hs⟩
    exact h s rfl (bne_iff_ne.2 hs)
  · intro h s hv hs
    exact h ⟨s, hv, bne_iff_ne.1 hs⟩

theorem unlessBlank_eq_some {v : Option String} {s : String} :
    unlessBlank v = some s ↔ v = some s ∧ Text.trim s ≠ "" := by
  rw [unlessBlank_eq, Option.filter_eq_some_iff, bne_iff_ne]

theorem isSome_unlessBlank {v : Option String} : (unlessBlank v).isSome ↔ Filled v := by
  rw [Option.isSome_iff_ne_none, Ne, unlessBlank_eq_none, not_not]

/-- The context says something of the way to authenticate that these credentials are not. -/
def Context.Contradicts (c : Context) : Credentials → Prop
  | .token _ => Filled c.username ∨ Filled c.password
  | .basic _ _ => Filled c.token

namespace AuthSettings
variable {s : AuthSettings} {credentials : Credentials} {c : Context}

theorem host_or {host : String} (h : (s.or {}).host = some host) :
    (s.or (.ofContext c)).host = some host := by
  simp only [AuthSettings.or, Option.or_none] at h ⊢
  rw [h, Option.some_or]

/-- A context that is silent on the other way to authenticate leaves the credentials as they are. -/
theorem names_or (h : (s.or {}).Names credentials) (hc : ¬c.Contradicts credentials) :
    (s.or (.ofContext c)).Names credentials := by
  cases h with
  | token ht hu hp =>
    obtain ⟨hcu, hcp⟩ := not_or.1 hc
    simp only [AuthSettings.or, Option.or_none] at ht hu hp
    refine .token ?_ ?_ ?_ <;> simp only [AuthSettings.or, ofContext, ht, hu, hp]
    · rfl
    · exact unlessBlank_eq_none.2 hcu
    · exact unlessBlank_eq_none.2 hcp
  | basic ht hu hp =>
    simp only [AuthSettings.or, Option.or_none] at ht hu hp
    refine .basic ?_ ?_ ?_ <;> simp only [AuthSettings.or, ofContext, ht, hu, hp]
    · exact unlessBlank_eq_none.2 hc
    · rfl
    · rfl

theorem conflicting_or (h : (s.or {}).Names credentials) (hc : c.Contradicts credentials) :
    (s.or (.ofContext c)).Settles (.error .conflictingMethods) := by
  cases h with
  | token ht hu hp =>
    simp only [AuthSettings.or, Option.or_none] at ht hu hp
    refine .conflicting ?_ ?_ <;> simp only [AuthSettings.or, ofContext, ht, hu, hp]
    · rfl
    · exact hc.imp isSome_unlessBlank.2 isSome_unlessBlank.2
  | basic ht hu hp =>
    simp only [AuthSettings.or, Option.or_none] at ht hu hp
    refine .conflicting ?_ (.inl ?_) <;> simp only [AuthSettings.or, ofContext, ht, hu]
    · exact isSome_unlessBlank.2 hc
    · rfl

end AuthSettings

open AuthSettings

/-- Where flags and environment are enough, a context changes nothing unless it says something of the
other way to authenticate. Then nothing is resolved: the settings are put together field by field
before they have to name one way only, so that they name both. -/
theorem resolveAuth_over_context {explicit : AuthSettings} {lookup : String → Option String}
    {auth : ResolvedAuth} (h : resolveAuth explicit (.ofVariables lookup) none = .ok auth)
    (context : Context) :
    (¬context.Contradicts auth.credentials →
      resolveAuth explicit (.ofVariables lookup) (some context) = .ok auth) ∧
    (context.Contradicts auth.credentials →
      resolveAuth explicit (.ofVariables lookup) (some context) = .error .conflictingMethods) := by
  have hsettles := ((explicit.or (.ofVariables lookup)).or {}).resolve_eq_iff (.ok auth) |>.1 h
  cases hsettles with
  | resolved hnames hhost hnormal =>
    refine ⟨fun hc => (resolve_eq_iff _ _).2 ?_, fun hc => (resolve_eq_iff _ _).2 ?_⟩
    · exact .resolved (names_or hnames hc) (host_or hhost) hnormal
    · exact conflicting_or hnames hc

/-- A token from the environment and a host from a flag, over a context with another token. -/
theorem resolveAuth_over_context_token :
    let explicit : AuthSettings := { host := some "h" }
    let lookup : String → Option String := fun name =>
      if name = "DATABRICKS_TOKEN" then some "t" else none
    let context : Context :=
      { name := "dev", host := "x", token := some "old", username := some " " }
    let auth : ResolvedAuth := ⟨"https://h", .token "t"⟩
    resolveAuth explicit (.ofVariables lookup) none = .ok auth ∧
      resolveAuth explicit (.ofVariables lookup) (some context) = .ok auth := by
  intro explicit lookup context auth
  have h : resolveAuth explicit (.ofVariables lookup) none = .ok auth := by decide +kernel
  refine ⟨h, (resolveAuth_over_context h context).1 ?_⟩
  rintro (⟨s, hs, hfilled⟩ | ⟨s, hs, -⟩) <;> cases hs
  exact hfilled (by decide +kernel)

/-- The host and the token that were given on the command line are not enough if the current context
has a name and a password. -/
theorem resolveAuth_conflicting_context :
    let explicit : AuthSettings := { host := some "h", token := some "t" }
    let context : Context :=
      { name := "dev", host := "x", username := some "me", password := some "pw" }
    resolveAuth explicit (.ofVariables fun _ => none) none = .ok ⟨"https://h", .token "t"⟩ ∧
      resolveAuth explicit (.ofVariables fun _ => none) (some context) =
        .error .conflictingMethods := by decide +kernel

end ClusterReconciliation
