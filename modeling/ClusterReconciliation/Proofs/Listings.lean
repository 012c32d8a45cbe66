import ClusterReconciliation.Proofs.Contexts
import ClusterReconciliation.Proofs.Overrides

/-! What a listing of the contexts shows of each: whether it is the current one, and how it
authenticates. The mark goes by the name that a context bears and the question for the current one by
the key under which it stands; the label goes by what is given and the credentials by what is not blank.
Each pair agrees exactly where its two measures do. -/
namespace ClusterReconciliation

namespace Config
variable {c : Config}

/-- The listing marks the entry that is current and no other one, and none where no context is. -/
structure MarksCurrent (c : Config) : Prop where
  current : ∀ e, c.currentEntry = .ok e → c.entries.filter (·.isCurrent) = [e]
  unset : c.currentContext = none → c.entries.filter (·.isCurrent) = []
  dangling : ∀ name, c.currentContext = some name → c.contexts.get? name = none →
    c.entries.filter (·.isCurrent) = []

theorem currentEntry_of_get? {name : String} {x : Context} (hc : c.currentContext = some name)
    (hx : c.contexts.get? name = some x) : c.currentEntry = .ok (x.entry true) := by
  simp only [currentEntry, current, hc, hx]
  rfl

theorem currentEntry_eq_ok {e : ContextEntry} (h : c.currentEntry = .ok e) :
    (c.currentContext.bind c.contexts.get?).toList.map (·.entry true) = [e] := by
  cases hc : c.currentContext with
  | none =>
    simp only [currentEntry, current, hc] at h
    cases h
  | some name =>
    cases hx : c.contexts.get? name with
    | none =>
      simp only [currentEntry, current, hc, hx] at h
      cases h
    | some x =>
      rw [currentEntry_of_get? hc hx] at h
      cases h
      simp [hx]

theorem marksCurrent_of_names (h : ∀ e ∈ c.contexts.entries,
      c.currentContext = some e.2.name ↔ c.currentContext = some e.1) : c.MarksCurrent where
  current e he := by rw [filter_entries_of_names h, currentEntry_eq_ok he]
  unset hc := by simp [filter_entries_of_names h, hc]
  dangling name hc hx := by simp [filter_entries_of_names h, hc, hx]

/-- A context that bears the current name is one that the listing marks. -/
theorem mem_filter_entries {name : String} {e : String × Context} (he : e ∈ c.contexts.entries)
    (hc : c.currentContext = some name) (hn : e.2.name = name) :
    e ∈ c.contexts.entries.filter fun e => c.currentContext = some e.2.name :=
  List.mem_filter.2 ⟨he, by simp [hc, hn]⟩

/-- The one context that is marked stands under the current name and bears it. -/
theorem MarksCurrent.names (h : c.MarksCurrent) {e : String × Context}
    (he : e ∈ c.contexts.entries) :
    c.currentContext = some e.2.name ↔ c.currentContext = some e.1 := by
  cases hc : c.currentContext with
  | none => simp
  | some name =>
    simp only [Option.some.injEq]
    cases hx : c.contexts.get? name with
    | none =>
      -- Nothing stands under the current name, so nothing is marked that bears it.
      have hnone := h.dangling name hc hx
      rw [filter_entries, List.map_eq_nil_iff] at hnone
      constructor
      · intro hn
        have hmem := mem_filter_entries he hc hn.symm
        rw [hnone] at hmem
        cases hmem
      · rintro rfl
        rw [Dict.get?_of_mem he] at hx
        cases hx
    | some x =>
      have hone := h.current _ (currentEntry_of_get? hc hx)
      rw [filter_entries, List.map_eq_singleton_iff] at hone
      obtain ⟨marked, hmarked, hentry⟩ := hone
      have hname : marked.2.name = name := by
        have hmem : marked ∈ c.contexts.entries.filter fun e => c.currentContext = some e.2.name := by
          simp [hmarked]
        simpa [hc, eq_comm] using (List.mem_filter.1 hmem).2
      have hx' : x.name = name := (congrArg ContextEntry.name hentry).symm.trans hname
      have hthere := mem_filter_entries (Dict.mem_of_lookup hx) hc hx'
      rw [hmarked, List.mem_singleton] at hthere
      constructor
      · intro hn
        have hmem := mem_filter_entries he hc hn.symm
        rw [hmarked, List.mem_singleton, ← hthere] at hmem
        rw [hmem]
      · rintro rfl
        have hfound := (Dict.get?_of_mem he).symm.trans hx
        rw [Option.some.inj hfound, hx']

/-- The listing and the question for the current context agree exactly if the current name is borne by
the context that stands under it and by no other one. -/
theorem marksCurrent_iff (c : Config) :
    c.MarksCurrent ↔ ∀ e ∈ c.contexts.entries,
      c.currentContext = some e.2.name ↔ c.currentContext = some e.1 :=
  ⟨fun h _ => h.names, marksCurrent_of_names⟩

/-- A context is current that stands under the current name and bears another one, and the listing of
the file marks none. -/
theorem not_marksCurrent :
    let text := "current-context: a\ncontexts:\n  a:\n    name: b\n    host: x\n"
    ∃ c, parse text = .ok c ∧ ¬c.MarksCurrent := by
  intro text
  let x : Context := { name := "b", host := "x" }
  let c : Config := ⟨some "a", .ofList [("a", x)]⟩
  have hparse : parse text = .ok c := by decide +kernel
  have hcurrent : c.currentEntry = .ok (x.entry true) := by decide +kernel
  have hnone : c.entries.filter (·.isCurrent) = [] := by decide +kernel
  refine ⟨c, hparse, fun h => ?_⟩
  have hone := h.current _ hcurrent
  rw [hnone] at hone
  cases hone

end Config

namespace Context
variable {c : Context} {auth : ResolvedAuth}

/-- The label of a context says of these credentials how they authenticate. -/
structure Labels (c : Context) (credentials : Credentials) : Prop where
  token : c.authMethod = "token" ↔ ∃ t, credentials = .token t
  basic : c.authMethod = "basic" ↔ ∃ username password, credentials = .basic username password

theorem authMethod_eq_token : c.authMethod = "token" ↔ c.token.isSome := by
  unfold authMethod
  split_ifs <;> simp_all

theorem authMethod_eq_basic : c.authMethod = "basic" ↔ c.token = none ∧ c.username.isSome := by
  unfold authMethod
  cases c.token <;> cases c.username <;> simp

/-- Without flags and variables a context alone decides how to authenticate. -/
theorem resolveAuth_alone (c : Context) :
    resolveAuth {} (.ofVariables fun _ => none) (some c) = (AuthSettings.ofContext c).resolve := rfl

/-- What a context authenticates with is told from the values of it that are not blank. -/
theorem credentials_alone (h : resolveAuth {} (.ofVariables fun _ => none) (some c) = .ok auth) :
    (∃ t, auth.credentials = .token t ∧ c.token = some t ∧ Text.trim t ≠ "") ∨
      ∃ username password, auth.credentials = .basic username password ∧ ¬Filled c.token ∧
        c.username = some username ∧ c.password = some password := by
  rw [resolveAuth_alone, AuthSettings.resolve_eq_iff] at h
  cases h with
  | resolved hnames =>
    cases hcr : auth.credentials with
    | token t =>
      rw [hcr] at hnames
      cases hnames with
      | token ht => exact .inl ⟨t, rfl, unlessBlank_eq_some.1 ht⟩
    | basic username password =>
      rw [hcr] at hnames
      cases hnames with
      | basic ht hu hp =>
        exact .inr ⟨username, password, rfl, unlessBlank_eq_none.1 ht, (unlessBlank_eq_some.1 hu).1,
          (unlessBlank_eq_some.1 hp).1⟩

theorem labels_token {t : String} : c.Labels (.token t) ↔ c.token.isSome := by
  refine ⟨fun h => authMethod_eq_token.1 (h.token.2 ⟨t, rfl⟩), fun h => ⟨?_, ?_⟩⟩
  · simp [authMethod_eq_token, h]
  · simp [authMethod_eq_basic, Option.isSome_iff_ne_none.1 h]

theorem labels_basic {username password : String} :
    c.Labels (.basic username password) ↔ c.token = none ∧ c.username.isSome := by
  refine ⟨fun h => authMethod_eq_basic.1 (h.basic.2 ⟨username, password, rfl⟩), fun h => ⟨?_, ?_⟩⟩
  · simp [authMethod_eq_token, h.1]
  · simp [authMethod_eq_basic, h]

/-- The label of a context says how it authenticates, unless a token is given that is blank: the label
goes by that token, and the credentials are the name and the password beside it. -/
theorem labels_resolved (h : resolveAuth {} (.ofVariables fun _ => none) (some c) = .ok auth) :
    (c.Labels auth.credentials ↔ ∀ t, c.token = some t → Text.trim t ≠ "") ∧
    ∀ t, c.token = some t → Text.trim t = "" →
      c.authMethod = "token" ∧ ∃ username password, c.username = some username ∧
        c.password = some password ∧ auth.credentials = .basic username password := by
  rcases credentials_alone h with ⟨t, hcr, ht, hfilled⟩ | ⟨username, password, hcr, hblank, hu, hp⟩
  · have hall : ∀ s, c.token = some s → Text.trim s ≠ "" := by
      rintro s hs
      rwa [Option.some.inj (hs.symm.trans ht)]
    rw [hcr, labels_token, ht]
    exact ⟨iff_of_true rfl (ht ▸ hall), fun s hs hb => absurd hb (hall s (ht ▸ hs))⟩
  · rw [hcr, labels_basic, hu]
    constructor
    · constructor
      · rintro ⟨hnone, -⟩ s hs
        rw [hnone] at hs
        cases hs
      · intro hall
        refine ⟨Option.eq_none_iff_forall_ne_some.2 fun s hs => ?_, rfl⟩
        exact hblank ⟨s, hs, hall s hs⟩
    · intro s hs _
      exact ⟨authMethod_eq_token.2 (by simp [hs]), username, password, rfl, hp, rfl⟩

/-- A name with a password, and no token. -/
theorem labels_resolved_basic :
    let c : Context :=
      { name := "dev", host := "dev.example", username := some "me", password := some "pw" }
    let auth : ResolvedAuth := ⟨"https://dev.example", .basic "me" "pw"⟩
    resolveAuth {} (.ofVariables fun _ => none) (some c) = .ok auth ∧ c.Labels auth.credentials := by
  intro c auth
  have h : resolveAuth {} (.ofVariables fun _ => none) (some c) = .ok auth := by decide +kernel
  exact ⟨h, (labels_resolved h).1.2 fun t ht => by cases ht⟩

/-- An empty token beside a name and a password is what the label goes by. -/
theorem not_labels_resolved :
    let c : Context :=
      { name := "dev", host := "h", token := some "", username := some "me", password := some "pw" }
    let auth : ResolvedAuth := ⟨"https://h", .basic "me" "pw"⟩
    resolveAuth {} (.ofVariables fun _ => none) (some c) = .ok auth ∧
      ¬c.Labels auth.credentials := by
  intro c auth
  refine ⟨by decide +kernel, fun h => ?_⟩
  cases (labels_basic.1 h).1

end Context

end ClusterReconciliation
