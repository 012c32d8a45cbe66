import ClusterReconciliation.Simulation.Machine
import Mathlib.Tactic

/-! Configurations under changes. A change that fails leaves the configuration as it was, one that
succeeds touches no context but its own, and after any changes from an empty configuration the
contexts stand under their names and the current one is among them. -/
namespace ClusterReconciliation

namespace Dict
variable {β : Type}

/-- Among the entries of a map the ones with a key are the one that is found. -/
theorem filter_entries (d : Dict β) (k : String) :
    d.entries.filter (fun e => k = e.1) = (d.get? k).toList.map (k, ·) := by
  obtain ⟨l, hl⟩ := d
  simp only [get?]
  induction l with
  | nil => rfl
  | cons e rest ih =>
    rw [List.pairwise_cons] at hl
    by_cases hk : k = e.1
    · obtain ⟨j, v⟩ := e
      obtain rfl : k = j := hk
      have hrest : rest.filter (fun a => k = a.1) = [] := by
        rw [List.filter_eq_nil_iff]
        intro a ha
        simpa using fun h => String.lt_irrefl _ (h ▸ hl.1 a ha)
      simp [hrest]
    · rw [lookup_cons_of_ne hk, ← ih hl.2]
      simp [hk]

/-- What stands under a key is what is found under it. -/
theorem get?_of_mem {d : Dict β} {k : String} {v : β} (h : (k, v) ∈ d.entries) :
    d.get? k = some v := by
  have hmem : (k, v) ∈ d.entries.filter fun e => k = e.1 := List.mem_filter.2 ⟨h, by simp⟩
  rw [filter_entries] at hmem
  simpa using hmem

theorem contains_insert (d : Dict β) (j k : String) (v : β) :
    (d.insert k v).contains j = (d.contains j || j = k) := by
  by_cases h : j = k
  · subst h
    simp [contains]
  · simp [contains, get?_insert_of_ne d h, h]

end Dict

namespace Config
variable {α β : Type}

namespace Change

@[simp] theorem perform_get_bind (f : Config → Change β) (c : Config) :
    perform (get >>= f) c = perform (f c) c := rfl

@[simp] theorem perform_modify_bind (f : Config → Config) (m : Unit → Change β) (c : Config) :
    perform (modify f >>= m) c = perform (m ()) (f c) := rfl

theorem perform_bind_of_ok {m : Change α} {f : α → Change β} {a : α} {c d : Config}
    (h : perform m c = (.ok a, d)) : perform (m >>= f) c = perform (f a) d := by
  change (ExceptT.bindCont f (perform m c).1).run (perform m c).2 = _
  rw [h]
  rfl

theorem perform_bind_of_error {m : Change α} {f : α → Change β} {e : ContextError} {c d : Config}
    (h : perform m c = (.error e, d)) : perform (m >>= f) c = (.error e, d) := by
  change (ExceptT.bindCont f (perform m c).1).run (perform m c).2 = _
  rw [h]
  rfl

theorem perform_insert (x : Context) (overwrite : Bool) (c : Config) :
    perform (insert x overwrite) c =
      if !overwrite && c.contexts.contains x.name then (.error (.alreadyExists x.name), c)
      else (.ok (), { c with contexts := c.contexts.insert x.name x }) := by
  rw [insert, perform_get_bind]
  split <;> rfl

theorem perform_use (name : String) (c : Config) :
    perform (use name) c =
      if c.contexts.contains name then (.ok (), { c with currentContext := some name })
      else (.error (.notFound name), c) := by
  rw [use, perform_get_bind]
  split <;> rfl

/-- The context that has just been put in is there, so making it current cannot fail. -/
theorem perform_add (x : Context) (overwrite : Bool) (c : Config) :
    perform (add x overwrite) c =
      if !overwrite && c.contexts.contains x.name then (.error (.alreadyExists x.name), c)
      else (.ok (), ⟨c.currentContext.or (some x.name), c.contexts.insert x.name x⟩) := by
  have hinsert := perform_insert x overwrite c
  rw [add]
  split
  · rename_i h
    rw [if_pos h] at hinsert
    exact perform_bind_of_error hinsert
  · rename_i h
    rw [if_neg h] at hinsert
    rw [perform_bind_of_ok hinsert, perform_get_bind]
    cases c.currentContext with
    | none => simp [perform_use, Dict.contains_insert]
    | some name => rfl

theorem perform_delete (name : String) (c : Config) :
    perform (delete name) c =
      match c.contexts.get? name with
      | none => (.error (.notFound name), c)
      | some x => (.ok x, ⟨c.currentContext.filter (· != name), c.contexts.erase name⟩) := by
  rw [delete, perform_get_bind]
  cases hx : c.contexts.get? name with
  | none => rfl
  | some x =>
    simp only [perform_modify_bind, perform_get_bind]
    by_cases h : c.currentContext = some name
    · rw [if_pos h, h, Option.filter_some_neg (by simp)]
      rfl
    · have hfilter : c.currentContext.filter (· != name) = c.currentContext := by
        cases hc : c.currentContext with
        | none => rfl
        | some other =>
          rw [hc, Option.some.injEq] at h
          simp [h]
      rw [if_neg h, hfilter]
      rfl

end Change

/-- What can be asked of a configuration. -/
inductive Step
  | add (x : Context) (overwrite : Bool)
  | use (name : String)
  | delete (name : String)
  deriving DecidableEq, Repr

namespace Step

def name : Step → String
  | add x _ => x.name
  | use name => name
  | delete name => name

def change : Step → Change Unit
  | add x overwrite => .add x overwrite
  | use name => .use name
  | delete name => do
    let _ ← Change.delete name
    return

/-- How a step ends, and the configuration that it leaves. -/
def run (s : Step) (c : Config) : Except ContextError Unit × Config := s.change.perform c

end Step

/-- The configuration that is left by steps, whether they succeed or fail. -/
def afterSteps (c : Config) (steps : List Step) : Config := steps.foldl (fun c s => (s.run c).2) c

theorem Step.run_delete (name : String) (c : Config) :
    (Step.delete name).run c =
      match c.contexts.get? name with
      | none => (.error (.notFound name), c)
      | some _ => (.ok (), ⟨c.currentContext.filter (· != name), c.contexts.erase name⟩) := by
  have hdelete := Change.perform_delete name c
  rw [run, change]
  cases hx : c.contexts.get? name with
  | none =>
    rw [hx] at hdelete
    exact Change.perform_bind_of_error hdelete
  | some x =>
    rw [hx] at hdelete
    rw [Change.perform_bind_of_ok hdelete]
    rfl

/-- A step that fails leaves the configuration as it was. -/
theorem Step.run_failed {s : Step} {c : Config} {e : ContextError} (h : (s.run c).1 = .error e) :
    (s.run c).2 = c := by
  cases s with
  | add x overwrite =>
    rw [run, change, Change.perform_add] at h ⊢
    split at h <;> simp_all
  | use name =>
    rw [run, change, Change.perform_use] at h ⊢
    split at h <;> simp_all
  | delete name =>
    rw [run_delete] at h ⊢
    split at h <;> simp_all

/-- No step touches a context of another name. -/
theorem Step.run_other (s : Step) (c : Config) {name : String} (h : name ≠ s.name) :
    (s.run c).2.contexts.get? name = c.contexts.get? name := by
  cases s with
  | add x overwrite =>
    rw [run, change, Change.perform_add]
    split
    · rfl
    · exact Dict.get?_insert_of_ne _ h _
  | use used =>
    rw [run, change, Change.perform_use]
    split <;> rfl
  | delete deleted =>
    rw [run_delete]
    split
    · rfl
    · exact Dict.get?_erase_of_ne _ h

/-- The entries that are listed as current are those of the contexts with the current name. -/
theorem filter_entries (c : Config) :
    c.entries.filter (·.isCurrent) =
      (c.contexts.entries.filter fun e => c.currentContext = some e.2.name).map (·.2.entry true) := by
  rw [entries, Dict.values, List.map_map, List.filter_map]
  refine List.map_congr_left fun e he => ?_
  simpa [Context.entry] using (List.mem_filter.1 he).2

/-- Where the current name is no other context's name, the context under it is listed as current. -/
theorem filter_entries_of_names {c : Config} (h : ∀ e ∈ c.contexts.entries,
      c.currentContext = some e.2.name ↔ c.currentContext = some e.1) :
    c.entries.filter (·.isCurrent) =
      (c.currentContext.bind c.contexts.get?).toList.map (·.entry true) := by
  have hkeys : (c.contexts.entries.filter fun e => c.currentContext = some e.2.name) =
      c.contexts.entries.filter fun e => c.currentContext = some e.1 :=
    List.filter_congr fun e he => decide_eq_decide.2 (h e he)
  rw [filter_entries, hkeys]
  cases c.currentContext with
  | none => simp
  | some name =>
    simp only [Option.some.injEq, Option.bind_some, Dict.filter_entries, List.map_map]
    rfl

/-- The contexts stand under their names, and the current one is among them. -/
structure Coherent (c : Config) : Prop where
  named : ∀ e ∈ c.contexts.entries, e.2.name = e.1
  current : ∀ name, c.currentContext = some name → c.contexts.contains name = true

theorem coherent_empty : Coherent {} where
  named := fun e he => by cases he
  current := fun name h => by cases h

theorem Coherent.run {c : Config} (h : c.Coherent) (s : Step) : (s.run c).2.Coherent := by
  cases s with
  | add x overwrite =>
    rw [Step.run, Step.change, Change.perform_add]
    split
    · exact h
    · refine ⟨fun e he => ?_, fun name hn => ?_⟩
      · rcases Dict.mem_insertEntry he with rfl | he
        · rfl
        · exact h.named e he
      · rw [Dict.contains_insert]
        cases hc : c.currentContext with
        | none =>
          -- The context that is added becomes the current one.
          rw [hc] at hn
          simp [← Option.some.inj hn]
        | some current =>
          rw [hc] at hn
          obtain rfl := Option.some.inj hn
          simp [h.current current hc]
  | use name =>
    rw [Step.run, Step.change, Change.perform_use]
    split
    · rename_i hin
      refine ⟨h.named, fun other ho => ?_⟩
      obtain rfl := Option.some.inj ho
      exact hin
    · exact h
  | delete name =>
    rw [Step.run_delete]
    split
    · exact h
    · refine ⟨fun e he => h.named e (List.mem_filter.1 he).1, fun other ho => ?_⟩
      obtain ⟨hcurrent, hne⟩ := Option.filter_eq_some_iff.1 ho
      have hother : other ≠ name := by simpa using hne
      have hin := h.current other hcurrent
      rwa [Dict.contains, ← Dict.get?_erase_of_ne _ hother] at hin

theorem Coherent.afterSteps {c : Config} (h : c.Coherent) (steps : List Step) :
    (c.afterSteps steps).Coherent := by
  induction steps generalizing c with
  | nil => exact h
  | cons s rest ih => exact ih (h.run s)

section Current
variable {c : Config}

theorem Coherent.current_eq (h : c.Coherent) :
    c.current = .ok (c.currentContext.bind c.contexts.get?) := by
  rw [Config.current]
  cases hc : c.currentContext with
  | none => rfl
  | some name =>
    obtain ⟨x, hx⟩ := Option.isSome_iff_exists.1 (h.current name hc)
    simp [hx]

/-- Only the current context is listed as current. -/
theorem Coherent.filter_entries (h : c.Coherent) :
    c.entries.filter (·.isCurrent) =
      (c.currentContext.bind c.contexts.get?).toList.map (·.entry true) :=
  filter_entries_of_names fun e he => by rw [h.named e he]

end Current

/-- The one entry that is listed as current is there when a context is current. -/
theorem Coherent.length_current_entries {c : Config} (h : c.Coherent) :
    (c.entries.filter (·.isCurrent)).length = if c.currentContext.isSome then 1 else 0 := by
  rw [h.filter_entries]
  cases hc : c.currentContext with
  | none => rfl
  | some name =>
    obtain ⟨x, hx⟩ := Option.isSome_iff_exists.1 (h.current name hc)
    simp [hx]

/-- The current context can only be missing because none is current. -/
theorem Coherent.currentEntry_failed {c : Config} (h : c.Coherent) {e : ContextError}
    (he : c.currentEntry = .error e) : e = .noCurrent ∧ c.currentContext = none := by
  rw [currentEntry, h.current_eq] at he
  cases hc : c.currentContext with
  | none =>
    rw [hc] at he
    exact ⟨(Except.error.inj he).symm, rfl⟩
  | some name =>
    obtain ⟨x, hx⟩ := Option.isSome_iff_exists.1 (h.current name hc)
    rw [hc, Option.bind_some, hx] at he
    cases he

/-- Where a step succeeds the configuration that it leaves is the one to save. -/
def savedBy (s : Step) (c : Config) : Except ContextError Config :=
  match s.run c with
  | (.ok (), d) => .ok d
  | (.error e, _) => .error e

theorem savedBy_add (x : Context) (overwrite : Bool) (c : Config) :
    savedBy (.add x overwrite) c = c.add x overwrite := by
  rw [savedBy, Config.add, after, Step.run, Step.change]
  rcases Change.perform (.add x overwrite) c with ⟨_ | _, _⟩ <;> rfl

theorem savedBy_use (name : String) (c : Config) : savedBy (.use name) c = c.use name := by
  rw [savedBy, Config.use, after, Step.run, Step.change]
  rcases Change.perform (.use name) c with ⟨_ | _, _⟩ <;> rfl

theorem savedBy_delete (name : String) (c : Config) :
    savedBy (.delete name) c = (c.delete name).map (·.2) := by
  rw [savedBy, Config.delete, after, Step.run_delete, Change.perform_delete]
  cases c.contexts.get? name <;> rfl

end Config

/-- The step on the configuration that a command asks for. -/
def Command.step? : Command → Option Config.Step
  | useContext name => some (.use name)
  | addContext x overwrite => some (.add x overwrite)
  | deleteContext name => some (.delete name)
  | _ => none

namespace Surroundings
variable {σ : Type} (u : Surroundings σ)

theorem execute_step {i : Invocation} {s : Config.Step} (hs : i.command.step? = some s)
    (environment : Dict String) (c : Config) (path : String) (world : σ) :
    ∃ output, u.execute i environment c path world =
      changed path (Config.savedBy s c) output world := by
  rw [execute]
  cases hc : i.command with
  | useContext name =>
    rw [hc] at hs
    cases hs
    exact ⟨_, by rw [Config.savedBy_use]⟩
  | addContext x overwrite =>
    rw [hc] at hs
    cases hs
    exact ⟨_, by rw [Config.savedBy_add]⟩
  | deleteContext name =>
    rw [hc] at hs
    cases hs
    exact ⟨_, by rw [Config.savedBy_delete]⟩
  | _ =>
    rw [hc] at hs
    cases hs

section Invoke
variable {i : Invocation} {environment : Dict String} (he : u.loadVariables i = .ok environment)
  {c : Config} (hc : u.files.config (configPath i environment) = .ok c) {world : σ}
include he hc

theorem invoke_of_ok {o : Outcome σ}
    (h : u.execute i environment c (configPath i environment) world = .ok o) :
    u.invoke i world = o := by
  rw [invoke, he]
  simp only [bind, Except.bind]
  rw [hc]
  simp only [Except.mapError, h]

theorem invoke_of_error {e : ProgramError}
    (h : u.execute i environment c (configPath i environment) world = .error e) :
    u.invoke i world = failed e world := by
  rw [invoke, he]
  simp only [bind, Except.bind]
  rw [hc]
  simp only [Except.mapError, h]

theorem invoke_step {s : Config.Step} (hs : i.command.step? = some s) :
    (∀ e, (s.run c).1 = .error e → u.invoke i world = failed (.command (.context e)) world) ∧
      ((s.run c).1 = .ok () → ∃ output, u.invoke i world =
        ⟨true, output, some (configPath i environment, Yaml.render (s.run c).2.toJson), world⟩) := by
  obtain ⟨output, hx⟩ := u.execute_step hs environment c (configPath i environment) world
  rw [Config.savedBy] at hx
  rcases hrun : s.run c with ⟨e | ⟨⟩, d⟩
  · rw [hrun] at hx
    refine ⟨fun e' h => ?_, fun h => (nomatch h)⟩
    cases h
    exact u.invoke_of_error he hc hx
  · rw [hrun] at hx
    exact ⟨fun e h => (nomatch h), fun _ => ⟨output, u.invoke_of_ok he hc hx⟩⟩

end Invoke

end Surroundings

namespace Machine

/-- A command that changes the configuration writes what its step leaves, if the step succeeds. If the
step fails, so does the command, and it leaves the machine as it was. -/
theorem run_step (fuel : Nat) (m : Machine) {arguments : List String} {i : Invocation}
    (hi : CommandLine.parse m.environment.get? arguments = .ok i) {s : Config.Step}
    (hs : i.command.step? = some s) {environment : Dict String}
    (he : Surroundings.loadVariables
      (⟨m.environment, m.disk.read, Server.connection, fuel⟩ : Surroundings (Scene Server)) i =
        .ok environment)
    {c : Config} (hc : m.disk.read.config (Surroundings.configPath i environment) = .ok c) :
    (∀ e, (s.run c).1 = .error e →
      m.run fuel arguments = (⟨1, (ProgramError.command (.context e)).logLine⟩, m)) ∧
    ((s.run c).1 = .ok () → (m.run fuel arguments).2.disk =
      ((m.disk.write (Surroundings.configPath i environment)
        (Yaml.render (s.run c).2.toJson)).toOption).getD m.disk) := by
  let u : Surroundings (Scene Server) := ⟨m.environment, m.disk.read, Server.connection, fuel⟩
  obtain ⟨hfailed, hok⟩ := u.invoke_step he hc hs
  have hrun : m.run fuel arguments = m.conclude (u.invoke i m.server) := by
    rw [run]
    simp only [Surroundings.run, hi, u]
  constructor
  · intro e h
    rw [hrun, hfailed e h]
    rfl
  · intro h
    obtain ⟨output, hx⟩ := hok h
    rw [hrun, hx, conclude]
    cases hw : m.disk.write (Surroundings.configPath i environment)
      (Yaml.render (s.run c).2.toJson) <;> simp [hw, Except.toOption]

end Machine

/-- After any steps from an empty configuration, whether they succeed or fail, every context stands
under its name, the current one is among them, and it alone is listed as current. On any configuration a
step that fails changes nothing, a command that asks for it changes nothing on its machine, and no step
touches a context of another name. -/
theorem Config.steps_keep_contexts (steps : List Config.Step) :
    (∀ e ∈ (Config.afterSteps {} steps).contexts.entries, e.2.name = e.1) ∧
    (∀ name, (Config.afterSteps {} steps).currentContext = some name →
      (Config.afterSteps {} steps).contexts.contains name = true) ∧
    (∀ e, (Config.afterSteps {} steps).currentEntry = .error e →
      e = .noCurrent ∧ (Config.afterSteps {} steps).currentContext = none) ∧
    ((Config.afterSteps {} steps).entries.filter (·.isCurrent)).length =
      (if (Config.afterSteps {} steps).currentContext.isSome then 1 else 0) ∧
    (∀ (s : Config.Step) (c : Config) e, (s.run c).1 = .error e → (s.run c).2 = c) ∧
    (∀ (s : Config.Step) (c : Config) name, name ≠ s.name →
      (s.run c).2.contexts.get? name = c.contexts.get? name) ∧
    ∀ fuel (m : Machine) arguments i s environment c e,
      CommandLine.parse m.environment.get? arguments = .ok i → i.command.step? = some s →
      Surroundings.loadVariables
        (⟨m.environment, m.disk.read, Server.connection, fuel⟩ : Surroundings (Scene Server)) i =
          .ok environment →
      m.disk.read.config (Surroundings.configPath i environment) = .ok c →
      (s.run c).1 = .error e →
      m.run fuel arguments = (⟨1, (ProgramError.command (.context e)).logLine⟩, m) :=
  have h := Config.coherent_empty.afterSteps steps
  ⟨h.named, h.current, fun _ => h.currentEntry_failed, h.length_current_entries,
    fun _ _ _ => Config.Step.run_failed, fun s c _ => s.run_other c,
    fun fuel m _ _ _ _ _ e hi hs he hc hrun => (m.run_step fuel hi hs he hc).1 e hrun⟩

/-- Contexts are added twice, used before they are there, and deleted while they are current. -/
theorem Config.steps_keep_contexts_mixed :
    let dev : Context := .withToken "dev" "https://dev.example" "key"
    let steps : List Config.Step :=
      [.use "dev", .add dev false, .add { dev with host := "https://other.example" } false,
        .add { dev with name := "prod" } true, .use "prod", .delete "prod", .delete "prod",
        .use "dev"]
    let c := Config.afterSteps {} steps
    c = ⟨some "dev", .ofList [("dev", dev)]⟩ ∧ (c.entries.filter (·.isCurrent)).length = 1 ∧
      ((Config.Step.use "prod").run c).1 = .error (.notFound "prod") ∧
      ((Config.Step.use "prod").run c).2 = c := by
  intro dev steps c
  obtain ⟨-, -, -, hlength, hfailed, -⟩ := Config.steps_keep_contexts steps
  have hc : c = ⟨some "dev", .ofList [("dev", dev)]⟩ := by decide +kernel
  have huse : ((Config.Step.use "prod").run c).1 = .error (.notFound "prod") := by decide +kernel
  exact ⟨hc, hlength.trans (by decide +kernel), huse, hfailed _ _ _ huse⟩

end ClusterReconciliation
