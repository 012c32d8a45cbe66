import ClusterReconciliation.Proofs.Endings

/-! The calls of a run in order, and rules for them that go by what came before. A rule that no call
of a part of a run can break is kept by that part. -/
namespace ClusterReconciliation
open Run
variable {σ α : Type}

/-- What a reconciler can be asked to do. -/
inductive Task
  | reconcile (desired : Desired) (existing : Option String)
  | delete (id : String)

def Reconciler.carryOut (r : Reconciler σ) : Task → σ → Reconciliation σ
  | .reconcile desired existing, world => r.reconcile desired existing world
  | .delete id, world => r.delete id world

/-- What holds at the end of every run that a task can lead to. -/
theorem Reconciler.carryOut_endsIn {r : Reconciler σ} (task : Task) {world : σ}
    {P : Session σ → Prop} (hc : ∀ desired, EndsIn (r.create desired) { world := world } P)
    (hu : ∀ id desired, EndsIn (r.update id desired) { world := world } P)
    (hp : ∀ id, EndsIn (r.purge id) { world := world } P) : P (r.carryOut task world).session := by
  cases task with
  | delete id => exact (hp id).always
  | reconcile desired existing =>
    cases existing with
    | none => exact (hc desired).always
    | some id => exact (hu id desired).always

/-- What was last seen of a cluster. -/
def lastSighting (es : List (Event σ)) : Option Cluster.Info :=
  (es.filterMap Event.sighting).getLast?

/-- What was last reported of the libraries of a cluster. -/
def lastReport (es : List (Event σ)) : Option (List LibraryStatus) := (reports es).getLast?

theorem lastSighting_concat (es : List (Event σ)) (e : Event σ) :
    lastSighting (es ++ [e]) = e.sighting.or (lastSighting es) := by
  cases h : e.sighting <;> simp [lastSighting, h]

theorem lastReport_concat (es : List (Event σ)) (e : Event σ) :
    lastReport (es ++ [e]) = e.report.or (lastReport es) := by
  cases h : e.report <;> simp [lastReport, reports, h]

/-- Every call obeys a rule, given the calls before it. -/
def Obeys (R : List (Event σ) → Call → Prop) (es : List (Event σ)) : Prop :=
  ∀ before e after, es = before ++ e :: after → R before e.call

section Rules
variable {R : List (Event σ) → Call → Prop} {es : List (Event σ)}

theorem obeys_nil : Obeys R [] := fun before e after h => by simp at h

theorem obeys_concat {e : Event σ} : Obeys R (es ++ [e]) ↔ Obeys R es ∧ R es e.call := by
  constructor
  · intro h
    refine ⟨fun before e' after he => h before e' (after ++ [e]) ?_, h es e [] rfl⟩
    rw [he, List.append_assoc, List.cons_append]
  · rintro ⟨h, he⟩ before e' after heq
    -- The call in question is the last one, or it is among the others.
    rcases List.eq_nil_or_concat' after with rfl | ⟨rest, last, rfl⟩
    · obtain ⟨rfl, hlast⟩ := List.append_inj' heq rfl
      cases hlast
      exact he
    · rw [← List.cons_append, ← List.append_assoc] at heq
      obtain ⟨rfl, -⟩ := List.append_inj' heq rfl
      exact h before e' rest rfl

theorem Obeys.append (h : Obeys R es) {fs : List (Event σ)}
    (hf : ∀ before, ∀ e ∈ fs, R before e.call) : Obeys R (es ++ fs) := by
  induction fs using List.reverseRecOn with
  | nil => simpa using h
  | append_singleton fs e ih =>
    rw [← List.append_assoc, obeys_concat]
    exact ⟨ih fun before e' he' => hf before e' (by simp [he']), hf _ e (by simp)⟩

/-- Calls of a kind, each of which may only follow on so few of them, stay that few. -/
theorem Obeys.countP_le (h : Obeys R es) {p : Call → Bool} {n : Nat}
    (hp : ∀ before c, R before c → p c = true → before.countP (p ·.call) < n) :
    es.countP (p ·.call) ≤ n := by
  induction es using List.reverseRecOn with
  | nil => simp
  | append_singleton es e ih =>
    obtain ⟨hes, he⟩ := obeys_concat.1 h
    rw [List.countP_append, List.countP_singleton]
    split_ifs with hc
    · exact hp es e.call he hc
    · exact ih hes

end Rules

namespace Session
variable {s t : Session σ}

theorem calls_cons {e : Event σ} (h : t.history = e :: s.history) : t.calls = s.calls ++ [e] :=
  calls_eq (show t.history = [e] ++ s.history from h)

theorem mem_calls {e : Event σ} : e ∈ s.calls ↔ e ∈ s.history := List.mem_reverse

theorem Grows.obeys {R : List (Event σ) → Call → Prop} {P : Event σ → Prop} (h : s.Grows P t)
    (hP : ∀ before e, P e → R before e.call) (hs : Obeys R s.calls) : Obeys R t.calls := by
  obtain ⟨es, hes, hp⟩ := h
  rw [calls_eq hes]
  exact hs.append fun before e he => hP before e (hp e (List.mem_reverse.1 he))

end Session

namespace Reconciler
variable {r : Reconciler σ} {s t : Session σ} {R : List (Event σ) → Call → Prop}

/-- Calls that obey a rule whatever came before them can be added. -/
theorem endsIn_obeys {m : Run σ α} {K : Call → Prop} (hm : MadeOf r K m)
    (hK : ∀ before c, K c → R before c) (hs : Obeys R s.calls) : EndsIn m s (Obeys R ·.calls) :=
  (hm.endsIn s).imp fun _ h => h.grows.obeys (fun before e he => hK before e.call he) hs

/-- A change that may be asked for now is one call more, and leaves no rule broken. -/
theorem mutate_obeys {action : Action} (stage : Stage) {c : Call} (hc : R s.calls c)
    (hs : Obeys R s.calls) :
    Ensures (r.mutate action stage c) s
      (fun _ t => ∃ e : Event σ, e.call = c ∧ t.calls = s.calls ++ [e])
      fun _ t => Obeys R t.calls := by
  refine ⟨fun u t h => ?_, fun e t h => ?_⟩
  · obtain ⟨-, -, -, rfl⟩ := r.mutate_eq_ok h
    exact ⟨⟨s.world, c, (r.perform c s).1⟩, rfl, Session.calls_cons rfl⟩
  · rcases r.exec_mutate_history action stage c s with hh | hh <;> rw [h] at hh
    · rwa [Session.calls, hh]
    · rw [Session.calls_cons hh, obeys_concat]
      exact ⟨hs, hc⟩

theorem endsIn_mutate_obeys {action : Action} (stage : Stage) {c : Call} (hc : R s.calls c)
    (hs : Obeys R s.calls) : EndsIn (r.mutate action stage c) s (Obeys R ·.calls) := by
  refine (mutate_obeys stage hc hs).mono (fun _ t ht => ?_) fun _ _ ht => ht
  obtain ⟨e, he, ht⟩ := ht
  rw [ht, obeys_concat, he]
  exact ⟨hs, hc⟩

end Reconciler
end ClusterReconciliation
