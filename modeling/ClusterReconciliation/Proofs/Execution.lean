import ClusterReconciliation.Reconcile

/-! How runs end. A run is taken apart at its binds: a part that succeeds hands its session on, and
one that halts ends the whole. Each step of a session has one lemma that says all it can do. -/
namespace ClusterReconciliation
variable {σ α β : Type}

namespace Run
variable {m : Run σ α} {f : α → Run σ β} {s t : Session σ}

/-- How a run from a session ends, and the session that it leaves. -/
def exec (m : Run σ α) (s : Session σ) : Except Halt α × Session σ := m.run.run s

@[simp] theorem exec_pure (a : α) (s : Session σ) : exec (pure a) s = (.ok a, s) := rfl

@[simp] theorem exec_throw (h : Halt) (s : Session σ) :
    exec (throw h : Run σ α) s = (.error h, s) := rfl

@[simp] theorem exec_get (s : Session σ) : exec get s = (.ok s, s) := rfl

@[simp] theorem exec_modify (g : Session σ → Session σ) (s : Session σ) :
    exec (modify g) s = (.ok (), g s) := rfl

theorem exec_bind (m : Run σ α) (f : α → Run σ β) (s : Session σ) :
    exec (m >>= f) s =
      match exec m s with
      | (.ok a, t) => exec (f a) t
      | (.error h, t) => (.error h, t) := by
  change (ExceptT.bindCont f (exec m s).1).run (exec m s).2 = _
  rcases exec m s with ⟨_ | _, _⟩ <;> rfl

theorem exec_bind_of_ok {a : α} (h : exec m s = (.ok a, t)) :
    exec (m >>= f) s = exec (f a) t := by rw [exec_bind, h]

theorem exec_bind_of_error {e : Halt} (h : exec m s = (.error e, t)) :
    exec (m >>= f) s = (.error e, t) := by rw [exec_bind, h]

theorem exec_tryCatch (m : Run σ α) (g : Halt → Run σ α) (s : Session σ) :
    exec (tryCatch m g) s =
      match exec m s with
      | (.ok a, t) => (.ok a, t)
      | (.error h, t) => exec (g h) t := by
  unfold exec
  rw [ExceptT.run_tryCatch, StateT.run_bind]
  rcases StateT.run (ExceptT.run m) s with ⟨_ | _, _⟩ <;> rfl

/-- A run that succeeds is made of parts that succeed. -/
theorem exec_bind_eq_ok {b : β} :
    exec (m >>= f) s = (.ok b, t) ↔
      ∃ a u, exec m s = (.ok a, u) ∧ exec (f a) u = (.ok b, t) := by
  constructor
  · intro h
    rw [exec_bind] at h
    rcases hm : exec m s with ⟨e | a, u⟩
    · simp [hm] at h
    · exact ⟨a, u, rfl, by simpa [hm] using h⟩
  · rintro ⟨a, u, hm, hf⟩
    rw [exec_bind_of_ok hm, hf]

/-- A run that never lacks fuel. -/
def Decides (m : Run σ α) : Prop := ∀ s, (exec m s).1 ≠ .error .unfinished

theorem decides_pure (a : α) : Decides (pure a : Run σ α) := fun s => by simp

theorem Decides.bind (hm : Decides m) (hf : ∀ a, Decides (f a)) : Decides (m >>= f) := by
  intro s
  have hs := hm s
  rw [exec_bind]
  rcases hx : exec m s with ⟨e | a, t⟩
  · simpa [hx] using hs
  · exact hf a t

end Run
open Run

namespace Reconciler
variable (r : Reconciler σ) {s t : Session σ}

@[simp] theorem exec_fail (stage : Stage) (error : ReconcileError) (s : Session σ) :
    exec (fail stage error : Run σ α) s = (.error (.failed ⟨stage, error⟩), s) := rfl

theorem exec_checkpoint (stage : Stage) (s : Session σ) :
    exec (r.checkpoint stage) s =
      if r.world.isCancelled s.world then
        (.error (.failed ⟨stage, .cancelled stage.name⟩), s)
      else (.ok (), s) := by
  rw [checkpoint, exec_bind_of_ok (exec_get s)]
  split <;> rfl

theorem exec_require (id : String) (action : Action) (stage : Stage) (s : Session σ) :
    exec (require id action stage : Run σ Unit) s =
      if s.phase.permits action then (.ok (), s)
      else (.error (.failed ⟨stage, .invalidPhase id s.phase action⟩), s) := by
  rw [require, exec_bind_of_ok (exec_get s)]
  cases h : s.phase.permits action <;> simp [h]

theorem validate_eq_ok {desired : Desired} {u : Unit}
    (h : exec (validate desired : Run σ Unit) s = (.ok u, t)) :
    desired.validate = .ok () ∧ t = s := by
  unfold validate at h
  cases hv : desired.validate with
  | ok v =>
    rw [hv] at h
    exact ⟨rfl, (congrArg Prod.snd h).symm⟩
  | error e =>
    rw [hv] at h
    cases congrArg Prod.fst h

theorem exec_call (stage : Stage) (c : Call) (s : Session σ) :
    exec (r.call stage c) s =
      match r.perform c s with
      | (.ok reply, t) => (.ok reply, t)
      | (.error e, t) => (.error (.failed ⟨stage, .ofClient e⟩), t) := rfl

/-- A change is refused in the observed phase, or given up on cancellation, or attempted and
failed, or made and recorded. -/
theorem exec_mutate_cases (action : Action) (stage : Stage) (c : Call) (s : Session σ) :
    (s.phase.permits action = false ∧ exec (r.mutate action stage c) s =
      (.error (.failed ⟨stage, .invalidPhase c.id s.phase action⟩), s)) ∨
    (s.phase.permits action = true ∧ r.world.isCancelled s.world = true ∧
      exec (r.mutate action stage c) s =
        (.error (.failed ⟨stage, .cancelled stage.name⟩), s)) ∨
    (s.phase.permits action = true ∧ r.world.isCancelled s.world = false ∧
      ((∃ e t, r.perform c s = (.error e, t) ∧
          exec (r.mutate action stage c) s = (.error (.failed ⟨stage, .ofClient e⟩), t)) ∨
        ∃ reply t, r.perform c s = (.ok reply, t) ∧
          exec (r.mutate action stage c) s =
            (.ok (), { t with actions := t.actions ++ [action] }))) := by
  have hr := exec_require (σ := σ) c.id action stage s
  have hc := r.exec_checkpoint stage s
  have hk := r.exec_call stage c s
  unfold mutate
  cases hp : s.phase.permits action with
  | false =>
    rw [hp] at hr
    exact .inl ⟨rfl, exec_bind_of_error hr⟩
  | true =>
    rw [hp] at hr
    rw [exec_bind_of_ok hr]
    cases hx : r.world.isCancelled s.world with
    | true =>
      rw [hx] at hc
      exact .inr (.inl ⟨rfl, rfl, exec_bind_of_error hc⟩)
    | false =>
      rw [hx] at hc
      rw [exec_bind_of_ok hc]
      refine .inr (.inr ⟨rfl, rfl, ?_⟩)
      rcases he : r.perform c s with ⟨e | reply, t⟩
      · rw [he] at hk
        exact .inl ⟨e, t, rfl, exec_bind_of_error hk⟩
      · rw [he] at hk
        exact .inr ⟨reply, t, rfl, by rw [exec_bind_of_ok hk]; rfl⟩

theorem decides_mutate (action : Action) (stage : Stage) (c : Call) :
    Decides (r.mutate action stage c) := by
  intro s
  rcases r.exec_mutate_cases action stage c s with
    ⟨-, hx⟩ | ⟨-, -, hx⟩ | ⟨-, -, ⟨e, v, -, hx⟩ | ⟨reply, v, -, hx⟩⟩ <;> rw [hx] <;> simp

theorem mutate_eq_ok {action : Action} {stage : Stage} {c : Call} {u : Unit}
    (h : exec (r.mutate action stage c) s = (.ok u, t)) :
    s.phase.permits action = true ∧ r.world.isCancelled s.world = false ∧
      (∃ reply, (r.perform c s).1 = .ok reply) ∧
      t = { (r.perform c s).2 with actions := s.actions ++ [action] } := by
  rcases r.exec_mutate_cases action stage c s with
    ⟨-, hx⟩ | ⟨-, -, hx⟩ | ⟨hp, hc, ⟨e, v, -, hx⟩ | ⟨reply, v, hv, hx⟩⟩ <;> rw [hx] at h
  · cases h
  · cases h
  · cases h
  · obtain rfl : v = (r.perform c s).2 := by rw [hv]
    cases h
    exact ⟨hp, hc, ⟨reply, by rw [hv]⟩, rfl⟩

theorem exec_mutate_of_ok {action : Action} (stage : Stage) {c : Call} {reply : c.Reply}
    (hp : s.phase.permits action = true) (hc : r.world.isCancelled s.world = false)
    (ho : (r.perform c s).1 = .ok reply) : exec (r.mutate action stage c) s =
      (.ok (), { (r.perform c s).2 with actions := s.actions ++ [action] }) := by
  rcases r.exec_mutate_cases action stage c s with
    ⟨hn, -⟩ | ⟨-, hn, -⟩ | ⟨-, -, ⟨e, v, hv, -⟩ | ⟨reply', v, hv, hx⟩⟩
  · rw [hp] at hn
    cases hn
  · rw [hc] at hn
    cases hn
  · rw [hv] at ho
    cases ho
  · rw [hx, hv]
    congr 3
    exact congrArg (·.2.actions) hv.symm

/-- A change leaves at most one event behind, the attempt to make it. -/
theorem exec_mutate_history (action : Action) (stage : Stage) (c : Call) (s : Session σ) :
    (exec (r.mutate action stage c) s).2.history = s.history ∨
      (exec (r.mutate action stage c) s).2.history =
        ⟨s.world, c, (r.perform c s).1⟩ :: s.history := by
  have hh : (r.perform c s).2.history = ⟨s.world, c, (r.perform c s).1⟩ :: s.history := rfl
  rcases r.exec_mutate_cases action stage c s with
    ⟨-, hx⟩ | ⟨-, -, hx⟩ | ⟨-, -, ⟨e, v, hv, hx⟩ | ⟨reply, v, hv, hx⟩⟩ <;> rw [hx]
  · exact .inl rfl
  · exact .inl rfl
  · rw [hv] at hh ⊢
    exact .inr hh
  · rw [hv] at hh ⊢
    exact .inr hh

end Reconciler
end ClusterReconciliation
