import ClusterReconciliation.Proofs.Congruence
import ClusterReconciliation.Proofs.Lockstep
import ClusterReconciliation.Proofs.Observation

/-! Reconcilers in tandem. Their sessions go together from call to call and from sleep to sleep, the
first one ahead in time, until it is cut short by a cancellation. Unless that happens two runs end
alike, and which sessions go together is all that a use of this has to say. -/
namespace ClusterReconciliation
open Run
variable {σ τ α β γ : Type}

/-- The run was cancelled, or there was no fuel for its end. -/
def Halt.IsCut : Halt → Prop
  | .failed ⟨_, .cancelled _⟩ => True
  | .unfinished => True
  | _ => False

namespace Run
variable {R : Session σ → Session τ → Prop} {Cut : Session σ → Prop} {m : Run σ α} {n : Run τ α}

/-- From sessions that go together two runs end alike, unless the first one is cut short. -/
def Agree (R : Session σ → Session τ → Prop) (Cut : Session σ → Prop) (m : Run σ α)
    (n : Run τ α) : Prop :=
  ∀ s t, R s t → (∃ h u, exec m s = (.error h, u) ∧ h.IsCut ∧ Cut u) ∨
    ∃ x u u', exec m s = (x, u) ∧ exec n t = (x, u') ∧ R u u'

theorem agree_pure (a : α) : Agree R Cut (pure a) (pure a) :=
  fun s t hs => .inr ⟨.ok a, s, t, rfl, rfl, hs⟩

theorem agree_throw (h : Halt) : Agree R Cut (throw h : Run σ α) (throw h) :=
  fun s t hs => .inr ⟨.error h, s, t, rfl, rfl, hs⟩

theorem agree_modify {f : Session σ → Session σ} {g : Session τ → Session τ}
    (h : ∀ s t, R s t → R (f s) (g t)) : Agree R Cut (modify f) (modify g) :=
  fun s t hs => .inr ⟨.ok (), f s, g t, rfl, rfl, h s t hs⟩

theorem agree_get {f : Session σ → Run σ α} {g : Session τ → Run τ α}
    (h : ∀ s t, R s t → Agree R Cut (f s) (g t)) : Agree R Cut (get >>= f) (get >>= g) := by
  intro s t hs
  rw [exec_bind_of_ok (exec_get s), exec_bind_of_ok (exec_get t)]
  exact h s t hs s t hs

theorem Agree.bind {f : α → Run σ β} {g : α → Run τ β} (hm : Agree R Cut m n)
    (hf : ∀ a, Agree R Cut (f a) (g a)) : Agree R Cut (m >>= f) (n >>= g) := by
  intro s t hs
  rcases hm s t hs with ⟨h, u, hx, hcut⟩ | ⟨h | a, u, u', hx, hy, hu⟩
  · exact .inl ⟨h, u, exec_bind_of_error hx, hcut⟩
  · exact .inr ⟨.error h, u, u', exec_bind_of_error hx, exec_bind_of_error hy, hu⟩
  · rw [exec_bind_of_ok hx, exec_bind_of_ok hy]
    exact hf a u u' hu

theorem isGone_eq_false_of_isCut {h : Halt} (hh : h.IsCut) : Reconciler.isGone h = false := by
  match h, hh with
  | .failed ⟨_, .cancelled _⟩, _ => rfl
  | .unfinished, _ => rfl

/-- What cuts a run short is not taken for success. -/
theorem Agree.orGone {m : Run σ Unit} {n : Run τ Unit} (hm : Agree R Cut m n) :
    Agree R Cut m.orGone n.orGone := by
  intro s t hs
  rw [Run.orGone, Run.orGone, exec_tryCatch, exec_tryCatch]
  rcases hm s t hs with ⟨h, u, hx, hh, hcut⟩ | ⟨h | a, u, u', hx, hy, hu⟩
  · rw [hx]
    dsimp only
    rw [isGone_eq_false_of_isCut hh]
    exact .inl ⟨h, u, rfl, hh, hcut⟩
  · rw [hx, hy]
    dsimp only
    split_ifs
    · exact agree_pure () u u' hu
    · exact agree_throw h u u' hu
  · rw [hx, hy]
    exact .inr ⟨.ok a, u, u', rfl, rfl, hu⟩

end Run

namespace Reconciler

/-- Reconcilers of the same patience with sessions that go together: by calls with the same answers,
by sleeps, and by notes. -/
structure Tandem (r : Reconciler σ) (r' : Reconciler τ) (lag : Duration)
    (R : Session σ → Session τ → Prop) (Cut : Session σ → Prop) : Prop
    extends r.clock.Lockstep r'.clock lag R Cut where
  options : r'.options = r.options
  fuel : r'.fuel = r.fuel
  phase : ∀ s t, R s t → t.phase = s.phase
  actions : ∀ s t, R s t → t.actions = s.actions
  perform : ∀ c s t, R s t → r.world.isCancelled s.world = false →
    (r'.perform c t).1 = (r.perform c s).1 ∧ R (r.perform c s).2 (r'.perform c t).2
  noteCluster : ∀ answer s t, R s t → R (s.noteCluster answer) (t.noteCluster answer)
  noteLibraries : ∀ answer s t, R s t → R (s.noteLibraries answer) (t.noteLibraries answer)
  noteAction : ∀ (action : Action) s t, R s t →
    R { s with actions := s.actions ++ [action] } { t with actions := t.actions ++ [action] }

variable {r : Reconciler σ} {r' : Reconciler τ} {lag : Duration}
  {R : Session σ → Session τ → Prop} {Cut : Session σ → Prop}

theorem Tandem.call (h : r.Tandem r' lag R Cut) {s : Session σ} {t : Session τ} (hs : R s t)
    (hc : r.world.isCancelled s.world = false) (stage : Stage) (c : Call) :
    ∃ x u u', exec (r.call stage c) s = (x, u) ∧ exec (r'.call stage c) t = (x, u') ∧ R u u' := by
  obtain ⟨ha, hr⟩ := h.perform c s t hs hc
  rw [exec_call, exec_call,
    show r'.perform c t = ((r.perform c s).1, (r'.perform c t).2) from Prod.ext ha rfl]
  rcases hp : r.perform c s with ⟨e | reply, u⟩ <;> rw [hp] at hr
  · exact ⟨_, u, _, rfl, rfl, hr⟩
  · exact ⟨_, u, _, rfl, rfl, hr⟩

/-- A call that is guarded against cancellation, and what is done with its reply. -/
theorem Tandem.guarded (h : r.Tandem r' lag R Cut) (stage : Stage) (c : Call)
    {f : c.Reply → Run σ α} {g : c.Reply → Run τ α}
    (hf : ∀ reply, Agree R Cut (f reply) (g reply)) :
    Agree R Cut (do
        r.checkpoint stage
        let reply ← r.call stage c
        f reply) (do
        r'.checkpoint stage
        let reply ← r'.call stage c
        g reply) := by
  intro s t hs
  have hx := r.exec_checkpoint stage s
  have hy := r'.exec_checkpoint stage t
  cases hc : r.world.isCancelled s.world with
  | true =>
    rw [if_pos hc] at hx
    rcases h.isCancelled s t hs with he | hcut
    · have hc' : r'.world.isCancelled t.world = true := he.trans hc
      rw [if_pos hc'] at hy
      exact .inr ⟨_, s, t, exec_bind_of_error hx, exec_bind_of_error hy, hs⟩
    · exact .inl ⟨_, s, exec_bind_of_error hx, trivial, hcut⟩
  | false =>
    have hc' : r'.world.isCancelled t.world = false := h.isCancelled_eq_false hs hc
    rw [if_neg (by simp [hc])] at hx
    rw [if_neg (by simp [hc'])] at hy
    rw [exec_bind_of_ok hx, exec_bind_of_ok hy]
    obtain ⟨e | reply, u, u', hu, hu', hr⟩ := h.call hs hc stage c
    · exact .inr ⟨_, u, u', exec_bind_of_error hu, exec_bind_of_error hu', hr⟩
    · rw [exec_bind_of_ok hu, exec_bind_of_ok hu']
      exact hf reply u u' hr

/-- A guarded call of which a note is taken. -/
theorem Tandem.noted (h : r.Tandem r' lag R Cut) (stage : Stage) (c : Call)
    {note : c.Reply → Session σ → Session σ} {note' : c.Reply → Session τ → Session τ}
    (hn : ∀ reply s t, R s t → R (note reply s) (note' reply t)) :
    Agree R Cut (do
        r.checkpoint stage
        let reply ← r.call stage c
        modify (note reply)
        return reply) (do
        r'.checkpoint stage
        let reply ← r'.call stage c
        modify (note' reply)
        return reply) :=
  h.guarded stage c fun reply => (agree_modify (hn reply)).bind fun _ => agree_pure reply

theorem Tandem.mutate (h : r.Tandem r' lag R Cut) (action : Action) (stage : Stage) (c : Call) :
    Agree R Cut (r.mutate action stage c) (r'.mutate action stage c) := by
  have required : Agree R Cut (require c.id action stage) (require c.id action stage) := by
    refine agree_get fun s t hs => ?_
    dsimp only
    rw [h.phase s t hs]
    split_ifs
    · exact agree_throw _
    · exact agree_pure ()
  exact required.bind fun _ => h.guarded stage c fun _ => agree_modify (h.noteAction action)

theorem Tandem.await {w : Watch (Session σ) γ α ReconcileError}
    {v : Watch (Session τ) γ α ReconcileError} (h : r.Tandem r' lag R Cut)
    (hw : w.Lockstep v r.clock r'.clock lag R Cut) (stage : Stage) :
    Agree R Cut (r.await stage w) (r'.await stage v) := by
  intro s t hs
  have hx := r.exec_await stage w s
  have hy := r'.exec_await stage v t
  rw [h.options, h.fuel] at hy
  rcases hw.run r.options.poll r.fuel hs with
    ⟨ending, u, hr, hcut, hu⟩ | ⟨ending, u, u', hr, hr', hu⟩ <;> rw [hr] at hx
  · match ending, hcut with
    | .stopped (.cancelled what), _ => exact .inl ⟨_, u, hx, trivial, hu⟩
    | .unfinished, _ => exact .inl ⟨_, u, hx, trivial, hu⟩
  · rw [hr'] at hy
    cases ending <;> exact .inr ⟨_, u, u', hx, hy, hu⟩

theorem Tandem.watchCluster (h : r.Tandem r' lag R Cut) (id what : String)
    (judge : Except ClientError Cluster.Info → Except ReconcileError (Check α)) :
    (r.watchCluster id what judge).Lockstep (r'.watchCluster id what judge) r.clock r'.clock lag R
      Cut where
  toLockstep := h.toLockstep
  what := rfl
  fetch := h.perform (.getCluster id)
  decide answer s t hs := ⟨rfl, h.noteCluster answer s t hs⟩

theorem Tandem.watchLibraries (h : r.Tandem r' lag R Cut) (id : String)
    (desired submitted removing : List Library) :
    (r.watchLibraries id desired submitted removing).Lockstep
      (r'.watchLibraries id desired submitted removing) r.clock r'.clock lag R Cut where
  toLockstep := h.toLockstep
  what := rfl
  fetch := h.perform (.libraryStatuses id)
  decide answer s t hs := ⟨rfl, h.noteLibraries answer s t hs⟩

/-- All that two reconcilers in tandem do agrees. -/
theorem Tandem.congruence (h : r.Tandem r' lag R Cut) :
    r.Congruence r' (fun _ => True) fun _ m n => Agree R Cut m n where
  options := h.options
  fuel := h.fuel
  pure := agree_pure
  throw := agree_throw
  bind := Agree.bind
  get hf := agree_get fun s t hs => hf s t (h.phase s t hs) (h.actions s t hs)
  mutate stage _ _ _ := h.mutate _ stage _
  launch _ := h.noted .create _ fun id s t =>
    h.noteCluster (.ok { id := id, phase := .pending }) s t
  fetchCluster stage _ _ := h.noted stage _ fun info s t => h.noteCluster (.ok info) s t
  fetchLibraries stage _ _ := h.noted stage _ fun observed s t => h.noteLibraries (.ok observed) s t
  waitRunning stage _ _ := h.await (h.watchCluster ..) stage
  waitStable stage _ _ := h.await (h.watchCluster ..) stage
  awaitLibraries stage _ _ _ _ _ := h.await (h.watchLibraries ..) stage

theorem Tandem.waitTerminated (h : r.Tandem r' lag R Cut) (id : String) :
    Agree R Cut (r.waitTerminated id) (r'.waitTerminated id) :=
  h.await (h.watchCluster ..) .delete

end Reconciler
end ClusterReconciliation
