import ClusterReconciliation.Proofs.Tandem
import ClusterReconciliation.Proofs.Traces

/-! Worlds that look alike until the first of them is cancelled. No reconciliation tells them apart by
what it sees before that, so that a run in the first one that does not end with a cancellation takes the
same course in the other. -/
namespace ClusterReconciliation
open Run
variable {σ τ : Type}

/-- States of two worlds go together: the clocks agree, and until the first world is cancelled the
second one is not, gives the same answers, and comes by calls and sleeps to states that go together. -/
structure World.Alike (w : World σ) (v : World τ) (R : σ → τ → Prop) : Prop where
  now : ∀ s t, R s t → v.now t = w.now s
  live : ∀ s t, R s t → w.isCancelled s = false → v.isCancelled t = false
  answer : ∀ c s t, R s t → w.isCancelled s = false →
    (v.answer c t).1 = (w.answer c s).1 ∧ R (w.answer c s).2 (v.answer c t).2
  sleep : ∀ d s t, R s t → w.isCancelled (w.sleep d s) = false → R (w.sleep d s) (v.sleep d t)

/-- A call and its answer, wherever it was made. -/
def Event.bare (e : Event σ) : Event Unit := ⟨(), e.call, e.answer⟩

/-- Sessions with the same notes of the same calls, in worlds that go together. -/
structure Session.Alike (R : σ → τ → Prop) (s : Session σ) (t : Session τ) : Prop where
  world : R s.world t.world
  cluster : t.cluster = s.cluster
  libraries : t.libraries = s.libraries
  actions : t.actions = s.actions
  history : t.history.map Event.bare = s.history.map Event.bare

namespace Session.Alike
variable {R : σ → τ → Prop} {s : Session σ} {t : Session τ}

theorem phase (h : s.Alike R t) : t.phase = s.phase := by
  rw [Session.phase, h.cluster, Session.phase]

theorem noteAction (h : s.Alike R t) (action : Action) :
    Session.Alike R { s with actions := s.actions ++ [action] }
      { t with actions := t.actions ++ [action] } :=
  ⟨h.world, h.cluster, h.libraries, by rw [h.actions], h.history⟩

theorem noteCluster (h : s.Alike R t) (answer : Except ClientError Cluster.Info) :
    (s.noteCluster answer).Alike R (t.noteCluster answer) := by
  cases answer with
  | ok info => exact ⟨h.world, rfl, h.libraries, h.actions, h.history⟩
  | error e => exact h

theorem noteLibraries (h : s.Alike R t) (answer : Except ClientError (List LibraryStatus)) :
    (s.noteLibraries answer).Alike R (t.noteLibraries answer) := by
  cases answer with
  | ok observed => exact ⟨h.world, h.cluster, rfl, h.actions, h.history⟩
  | error e => exact h

end Session.Alike

/-- Reconcilers of the same patience in worlds that go together until the first is cancelled. -/
structure Reconciler.Alike (r : Reconciler σ) (r' : Reconciler τ) (R : σ → τ → Prop) : Prop where
  world : r.world.Alike r'.world R
  options : r'.options = r.options
  fuel : r'.fuel = r.fuel

/-- The same without any cancellation. -/
def Reconciler.uncancelled (r : Reconciler σ) : Reconciler σ :=
  { r with world := { r.world with isCancelled := fun _ => false } }

theorem Reconciler.alike_uncancelled (r : Reconciler σ) : r.Alike r.uncancelled Eq where
  world :=
    { now := by
        rintro s _ rfl
        rfl
      live := fun _ _ _ _ => rfl
      answer := by
        rintro c s _ rfl -
        exact ⟨rfl, rfl⟩
      sleep := by
        rintro d s _ rfl -
        rfl }
  options := rfl
  fuel := rfl

namespace Reconciler
variable {r : Reconciler σ} {r' : Reconciler τ} {R : σ → τ → Prop} {s : Session σ}
  {s' : Session τ}

theorem Alike.perform (h : r.Alike r' R) (hs : s.Alike R s')
    (hc : r.world.isCancelled s.world = false) (c : Call) :
    (r'.perform c s').1 = (r.perform c s).1 ∧ (r.perform c s).2.Alike R (r'.perform c s').2 := by
  obtain ⟨ha, hw⟩ := h.world.answer c s.world s'.world hs.world hc
  refine ⟨ha, hw, hs.cluster, hs.libraries, hs.actions, ?_⟩
  have he : (⟨s'.world, c, (r'.perform c s').1⟩ : Event τ).bare =
      (⟨s.world, c, (r.perform c s).1⟩ : Event σ).bare := congrArg (Event.mk () c) ha
  rw [perform_history, perform_history, List.map_cons, List.map_cons, he, hs.history]

/-- Reconcilers in such worlds are in tandem, without a lag, until the first one is cancelled. -/
theorem Alike.tandem (h : r.Alike r' R) :
    r.Tandem r' 0 (Session.Alike R) fun s => r.world.isCancelled s.world = true where
  now s t hs := (h.world.now _ _ hs.world).symm
  isCancelled s t hs := by
    cases hc : r.world.isCancelled s.world with
    | true => exact .inr rfl
    | false => exact .inl ((h.world.live _ _ hs.world hc).trans hc.symm)
  sleep d s t hs := by
    cases hc : r.world.isCancelled (r.world.sleep d s.world) with
    | true => exact .inr hc
    | false =>
      exact .inl
        ⟨h.world.sleep d _ _ hs.world hc, hs.cluster, hs.libraries, hs.actions, hs.history⟩
  cancelled _ hc := hc
  options := h.options
  fuel := h.fuel
  phase _ _ hs := hs.phase
  actions _ _ hs := hs.actions
  perform c _ _ hs hc := h.perform hs hc c
  noteCluster answer _ _ hs := hs.noteCluster answer
  noteLibraries answer _ _ hs := hs.noteLibraries answer
  noteAction action _ _ hs := hs.noteAction action

/-- A run in the first world that is not cut short does the same in the second one. -/
theorem Alike.carryOut (h : r.Alike r' R) (task : Task) {world : σ} {world' : τ}
    (hw : R world world') (hcut : ∀ x, (r.carryOut task world).outcome = .error x → ¬x.IsCut) :
    (r'.carryOut task world').outcome = (r.carryOut task world).outcome ∧
      (r.carryOut task world).session.Alike R (r'.carryOut task world').session := by
  have hs : Session.Alike R { world := world } { world := world' } := ⟨hw, rfl, rfl, rfl, rfl⟩
  have concludes (operation : Operation) {m : Run σ Unit} {n : Run τ Unit}
      (hm : Agree (Session.Alike R) (fun s => r.world.isCancelled s.world = true) m n)
      (hcut : ∀ x, (conclude operation m world).outcome = .error x → ¬x.IsCut) :
      (conclude operation n world').outcome = (conclude operation m world).outcome ∧
        (conclude operation m world).session.Alike R (conclude operation n world').session := by
    rcases hm _ _ hs with ⟨x, u, hx, hc, -⟩ | ⟨x, u, u', hx, hy, hu⟩
    · exact absurd hc (hcut x (congrArg Prod.fst hx))
    · change (exec n { world := world' }).1 = (exec m { world := world }).1 ∧
        (exec m { world := world }).2.Alike R (exec n { world := world' }).2
      rw [hx, hy]
      exact ⟨rfl, hu⟩
  have hrelated := h.tandem.congruence
  cases task with
  | delete id =>
    refine concludes .delete ?_ hcut
    exact hrelated.purge id (h.tandem.waitTerminated id) (fun _ _ => trivial) Agree.orGone
  | reconcile desired existing =>
    cases existing with
    | none => exact concludes .create (hrelated.create desired fun _ _ => trivial) hcut
    | some id => exact concludes .update (hrelated.update id desired fun _ _ => trivial) hcut

end Reconciler
end ClusterReconciliation
