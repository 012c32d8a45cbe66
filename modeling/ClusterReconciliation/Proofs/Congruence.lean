import ClusterReconciliation.Reconcile
import Mathlib.Tactic

/-! Relations between the runs of two reconcilers. A relation that holds of the calls and waits, and
is kept where runs are put together, holds of all that the two do for a task. What is said of the
runs of one reconciler is such a relation of each run with itself. -/
namespace ClusterReconciliation
variable {σ τ : Type}

/-- What a call does to a cluster, where the phase of the cluster has to permit it. -/
def Call.action? : Call → Option Action
  | .startCluster _ => some .start
  | .editCluster _ _ => some .edit
  | .deleteCluster _ => some .delete
  | .permanentDeleteCluster _ => some .permanentDelete
  | .installLibraries _ _ => some .installLibraries
  | .uninstallLibraries _ _ => some .uninstallLibraries
  | _ => none

namespace Call

def OfLibraries (id : String) : Call → Prop
  | libraryStatuses i => i = id
  | installLibraries i _ => i = id
  | uninstallLibraries i _ => i = id
  | _ => False

def OfUpdate (id : String) (spec : Cluster.Spec) : Call → Prop
  | getCluster i => i = id
  | startCluster i => i = id
  | editCluster i s => i = id ∧ s = spec
  | c => c.OfLibraries id

/-- The calls for a cluster that is made, whatever its id comes to be. -/
def OfCreate (spec : Cluster.Spec) (c : Call) : Prop :=
  c = createCluster spec ∨ ∃ id, c = getCluster id ∨ c.OfLibraries id

def OfDelete (id : String) : Call → Prop
  | getCluster i => i = id
  | deleteCluster i => i = id
  | permanentDeleteCluster i => i = id
  | _ => False

theorem OfLibraries.id_eq {id : String} {c : Call} (h : c.OfLibraries id) : c.id = id := by
  cases c <;> first | exact h | exact h.elim

theorem OfLibraries.ofUpdate {id : String} {c : Call} (h : c.OfLibraries id)
    (spec : Cluster.Spec) : c.OfUpdate id spec := by
  cases c <;> first | exact h | exact h.elim

end Call

/-- The run, where it is as good as success that the cluster is missing. -/
def Run.orGone (m : Run σ Unit) : Run σ Unit :=
  tryCatch m fun h => if Reconciler.isGone h then pure () else throw h

namespace Reconciler

/-- What is left to do when a cluster has been made. -/
def equip (r : Reconciler σ) (id : String) (desired : List Library) : Run σ Unit := do
  let _ ← r.waitRunning .create id
  if !desired.isEmpty then r.convergeLibraries id desired []

theorem create_eq (r : Reconciler σ) (desired : Desired) :
    r.create desired = (do
      validate desired
      let id ← r.launch desired.cluster
      r.equip id desired.libraries) := rfl

/-- A relation between runs that holds of the calls and waits of two reconcilers, where the calls
are of a kind, and is kept where runs are put together. They may go on by the phase and the actions
that are noted. -/
structure Congruence (r : Reconciler σ) (r' : Reconciler τ) (K : Call → Prop)
    (P : ∀ α : Type, Run σ α → Run τ α → Prop) : Prop where
  options : r'.options = r.options
  fuel : r'.fuel = r.fuel
  pure : ∀ {α : Type} (a : α), P α (pure a) (pure a)
  throw : ∀ {α : Type} (h : Halt), P α (throw h) (throw h)
  bind : ∀ {α β : Type} {m : Run σ α} {n : Run τ α} {f : α → Run σ β} {g : α → Run τ β},
    P α m n → (∀ a, P β (f a) (g a)) → P β (m >>= f) (n >>= g)
  get : ∀ {α : Type} {f : Session σ → Run σ α} {g : Session τ → Run τ α},
    (∀ s t, t.phase = s.phase → t.actions = s.actions → P α (f s) (g t)) →
      P α (get >>= f) (get >>= g)
  mutate : ∀ {action : Action} (stage : Stage) {c : Call}, K c → c.action? = some action →
    P Unit (r.mutate action stage c) (r'.mutate action stage c)
  launch : ∀ {spec : Cluster.Spec}, K (.createCluster spec) →
    P String (r.launch spec) (r'.launch spec)
  fetchCluster : ∀ (stage : Stage) {id : String}, K (.getCluster id) →
    P Cluster.Info (r.fetchCluster stage id) (r'.fetchCluster stage id)
  fetchLibraries : ∀ (stage : Stage) {id : String}, K (.libraryStatuses id) →
    P (List LibraryStatus) (r.fetchLibraries stage id) (r'.fetchLibraries stage id)
  waitRunning : ∀ (stage : Stage) {id : String}, K (.getCluster id) →
    P Cluster.Info (r.waitRunning stage id) (r'.waitRunning stage id)
  waitStable : ∀ (stage : Stage) {id : String}, K (.getCluster id) →
    P Cluster.Info (r.waitStable stage id) (r'.waitStable stage id)
  awaitLibraries : ∀ (stage : Stage) {id : String} (desired submitted removing : List Library),
    K (.libraryStatuses id) →
      P (List LibraryStatus) (r.await stage (r.watchLibraries id desired submitted removing))
        (r'.await stage (r'.watchLibraries id desired submitted removing))

variable {r : Reconciler σ} {r' : Reconciler τ} {K : Call → Prop}
  {P : ∀ α : Type, Run σ α → Run τ α → Prop}

theorem Congruence.validate (h : r.Congruence r' K P) (desired : Desired) :
    P Unit (Reconciler.validate desired) (Reconciler.validate desired) := by
  unfold Reconciler.validate
  cases desired.validate with
  | ok u => exact h.pure ()
  | error e => exact h.throw _

section Libraries
variable (h : r.Congruence r' K P) (id : String) (hk : ∀ c : Call, c.OfLibraries id → K c)
include h hk

theorem Congruence.submitRemovals (p : Progress) (d : LibraryDiff) :
    P Progress (r.submitRemovals id p d) (r'.submitRemovals id p d) := by
  unfold Reconciler.submitRemovals
  split_ifs
  · exact h.pure p
  · exact h.bind (h.mutate _ (hk _ rfl) rfl) fun _ => h.pure _

theorem Congruence.submit (p : Progress) (d : LibraryDiff) :
    P Progress (r.submit id p d) (r'.submit id p d) := by
  refine h.bind (h.submitRemovals id hk p d) fun p => ?_
  unfold submitInstalls
  split_ifs
  · exact h.pure p
  · exact h.bind (h.mutate _ (hk _ rfl) rfl) fun _ => h.pure _

theorem Congruence.beginRound (desired : List Library) (p : Progress) :
    P (Option (Progress × LibraryDiff)) (r.beginRound id desired p)
      (r'.beginRound id desired p) := by
  simp only [Reconciler.beginRound]
  cases verdict desired p (p.diff desired) with
  | converged => exact h.pure none
  | gaveUp failed => exact h.throw _
  | goOn => exact h.bind (h.submit id hk p _) fun _ => h.pure _

theorem Congruence.libraryRound (desired : List Library) (p : Progress) :
    P (Option Progress) (r.libraryRound id desired p) (r'.libraryRound id desired p) := by
  refine h.bind (h.beginRound id hk desired p) fun begun => ?_
  match begun with
  | none => exact h.pure none
  | some (p, d) =>
    have ended : P Progress (r.endRound id desired p d) (r'.endRound id desired p d) :=
      h.bind (h.awaitLibraries d.stage desired d.install p.removing (hk _ rfl)) fun _ => h.pure _
    exact h.bind ended fun _ => h.pure _

theorem Congruence.convergeLibraries (desired : List Library) (observed : List LibraryStatus) :
    P Unit (r.convergeLibraries id desired observed)
      (r'.convergeLibraries id desired observed) := by
  have rounds (fuel : Nat) (p : Progress) :
      P Unit (r.libraryRounds id desired fuel p) (r'.libraryRounds id desired fuel p) := by
    induction fuel generalizing p with
    | zero => exact h.throw _
    | succ fuel ih =>
      refine h.bind (h.libraryRound id hk desired p) fun next => ?_
      cases next with
      | none => exact h.pure ()
      | some p => exact ih p
  unfold Reconciler.convergeLibraries
  rw [h.options, h.fuel]
  exact rounds _ _

theorem Congruence.currentLibraries (observed : List LibraryStatus) :
    P (List LibraryStatus) (r.currentLibraries id observed) (r'.currentLibraries id observed) := by
  refine h.get fun s t _ ha => ?_
  rw [ha]
  split_ifs
  · exact h.pure observed
  · exact h.fetchLibraries .libraryInstall (hk _ rfl)

theorem Congruence.finishLibraries (desired : List Library) (observed : List LibraryStatus) :
    P Unit (r.finishLibraries id desired observed) (r'.finishLibraries id desired observed) := by
  refine h.get fun s t hp _ => ?_
  rw [hp]
  split_ifs
  · exact h.bind (h.currentLibraries id hk observed) fun o => h.convergeLibraries id hk desired o
  · exact h.pure ()

end Libraries

theorem Congruence.equip (h : r.Congruence r' K P) (id : String) (desired : List Library)
    (hg : K (.getCluster id)) (hk : ∀ c : Call, c.OfLibraries id → K c) :
    P Unit (r.equip id desired) (r'.equip id desired) := by
  refine h.bind (h.waitRunning .create hg) fun _ => ?_
  split_ifs
  · exact h.convergeLibraries id hk desired []
  · exact h.pure ()

theorem Congruence.create (h : r.Congruence r' K P) (desired : Desired)
    (hk : ∀ c : Call, c.OfCreate desired.cluster → K c) :
    P Unit (r.create desired) (r'.create desired) := by
  rw [create_eq, create_eq]
  refine h.bind (h.validate desired) fun _ => h.bind (h.launch (hk _ (.inl rfl))) fun id => ?_
  exact h.equip id desired.libraries (hk _ (.inr ⟨id, .inl rfl⟩)) fun c hc =>
    hk c (.inr ⟨id, .inr hc⟩)

section Update
variable (h : r.Congruence r' K P) (id : String)
include h

theorem Congruence.readStable (hg : K (.getCluster id)) :
    P Cluster.Info (r.readStable id) (r'.readStable id) := by
  refine h.bind (h.fetchCluster .read hg) fun info => ?_
  split_ifs
  · exact h.waitStable .read hg
  · exact h.pure info

theorem Congruence.refuseFailed (info : Cluster.Info) :
    P Unit (Reconciler.refuseFailed id info) (Reconciler.refuseFailed id info) := by
  unfold Reconciler.refuseFailed
  split_ifs
  · exact h.throw _
  · exact h.pure ()

theorem Congruence.inspect (hg : K (.getCluster id)) (hl : K (.libraryStatuses id)) :
    P Observed (r.inspect id) (r'.inspect id) := by
  refine h.bind (h.readStable id hg) fun info => h.bind (h.refuseFailed id info) fun _ => ?_
  exact h.bind (h.fetchLibraries .read hl) fun _ => h.pure _

theorem Congruence.changeAndWait {action : Action} (stage : Stage) {c : Call} (hc : K c)
    (ha : c.action? = some action) (hg : K (.getCluster id)) :
    P Unit (do
      r.mutate action stage c
      let _ ← r.waitRunning stage id) (do
      r'.mutate action stage c
      let _ ← r'.waitRunning stage id) :=
  h.bind (h.mutate stage hc ha) fun _ => h.bind (h.waitRunning stage hg) fun _ => h.pure ()

theorem Congruence.startFor (needed : Bool) (phase : Phase) (hc : K (.startCluster id))
    (hg : K (.getCluster id)) :
    P Unit (r.startFor id needed phase) (r'.startFor id needed phase) := by
  unfold Reconciler.startFor
  split_ifs
  · exact h.changeAndWait id .start hc rfl hg
  · exact h.pure ()

theorem Congruence.editTo (spec : Cluster.Spec) (needed : Bool) (hc : K (.editCluster id spec))
    (hg : K (.getCluster id)) : P Unit (r.editTo id spec needed) (r'.editTo id spec needed) := by
  unfold Reconciler.editTo
  split_ifs
  · exact h.changeAndWait id .edit hc rfl hg
  · exact h.pure ()

variable (desired : Desired) (hk : ∀ c : Call, c.OfUpdate id desired.cluster → K c)
include hk

theorem Congruence.adjust (o : Observed) :
    P Unit (r.adjust id desired o) (r'.adjust id desired o) := by
  unfold Reconciler.adjust
  rw [h.options]
  refine h.bind ?_ fun _ => h.bind ?_ fun _ => ?_
  · exact h.startFor id _ _ (hk _ rfl) (hk _ rfl)
  · exact h.editTo id desired.cluster _ (hk _ ⟨rfl, rfl⟩) (hk _ rfl)
  · exact h.finishLibraries id (fun c hc => hk c (hc.ofUpdate _)) desired.libraries o.libraries

theorem Congruence.update : P Unit (r.update id desired) (r'.update id desired) := by
  refine h.bind (h.validate desired) fun _ => ?_
  exact h.bind (h.inspect id (hk _ rfl) (hk _ rfl)) fun o => h.adjust id desired hk o

end Update

section Deletion
variable (h : r.Congruence r' K P) (id : String)
include h

theorem Congruence.readSettled (hg : K (.getCluster id)) :
    P Cluster.Info (r.readSettled id) (r'.readSettled id) := by
  refine h.bind (h.fetchCluster .delete hg) fun info => ?_
  split_ifs
  · exact h.waitStable .delete hg
  · exact h.pure info

variable (hwait : P Bool (r.waitTerminated id) (r'.waitTerminated id))
include hwait

theorem Congruence.bringDown (phase : Phase) (hc : K (.deleteCluster id)) :
    P Bool (r.bringDown id phase) (r'.bringDown id phase) := by
  unfold Reconciler.bringDown
  split_ifs
  · exact h.pure true
  · exact h.bind (h.mutate .delete hc rfl) fun _ => hwait

variable (hk : ∀ c : Call, c.OfDelete id → K c)
include hk

/-- What follows on the reading of a cluster that is to be deleted. -/
theorem Congruence.bringDownAndPurge (phase : Phase) :
    P Unit (do
      if ← r.bringDown id phase then
        r.mutate .permanentDelete .delete (.permanentDeleteCluster id)) (do
      if ← r'.bringDown id phase then
        r'.mutate .permanentDelete .delete (.permanentDeleteCluster id)) := by
  refine h.bind (h.bringDown id hwait phase (hk _ rfl)) fun there => ?_
  split_ifs
  · exact h.mutate .delete (hk _ rfl) rfl
  · exact h.pure ()

theorem Congruence.terminate : P Unit (r.terminate id) (r'.terminate id) :=
  h.bind (h.readSettled id (hk _ rfl)) fun info => h.bringDownAndPurge id hwait hk info.phase

/-- A deletion is such a run as long as the relation stays when a missing cluster is as good as
success. -/
theorem Congruence.purge
    (hgone : ∀ {m : Run σ Unit} {n : Run τ Unit}, P Unit m n → P Unit m.orGone n.orGone) :
    P Unit (r.purge id) (r'.purge id) := hgone (h.terminate id hwait hk)

end Deletion

end Reconciler
end ClusterReconciliation
