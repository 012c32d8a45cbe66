import ClusterReconciliation.Desired
import ClusterReconciliation.Reconcile.Libraries

/-! Reconciliations of a cluster with a desired state.

A cluster is created, awaited, and given its libraries. An existing one is read, awaited until its
phase can be decided on, started if there is anything to change, edited if its shape differs, and
given its libraries. A deleted one is terminated and then purged; a missing one counts as
deleted. -/
namespace ClusterReconciliation

inductive Operation
  | create
  | update
  | delete
  deriving DecidableEq, Repr

def Operation.name : Operation → String
  | create => "create"
  | update => "update"
  | delete => "delete"

structure Observed where
  info : Cluster.Info
  libraries : List LibraryStatus
  deriving DecidableEq, Repr

structure Reconciliation (σ : Type) where
  operation : Operation
  outcome : Except Halt Unit
  session : Session σ

namespace Reconciliation
variable {σ : Type}

def isSuccess (r : Reconciliation σ) : Bool := r.outcome.isOk

/-- The id of the cluster as soon as there is one. -/
def clusterId (r : Reconciliation σ) : Option String :=
  (r.session.cluster.map (·.id)).filter (!·.isEmpty)

def isNoop (r : Reconciliation σ) : Bool :=
  r.isSuccess && r.operation != .create && r.session.actions.isEmpty

end Reconciliation

namespace Reconciler
variable {σ : Type} (r : Reconciler σ)

def validate (desired : Desired) : Run σ Unit :=
  match desired.validate with
  | .ok () => pure ()
  | .error e => fail .validate (.validation e)

/-- Has a cluster made, which is pending until it is seen. -/
def launch (spec : Cluster.Spec) : Run σ String := do
  r.checkpoint .create
  let id ← r.call .create (.createCluster spec)
  modify fun s => { s with cluster := some { id := id, phase := .pending } }
  return id

def create (desired : Desired) : Run σ Unit := do
  validate desired
  let id ← r.launch desired.cluster
  let _ ← r.waitRunning .create id
  if !desired.libraries.isEmpty then r.convergeLibraries id desired.libraries []

def readStable (id : String) : Run σ Cluster.Info := do
  let info ← r.fetchCluster .read id
  if info.phase.isSettling then r.waitStable .read id else return info

def startFor (id : String) (needed : Bool) (phase : Phase) : Run σ Unit := do
  if needed && phase == .terminated then
    r.mutate .start .start (.startCluster id)
    let _ ← r.waitRunning .start id

def editTo (id : String) (spec : Cluster.Spec) (needed : Bool) : Run σ Unit := do
  if needed then
    r.mutate .edit .edit (.editCluster id spec)
    let _ ← r.waitRunning .edit id

/-- The libraries as they were observed, read again after a change. -/
def currentLibraries (id : String) (observed : List LibraryStatus) :
    Run σ (List LibraryStatus) := do
  if (← get).actions.isEmpty then return observed else r.fetchLibraries .libraryInstall id

/-- The libraries of a cluster that is not running stay as they are. -/
def finishLibraries (id : String) (desired : List Library) (observed : List LibraryStatus) :
    Run σ Unit := do
  if (← get).phase = .running then
    r.convergeLibraries id desired (← r.currentLibraries id observed)

/-- Nothing is tried with a cluster that waiting does not make run. -/
def refuseFailed (id : String) (info : Cluster.Info) : Run σ Unit :=
  if info.phase.isFailed then fail .start (.invalidPhase id info.phase .start) else return ()

def inspect (id : String) : Run σ Observed := do
  let info ← r.readStable id
  refuseFailed id info
  return ⟨info, ← r.fetchLibraries .read id⟩

def adjust (id : String) (desired : Desired) (o : Observed) : Run σ Unit := do
  let reshaping := !(desired.cluster.shapeDiff o.info).isEmpty
  let delta := diffLibraries desired.libraries o.libraries (.ofBudget r.options.attemptBudget)
  r.startFor id (reshaping || !delta.isEmpty) o.info.phase
  r.editTo id desired.cluster reshaping
  r.finishLibraries id desired.libraries o.libraries

def update (id : String) (desired : Desired) : Run σ Unit := do
  validate desired
  r.adjust id desired (← r.inspect id)

def readSettled (id : String) : Run σ Cluster.Info := do
  let info ← r.fetchCluster .delete id
  if info.phase.isTransitional then r.waitStable .delete id else return info

/-- Makes sure that the cluster is no longer alive, and says whether it is still there. -/
def bringDown (id : String) (phase : Phase) : Run σ Bool :=
  if phase = .terminated ∨ phase = .error then return true
  else do
    r.mutate .delete .delete (.deleteCluster id)
    r.waitTerminated id

def terminate (id : String) : Run σ Unit := do
  let info ← r.readSettled id
  if ← r.bringDown id info.phase then
    r.mutate .permanentDelete .delete (.permanentDeleteCluster id)

def isGone : Halt → Bool
  | .failed f => f.error.isNotFound
  | .unfinished => false

/-- That the cluster is missing is as good as success. -/
def purge (id : String) : Run σ Unit :=
  tryCatch (r.terminate id) fun h => if isGone h then pure () else throw h

def conclude (operation : Operation) (run : Run σ Unit) (world : σ) : Reconciliation σ :=
  let (outcome, session) := run.run.run { world := world }
  ⟨operation, outcome, session⟩

/-- Makes a cluster when there is no id of an existing one. -/
def reconcile (desired : Desired) (existing : Option String) (world : σ) : Reconciliation σ :=
  match existing with
  | none => conclude .create (r.create desired) world
  | some id => conclude .update (r.update id desired) world

def delete (id : String) (world : σ) : Reconciliation σ := conclude .delete (r.purge id) world

/-- The observed state, which is nothing for a missing cluster. Nothing is changed, and nobody
asks about cancellation. -/
def read (id : String) : Run σ (Option Observed) := fun s =>
  match r.perform (.getCluster id) s with
  | (.error e, s) =>
    (if e.isNotFound then .ok none else .error (.failed ⟨.read, .ofClient e⟩), s)
  | (.ok info, s) =>
    match r.perform (.libraryStatuses id) s with
    | (.ok libraries, s) => (.ok (some ⟨info, libraries⟩), s)
    | (.error e, s) =>
      (if e.isNotFound then .ok (some ⟨info, []⟩) else .error (.failed ⟨.read, .ofClient e⟩), s)

end Reconciler
end ClusterReconciliation
