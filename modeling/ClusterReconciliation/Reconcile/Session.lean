import ClusterReconciliation.ControlPlane
import ClusterReconciliation.Reconcile.Failure
import ClusterReconciliation.Reconcile.Options

/-! The steps that reconciliations are made of. A session keeps what was observed and done so far,
and every call with its answer. No call is made once the reconciliation is cancelled, and no change
is asked for that the last observed phase does not permit. -/
namespace ClusterReconciliation

structure Session (σ : Type) where
  world : σ
  cluster : Option Cluster.Info := none
  libraries : List LibraryStatus := []
  /-- The changes made so far, in order. -/
  actions : List Action := []
  /-- All calls so far, the last one first. -/
  history : List (Event σ) := []

/-- Why a reconciliation stops: it failed, or fuel ran out before its end. -/
inductive Halt
  | failed (failure : Failure)
  | unfinished
  deriving DecidableEq, Repr

abbrev Run (σ : Type) := ExceptT Halt (StateM (Session σ))

namespace Session
variable {σ : Type}

def phase (s : Session σ) : Phase := (s.cluster.map (·.phase)).getD .unknown

def calls (s : Session σ) : List (Event σ) := s.history.reverse

def noteCluster (s : Session σ) : Except ClientError Cluster.Info → Session σ
  | .ok info => { s with cluster := some info }
  | .error _ => s

def noteLibraries (s : Session σ) : Except ClientError (List LibraryStatus) → Session σ
  | .ok libraries => { s with libraries := libraries }
  | .error _ => s

end Session

/-- A world to act in, the patience to have, and the fuel for each wait and for the rounds of the
libraries. -/
structure Reconciler (σ : Type) where
  world : World σ
  options : Options
  fuel : Nat

namespace Reconciler
variable {σ : Type} (r : Reconciler σ)

def perform (c : Call) (s : Session σ) : Except ClientError c.Reply × Session σ :=
  let (answer, world) := r.world.answer c s.world
  (answer, { s with world := world, history := ⟨s.world, c, answer⟩ :: s.history })

def fail {α : Type} (stage : Stage) (error : ReconcileError) : Run σ α :=
  throw (.failed ⟨stage, error⟩)

def call (stage : Stage) (c : Call) : Run σ c.Reply := fun s =>
  match r.perform c s with
  | (.ok reply, s) => (.ok reply, s)
  | (.error e, s) => (.error (.failed ⟨stage, .ofClient e⟩), s)

/-- Goes on only while nobody has cancelled. -/
def checkpoint (stage : Stage) : Run σ Unit := do
  if r.world.isCancelled (← get).world then fail stage (.cancelled stage.name)

/-- Goes on only if the last observed phase permits the action. -/
def require (id : String) (action : Action) (stage : Stage) : Run σ Unit := do
  let phase := (← get).phase
  if !phase.permits action then fail stage (.invalidPhase id phase action)

def mutate (action : Action) (stage : Stage) (c : Call) : Run σ Unit := do
  require c.id action stage
  r.checkpoint stage
  let _ ← r.call stage c
  modify fun s => { s with actions := s.actions ++ [action] }

def fetchCluster (stage : Stage) (id : String) : Run σ Cluster.Info := do
  r.checkpoint stage
  let info ← r.call stage (.getCluster id)
  modify (·.noteCluster (.ok info))
  return info

def fetchLibraries (stage : Stage) (id : String) : Run σ (List LibraryStatus) := do
  r.checkpoint stage
  let observed ← r.call stage (.libraryStatuses id)
  modify (·.noteLibraries (.ok observed))
  return observed

def clock : Clock (Session σ) where
  now s := r.world.now s.world
  sleep d s := { s with world := r.world.sleep d s.world }
  isCancelled s := r.world.isCancelled s.world

def await {β α : Type} (stage : Stage) (w : Watch (Session σ) β α ReconcileError) : Run σ α :=
  fun s =>
    match w.run r.clock r.options.poll r.fuel s with
    | (.done a, s) => (.ok a, s)
    | (.rejected e, s) => (.error (.failed ⟨stage, e⟩), s)
    | (.stopped e, s) => (.error (.failed ⟨stage, .ofPoll e⟩), s)
    | (.unfinished, s) => (.error .unfinished, s)

/-- Watches a cluster; whatever is observed is kept. -/
def watchCluster {α : Type} (id what : String)
    (judge : Except ClientError Cluster.Info → Except ReconcileError (Check α)) :
    Watch (Session σ) Cluster.Info α ReconcileError where
  what := what
  fetch := r.perform (.getCluster id)
  decide answer s := (judge answer, s.noteCluster answer)

/-- A cluster on its way to run, or one that will not. -/
def judgeRunning (id : String) :
    Except ClientError Cluster.Info → Except ReconcileError (Check Cluster.Info)
  | .ok info =>
    match info.phase with
    | .running => .ok (.done info)
    | .pending => .ok .again
    | .terminating => .ok .again
    | phase => .error (.clusterFailed id phase info.message)
  | .error e =>
    if e.isNotFound then .error (.clusterFailed id .unknown "cluster disappeared")
    else .error (.ofClient e)

def waitRunning (stage : Stage) (id : String) : Run σ Cluster.Info :=
  r.await stage (r.watchCluster id ("cluster " ++ id ++ " to be running") (judgeRunning id))

def judgeStable : Except ClientError Cluster.Info → Except ReconcileError (Check Cluster.Info)
  | .ok info => .ok (if info.phase.isSettling then .again else .done info)
  | .error e => .error (.ofClient e)

def waitStable (stage : Stage) (id : String) : Run σ Cluster.Info :=
  r.await stage (r.watchCluster id ("cluster " ++ id ++ " to settle") judgeStable)

/-- Whether the cluster is still there when it is no longer alive. -/
def judgeTerminated : Except ClientError Cluster.Info → Except ReconcileError (Check Bool)
  | .ok info =>
    .ok (if info.phase = .terminated ∨ info.phase = .error then .done true else .again)
  | .error e => if e.isNotFound then .ok (.done false) else .error (.ofClient e)

def waitTerminated (id : String) : Run σ Bool :=
  r.await .delete (r.watchCluster id ("cluster " ++ id ++ " to terminate") judgeTerminated)

end Reconciler
end ClusterReconciliation
