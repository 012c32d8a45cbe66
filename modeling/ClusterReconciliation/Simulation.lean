import ClusterReconciliation.ControlPlane

/-! A control plane held in memory. A change moves a cluster or a library through a phase of
transition, which lasts for a number of observations; every observation is taken before it moves
anything. Calls that the phase of a cluster does not permit are rejected. -/
namespace ClusterReconciliation

structure SimulatedLibrary where
  reported : LibraryStatus
  /-- The status that it comes to rest in. -/
  goal : InstallStatus
  pollsLeft : Nat := 0
  deriving DecidableEq, Repr

namespace SimulatedLibrary

def atRest (s : LibraryStatus) : SimulatedLibrary := ⟨s, s.status, 0⟩

def submitted (l : Library) (goal : InstallStatus) (polls : Nat) : SimulatedLibrary :=
  ⟨{ library := l, status := if polls = 0 then goal else .pending }, goal, polls - 1⟩

def settled (l : SimulatedLibrary) : SimulatedLibrary :=
  { l with reported := { l.reported with
      status := l.goal
      messages := if l.goal = .failed then ["Library resolution failed"]
        else l.reported.messages } }

/-- What an observation leaves behind. -/
def observe (l : SimulatedLibrary) : SimulatedLibrary :=
  if l.reported.status = l.goal then l
  else if l.pollsLeft = 0 then l.settled
  else { l with pollsLeft := l.pollsLeft - 1 }

def remove (l : SimulatedLibrary) : SimulatedLibrary :=
  { l with reported := { l.reported with status := .uninstallOnRestart }
           goal := .uninstallOnRestart }

end SimulatedLibrary

structure SimulatedCluster where
  info : Cluster.Info
  goal : Phase
  pollsLeft : Nat := 0
  libraries : List SimulatedLibrary := []
  deriving DecidableEq, Repr

namespace SimulatedCluster

def atRest (info : Cluster.Info) (libraries : List LibraryStatus) : SimulatedCluster :=
  ⟨info, info.phase, 0, libraries.map .atRest⟩

/-- Goes to `goal` by way of another phase, unless transitions take no time. -/
def depart (c : SimulatedCluster) (via goal : Phase) (polls : Nat) : SimulatedCluster :=
  { c with
    info := { c.info with phase := if polls = 0 then goal else via }
    goal := goal
    pollsLeft := polls - 1 }

def observe (c : SimulatedCluster) : SimulatedCluster :=
  if c.info.phase = c.goal then c
  else if c.pollsLeft = 0 then { c with info := { c.info with phase := c.goal } }
  else { c with pollsLeft := c.pollsLeft - 1 }

def rest (c : SimulatedCluster) (phase : Phase) : SimulatedCluster :=
  { c with info := { c.info with phase := phase }, goal := phase, pollsLeft := 0 }

def reshape (i : Cluster.Info) (s : Cluster.Spec) : Cluster.Info :=
  { i with
    name := s.name
    sparkVersion := s.sparkVersion
    nodeType := s.nodeType
    driverNodeType := s.driverNodeType
    workers := s.workers?.getD 0
    autoscale := s.autoscale?
    autotermination := s.autotermination
    sparkConf := s.sparkConf
    sparkEnvVars := s.sparkEnvVars
    customTags := s.customTags
    aws := s.aws?
    azure := s.azure?
    gcp := s.gcp?
    instancePool := s.instancePool }

def rejection (c : SimulatedCluster) (operation : String) : ClientError :=
  .api 400 "INVALID_STATE" ("Cluster " ++ c.info.id ++ " is in unexpected state " ++
    c.info.phase.name ++ " for " ++ operation)

/-- A library that was there before gives way to its new submission. -/
def submit (c : SimulatedCluster) (l : Library) (goal : InstallStatus) (polls : Nat) :
    SimulatedCluster :=
  { c with libraries := c.libraries.filter (·.reported.library != l) ++ [.submitted l goal polls] }

def remove (c : SimulatedCluster) (ls : List Library) : SimulatedCluster :=
  { c with libraries := c.libraries.map fun l =>
      if ls.contains l.reported.library then l.remove else l }

end SimulatedCluster

structure Simulation where
  /-- How many observations a transition is seen in. -/
  transitionPolls : Nat := 1
  clusters : Dict SimulatedCluster := ∅
  /-- By method, what the next calls get: a failure, or nothing in its way. -/
  queued : Dict (List (Option ClientError)) := ∅
  /-- How many more submissions of a library fail; the first entry for it counts. -/
  failing : List (Library × Nat) := []
  created : Nat := 0
  calls : List Call := []

namespace Simulation

def insert (s : Simulation) (info : Cluster.Info) (libraries : List LibraryStatus) : Simulation :=
  { s with clusters := s.clusters.insert info.id (.atRest info libraries) }

def enqueue (s : Simulation) (method : String) (result : Option ClientError) : Simulation :=
  { s with queued := s.queued.insert method ((s.queued.get? method).getD [] ++ [result]) }

/-- The next so many submissions of a library fail. -/
def failInstall (s : Simulation) (l : Library) (times : Nat) : Simulation :=
  { s with failing := (l, times) :: s.failing }

def put (s : Simulation) (id : String) (c : SimulatedCluster) : Simulation :=
  { s with clusters := s.clusters.insert id c }

/-- Brings a cluster to rest in a phase at once. -/
def setPhase (s : Simulation) (id : String) (phase : Phase) : Simulation :=
  match s.clusters.get? id with
  | some c => s.put id (c.rest phase)
  | none => s

def failuresLeft (s : Simulation) (l : Library) : Nat := (s.failing.lookup l).getD 0

/-- The status that the next submission of a library comes to rest in. -/
def nextGoal (s : Simulation) (l : Library) : InstallStatus × Simulation :=
  match s.failuresLeft l with
  | 0 => (.installed, s)
  | n + 1 => (.failed, s.failInstall l n)

/-- Records a call and takes what is queued for it. -/
def enter (s : Simulation) (c : Call) : Option ClientError × Simulation :=
  let s := { s with calls := s.calls ++ [c] }
  match s.queued.get? c.method with
  | some (result :: rest) => (result, { s with queued := s.queued.insert c.method rest })
  | _ => (none, s)

def missing (id : String) : ClientError := .notFound ("Cluster " ++ id ++ " does not exist")

def create (s : Simulation) (spec : Cluster.Spec) : String × Simulation :=
  let id := "cluster-" ++ toString (s.created + 1)
  let c : SimulatedCluster := ⟨SimulatedCluster.reshape { id := id } spec, .running, 0, []⟩
  (id, { s.put id (c.depart .pending .running s.transitionPolls) with created := s.created + 1 })

/-- Changes a cluster that must be in the given phase. -/
def change (s : Simulation) (id : String) (phase : Phase) (operation : String)
    (f : SimulatedCluster → SimulatedCluster) : Except ClientError Unit × Simulation :=
  match s.clusters.get? id with
  | none => (.error (missing id), s)
  | some c =>
    if c.info.phase = phase then (.ok (), s.put id (f c)) else (.error (c.rejection operation), s)

/-- Looks at a cluster, which may move it on. -/
def look {α : Type} (s : Simulation) (id : String) (f : SimulatedCluster → α)
    (after : SimulatedCluster → SimulatedCluster) : Except ClientError α × Simulation :=
  match s.clusters.get? id with
  | none => (.error (missing id), s)
  | some c => (.ok (f c), s.put id (after c))

def terminate (s : Simulation) (id : String) : Except ClientError Unit × Simulation :=
  s.look id (fun _ => ()) fun c =>
    if c.info.phase = .terminated then c
    else c.depart .terminating .terminated s.transitionPolls

def purge (s : Simulation) (id : String) : Except ClientError Unit × Simulation :=
  match s.clusters.get? id with
  | none => (.error (missing id), s)
  | some c =>
    if c.info.phase = .terminated ∨ c.info.phase = .error then
      (.ok (), { s with clusters := s.clusters.erase id })
    else (.error (c.rejection "permanent-delete"), s)

def submit (s : Simulation) (id : String) (c : SimulatedCluster) (l : Library) :
    SimulatedCluster × Simulation :=
  let (goal, s) := s.nextGoal l
  let c := c.submit l goal s.transitionPolls
  (c, s.put id c)

def submitAll (id : String) : List Library → SimulatedCluster × Simulation → Simulation
  | [], (_, s) => s
  | l :: rest, (c, s) => submitAll id rest (s.submit id c l)

def install (s : Simulation) (id : String) (ls : List Library) :
    Except ClientError Unit × Simulation :=
  match s.clusters.get? id with
  | none => (.error (missing id), s)
  | some c =>
    if c.info.phase = .running then (.ok (), submitAll id ls (c, s))
    else (.error (c.rejection "library install"), s)

/-- Serves a call for which no failure is queued. -/
def serve (s : Simulation) : (c : Call) → Except ClientError c.Reply × Simulation
  | .createCluster spec =>
    let (id, s) := s.create spec
    (.ok id, s)
  | .getCluster id => s.look id (·.info) (·.observe)
  | .startCluster id =>
    s.change id .terminated "start" (·.depart .pending .running s.transitionPolls)
  | .editCluster id spec =>
    s.change id .running "edit" fun c =>
      { c with info := SimulatedCluster.reshape c.info spec }.depart .pending .running
        s.transitionPolls
  | .deleteCluster id => s.terminate id
  | .permanentDeleteCluster id => s.purge id
  | .libraryStatuses id =>
    s.look id (·.libraries.map (·.reported)) fun c =>
      { c with libraries := c.libraries.map (·.observe) }
  | .installLibraries id ls => s.install id ls
  | .uninstallLibraries id ls => s.change id .running "library uninstall" (·.remove ls)

def answer (c : Call) (s : Simulation) : Except ClientError c.Reply × Simulation :=
  match s.enter c with
  | (some e, s) => (.error e, s)
  | (none, s) => s.serve c

end Simulation
end ClusterReconciliation
