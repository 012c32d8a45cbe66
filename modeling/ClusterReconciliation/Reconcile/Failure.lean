import ClusterReconciliation.Library.Status
import ClusterReconciliation.Phase
import ClusterReconciliation.Poll

/-! Why and where a reconciliation stopped short of the desired state. -/
namespace ClusterReconciliation

inductive ReconcileError
  | validation (error : ValidationError)
  | transport (reason : String)
  | auth (status : UInt16) (message : String)
  | api (status : UInt16) (code message : String)
  | convergenceTimeout (what : String) (elapsed : Duration)
  | partialConvergence (failed : List LibraryStatus)
  | clusterFailed (id : String) (phase : Phase) (message : String)
  | cancelled (what : String)
  | invalidPhase (id : String) (phase : Phase) (action : Action)
  deriving DecidableEq, Repr

def LibraryStatus.describe (s : LibraryStatus) : String :=
  s.library.display ++ " (" ++ s.status.name ++
    (if s.messages.isEmpty then "" else ": " ++ "; ".intercalate s.messages) ++ ")"

namespace ReconcileError

def message : ReconcileError → String
  | validation e => "invalid cluster spec: " ++ e.message
  | transport reason => "transport error: " ++ reason
  | auth status message => "authentication failed (" ++ toString status ++ "): " ++ message
  | api _ _ message => message
  | convergenceTimeout what elapsed =>
    "timed out after " ++ elapsed.display ++ " waiting for " ++ what
  | partialConvergence failed =>
    toString failed.length ++ " libraries failed to install: " ++
      ", ".intercalate (failed.map (·.describe))
  | clusterFailed id phase message => "cluster " ++ id ++ " is " ++ phase.name ++ ": " ++ message
  | cancelled what => "cancelled while waiting for " ++ what
  | invalidPhase id phase action =>
    "cluster " ++ id ++ " is " ++ phase.name ++ ", which does not permit " ++ action.name

/-- The code of a rejection. -/
def code : ReconcileError → Option String
  | api _ code _ => some code
  | _ => none

def isNotFound : ReconcileError → Bool
  | api status code _ => saysNotFound status code
  | _ => false

def ofClient : ClientError → ReconcileError
  | .transport reason => transport reason
  | .parse reason => transport ("invalid response: " ++ reason)
  | .auth status message => auth status message
  | .api status code message => api status code message

def ofPoll : PollError → ReconcileError
  | .timeout what elapsed => convergenceTimeout what elapsed
  | .cancelled what => cancelled what
  | .client e => ofClient e

theorem isNotFound_ofClient (e : ClientError) : (ofClient e).isNotFound = e.isNotFound := by
  cases e <;> rfl

end ReconcileError

inductive Stage
  | validate
  | create
  | start
  | edit
  | libraryInstall
  | libraryUninstall
  | delete
  | read
  deriving DecidableEq, Repr

def Stage.name : Stage → String
  | validate => "validate"
  | create => "create"
  | start => "start"
  | edit => "edit"
  | libraryInstall => "library-install"
  | libraryUninstall => "library-uninstall"
  | delete => "delete"
  | read => "read"

structure Failure where
  stage : Stage
  error : ReconcileError
  deriving DecidableEq, Repr

def Failure.message (f : Failure) : String :=
  f.error.message ++ " (stage: " ++ f.stage.name ++ ")"

end ClusterReconciliation
