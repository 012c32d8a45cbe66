import ClusterReconciliation.Decode
import ClusterReconciliation.Text.Blank

/-! The life of a cluster. Only a running cluster takes edits and library changes; a cluster in
transition permits nothing but waiting, and one of unknown phase a delete besides. -/
namespace ClusterReconciliation

inductive Phase
  | pending
  | running
  | terminating
  | terminated
  | error
  | unknown
  deriving DecidableEq, Repr, Inhabited

inductive Action
  | start
  | edit
  | delete
  | permanentDelete
  | installLibraries
  | uninstallLibraries
  | wait
  deriving DecidableEq, Repr

def Action.all : List Action :=
  [start, edit, delete, permanentDelete, installLibraries, uninstallLibraries, wait]

def Action.name : Action → String
  | start => "start"
  | edit => "edit"
  | delete => "delete"
  | permanentDelete => "permanent-delete"
  | installLibraries => "install-libraries"
  | uninstallLibraries => "uninstall-libraries"
  | wait => "wait"

namespace Phase

/-- Restarting and resizing clusters are on their way to run again. The case of ASCII letters does
not count, and a status of no known phase is unknown. -/
def ofStatus (status : String) : Phase :=
  match Text.upper status with
  | "PENDING" => pending
  | "RESTARTING" => pending
  | "RESIZING" => pending
  | "RUNNING" => running
  | "TERMINATING" => terminating
  | "TERMINATED" => terminated
  | "ERROR" => error
  | _ => unknown

def name : Phase → String
  | pending => "PENDING"
  | running => "RUNNING"
  | terminating => "TERMINATING"
  | terminated => "TERMINATED"
  | error => "ERROR"
  | unknown => "UNKNOWN"

theorem ofStatus_name (p : Phase) : ofStatus p.name = p := by cases p <;> decide +kernel

def isTransitional (p : Phase) : Bool := p == pending || p == terminating

/-- The phase is waited out before the next change is decided on. -/
def isSettling (p : Phase) : Bool := p.isTransitional || p == unknown

/-- Waiting does not make the cluster run. -/
def isFailed (p : Phase) : Bool := p == error || p == unknown

def legalActions : Phase → List Action
  | running => [.edit, .delete, .installLibraries, .uninstallLibraries]
  | terminated => [.start, .delete, .permanentDelete]
  | error => [.delete, .permanentDelete]
  | unknown => [.wait, .delete]
  | pending => [.wait]
  | terminating => [.wait]

def permits (p : Phase) (a : Action) : Bool := p.legalActions.contains a

def decoder : Decoder Phase := Decoder.text.map ofStatus

end Phase
end ClusterReconciliation
