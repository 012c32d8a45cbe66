import ClusterReconciliation.ClientError
import ClusterReconciliation.Cluster.Info
import ClusterReconciliation.Duration
import ClusterReconciliation.Library.Status
import ClusterReconciliation.Poll

/-! The calls that a control plane answers, and the world that a reconciliation runs in. -/
namespace ClusterReconciliation

inductive Call
  | createCluster (spec : Cluster.Spec)
  | getCluster (id : String)
  | startCluster (id : String)
  | editCluster (id : String) (spec : Cluster.Spec)
  /-- Terminates the cluster and keeps its record. -/
  | deleteCluster (id : String)
  | permanentDeleteCluster (id : String)
  | libraryStatuses (id : String)
  | installLibraries (id : String) (libraries : List Library)
  | uninstallLibraries (id : String) (libraries : List Library)
  deriving DecidableEq, Repr

namespace Call

/-- What the answer to a call holds if it succeeds: a new cluster is answered by its id. -/
abbrev Reply : Call → Type
  | createCluster _ => String
  | getCluster _ => Cluster.Info
  | libraryStatuses _ => List LibraryStatus
  | _ => Unit

/-- The cluster that is addressed; a cluster to be made has no id yet. -/
def id : Call → String
  | createCluster _ => ""
  | getCluster id => id
  | startCluster id => id
  | editCluster id _ => id
  | deleteCluster id => id
  | permanentDeleteCluster id => id
  | libraryStatuses id => id
  | installLibraries id _ => id
  | uninstallLibraries id _ => id

/-- The call may change what the control plane holds. -/
def isMutation : Call → Bool
  | getCluster _ => false
  | libraryStatuses _ => false
  | _ => true

def method : Call → String
  | createCluster _ => "create_cluster"
  | getCluster _ => "get_cluster"
  | startCluster _ => "start_cluster"
  | editCluster .. => "edit_cluster"
  | deleteCluster _ => "delete_cluster"
  | permanentDeleteCluster _ => "permanent_delete_cluster"
  | libraryStatuses _ => "library_statuses"
  | installLibraries .. => "install_libraries"
  | uninstallLibraries .. => "uninstall_libraries"

def methods : List String :=
  ["create_cluster", "get_cluster", "start_cluster", "edit_cluster", "delete_cluster",
    "permanent_delete_cluster", "library_statuses", "install_libraries", "uninstall_libraries"]

end Call

structure World (σ : Type) extends Clock σ where
  answer : (c : Call) → σ → Except ClientError c.Reply × σ

structure Event (σ : Type) where
  before : σ
  call : Call
  answer : Except ClientError call.Reply

end ClusterReconciliation
