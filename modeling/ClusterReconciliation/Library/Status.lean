import ClusterReconciliation.Library.Wire

/-! Libraries as observed on a cluster. -/
namespace ClusterReconciliation

inductive InstallStatus
  | pending
  | resolving
  | installing
  | installed
  | failed
  | skipped
  | uninstallOnRestart
  | unknown
  deriving DecidableEq, Repr

namespace InstallStatus

def name : InstallStatus → String
  | pending => "PENDING"
  | resolving => "RESOLVING"
  | installing => "INSTALLING"
  | installed => "INSTALLED"
  | failed => "FAILED"
  | skipped => "SKIPPED"
  | uninstallOnRestart => "UNINSTALL_ON_RESTART"
  | unknown => "UNKNOWN"

/-- A name that is not one of the seven others is unknown. -/
def ofName (s : String) : InstallStatus :=
  match s with
  | "PENDING" => pending
  | "RESOLVING" => resolving
  | "INSTALLING" => installing
  | "INSTALLED" => installed
  | "FAILED" => failed
  | "SKIPPED" => skipped
  | "UNINSTALL_ON_RESTART" => uninstallOnRestart
  | _ => unknown

theorem ofName_name (s : InstallStatus) : ofName s.name = s := by cases s <;> decide +kernel

/-- The library is not installed and will not be unless it is submitted again. -/
def isFailed (s : InstallStatus) : Bool := s == failed || s == skipped

def isInFlight (s : InstallStatus) : Bool :=
  s == pending || s == resolving || s == installing || s == unknown

def needsInstall (s : InstallStatus) : Bool := s.isFailed || s == uninstallOnRestart

/-- The name alone, or as the only key of a table with a null. -/
def decoder : Decoder InstallStatus
  | _, .text s => .ok (ofName s)
  | o, .table ((k, v) :: more) => do
    if o = .held && !more.isEmpty then throw .wrongValue
    let s ← Decoder.text o k
    match v with
    | .null => if more.isEmpty then return ofName s else throw .unreadable
    | v => throw v.mismatch
  | .json, _ => .error .unreadable
  | _, d => .error d.mismatch

end InstallStatus

structure LibraryStatus where
  library : Library
  status : InstallStatus
  messages : List String := []
  /-- Installed by a setting of the whole workspace, and not to be removed from one cluster. -/
  forAllClusters : Bool := false
  deriving DecidableEq, Repr

namespace LibraryStatus

def decoder : Decoder LibraryStatus :=
  (LibraryStatus.mk <$> .required "library" Library.decoder <*>
    .required "status" InstallStatus.decoder <*> .defaulted "messages" [] (.listOf .text) <*>
    .defaulted "is_library_for_all_clusters" false .bool : Fields LibraryStatus).decoder

def toJson (s : LibraryStatus) : Json :=
  .object ([("library", s.library.toJson), ("status", .text s.status.name)] ++
    Json.field? "messages" (if s.messages.isEmpty then none else some (Json.texts s.messages)) ++
    [("is_library_for_all_clusters", .bool s.forAllClusters)])

end LibraryStatus
end ClusterReconciliation
