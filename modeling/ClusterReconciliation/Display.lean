import ClusterReconciliation.Context
import ClusterReconciliation.Display.Table
import ClusterReconciliation.Display.Timestamp
import ClusterReconciliation.Manifest.Lint
import ClusterReconciliation.Reconcile

/-! What the program shows: tables of contexts and libraries, a cluster in detail, and how a
reconciliation or the check of a manifest ended. -/
namespace ClusterReconciliation

def contextTable (entries : List ContextEntry) : String :=
  renderTable ["", "NAME", "HOST", "AUTH"] <|
    entries.map fun e => [if e.isCurrent then "*" else " ", e.name, e.host, e.auth]

def currentContextText (e : ContextEntry) : String :=
  "Current context: " ++ e.name ++ " (" ++ e.host ++ ")\n"

def libraryTable (libraries : List LibraryStatus) : String :=
  renderTable ["LIBRARY", "STATUS", "SCOPE", "MESSAGE"] <|
    libraries.map fun s =>
      [s.library.display, s.status.name, if s.forAllClusters then "all-clusters" else "cluster",
        "; ".intercalate s.messages]

def detailLine (name value : String) : String := padTo 17 (name ++ ":") ++ value ++ "\n"

def detailLine? (name : String) (value : Option String) : String :=
  (value.map (detailLine name)).getD ""

def autoterminationText (minutes : UInt32) : String :=
  if minutes = 0 then "disabled" else toString minutes ++ " min"

def tagLines (tags : Dict String) : String :=
  if tags.isEmpty then ""
  else "Tags:\n" ++ String.join (tags.entries.map fun t => "  " ++ t.1 ++ "=" ++ t.2 ++ "\n")

def clusterSummary (i : Cluster.Info) : String :=
  detailLine "Cluster ID" i.id ++ detailLine "Name" i.name ++ detailLine "State" i.phase.name ++
    detailLine? "State Message" (if i.message.isEmpty then none else some i.message) ++
    detailLine "Spark Version" i.sparkVersion ++ detailLine? "Node Type" i.nodeType ++
    detailLine? "Instance Pool" i.instancePool ++ detailLine "Workers" i.sizing.label ++
    detailLine "Autotermination" (autoterminationText i.autotermination) ++
    detailLine "Started" (timestampText i.startTime) ++
    detailLine? "Terminated" (i.terminatedTime.map fun t => timestampText (some t)) ++
    tagLines i.customTags

def Observed.detail (o : Observed) : String :=
  clusterSummary o.info ++ "\nLibraries (" ++ toString o.libraries.length ++ "):\n" ++
    if o.libraries.isEmpty then "" else libraryTable o.libraries

namespace Reconciliation
variable {σ : Type}

def headline (r : Reconciliation σ) : String :=
  let subject := r.operation.name ++ " " ++ r.clusterId.getD "-"
  match r.outcome with
  | .ok () => "✓ " ++ subject ++ (if r.isNoop then " (no changes)" else "") ++ "\n"
  | .error (.failed f) => "✗ " ++ subject ++ " failed\n  Error: " ++ f.message ++ "\n"
  | .error .unfinished => "✗ " ++ subject ++ " unfinished\n"

def display (r : Reconciliation σ) : String :=
  let s := r.session
  r.headline ++
    (if s.actions.isEmpty then ""
      else "  Actions: " ++ ", ".intercalate (s.actions.map (·.name)) ++ "\n") ++
    (match s.cluster with
      | some i => "  State:   " ++ i.phase.name ++ "\n"
      | none => "") ++
    if s.libraries.isEmpty then "" else "\n" ++ libraryTable s.libraries

end Reconciliation

structure ManifestCheck where
  valid : Bool
  clusterName : String := ""
  libraries : Nat := 0
  lint : LintReport := .empty
  error : Option String := none
  deriving DecidableEq, Repr

namespace ManifestCheck

def ofDesired (d : Desired) : ManifestCheck :=
  { valid := d.lint.passed, clusterName := d.cluster.name, libraries := d.libraries.length,
    lint := d.lint }

def display (c : ManifestCheck) (path : String) : String :=
  match c.error with
  | some e => "✗ " ++ path ++ " is invalid\n\n  Error: " ++ e ++ "\n"
  | none =>
    (if c.valid then "✓ " ++ path ++ " is valid\n\n"
      else "✗ " ++ path ++ " has lint errors\n\n") ++
      "  Cluster:   " ++ c.clusterName ++ "\n  Libraries: " ++ toString c.libraries ++ "\n" ++
      if c.lint.messages.isEmpty then "" else "\n" ++ c.lint.display

end ManifestCheck
end ClusterReconciliation
