import ClusterReconciliation.Desired
import ClusterReconciliation.Library.Diff
import ClusterReconciliation.Text.Blank

/-! Hints about manifests that are accepted and yet may not be what was meant. -/
namespace ClusterReconciliation

inductive Severity
  | info
  | warning
  | error
  deriving DecidableEq, Repr

structure LintMessage where
  severity : Severity
  code : String
  message : String
  suggestion : Option String
  deriving DecidableEq, Repr

/-- The messages of a lint, which is passed unless one of them is an error. -/
structure LintReport where
  messages : List LintMessage
  passed : Bool
  deriving DecidableEq, Repr

namespace LintReport

def empty : LintReport := ⟨[], true⟩

def add (r : LintReport) (m : LintMessage) : LintReport :=
  ⟨r.messages ++ [m], r.passed && m.severity != .error⟩

def info (r : LintReport) (code message : String) : LintReport :=
  r.add ⟨.info, code, message, none⟩

def warning (r : LintReport) (code message : String) (suggestion : Option String) : LintReport :=
  r.add ⟨.warning, code, message, suggestion⟩

def error (r : LintReport) (code message : String) (suggestion : Option String) : LintReport :=
  r.add ⟨.error, code, message, suggestion⟩

def hasErrors (r : LintReport) : Bool := r.messages.any (·.severity == .error)

def hasWarnings (r : LintReport) : Bool := r.messages.any (·.severity == .warning)

def hasCode (r : LintReport) (code : String) : Bool := r.messages.any (·.code == code)

def ofMessages (l : List LintMessage) : LintReport := l.foldl add empty

theorem messages_foldl_add (l : List LintMessage) (r : LintReport) :
    (l.foldl add r).messages = r.messages ++ l := by
  induction l generalizing r with
  | nil => simp
  | cons m rest ih => simp [ih, add]

end LintReport

namespace LintMessage

def info (code message : String) : LintMessage := ⟨.info, code, message, none⟩

def warning (code message suggestion : String) : LintMessage :=
  ⟨.warning, code, message, some suggestion⟩

def error (code message suggestion : String) : LintMessage :=
  ⟨.error, code, message, some suggestion⟩

end LintMessage

namespace Lint
open LintMessage

def isPinned (package : String) : Bool :=
  Text.contains ['=', '='] package.toList || package.toList.contains '@'

def ofName (s : Cluster.Spec) : List LintMessage :=
  if Text.isBlankText s.name then
    [warning "UNNAMED_CLUSTER" "cluster_name is empty"
      "Name the cluster so it can be found in the workspace"]
  else []

def ofAutotermination (s : Cluster.Spec) : List LintMessage :=
  if s.autotermination = 0 then
    [warning "AUTOTERMINATION_DISABLED"
      "autotermination_minutes is 0; the cluster runs until deleted"
      "Set autotermination_minutes to 10 or more"]
  else []

def ofSizing : Sizing → List LintMessage
  | .autoscale r =>
    if r.maxWorkers = 0 then
      [error "AUTOSCALE_EMPTY" "autoscale max_workers is 0"
        "Use num_workers: 0 for a driver-only cluster"]
    else if r.minWorkers = r.maxWorkers then
      let n := toString r.minWorkers
      [info "AUTOSCALE_FIXED_RANGE" ("autoscale range " ++ n ++ "-" ++ n ++
        " never scales; num_workers: " ++ n ++ " is equivalent")]
    else []
  | .fixed n =>
    if n = 0 then [info "DRIVER_ONLY" "num_workers is 0; all work runs on the driver"] else []

def ofMachine (s : Cluster.Spec) : List LintMessage :=
  if s.instancePool.isSome && s.nodeType.isSome then
    [warning "POOL_AND_NODE_TYPE"
      "instance_pool_id and node_type_id are both set; the pool decides the node type"
      "Drop node_type_id when using an instance pool"]
  else []

def ofLibrary : Library → List LintMessage
  | .pypi package _ =>
    if isPinned package then []
    else [warning "UNPINNED_PYPI" ("pypi package '" ++ package ++ "' has no version pin")
      "Pin a version, e.g. package==1.2.3"]
  | .maven coordinates _ _ =>
    if (Text.dropSuffix? coordinates.toList "-SNAPSHOT".toList).isSome then
      [warning "MAVEN_SNAPSHOT" ("maven artifact '" ++ coordinates ++ "' is a snapshot")
        "Use a released version"]
    else []
  | .cran package _ =>
    [info "CRAN_UNPINNED" ("cran package '" ++ package ++ "' installs the latest version")]
  | _ => []

def ofRepetition (l : Library) : LintMessage :=
  warning "DUPLICATE_LIBRARY" (l.display ++ " is listed more than once")
    "Remove the duplicate entry"

/-- Each library is judged with those that are listed before it. -/
def ofLibraries : List Library → List Library → List LintMessage
  | _, [] => []
  | seen, l :: rest =>
    (if seen.contains l then [ofRepetition l] else []) ++ ofLibrary l ++
      ofLibraries (l :: seen) rest

def messages (d : Desired) : List LintMessage :=
  ofName d.cluster ++ ofAutotermination d.cluster ++ ofSizing d.cluster.sizing ++
    ofMachine d.cluster ++ ofLibraries [] d.libraries

end Lint

def Desired.lint (d : Desired) : LintReport := .ofMessages (Lint.messages d)

def Severity.label : Severity → String
  | info => "INFO"
  | warning => "WARN"
  | error => "ERROR"

def LintMessage.display (m : LintMessage) : String :=
  "  " ++ m.severity.label ++ " [" ++ m.code ++ "]: " ++ m.message ++ "\n" ++
    match m.suggestion with
    | some s => "    -> " ++ s ++ "\n"
    | none => ""

def LintReport.display (r : LintReport) : String := String.join (r.messages.map (·.display))

end ClusterReconciliation
