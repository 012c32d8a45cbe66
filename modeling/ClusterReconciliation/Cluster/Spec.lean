import ClusterReconciliation.Cluster.Cloud
import ClusterReconciliation.Text.Blank

/-! The desired shape of a cluster. Exactly one way of sizing and at most one cloud are part of the
type; the rest of what makes a shape valid is `Spec.validate`. -/
namespace ClusterReconciliation

structure AutoScale where
  minWorkers : UInt32
  maxWorkers : UInt32
  deriving DecidableEq, Repr

inductive Sizing
  | fixed (workers : UInt32)
  | autoscale (range : AutoScale)
  deriving DecidableEq, Repr

def Sizing.label : Sizing → String
  | fixed n => toString n
  | autoscale r => toString r.minWorkers ++ "-" ++ toString r.maxWorkers

/-- Minutes until an idle cluster is terminated, unless a manifest says otherwise. -/
def defaultAutotermination : UInt32 := 60

namespace Cluster

structure Spec where
  name : String := ""
  sparkVersion : String
  nodeType : Option String := none
  driverNodeType : Option String := none
  sizing : Sizing
  autotermination : UInt32 := defaultAutotermination
  sparkConf : Dict String := ∅
  sparkEnvVars : Dict String := ∅
  customTags : Dict String := ∅
  cloud : Option CloudAttributes := none
  instancePool : Option String := none
  deriving DecidableEq, Repr

def Spec.ofSize (sparkVersion : String) (sizing : Sizing) : Spec :=
  { sparkVersion := sparkVersion, sizing := sizing }

/-- A node type that is blank names no machine; a pool is taken as it is given. -/
def Spec.namesMachine (s : Spec) : Bool :=
  s.nodeType.any (!Text.isBlankText ·) || s.instancePool.isSome

def Spec.fault (s : Spec) : Option ValidationError :=
  match s.sizing with
  | .autoscale r =>
    if r.maxWorkers < r.minWorkers then some (.autoscaleRange r.minWorkers r.maxWorkers)
    else faultBeyondSizing
  | .fixed _ => faultBeyondSizing
where
  faultBeyondSizing : Option ValidationError :=
    if Text.isBlankText s.sparkVersion then some .emptySparkVersion
    else if !s.namesMachine then some .missingNodeType
    else if s.autotermination ≠ 0 ∧
        ¬(minAutotermination ≤ s.autotermination ∧ s.autotermination ≤ maxAutotermination) then
      some (.autoterminationOutOfRange s.autotermination)
    else none

def Spec.validate (s : Spec) : Except ValidationError Unit :=
  match s.fault with
  | some e => .error e
  | none => .ok ()

end Cluster
end ClusterReconciliation
