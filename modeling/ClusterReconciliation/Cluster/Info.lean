import ClusterReconciliation.Cluster.Layout
import ClusterReconciliation.Phase

/-! A cluster as the control plane reports it, and where it differs from a desired shape. -/
namespace ClusterReconciliation.Cluster

structure Info where
  id : String := ""
  name : String := ""
  sparkVersion : String := ""
  nodeType : Option String := none
  driverNodeType : Option String := none
  workers : UInt32 := 0
  autoscale : Option AutoScale := none
  autotermination : UInt32 := 0
  sparkConf : Dict String := ∅
  sparkEnvVars : Dict String := ∅
  customTags : Dict String := ∅
  aws : Option AwsAttributes := none
  azure : Option AzureAttributes := none
  gcp : Option GcpAttributes := none
  instancePool : Option String := none
  phase : Phase := .unknown
  message : String := ""
  /-- Milliseconds since the epoch. -/
  startTime : Option Int64 := none
  terminatedTime : Option Int64 := none
  deriving DecidableEq, Repr

namespace Info

instance : Inhabited Info := ⟨{}⟩

/-- A range wins: the count of workers then only says how many there are at the moment. -/
def sizing (i : Info) : Sizing :=
  match i.autoscale with
  | some r => .autoscale r
  | none => .fixed i.workers

def fields : Fields Info :=
  Info.mk <$> .defaulted "cluster_id" "" .text <*> .defaulted "cluster_name" "" .text <*>
    .defaulted "spark_version" "" .text <*> .optional "node_type_id" .text <*>
    .optional "driver_node_type_id" .text <*> .defaulted "num_workers" 0 .uint32 <*>
    .optional "autoscale" AutoScale.decoder <*>
    .defaulted "autotermination_minutes" 0 .uint32 <*>
    .defaulted "spark_conf" ∅ (.dictOf .text) <*>
    .defaulted "spark_env_vars" ∅ (.dictOf .text) <*>
    .defaulted "custom_tags" ∅ (.dictOf .text) <*>
    .optional "aws_attributes" AwsAttributes.decoder <*>
    .optional "azure_attributes" AzureAttributes.decoder <*>
    .optional "gcp_attributes" GcpAttributes.decoder <*>
    .optional "instance_pool_id" .text <*> .defaulted "state" .unknown Phase.decoder <*>
    .defaulted "state_message" "" .text <*> .optional "start_time" .int64 <*>
    .optional "terminated_time" .int64

def decoder : Decoder Info := fields.decoder

def toJson (i : Info) : Json :=
  .object ([("cluster_id", .text i.id), ("cluster_name", .text i.name),
      ("spark_version", .text i.sparkVersion)] ++
    Json.field? "node_type_id" (i.nodeType.map .text) ++
    Json.field? "driver_node_type_id" (i.driverNodeType.map .text) ++
    [("num_workers", .ofNat i.workers.toNat)] ++
    Json.field? "autoscale" (i.autoscale.map AutoScale.toJson) ++
    [("autotermination_minutes", .ofNat i.autotermination.toNat),
      ("spark_conf", i.sparkConf.toJson), ("spark_env_vars", i.sparkEnvVars.toJson),
      ("custom_tags", i.customTags.toJson)] ++
    Json.field? "aws_attributes" (i.aws.map AwsAttributes.toJson) ++
    Json.field? "azure_attributes" (i.azure.map AzureAttributes.toJson) ++
    Json.field? "gcp_attributes" (i.gcp.map GcpAttributes.toJson) ++
    Json.field? "instance_pool_id" (i.instancePool.map .text) ++
    [("state", .text i.phase.name), ("state_message", .text i.message)] ++
    Json.field? "start_time" (i.startTime.map fun t => .integer t.toInt) ++
    Json.field? "terminated_time" (i.terminatedTime.map fun t => .integer t.toInt))

end Info

inductive ShapeField
  | name
  | sparkVersion
  | nodeType
  | driverNodeType
  | sizing
  | autotermination
  | sparkConf
  | sparkEnvVars
  | customTags
  | instancePool
  | cloud
  deriving DecidableEq, Repr

namespace ShapeField

def all : List ShapeField :=
  [name, sparkVersion, nodeType, driverNodeType, sizing, autotermination, sparkConf, sparkEnvVars,
    customTags, instancePool, cloud]

def text : ShapeField → String
  | name => "cluster_name"
  | sparkVersion => "spark_version"
  | nodeType => "node_type_id"
  | driverNodeType => "driver_node_type_id"
  | sizing => "sizing"
  | autotermination => "autotermination_minutes"
  | sparkConf => "spark_conf"
  | sparkEnvVars => "spark_env_vars"
  | customTags => "custom_tags"
  | instancePool => "instance_pool_id"
  | cloud => "cloud_attributes"

end ShapeField

/-- Every attribute that `c` sets is reported with the same value. -/
def Info.carries (i : Info) : CloudAttributes → Bool
  | .aws a => a.isWithin (i.aws.getD {})
  | .azure a => a.isWithin (i.azure.getD {})
  | .gcp a => a.isWithin (i.gcp.getD {})

/-- What the control plane fills in by itself is compared only where the shape sets it. -/
def Spec.differsAt (s : Spec) (i : Info) : ShapeField → Bool
  | .name => s.name != i.name
  | .sparkVersion => s.sparkVersion != i.sparkVersion
  | .nodeType => s.nodeType.isSome && s.nodeType != i.nodeType
  | .driverNodeType => s.driverNodeType.isSome && s.driverNodeType != i.driverNodeType
  | .sizing => s.sizing != i.sizing
  | .autotermination => s.autotermination != i.autotermination
  | .sparkConf => s.sparkConf != i.sparkConf
  | .sparkEnvVars => s.sparkEnvVars != i.sparkEnvVars
  | .customTags => s.customTags != i.customTags
  | .instancePool => s.instancePool != i.instancePool
  | .cloud => !s.cloud.all i.carries

def Spec.shapeDiff (s : Spec) (i : Info) : List ShapeField := ShapeField.all.filter (s.differsAt i)

end ClusterReconciliation.Cluster
