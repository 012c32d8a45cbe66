import ClusterReconciliation.Cluster.Spec

/-! The flat layout in which a shape is sent: sizing as two optional fields and the cloud as three
optional blocks. -/
namespace ClusterReconciliation.Cluster

structure Layout where
  name : String := ""
  sparkVersion : String := ""
  nodeType : Option String := none
  driverNodeType : Option String := none
  workers : Option UInt32 := none
  autoscale : Option AutoScale := none
  autotermination : UInt32 := defaultAutotermination
  sparkConf : Dict String := ∅
  sparkEnvVars : Dict String := ∅
  customTags : Dict String := ∅
  aws : Option AwsAttributes := none
  azure : Option AzureAttributes := none
  gcp : Option GcpAttributes := none
  instancePool : Option String := none
  deriving DecidableEq, Repr

def sizingOf : Option UInt32 → Option AutoScale → Except ValidationError Sizing
  | some n, none => .ok (.fixed n)
  | none, some r => .ok (.autoscale r)
  | some _, some _ => .error .conflictingSizing
  | none, none => .error .missingSizing

def cloudOf : Option AwsAttributes → Option AzureAttributes → Option GcpAttributes →
    Except ValidationError (Option CloudAttributes)
  | none, none, none => .ok none
  | some a, none, none => .ok (some (.aws a))
  | none, some a, none => .ok (some (.azure a))
  | none, none, some a => .ok (some (.gcp a))
  | _, _, _ => .error .conflictingCloudAttributes

/-- Sizing is judged before the cloud. -/
def Spec.ofLayout (l : Layout) : Except ValidationError Spec := do
  let sizing ← sizingOf l.workers l.autoscale
  let cloud ← cloudOf l.aws l.azure l.gcp
  return ⟨l.name, l.sparkVersion, l.nodeType, l.driverNodeType, sizing, l.autotermination,
    l.sparkConf, l.sparkEnvVars, l.customTags, cloud, l.instancePool⟩

def Spec.workers? (s : Spec) : Option UInt32 :=
  match s.sizing with
  | .fixed n => some n
  | .autoscale _ => none

def Spec.autoscale? (s : Spec) : Option AutoScale :=
  match s.sizing with
  | .fixed _ => none
  | .autoscale r => some r

def Spec.aws? (s : Spec) : Option AwsAttributes :=
  match s.cloud with
  | some (.aws a) => some a
  | _ => none

def Spec.azure? (s : Spec) : Option AzureAttributes :=
  match s.cloud with
  | some (.azure a) => some a
  | _ => none

def Spec.gcp? (s : Spec) : Option GcpAttributes :=
  match s.cloud with
  | some (.gcp a) => some a
  | _ => none

def Spec.toLayout (s : Spec) : Layout :=
  ⟨s.name, s.sparkVersion, s.nodeType, s.driverNodeType, s.workers?, s.autoscale?,
    s.autotermination, s.sparkConf, s.sparkEnvVars, s.customTags, s.aws?, s.azure?, s.gcp?,
    s.instancePool⟩

theorem Spec.ofLayout_toLayout (s : Spec) : ofLayout s.toLayout = .ok s := by
  obtain ⟨_, _, _, _, sizing, _, _, _, _, cloud, _⟩ := s
  rcases sizing with n | r <;> rcases cloud with _ | (a | a | a) <;> rfl

end Cluster

namespace AutoScale

def decoder : Decoder AutoScale :=
  (AutoScale.mk <$> .defaulted "min_workers" 0 .uint32 <*> .defaulted "max_workers" 0 .uint32 :
    Fields AutoScale).decoder

def toJson (r : AutoScale) : Json :=
  .object [("min_workers", .ofNat r.minWorkers.toNat), ("max_workers", .ofNat r.maxWorkers.toNat)]

end AutoScale

def Dict.toJson (d : Dict String) : Json := .object (d.entries.map fun e => (e.1, .text e.2))

def Dict.toJson? (d : Dict String) : Option Json := if d.isEmpty then none else some d.toJson

namespace Cluster

def Layout.fields : Fields Layout :=
  Layout.mk <$> .defaulted "cluster_name" "" .text <*> .defaulted "spark_version" "" .text <*>
    .optional "node_type_id" .text <*> .optional "driver_node_type_id" .text <*>
    .optional "num_workers" .uint32 <*> .optional "autoscale" AutoScale.decoder <*>
    .defaulted "autotermination_minutes" defaultAutotermination .uint32 <*>
    .defaulted "spark_conf" ∅ (.dictOf .text) <*>
    .defaulted "spark_env_vars" ∅ (.dictOf .text) <*>
    .defaulted "custom_tags" ∅ (.dictOf .text) <*>
    .optional "aws_attributes" AwsAttributes.decoder <*>
    .optional "azure_attributes" AzureAttributes.decoder <*>
    .optional "gcp_attributes" GcpAttributes.decoder <*>
    .optional "instance_pool_id" .text

def Layout.toFields (l : Layout) : List (String × Json) :=
  [("cluster_name", .text l.name), ("spark_version", .text l.sparkVersion)] ++
    Json.field? "node_type_id" (l.nodeType.map .text) ++
    Json.field? "driver_node_type_id" (l.driverNodeType.map .text) ++
    Json.field? "num_workers" (l.workers.map (.ofNat ·.toNat)) ++
    Json.field? "autoscale" (l.autoscale.map AutoScale.toJson) ++
    [("autotermination_minutes", .ofNat l.autotermination.toNat)] ++
    Json.field? "spark_conf" l.sparkConf.toJson? ++
    Json.field? "spark_env_vars" l.sparkEnvVars.toJson? ++
    Json.field? "custom_tags" l.customTags.toJson? ++
    Json.field? "aws_attributes" (l.aws.map AwsAttributes.toJson) ++
    Json.field? "azure_attributes" (l.azure.map AzureAttributes.toJson) ++
    Json.field? "gcp_attributes" (l.gcp.map GcpAttributes.toJson) ++
    Json.field? "instance_pool_id" (l.instancePool.map .text)

def Spec.readLayout (l : Layout) : Except DecodeError Spec := (ofLayout l).mapError .invalid

def Spec.decoder : Decoder Spec := Layout.fields.decoder.refine readLayout

def Spec.toFields (s : Spec) : List (String × Json) := s.toLayout.toFields

def Spec.toJson (s : Spec) : Json := .object s.toFields

end Cluster
end ClusterReconciliation
