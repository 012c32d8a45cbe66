import ClusterReconciliation.Decode

/-! Attributes that only one of the clouds knows. -/
namespace ClusterReconciliation
open Decimal

structure AwsAttributes where
  zoneId : Option String := none
  availability : Option String := none
  instanceProfileArn : Option String := none
  firstOnDemand : Option UInt32 := none
  spotBidPricePercent : Option UInt32 := none
  ebsVolumeType : Option String := none
  ebsVolumeCount : Option UInt32 := none
  ebsVolumeSize : Option UInt32 := none
  deriving DecidableEq, Repr

structure AzureAttributes where
  availability : Option String := none
  firstOnDemand : Option UInt32 := none
  spotBidMaxPrice : Option Double := none
  deriving DecidableEq, Repr

structure GcpAttributes where
  usePreemptibleExecutors : Option Bool := none
  googleServiceAccount : Option String := none
  deriving DecidableEq, Repr

inductive CloudAttributes
  | aws (attributes : AwsAttributes)
  | azure (attributes : AzureAttributes)
  | gcp (attributes : GcpAttributes)
  deriving DecidableEq, Repr

/-- What is wanted is there, or nothing is wanted. -/
def meets {α : Type} (same : α → α → Bool) : Option α → Option α → Bool
  | none, _ => true
  | some _, none => false
  | some a, some b => same a b

/-- Prices agree in value; all prices without a value are written alike. -/
def samePrice (a b : Double) : Bool :=
  if a.isFinite && b.isFinite then a.eqv b else !a.isFinite && !b.isFinite

theorem meets_self {α : Type} {same : α → α → Bool} (h : ∀ a, same a a = true) (o : Option α) :
    meets same o o = true := by
  cases o with
  | none => rfl
  | some a => exact h a

theorem samePrice_self (a : Double) : samePrice a a = true := by
  cases h : a.isFinite with
  | false => simp [samePrice, h]
  | true => simp [samePrice, h, Double.eqv_refl (Double.isNaN_of_isFinite h)]

namespace AwsAttributes

def decoder : Decoder AwsAttributes :=
  (AwsAttributes.mk <$> .optional "zone_id" .text <*> .optional "availability" .text <*>
    .optional "instance_profile_arn" .text <*> .optional "first_on_demand" .uint32 <*>
    .optional "spot_bid_price_percent" .uint32 <*> .optional "ebs_volume_type" .text <*>
    .optional "ebs_volume_count" .uint32 <*> .optional "ebs_volume_size" .uint32 :
    Fields AwsAttributes).decoder

def toJson (a : AwsAttributes) : Json :=
  .object (Json.field? "zone_id" (a.zoneId.map .text) ++
    Json.field? "availability" (a.availability.map .text) ++
    Json.field? "instance_profile_arn" (a.instanceProfileArn.map .text) ++
    Json.field? "first_on_demand" (a.firstOnDemand.map (.ofNat ·.toNat)) ++
    Json.field? "spot_bid_price_percent" (a.spotBidPricePercent.map (.ofNat ·.toNat)) ++
    Json.field? "ebs_volume_type" (a.ebsVolumeType.map .text) ++
    Json.field? "ebs_volume_count" (a.ebsVolumeCount.map (.ofNat ·.toNat)) ++
    Json.field? "ebs_volume_size" (a.ebsVolumeSize.map (.ofNat ·.toNat)))

/-- Every attribute that is set has the same value in `b`. -/
def isWithin (a b : AwsAttributes) : Bool :=
  meets (· == ·) a.zoneId b.zoneId && meets (· == ·) a.availability b.availability &&
    meets (· == ·) a.instanceProfileArn b.instanceProfileArn &&
    meets (· == ·) a.firstOnDemand b.firstOnDemand &&
    meets (· == ·) a.spotBidPricePercent b.spotBidPricePercent &&
    meets (· == ·) a.ebsVolumeType b.ebsVolumeType &&
    meets (· == ·) a.ebsVolumeCount b.ebsVolumeCount &&
    meets (· == ·) a.ebsVolumeSize b.ebsVolumeSize

theorem isWithin_self (a : AwsAttributes) : a.isWithin a = true := by simp [isWithin, meets_self]

end AwsAttributes

namespace AzureAttributes

def decoder : Decoder AzureAttributes :=
  (AzureAttributes.mk <$> .optional "availability" .text <*>
    .optional "first_on_demand" .uint32 <*> .optional "spot_bid_max_price" .double :
    Fields AzureAttributes).decoder

/-- A price without a value is written as the text layer writes such numbers. -/
def toJson (a : AzureAttributes) : Json :=
  .object (Json.field? "availability" (a.availability.map .text) ++
    Json.field? "first_on_demand" (a.firstOnDemand.map (.ofNat ·.toNat)) ++
    Json.field? "spot_bid_max_price" (a.spotBidMaxPrice.map .float))

def isWithin (a b : AzureAttributes) : Bool :=
  meets (· == ·) a.availability b.availability &&
    meets (· == ·) a.firstOnDemand b.firstOnDemand &&
    meets samePrice a.spotBidMaxPrice b.spotBidMaxPrice

theorem isWithin_self (a : AzureAttributes) : a.isWithin a = true := by
  simp [isWithin, meets_self, samePrice_self]

end AzureAttributes

namespace GcpAttributes

def decoder : Decoder GcpAttributes :=
  (GcpAttributes.mk <$> .optional "use_preemptible_executors" .bool <*>
    .optional "google_service_account" .text : Fields GcpAttributes).decoder

def toJson (a : GcpAttributes) : Json :=
  .object (Json.field? "use_preemptible_executors" (a.usePreemptibleExecutors.map .bool) ++
    Json.field? "google_service_account" (a.googleServiceAccount.map .text))

def isWithin (a b : GcpAttributes) : Bool :=
  meets (· == ·) a.usePreemptibleExecutors b.usePreemptibleExecutors &&
    meets (· == ·) a.googleServiceAccount b.googleServiceAccount

theorem isWithin_self (a : GcpAttributes) : a.isWithin a = true := by simp [isWithin, meets_self]

end GcpAttributes
end ClusterReconciliation
