import ClusterReconciliation.Proofs.Encoding
import ClusterReconciliation.Proofs.JsonTexts

/-! Which numbers stand in the encodings: counts of 32 bits, and the price that is bid for machines.
A reader that takes the counts for what they are reads all of an encoding but for the price. -/
namespace ClusterReconciliation
open Decimal Json

/-- The price that is bid for machines, of the only cloud that knows one. -/
def Cluster.Spec.bidPrice? (s : Spec) : Option Double := s.azure?.bind (·.spotBidMaxPrice)

variable {number : Numeral → Datum}

namespace Json

mutual
theorem carried_of_isTextual : (v : Json) → v.isTextual = true → v.Carried number
  | null, _ => trivial
  | bool _, _ => trivial
  | integer _, h => by cases h
  | float _, h => by cases h
  | text _, _ => trivial
  | array items, h => carriedItems_of_areTextual items h
  | object fields, h => carriedFields_of_haveTextual fields h

theorem carriedItems_of_areTextual : (l : List Json) → areTextual l = true →
    CarriedItems number l
  | [], _ => trivial
  | v :: rest, h => by
    rw [areTextual, Bool.and_eq_true] at h
    exact ⟨carried_of_isTextual v h.1, carriedItems_of_areTextual rest h.2⟩

theorem carriedFields_of_haveTextual : (l : List (String × Json)) → haveTextual l = true →
    CarriedFields number l
  | [], _ => trivial
  | (_, v) :: rest, h => by
    rw [haveTextual, Bool.and_eq_true] at h
    exact ⟨carried_of_isTextual v h.1, carriedFields_of_haveTextual rest h.2⟩
end

theorem carried_object {fs : List (String × Json)} (h : FieldsAll (Carried number) fs) :
    (object fs).Carried number := (carriedFields_iff number).2 h

@[simp] theorem carried_text (s : String) : (text s).Carried number := trivial

@[simp] theorem carried_bool (b : Bool) : (bool b).Carried number := trivial

end Json

theorem Library.carried_toJson (l : Library) : l.toJson.Carried number :=
  carried_of_isTextual _ l.isTextual_toJson

theorem Dict.carried_toJson (d : Dict String) : d.toJson.Carried number :=
  carried_object fun f hf => by
    obtain ⟨e, -, rfl⟩ := List.mem_map.1 hf
    exact carried_text e.2

theorem Json.carried_libraries (ls : List Library) :
    (array (ls.map Library.toJson)).Carried number :=
  (carriedItems_iff number).2 fun v hv => by
    obtain ⟨l, -, rfl⟩ := List.mem_map.1 hv
    exact l.carried_toJson

/-- A reader that takes counts for what they are. -/
def Json.Counts (number : Numeral → Datum) : Prop :=
  ∀ n : UInt32, (ofNat n.toNat).Carried number

theorem Json.counts_datum : Counts Numeral.datum := fun n =>
  integerNumeral_datum (by omega) (by have := n.toNat_lt; omega)

theorem GcpAttributes.carried_toJson (a : GcpAttributes) : a.toJson.Carried number :=
  carried_object (by simp)

section Counts
variable (h : Counts number)
include h

theorem AutoScale.carried_toJson (r : AutoScale) : r.toJson.Carried number :=
  carried_object (by simp [h r.minWorkers, h r.maxWorkers])

theorem AwsAttributes.carried_toJson (a : AwsAttributes) : a.toJson.Carried number :=
  carried_object (by simp [h _])

theorem AzureAttributes.carried_toJson {a : AzureAttributes}
    (hp : ∀ x, a.spotBidMaxPrice = some x → (float x).Carried number) :
    a.toJson.Carried number := carried_object (by simpa [h _] using fieldsAll_map hp)

namespace Cluster

theorem Layout.carried_toFields {l : Layout}
    (hp : ∀ a, l.azure = some a → ∀ x, a.spotBidMaxPrice = some x → (float x).Carried number) :
    FieldsAll (Carried number) l.toFields := by
  have hazure : FieldsAll (Carried number)
      (field? "azure_attributes" (l.azure.map AzureAttributes.toJson)) :=
    fieldsAll_map fun a ha => a.carried_toJson h (hp a ha)
  simp [toFields, Dict.toJson?, h _, hazure, AutoScale.carried_toJson h, Dict.carried_toJson,
    AwsAttributes.carried_toJson h, GcpAttributes.carried_toJson]

theorem Spec.carried_toFields {s : Spec}
    (hp : ∀ x, s.bidPrice? = some x → (float x).Carried number) :
    FieldsAll (Carried number) s.toFields :=
  Layout.carried_toFields h fun a ha x hx => hp x (Option.bind_eq_some_iff.2 ⟨a, ha, hx⟩)

end Cluster

end Counts
end ClusterReconciliation
