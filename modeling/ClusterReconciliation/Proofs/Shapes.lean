import ClusterReconciliation.Proofs.Encoding
import ClusterReconciliation.Proofs.Transitions

/-! When a cluster has the shape that is wanted. The attributes of a cloud are compared by what is
written for them: each of them that is set must be reported, with the same value. -/
namespace ClusterReconciliation
open Decimal Json

namespace Json

/-- Values are the same, and prices go by what `samePrice` says of them. -/
inductive Agrees : Json → Json → Prop
  | same (v : Json) : Agrees v v
  | price {x y : Double} (h : samePrice x y = true) : Agrees (float x) (float y)

/-- Every field of `v` is one of `w` too, and their values agree. -/
def IsPartOf (v w : Json) : Prop :=
  ∀ name a, v.get? name = some a → ∃ b, w.get? name = some b ∧ a.Agrees b

theorem get?_field? (name k : String) (x : Option Json) :
    (object (field? name x)).get? k = if k = name then x else none := by
  cases x with
  | none => simp [field?, get?]
  | some v =>
    have hone : (field? name (some v)).reverse = field? name (some v) := rfl
    rw [get?, hone, lookup_field?]

theorem get?_append_field? (fs : List (String × Json)) (name k : String) (x : Option Json) :
    (object (fs ++ field? name x)).get? k =
      if k = name then x.or ((object fs).get? k) else (object fs).get? k := by
  have hlast := get?_field? name k x
  rw [get?] at hlast
  rw [get?, List.reverse_append, List.lookup_append, hlast]
  by_cases hk : k = name <;> simp [hk, get?]

/-- A field of a name that stands for itself is compared for itself. -/
theorem isPartOf_append {fs gs : List (String × Json)} {name : String} {x y : Option Json}
    (hf : (object fs).get? name = none) (hg : (object gs).get? name = none) :
    (object (fs ++ field? name x)).IsPartOf (object (gs ++ field? name y)) ↔
      (object fs).IsPartOf (object gs) ∧ ∀ a, x = some a → ∃ b, y = some b ∧ a.Agrees b := by
  constructor
  · intro h
    refine ⟨fun k a ha => ?_, fun a ha => ?_⟩
    · have hk : k ≠ name := by
        rintro rfl
        simp [hf] at ha
      simpa [get?_append_field?, hk] using h k a (by simpa [get?_append_field?, hk] using ha)
    · simpa [get?_append_field?, hg] using h name a (by simp [get?_append_field?, ha])
  · rintro ⟨hrest, hlast⟩ k a ha
    rw [get?_append_field?] at ha ⊢
    by_cases hk : k = name
    · subst hk
      rw [if_pos rfl, hf, Option.or_none] at ha
      rw [if_pos rfl, hg, Option.or_none]
      exact hlast a ha
    · rw [if_neg hk] at ha ⊢
      exact hrest k a ha

theorem isPartOf_field? {name : String} {x y : Option Json} :
    (object (field? name x)).IsPartOf (object (field? name y)) ↔
      ∀ a, x = some a → ∃ b, y = some b ∧ a.Agrees b := by
  have hnone : (object []).get? name = none := rfl
  have hempty : (object []).IsPartOf (object []) := fun _ _ h => by cases h
  simpa [hempty] using isPartOf_append (x := x) (y := y) hnone hnone

/-- A record in which nothing is set has no more to say than null. -/
theorem isPartOf_getD {α : Type} {enc : α → Json} {unset : α}
    (h : ∀ name, (enc unset).get? name = none) {v : Json} (x : Option α) :
    v.IsPartOf (enc (x.getD unset)) ↔ v.IsPartOf (ofOption (x.map enc)) := by
  cases x with
  | none =>
    have hnull : ∀ name, (enc unset).get? name = null.get? name := h
    simp only [IsPartOf, Option.getD_none, Option.map_none, ofOption, hnull]
  | some a => rfl

section Agrees
variable {α : Type}

/-- An encoding that tells values apart shows which of them are the same. -/
theorem agrees_iff_of_injective [BEq α] [LawfulBEq α] {enc : α → Json} (h : enc.Injective)
    (hfloat : ∀ a x, enc a ≠ float x) (a b : α) : (a == b) = true ↔ (enc a).Agrees (enc b) := by
  rw [beq_iff_eq]
  constructor
  · rintro rfl
    exact .same _
  · intro hab
    generalize ha : enc a = v at hab
    generalize hb : enc b = w at hab
    cases hab with
    | same => exact h (ha.trans hb.symm)
    | price => exact absurd ha (hfloat a _)

theorem agrees_text (s t : String) : (s == t) = true ↔ (text s).Agrees (text t) :=
  agrees_iff_of_injective (fun _ _ h => text.inj h) (fun _ _ => Json.noConfusion) s t

theorem agrees_bool (a b : Bool) : (a == b) = true ↔ (bool a).Agrees (bool b) :=
  agrees_iff_of_injective (fun _ _ h => bool.inj h) (fun _ _ => Json.noConfusion) a b

theorem agrees_uint32 (m n : UInt32) :
    (m == n) = true ↔ (ofNat m.toNat).Agrees (ofNat n.toNat) := by
  have hinj : Function.Injective fun k : UInt32 => ofNat k.toNat := fun j k h =>
    UInt32.toNat_inj.1 (Int.ofNat.inj (integer.inj h))
  exact agrees_iff_of_injective hinj (fun _ _ => Json.noConfusion) m n

theorem agrees_price (x y : Double) : samePrice x y = true ↔ (float x).Agrees (float y) := by
  constructor
  · exact .price
  · intro h
    cases h with
    | same => exact samePrice_self x
    | price h => exact h

theorem meets_iff {same : α → α → Bool} {enc : α → Json}
    (h : ∀ a b, same a b = true ↔ (enc a).Agrees (enc b)) (x y : Option α) :
    meets same x y = true ↔ ∀ v, x.map enc = some v → ∃ w, y.map enc = some w ∧ v.Agrees w := by
  cases x <;> cases y <;> simp [meets, h]

end Agrees

end Json

/-! Comparing attribute by attribute is comparing what is written for them. -/

theorem AwsAttributes.isWithin_iff (a b : AwsAttributes) :
    a.isWithin b = true ↔ a.toJson.IsPartOf b.toJson := by
  simp (disch := simp only [get?_append_field?, get?_field?, String.reduceEq, reduceIte]) only
    [isWithin, toJson, Bool.and_eq_true, meets_iff agrees_text, meets_iff agrees_uint32,
      isPartOf_append, isPartOf_field?]

theorem AzureAttributes.isWithin_iff (a b : AzureAttributes) :
    a.isWithin b = true ↔ a.toJson.IsPartOf b.toJson := by
  simp (disch := simp only [get?_append_field?, get?_field?, String.reduceEq, reduceIte]) only
    [isWithin, toJson, Bool.and_eq_true, meets_iff agrees_text, meets_iff agrees_uint32,
      meets_iff agrees_price, isPartOf_append, isPartOf_field?]

theorem GcpAttributes.isWithin_iff (a b : GcpAttributes) :
    a.isWithin b = true ↔ a.toJson.IsPartOf b.toJson := by
  simp (disch := simp only [get?_append_field?, get?_field?, String.reduceEq, reduceIte]) only
    [isWithin, toJson, Bool.and_eq_true, meets_iff agrees_text, meets_iff agrees_bool,
      isPartOf_append, isPartOf_field?]

/-- What is written for the attributes of a cloud. -/
def CloudAttributes.toJson : CloudAttributes → Json
  | aws a => a.toJson
  | azure a => a.toJson
  | gcp a => a.toJson

namespace Cluster

/-- What is written for the attributes that are reported of the cloud of `c`; null if there are
none. -/
def Info.attributesLike (i : Info) : CloudAttributes → Json
  | .aws _ => .ofOption (i.aws.map AwsAttributes.toJson)
  | .azure _ => .ofOption (i.azure.map AzureAttributes.toJson)
  | .gcp _ => .ofOption (i.gcp.map GcpAttributes.toJson)

theorem Info.carries_iff (i : Info) (c : CloudAttributes) :
    i.carries c = true ↔ c.toJson.IsPartOf (i.attributesLike c) := by
  cases c with
  | aws a => exact (a.isWithin_iff _).trans (isPartOf_getD (fun _ => rfl) i.aws)
  | azure a => exact (a.isWithin_iff _).trans (isPartOf_getD (fun _ => rfl) i.azure)
  | gcp a => exact (a.isWithin_iff _).trans (isPartOf_getD (fun _ => rfl) i.gcp)

/-- A cluster is as the shape wants it. What the control plane fills in by itself has to fit only
where the shape says something. -/
structure Spec.Fits (s : Spec) (i : Info) : Prop where
  name : i.name = s.name
  sparkVersion : i.sparkVersion = s.sparkVersion
  nodeType : ∀ t, s.nodeType = some t → i.nodeType = some t
  driverNodeType : ∀ t, s.driverNodeType = some t → i.driverNodeType = some t
  sizing : i.sizing = s.sizing
  autotermination : i.autotermination = s.autotermination
  sparkConf : i.sparkConf = s.sparkConf
  sparkEnvVars : i.sparkEnvVars = s.sparkEnvVars
  customTags : i.customTags = s.customTags
  instancePool : i.instancePool = s.instancePool
  cloud : ∀ c, s.cloud = some c → c.toJson.IsPartOf (i.attributesLike c)

/-- Something that is wanted is reported, and nothing that is not wanted matters. -/
theorem unset_or_same {α : Type} [BEq α] [LawfulBEq α] (x y : Option α) :
    (x.isSome && x != y) = false ↔ ∀ a, x = some a → y = some a := by
  cases x with
  | none => simp
  | some a =>
    rw [Option.isSome_some, Bool.true_and, bne_eq_false_iff_eq]
    constructor
    · rintro rfl b hb
      exact hb
    · intro h
      exact (h a rfl).symm

theorem Spec.fits_iff (s : Spec) (i : Info) : s.Fits i ↔ ∀ f, s.differsAt i f = false := by
  have hcloud : s.differsAt i .cloud = false ↔
      ∀ c, s.cloud = some c → c.toJson.IsPartOf (i.attributesLike c) := by
    simp only [differsAt, Bool.not_eq_false', Option.all_eq_true, i.carries_iff]
  constructor
  · intro h f
    cases f with
    | nodeType => exact (unset_or_same _ _).2 h.nodeType
    | driverNodeType => exact (unset_or_same _ _).2 h.driverNodeType
    | cloud => exact hcloud.2 h.cloud
    | name => simp [differsAt, h.name]
    | sparkVersion => simp [differsAt, h.sparkVersion]
    | sizing => simp [differsAt, h.sizing]
    | autotermination => simp [differsAt, h.autotermination]
    | sparkConf => simp [differsAt, h.sparkConf]
    | sparkEnvVars => simp [differsAt, h.sparkEnvVars]
    | customTags => simp [differsAt, h.customTags]
    | instancePool => simp [differsAt, h.instancePool]
  · intro h
    have hsame {α : Type} [BEq α] [LawfulBEq α] {a b : α} (hab : (a != b) = false) : b = a :=
      (by simpa using hab : a = b).symm
    exact {
      name := hsame (h .name)
      sparkVersion := hsame (h .sparkVersion)
      nodeType := (unset_or_same _ _).1 (h .nodeType)
      driverNodeType := (unset_or_same _ _).1 (h .driverNodeType)
      sizing := hsame (h .sizing)
      autotermination := hsame (h .autotermination)
      sparkConf := hsame (h .sparkConf)
      sparkEnvVars := hsame (h .sparkEnvVars)
      customTags := hsame (h .customTags)
      instancePool := hsame (h .instancePool)
      cloud := hcloud.1 (h .cloud) }

/-- After one edit nothing differs, and where nothing differs there is nothing to edit: the cluster
has all that the shape says. -/
theorem Spec.shapeDiff_exact (s : Spec) (i : Info) :
    s.shapeDiff (SimulatedCluster.reshape i s) = [] ∧ (s.shapeDiff i = [] ↔ s.Fits i) := by
  refine ⟨s.shapeDiff_reshape i, ?_⟩
  have hall (f : ShapeField) : f ∈ ShapeField.all := by cases f <;> decide
  rw [s.fits_iff, shapeDiff, List.filter_eq_nil_iff]
  simp [hall]

end Cluster
end ClusterReconciliation
