import ClusterReconciliation.Desired
import ClusterReconciliation.Proofs.Reading

/-! The encodings of shapes and libraries lose nothing: what is left out is what its absence stands
for, and the flat layout shows which way of sizing, which cloud and which kind of library was
meant. -/
namespace ClusterReconciliation
open Decoder Fields

namespace Json

theorem lookup_field? (name k : String) (v? : Option Json) :
    (field? name v?).lookup k = if k = name then v? else none := by
  cases v? with
  | none => simp [field?]
  | some v =>
    by_cases h : k = name
    · simp [field?, h]
    · simp [field?, Dict.lookup_cons_of_ne, h]

theorem lookup_pair (name k : String) (v : Json) (fs : List (String × Json)) :
    ((name, v) :: fs).lookup k = if k = name then some v else fs.lookup k := by
  by_cases h : k = name
  · simp [h]
  · simp [Dict.lookup_cons_of_ne, h]

theorem lookup_perm {fs gs : List (String × Json)} (h : fs.Perm gs)
    (hn : (fs.map (·.1)).Nodup) (name : String) : fs.lookup name = gs.lookup name := by
  induction h with
  | nil => rfl
  | cons f _ ih =>
    obtain ⟨k, v⟩ := f
    rw [List.map_cons, List.nodup_cons] at hn
    rw [lookup_pair, lookup_pair, ih hn.2]
  | swap f g l =>
    obtain ⟨k, v⟩ := f
    obtain ⟨k', v'⟩ := g
    have hne : k' ≠ k := by
      rintro rfl
      simp at hn
    by_cases hk : name = k
    · simp [lookup_pair, hk, hne.symm]
    · simp [lookup_pair, hk]
  | trans hfg _ ih ih' => rw [ih hn, ih' ((hfg.map _).nodup_iff.1 hn)]

/-- The values of all fields have a property. -/
def FieldsAll (p : Json → Prop) (fs : List (String × Json)) : Prop := ∀ f ∈ fs, p f.2

section FieldsAll
variable {p : Json → Prop} {fs gs : List (String × Json)} {name : String} {v : Json}

@[simp] theorem fieldsAll_nil : FieldsAll p [] := fun _ h => by cases h

@[simp] theorem fieldsAll_cons :
    FieldsAll p ((name, v) :: fs) ↔ p v ∧ FieldsAll p fs := List.forall_mem_cons

@[simp] theorem fieldsAll_append :
    FieldsAll p (fs ++ gs) ↔ FieldsAll p fs ∧ FieldsAll p gs := List.forall_mem_append

@[simp] theorem fieldsAll_map {α : Type} {enc : α → Json} {x : Option α}
    (h : ∀ a, x = some a → p (enc a)) : FieldsAll p (field? name (x.map enc)) := by
  cases x <;> simp [field?, h]

@[simp] theorem fieldsAll_ite {c : Prop} [Decidable c] (h : p v) :
    FieldsAll p (field? name (if c then none else some v)) := by
  split <;> simp [field?, h]

end FieldsAll

theorem names_field? (name : String) (v? : Option Json) :
    ((field? name v?).map (·.1)).Sublist [name] := by
  cases v? <;> simp [field?]

end Json

open Json

namespace Fields
variable {fs : List (String × Json)} {name : String}

theorem optional_text {x : Option String} (h : fs.lookup name = x.map .text) :
    (optional name .text).Reads fs x := optional_reads text_reads (fun _ => Json.noConfusion) h

theorem optional_uint32 {x : Option UInt32} (h : fs.lookup name = x.map (.ofNat ·.toNat)) :
    (optional name .uint32).Reads fs x :=
  optional_reads uint32_reads (fun _ => Json.noConfusion) h

theorem omissible_text {x : Option String} (h : fs.lookup name = x.map .text) :
    (omissible name .text).Reads fs x := omissible_reads text_reads (fun _ => Json.noConfusion) h

/-- A map is left out when it is empty. -/
theorem defaulted_dict {d : Dict String} (h : fs.lookup name = d.toJson?) :
    (defaulted name ∅ (.dictOf .text)).Reads fs d :=
  defaulted_reads_of_ite (c := d.isEmpty)
    (fun hd => Dict.ext (List.isEmpty_iff.1 hd)) h (dictOf_reads d)

end Fields

theorem AutoScale.decoder_reads (r : AutoScale) : AutoScale.decoder.Reads r.toJson r := by
  refine Reads.decoder ?_ (by simp)
  refine Reads.seq (Reads.map AutoScale.mk ?_) ?_
  · exact defaulted_reads (by simp) (uint32_reads r.minWorkers) 0
  · exact defaulted_reads (by simp [lookup_pair]) (uint32_reads r.maxWorkers) 0

namespace AwsAttributes

theorem decoder_reads (a : AwsAttributes) : decoder.Reads a.toJson a := by
  refine Reads.decoder ?_ ?_
  · refine ((((((((optional_text ?_).map AwsAttributes.mk).seq (optional_text ?_)).seq
      (optional_text ?_)).seq (optional_uint32 ?_)).seq (optional_uint32 ?_)).seq
      (optional_text ?_)).seq (optional_uint32 ?_)).seq (optional_uint32 ?_)
    all_goals simp [List.lookup_append, lookup_field?]
  · simp only [List.map_append]
    exact ((((((((names_field? _ _).append (names_field? _ _)).append (names_field? _ _)).append
      (names_field? _ _)).append (names_field? _ _)).append (names_field? _ _)).append
      (names_field? _ _)).append (names_field? _ _)).nodup (by decide)

end AwsAttributes

theorem AzureAttributes.decoder_reads (a : AzureAttributes) :
    AzureAttributes.decoder.Reads a.toJson a := by
  refine Reads.decoder ?_ ?_
  · refine (((optional_text ?_).map AzureAttributes.mk).seq (optional_uint32 ?_)).seq
      (optional_reads double_reads (fun _ => Json.noConfusion) ?_)
    all_goals simp [List.lookup_append, lookup_field?]
  · simp only [List.map_append]
    exact (((names_field? _ _).append (names_field? _ _)).append (names_field? _ _)).nodup
      (by decide)

theorem GcpAttributes.decoder_reads (a : GcpAttributes) :
    GcpAttributes.decoder.Reads a.toJson a := by
  refine Reads.decoder ?_ ?_
  · refine ((optional_reads bool_reads (fun _ => Json.noConfusion) ?_).map GcpAttributes.mk).seq
      (optional_text ?_)
    all_goals simp [List.lookup_append, lookup_field?]
  · simp only [List.map_append]
    exact ((names_field? _ _).append (names_field? _ _)).nodup (by decide)

namespace Cluster

theorem Layout.fields_reads (l : Layout) : Layout.fields.Reads l.toFields l := by
  refine (((((((((((((((defaulted_reads ?_ (text_reads l.name) "").map Layout.mk).seq
    (defaulted_reads ?_ (text_reads l.sparkVersion) "")).seq (optional_text ?_)).seq
    (optional_text ?_)).seq (optional_uint32 ?_)).seq
    (optional_reads AutoScale.decoder_reads (fun _ => Json.noConfusion) ?_)).seq
    (defaulted_reads ?_ (uint32_reads l.autotermination) _)).seq
    (defaulted_dict ?_)).seq (defaulted_dict ?_)).seq (defaulted_dict ?_)).seq
    (optional_reads AwsAttributes.decoder_reads (fun _ => Json.noConfusion) ?_)).seq
    (optional_reads AzureAttributes.decoder_reads (fun _ => Json.noConfusion) ?_)).seq
    (optional_reads GcpAttributes.decoder_reads (fun _ => Json.noConfusion) ?_)).seq
    (optional_text ?_))
  all_goals simp [toFields, List.lookup_append, lookup_pair, lookup_field?]

theorem Layout.names_toFields (l : Layout) :
    (l.toFields.map (·.1)).Sublist Layout.fields.names := by
  simp only [toFields, List.map_append]
  exact (((((((((((((List.Sublist.refl ["cluster_name", "spark_version"]).append
    (names_field? "node_type_id" _)).append (names_field? "driver_node_type_id" _)).append
    (names_field? "num_workers" _)).append (names_field? "autoscale" _)).append
    (List.Sublist.refl ["autotermination_minutes"])).append (names_field? "spark_conf" _)).append
    (names_field? "spark_env_vars" _)).append (names_field? "custom_tags" _)).append
    (names_field? "aws_attributes" _)).append (names_field? "azure_attributes" _)).append
    (names_field? "gcp_attributes" _)).append (names_field? "instance_pool_id" _))

theorem Layout.nodup_names : Layout.fields.names.Nodup := by decide

theorem Spec.readLayout_toLayout (s : Spec) : readLayout s.toLayout = .ok s := by
  rw [readLayout, ofLayout_toLayout]
  rfl

/-- A shape is read back from its own fields, whatever stands beside them. -/
theorem Spec.decoder_reads (s : Spec) {fs : List (String × Json)} (hn : (fs.map (·.1)).Nodup)
    (hl : ∀ name ∈ Layout.fields.names, fs.lookup name = s.toFields.lookup name) :
    Spec.decoder.Reads (.object fs) s :=
  ((s.toLayout.fields_reads.of_lookup hl).decoder hn).refine s.readLayout_toLayout

end Cluster

namespace Library

theorem package_reads (p : String × Option String) :
    package.decoder.Reads (jsonOfPackage p) p := by
  obtain ⟨name, repo⟩ := p
  refine Reads.decoder ?_ ?_
  · refine ((required_reads (v := .text name) ?_ (text_reads _)).map Prod.mk).seq (omissible_text ?_)
    all_goals simp [lookup_pair, lookup_field?]
  · simp only [List.map_append]
    exact ((List.Sublist.refl ["package"]).append (names_field? _ _)).nodup (by decide)

theorem mavenArtifact_reads (m : String × Option String × List String) :
    mavenArtifact.decoder.Reads (jsonOfMaven m) m := by
  obtain ⟨coordinates, repo, exclusions⟩ := m
  refine Reads.decoder ?_ ?_
  · refine (((required_reads (v := .text coordinates) ?_ (text_reads _)).map _).seq
      (omissible_text ?_)).seq (defaulted_reads_of_ite (c := exclusions.isEmpty)
        List.isEmpty_iff.1 ?_ (listOf_reads text_reads exclusions))
    all_goals simp [List.lookup_append, lookup_pair, lookup_field?, texts]
  · simp only [List.map_append]
    exact (((List.Sublist.refl ["coordinates"]).append (names_field? _ _)).append
      (names_field? _ _)).nodup (by decide)

theorem wireFields_reads (w : Wire) : wireFields.decoder.Reads w.toJson w := by
  refine Reads.decoder ?_ ?_
  · refine ((((((omissible_text ?_).map Wire.mk).seq (omissible_text ?_)).seq
      (omissible_text ?_)).seq (omissible_reads package_reads (fun _ => Json.noConfusion) ?_)).seq
      (omissible_reads mavenArtifact_reads (fun _ => Json.noConfusion) ?_)).seq
      (omissible_reads package_reads (fun _ => Json.noConfusion) ?_)
    all_goals simp [List.lookup_append, lookup_field?]
  · simp only [List.map_append]
    exact ((((((names_field? _ _).append (names_field? _ _)).append (names_field? _ _)).append
      (names_field? _ _)).append (names_field? _ _)).append (names_field? _ _)).nodup (by decide)

theorem decoder_reads (l : Library) : decoder.Reads l.toJson l :=
  (wireFields_reads l.toWire).refine (by rw [ofWire_toWire]; rfl)

theorem isTextual_toJson (l : Library) : l.toJson.isTextual = true := by
  cases l with
  | jar path => rfl
  | egg path => rfl
  | whl path => rfl
  | pypi package repo => cases repo <;> rfl
  | maven coordinates repo exclusions =>
    cases repo <;> cases exclusions <;>
      simp [toJson, toWire, Wire.toJson, jsonOfMaven, texts, field?, isTextual]
  | cran package repo => cases repo <;> rfl

end Library
end ClusterReconciliation
