import ClusterReconciliation.Proofs.Encoding

/-! A desired state is read back from data that are held as its encoding: the shape and the libraries
are told apart again, each read in its own way. -/
namespace ClusterReconciliation

namespace Json

/-- Data of the value are held as they are, to any depth from `depth` on. -/
def HeldWithin (depth : Nat) (v : Json) : Prop :=
  ∀ n, depth ≤ n → v.toDatum.hold n = .ok v.toDatum

theorem HeldWithin.mono {m n : Nat} {v : Json} (h : v.HeldWithin m) (hmn : m ≤ n) :
    v.HeldWithin n := fun k hk => h k (hmn.trans hk)

@[simp] theorem heldWithin_text (depth : Nat) (s : String) : (text s).HeldWithin depth := fun _ _ => rfl

@[simp] theorem heldWithin_bool (depth : Nat) (b : Bool) : (bool b).HeldWithin depth := fun _ _ => rfl

@[simp] theorem heldWithin_ofNat (depth n : Nat) : (ofNat n).HeldWithin depth := fun _ _ => rfl

@[simp] theorem heldWithin_float (depth : Nat) (x : Decimal.Double) : (float x).HeldWithin depth :=
  fun _ _ => rfl

theorem holdItems_itemsToData {depth : Nat} {l : List Json}
    (h : ∀ v ∈ l, v.toDatum.hold depth = .ok v.toDatum) :
    Datum.holdItems depth (itemsToData l) = .ok (itemsToData l) := by
  induction l with
  | nil => rfl
  | cons v rest ih =>
    rw [itemsToData, Datum.holdItems, h v (by simp), ih fun w hw => h w (by simp [hw])]
    rfl

theorem holdEntries_fieldsToData {depth : Nat} {fs : List (String × Json)}
    (h : ∀ f ∈ fs, f.2.toDatum.hold depth = .ok f.2.toDatum) :
    Datum.holdEntries depth (fieldsToData fs) = .ok (fieldsToData fs) := by
  induction fs with
  | nil => rfl
  | cons f rest ih =>
    rw [fieldsToData, Datum.holdEntries, h f (by simp), ih fun g hg => h g (by simp [hg])]
    rfl

theorem heldWithin_array {depth : Nat} {l : List Json} (h : ∀ v ∈ l, v.HeldWithin depth) :
    (array l).HeldWithin (depth + 1) := by
  intro n hn
  obtain ⟨k, rfl⟩ := Nat.exists_eq_add_of_le' hn
  rw [← Nat.add_assoc, toDatum, Datum.hold,
    holdItems_itemsToData fun v hv => h v hv (k + depth) (by omega)]
  rfl

theorem heldWithin_object {depth : Nat} {fs : List (String × Json)}
    (h : FieldsAll (HeldWithin depth) fs) : (object fs).HeldWithin (depth + 1) := by
  intro n hn
  obtain ⟨k, rfl⟩ := Nat.exists_eq_add_of_le' hn
  rw [← Nat.add_assoc, toDatum, Datum.hold,
    holdEntries_fieldsToData fun f hf => h f hf (k + depth) (by omega)]
  rfl

end Json

open Json

@[simp] theorem AutoScale.heldWithin_toJson (r : AutoScale) : r.toJson.HeldWithin 1 :=
  heldWithin_object (by simp)

@[simp] theorem AwsAttributes.heldWithin_toJson (a : AwsAttributes) : a.toJson.HeldWithin 1 :=
  heldWithin_object (by simp)

@[simp] theorem AzureAttributes.heldWithin_toJson (a : AzureAttributes) : a.toJson.HeldWithin 1 :=
  heldWithin_object (by simp)

@[simp] theorem GcpAttributes.heldWithin_toJson (a : GcpAttributes) : a.toJson.HeldWithin 1 :=
  heldWithin_object (by simp)

@[simp] theorem Dict.heldWithin_toJson (d : Dict String) : d.toJson.HeldWithin 1 :=
  heldWithin_object fun f hf => by
    obtain ⟨e, -, rfl⟩ := List.mem_map.1 hf
    exact heldWithin_text 0 e.2

theorem Cluster.Layout.heldWithin_toFields (l : Layout) :
    FieldsAll (HeldWithin 1) l.toFields := by
  simp [toFields, Dict.toJson?]

namespace Library

@[simp] theorem heldWithin_jsonOfPackage (p : String × Option String) :
    (jsonOfPackage p).HeldWithin 1 := heldWithin_object (by simp)

@[simp] theorem heldWithin_jsonOfMaven (m : String × Option String × List String) :
    (jsonOfMaven m).HeldWithin 2 :=
  have hexclusions : (texts m.2.2).HeldWithin 1 := heldWithin_array (by simp)
  heldWithin_object (by simp [hexclusions])

theorem heldWithin_toJson (l : Library) : l.toJson.HeldWithin 3 :=
  heldWithin_object (by simp [fun p => (heldWithin_jsonOfPackage p).mono (by omega : 1 ≤ 2)])

end Library

namespace Datum

theorem hold_eq_table {d : Datum} {n : Nat} {es : List (Datum × Datum)}
    (h : d.hold (n + 1) = .ok (.table es)) : ∃ raw, d = .table raw ∧ holdEntries n raw = .ok es := by
  cases d with
  | table raw =>
    obtain ⟨m, held, hm, hraw, hx⟩ := hold_table h
    cases hm
    cases hx
    exact ⟨raw, rfl, hraw⟩
  | list ds =>
    obtain ⟨_, _, _, _, hx⟩ := hold_list h
    cases hx
  | scalar s =>
    rw [hold] at h
    simpa using Yaml.Scalar.held_cases h
  | _ => cases h

theorem holdEntries_eq_nil {n : Nat} {es : List (Datum × Datum)}
    (h : holdEntries n es = .ok []) : es = [] := by
  cases es with
  | nil => rfl
  | cons e rest =>
    obtain ⟨_, _, _, _, _, _, hx⟩ := holdEntries_cons h
    cases hx

theorem holdEntries_eq_cons {n : Nat} {es held : List (Datum × Datum)} {name : String}
    {v : Datum} (h : holdEntries n es = .ok ((.text name, v) :: held)) :
    ∃ k d rest, es = (k, d) :: rest ∧ k.Shows (.text name) ∧ d.hold n = .ok v ∧
      holdEntries n rest = .ok held := by
  cases es with
  | nil => cases h
  | cons e rest =>
    obtain ⟨k, d⟩ := e
    obtain ⟨key, x, tail, hk, hd, hr, hx⟩ := holdEntries_cons h
    cases hx
    exact ⟨k, d, rest, rfl, shows_of_hold k rfl hk, hd, hr⟩

end Datum

namespace Desired
open Datum

/-- Everything but the libraries is held for the cluster. -/
theorem collect_fields {o : Origin} {fs : List (String × Json)} (hfs : ∀ f ∈ fs, f.1 ≠ "libraries")
    {gs : List (Datum × Datum)} {es : List (Datum × Datum)}
    (h : holdEntries (nesting o) es = .ok (fieldsToData fs ++ gs)) (held : List (Datum × Datum))
    (libraries : Option (List Library)) :
    ∃ rest, holdEntries (nesting o) rest = .ok gs ∧
      collect o es held libraries = collect o rest (held ++ fieldsToData fs) libraries := by
  induction fs generalizing es held with
  | nil => exact ⟨es, h, by simp [fieldsToData]⟩
  | cons f fs ih =>
    obtain ⟨name, v⟩ := f
    obtain ⟨k, d, es, rfl, hk, hd, hes⟩ := holdEntries_eq_cons h
    obtain ⟨rest, hrest, hcollect⟩ :=
      ih (fun f hf => hfs f (by simp [hf])) hes (held ++ [(.text name, v.toDatum)])
    refine ⟨rest, hrest, ?_⟩
    rw [collect, hk.text_eq]
    simp only [bind, Except.bind, if_neg (hfs (name, v) (by simp)), hd]
    rw [hcollect, fieldsToData, List.append_assoc]
    rfl

theorem collect_libraries {o : Origin} {d : Datum} {ls : List Library}
    (hd : d.Shows (.array (ls.map Library.toJson))) {k : Datum} (hk : k.Shows (.text "libraries"))
    (held : List (Datum × Datum)) :
    collect o [(k, d)] held none = collect o [] held (some ls) := by
  conv_lhs => rw [collect, hk.text_eq]
  simp only [bind, Except.bind, if_true, Option.isSome_none, Bool.false_eq_true, if_false,
    Decoder.listOf_reads Library.decoder_reads ls o d hd]

theorem collect_held {o : Origin} (s : Cluster.Spec) (libraries : Option (List Library)) :
    collect o [] (fieldsToData s.toFields) libraries = .ok ⟨s, libraries.getD []⟩ := by
  have hlayout := s.toLayout.fields_reads.ofEntries
    (s.toLayout.names_toFields.nodup Cluster.Layout.nodup_names) .held
    (shows_fieldsToData s.toLayout.toFields)
  rw [collect]
  simp only [bind, Except.bind]
  rw [Cluster.Spec.toFields, hlayout]
  simp only [s.readLayout_toLayout]
  rfl

/-- A desired state is read from any data that are held as its encoding. -/
theorem decoder_of_hold {o : Origin} {d : Datum} {x : Desired}
    (h : d.hold (nesting o + 1) = .ok x.toJson.toDatum) : decoder o d = .ok x := by
  obtain ⟨es, rfl, hes⟩ := hold_eq_table h
  have hfs : ∀ f ∈ x.cluster.toFields, f.1 ≠ "libraries" := fun f hf he => by
    have hin := x.cluster.toLayout.names_toFields.subset (List.mem_map_of_mem hf)
    rw [he] at hin
    exact absurd hin (by decide)
  rw [Json.fieldsToData_eq, List.map_append, ← Json.fieldsToData_eq] at hes
  obtain ⟨rest, hrest, hcollect⟩ := collect_fields hfs hes [] none
  rw [decoder]
  simp only [untagged]
  rw [hcollect, List.nil_append]
  obtain ⟨cluster, libraries⟩ := x
  cases libraries with
  | nil =>
    -- An empty list of libraries is not written.
    obtain rfl := holdEntries_eq_nil hrest
    exact collect_held cluster none
  | cons l ls =>
    obtain ⟨k, value, rest, rfl, hk, hvalue, hnil⟩ := holdEntries_eq_cons hrest
    obtain rfl := holdEntries_eq_nil hnil
    have htextual : (Json.array ((l :: ls).map Library.toJson)).isTextual = true := by
      simp [Json.isTextual, Library.isTextual_toJson]
    rw [collect_libraries (shows_of_hold value htextual hvalue) hk]
    exact collect_held cluster (some (l :: ls))

theorem heldWithin_toJson (x : Desired) : x.toJson.HeldWithin 5 := by
  have hcluster : FieldsAll (HeldWithin 4) x.cluster.toFields := fun f hf =>
    (x.cluster.toLayout.heldWithin_toFields f hf).mono (by omega)
  have hlibraries : (Json.array (x.libraries.map Library.toJson)).HeldWithin 4 :=
    heldWithin_array fun v hv => by
      obtain ⟨l, -, rfl⟩ := List.mem_map.1 hv
      exact l.heldWithin_toJson
  exact heldWithin_object (by simp [hcluster, hlibraries])

theorem decoder_toDatum (o : Origin) (x : Desired) : decoder o x.toJson.toDatum = .ok x :=
  decoder_of_hold (x.heldWithin_toJson _ (by cases o <;> simp [nesting]))

end Desired
end ClusterReconciliation
