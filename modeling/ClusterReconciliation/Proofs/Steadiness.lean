import ClusterReconciliation.Cluster.Info
import ClusterReconciliation.Library.Status
import ClusterReconciliation.Proofs.Arrangement

/-! What is decoded from a value is decoded from its canonical form as well: no decoder asks in what order
the fields of an object stand, and numbers without a value are not decoded. -/
namespace ClusterReconciliation
open Decimal Json

section Steady
variable {α β : Type}

/-- What the decoder reads from a value whose numbers are carried it reads from the canonical form of the
value. -/
class Decoder.Steady (number : Numeral → Datum) (dec : Decoder α) : Prop where
  reads : ∀ {o : Origin} {v : Json} {a : α}, v.Carried number → dec o v.toDatum = .ok a →
    dec o v.canonical.toDatum = .ok a

/-- The data of a value and those of its canonical form. -/
def Datum.Arranges (number : Numeral → Datum) (d d' : Datum) : Prop :=
  ∃ v : Json, v.Carried number ∧ d = v.toDatum ∧ d' = v.canonical.toDatum

/-- A value that the field does not refuse is not refused in its canonical form. -/
def Field.Steady (number : Numeral → Datum) (x : Field) : Prop :=
  ∀ {o : Origin} {d d' : Datum}, d.Arranges number d' → x.check o d = .ok () →
    x.check o d' = .ok ()

/-- What is built out of fields is built out of their canonical forms, whether they stand in an object or in
a list. -/
class Fields.Steady (number : Numeral → Datum) (f : Fields α) : Prop where
  checks : ∀ x ∈ f.fields, x.Steady number
  builds : ∀ {o : Origin} {positional : Bool} {found found' : List (String × Datum)} {a : α},
    (∀ name ∈ f.names, Option.Rel (Datum.Arranges number) (found.lookup name)
      (found'.lookup name)) →
    f.build ⟨o, positional, found⟩ = .ok a → f.build ⟨o, positional, found'⟩ = .ok a

variable {number : Numeral → Datum} {dec : Decoder α}

namespace Decoder

theorem Steady.of_arranges [h : dec.Steady number] {d d' : Datum} (hd : d.Arranges number d')
    {o : Origin} {a : α} (ha : dec o d = .ok a) : dec o d' = .ok a := by
  obtain ⟨v, hv, rfl, rfl⟩ := hd
  exact h.reads hv ha

/-- Only collections have more than one form. -/
theorem Steady.of_scalar (hlist : ∀ o items a, dec o (.list items) ≠ .ok a)
    (htable : ∀ o entries a, dec o (.table entries) ≠ .ok a) : dec.Steady number where
  reads := fun {o v a} hv h => by
    cases v with
    | array items => exact absurd h (hlist o _ a)
    | object fields => exact absurd h (htable o _ a)
    | float x => rwa [canonical_float hv]
    | null | bool | integer | text => exact h

instance : text.Steady number := .of_scalar (fun _ _ _ h => by cases h) fun _ _ _ h => by cases h
instance : bool.Steady number := .of_scalar (fun _ _ _ h => by cases h) fun _ _ _ h => by cases h
instance : uint32.Steady number := .of_scalar (fun _ _ _ h => by cases h) fun _ _ _ h => by cases h
instance : int64.Steady number := .of_scalar (fun _ _ _ h => by cases h) fun _ _ _ h => by cases h
instance : double.Steady number := .of_scalar (fun _ _ _ h => by cases h) fun _ _ _ h => by cases h

theorem orNull_toDatum {v : Json} (h : v ≠ .null) (o : Origin) :
    dec.orNull o v.toDatum = some <$> dec o v.toDatum := by
  cases v with
  | null => exact absurd rfl h
  | _ => rfl

theorem canonical_ne_null {v : Json} (hv : v.Carried number) (h : v ≠ .null) :
    v.canonical ≠ .null := by
  cases v with
  | null => exact absurd rfl h
  | float x => rw [canonical_float hv]; exact Json.noConfusion
  | _ => exact Json.noConfusion

instance [h : dec.Steady number] : dec.orNull.Steady number where
  reads := fun {o v x} hv hx => by
    by_cases hnull : v = .null
    · subst hnull
      exact hx
    · rw [orNull_toDatum hnull] at hx
      obtain ⟨a, ha, rfl⟩ := map_eq_ok.1 hx
      rw [orNull_toDatum (canonical_ne_null hv hnull), h.reads hv ha]
      rfl

instance [h : dec.Steady number] (f : α → Except DecodeError β) : (dec.refine f).Steady number where
  reads := fun {o v b} hv hb => by
    obtain ⟨a, ha, hf⟩ := bind_eq_ok.1 hb
    exact bind_eq_ok.2 ⟨a, h.reads hv ha, hf⟩

instance [h : dec.Steady number] (f : α → β) : (dec.map f).Steady number where
  reads := fun {o v b} hv hb => by
    obtain ⟨a, ha, hf⟩ := map_eq_ok.1 hb
    exact map_eq_ok.2 ⟨a, h.reads hv ha, hf⟩

theorem mapM_canonicalItems [h : dec.Steady number] {o : Origin} {vs : List Json}
    (hvs : CarriedItems number vs) {as : List α} (ha : (itemsToData vs).mapM (dec o) = .ok as) :
    (itemsToData (canonicalItems vs)).mapM (dec o) = .ok as := by
  induction vs generalizing as with
  | nil => exact ha
  | cons v vs ih =>
    rw [itemsToData, List.mapM_cons] at ha
    obtain ⟨a, hhead, ha⟩ := bind_eq_ok.1 ha
    obtain ⟨rest, hrest, ha⟩ := bind_eq_ok.1 ha
    rw [canonicalItems, itemsToData, List.mapM_cons]
    exact bind_eq_ok.2 ⟨a, h.reads hvs.1 hhead, bind_eq_ok.2 ⟨rest, ih hvs.2 hrest, ha⟩⟩

instance [h : dec.Steady number] : (listOf dec).Steady number where
  reads := fun {o v as} hv has => by
    cases v with
    | array items => exact mapM_canonicalItems hv has
    | _ => cases has

theorem text_eq_ok {o : Origin} {v : Json} {s : String} (h : text o v.toDatum = .ok s) :
    v = .text s := by
  cases v with
  | text t => exact congrArg Json.text (Except.ok.inj h)
  | _ => cases h

theorem eq_of_mapM_entries {o : Origin} {fs : List (String × Json)} {l : List (String × String)}
    (h : (fieldsToData fs).mapM (fun e => do
      let k ← text o e.1
      return (k, ← text o e.2)) = .ok l) : fs = l.map fun e => (e.1, .text e.2) := by
  induction fs generalizing l with
  | nil =>
    obtain rfl : [] = l := Except.ok.inj h
    rfl
  | cons f fs ih =>
    obtain ⟨k, v⟩ := f
    rw [fieldsToData, List.mapM_cons] at h
    obtain ⟨e, he, h⟩ := bind_eq_ok.1 h
    obtain ⟨rest, hrest, h⟩ := bind_eq_ok.1 h
    obtain ⟨_, hk, he⟩ := bind_eq_ok.1 he
    obtain ⟨s, hs, he⟩ := bind_eq_ok.1 he
    obtain rfl := Except.ok.inj hk
    obtain rfl := Except.ok.inj he
    obtain rfl := Except.ok.inj h
    rw [ih hrest, text_eq_ok hs, List.map_cons]

theorem arranged_texts (l : List (String × String)) :
    arranged (l.map fun e => (e.1, .text e.2)) =
      (Dict.ofList l).entries.map fun e => (e.1, .text e.2) := by
  rw [arranged, canonicalFields_eq, List.map_map, ← Dict.entries_ofList_map]
  rfl

instance : (dictOf text).Steady number where
  reads := fun {o v d} _ hd => by
    cases v with
    | object fs =>
      obtain ⟨l, hl, rfl⟩ := map_eq_ok.1 hd
      rw [canonical_object, eq_of_mapM_entries hl, arranged_texts]
      exact dictOf_reads (.ofList l) o _ (shows_toDatum _)
    | _ => cases hd

end Decoder

namespace Fields

instance [h : dec.Steady number] (name : String) (absent : Bool → Except DecodeError α) :
    (field name dec absent).Steady number where
  checks := fun x hx o d d' hd hok => by
    obtain rfl := List.mem_singleton.1 hx
    obtain ⟨a, ha, -⟩ := Decoder.map_eq_ok.1 hok
    exact Decoder.map_eq_ok.2 ⟨a, h.of_arranges hd ha, rfl⟩
  builds := fun {o positional found found' a} hfound ha => by
    have hname := hfound name (by simp [names, field])
    simp only [field] at ha ⊢
    generalize found.lookup name = d at hname ha
    generalize found'.lookup name = d' at hname
    cases hname with
    | some hd => exact h.of_arranges hd ha
    | none => exact ha

instance {x : Fields α} [h : x.Steady number] (f : α → β) : (f <$> x).Steady number where
  checks := h.checks
  builds := fun hfound hb => by
    obtain ⟨a, ha, rfl⟩ := Decoder.map_eq_ok.1 hb
    exact Decoder.map_eq_ok.2 ⟨a, h.builds hfound ha, rfl⟩

instance {f : Fields (α → β)} {x : Fields α} [hf : f.Steady number] [hx : x.Steady number] :
    (f <*> x).Steady number where
  checks := fun y hy {o d d'} hd hok => by
    rcases List.mem_append.1 hy with hy | hy
    · exact hf.checks y hy hd hok
    · exact hx.checks y hy hd hok
  builds := fun {o positional found found' b} hfound hb => by
    have hnames : (f <*> x).names = f.names ++ x.names := List.map_append
    obtain ⟨g, hg, hb⟩ := Decoder.bind_eq_ok.1 hb
    obtain ⟨a, ha, hb⟩ := Decoder.bind_eq_ok.1 hb
    have hg' := hf.builds (fun name hn => hfound name (by simp [hnames, hn])) hg
    have ha' := hx.builds (fun name hn => hfound name (by simp [hnames, hn])) ha
    exact Decoder.bind_eq_ok.2 ⟨g, hg', Decoder.bind_eq_ok.2 ⟨a, ha', hb⟩⟩

instance [dec.Steady number] (name : String) : (required name dec).Steady number :=
  inferInstanceAs ((field name dec _).Steady number)

instance [dec.Steady number] (name : String) (a : α) : (defaulted name a dec).Steady number :=
  inferInstanceAs ((field name dec _).Steady number)

instance [dec.Steady number] (name : String) : (optional name dec).Steady number :=
  inferInstanceAs ((field name dec.orNull _).Steady number)

instance [dec.Steady number] (name : String) : (omissible name dec).Steady number :=
  inferInstanceAs ((defaulted name none dec.orNull).Steady number)

section Collect
variable {fields : List Field} {o : Origin} {fs : List (String × Json)}

/-- Those of the fields of an object that are asked for. -/
def known (fields : List Field) (fs : List (String × Json)) : List (String × Json) :=
  fs.filter fun f => (fields.map (·.name)).contains f.1

/-- What is known of an object can be taken: no name stands twice, and no value is refused. -/
@[mk_iff]
structure Taken (fields : List Field) (o : Origin) (fs : List (String × Json)) : Prop where
  nodup : ((known fields fs).map (·.1)).Nodup
  checks : ∀ f ∈ known fields fs, ∀ x, fields.find? (·.name == f.1) = some x →
    x.check o f.2.toDatum = .ok ()

theorem known_cons_of_mem {k : String} (h : (fields.map (·.name)).contains k = true) (v : Json) :
    known fields ((k, v) :: fs) = (k, v) :: known fields fs := List.filter_cons_of_pos h

theorem known_cons_of_notMem {k : String} (h : ¬(fields.map (·.name)).contains k = true)
    (v : Json) : known fields ((k, v) :: fs) = known fields fs := List.filter_cons_of_neg h

theorem taken_cons_of_mem {k : String} (h : (fields.map (·.name)).contains k = true) {v : Json} :
    Taken fields o ((k, v) :: fs) ↔ (∀ f ∈ known fields fs, f.1 ≠ k) ∧
      (∀ x, fields.find? (·.name == k) = some x → x.check o v.toDatum = .ok ()) ∧
        Taken fields o fs := by
  constructor
  · rintro ⟨hn, hc⟩
    rw [known_cons_of_mem h] at hn hc
    rw [List.map_cons, List.nodup_cons] at hn
    exact ⟨fun f hf he => hn.1 (List.mem_map.2 ⟨f, hf, he⟩), hc (k, v) List.mem_cons_self,
      hn.2, fun f hf => hc f (List.mem_cons_of_mem _ hf)⟩
  · rintro ⟨hne, hv, hn, hc⟩
    constructor <;> rw [known_cons_of_mem h]
    · rw [List.map_cons, List.nodup_cons]
      exact ⟨fun hk => by obtain ⟨f, hf, he⟩ := List.mem_map.1 hk; exact hne f hf he, hn⟩
    · exact List.forall_mem_cons.2 ⟨hv, hc⟩

theorem collect_cons_of_mem {k : String} (h : (fields.map (·.name)).contains k = true) (d : Datum)
    (es : List (Datum × Datum)) {found out : List (String × Datum)} :
    collect fields o ((.text k, d) :: es) found = .ok out ↔ found.lookup k = none ∧
      (∀ x, fields.find? (·.name == k) = some x → x.check o d = .ok ()) ∧
        collect fields o es (found ++ [(k, d)]) = .ok out := by
  rw [collect, keyName_shows (.text k)]
  simp only [h, if_true, bind, Except.bind]
  cases hfound : found.lookup k with
  | some e => simp
  | none =>
    cases hx : fields.find? (·.name == k) with
    | none => simp
    | some x => cases hcheck : x.check o d <;> simp [hcheck]

theorem collect_cons_of_notMem {k : String} (h : ¬(fields.map (·.name)).contains k = true)
    (v : Json) (es : List (Datum × Datum)) (found : List (String × Datum)) :
    collect fields o ((.text k, v.toDatum) :: es) found = collect fields o es found := by
  rw [collect, keyName_shows (.text k)]
  simp only [h, if_false, bind, Except.bind, (shows_toDatum v).isBroken_eq, Bool.false_eq_true]

theorem collect_eq_ok {found out : List (String × Datum)} :
    collect fields o (fieldsToData fs) found = .ok out ↔
      out = found ++ (known fields fs).map (fun f => (f.1, f.2.toDatum)) ∧
        (∀ f ∈ known fields fs, found.lookup f.1 = none) ∧ Taken fields o fs := by
  -- What was found before a field stands decides whether its name is a second one.
  induction fs generalizing found with
  | nil =>
    have hnone : Taken fields o [] := ⟨List.nodup_nil, fun _ hf => by cases hf⟩
    rw [fieldsToData, collect, Except.ok.injEq]
    constructor
    · rintro rfl
      exact ⟨(List.append_nil _).symm, fun _ hf => (by cases hf), hnone⟩
    · rintro ⟨rfl, -⟩
      exact (List.append_nil _).symm
  | cons f fs ih =>
    obtain ⟨k, v⟩ := f
    rw [fieldsToData]
    by_cases hk : (fields.map (·.name)).contains k = true
    · have hfresh (name : String) : (found ++ [(k, v.toDatum)]).lookup name = none ↔
          found.lookup name = none ∧ name ≠ k := by
        rw [List.lookup_append, Option.or_eq_none_iff]
        by_cases he : name = k
        · simp [he]
        · rw [Dict.lookup_cons_of_ne he]
          simp [he]
      rw [collect_cons_of_mem hk, ih, taken_cons_of_mem hk, known_cons_of_mem hk]
      simp only [hfresh, forall_and, List.map_cons, List.forall_mem_cons, List.append_assoc,
        List.singleton_append]
      tauto
    · have htaken : Taken fields o ((k, v) :: fs) ↔ Taken fields o fs := by
        simp only [taken_iff, known_cons_of_notMem hk]
      rw [collect_cons_of_notMem hk, ih, known_cons_of_notMem hk, htaken]

/-- The value that is taken is the last there is, for there is no more than one. -/
theorem Taken.lookup_eq (h : Taken fields o fs) {name : String}
    (hname : name ∈ fields.map (·.name)) :
    ((known fields fs).map fun f => (f.1, f.2.toDatum)).lookup name =
      (fs.reverse.lookup name).map toDatum := by
  have hlast : (known fields fs).lookup name = fs.reverse.lookup name := by
    rw [lookup_perm (known fields fs).reverse_perm.symm h.nodup, known, ← List.filter_reverse,
      Dict.lookup_filter (List.contains_iff_mem.2 hname)]
  rw [Dict.lookup_map, hlast]

theorem exists_of_known_arranged {f : String × Json} (hf : f ∈ known fields (arranged fs)) :
    ∃ v, (f.1, v) ∈ known fields fs ∧ f.2 = v.canonical := by
  obtain ⟨hmem, hname⟩ := List.mem_filter.1 hf
  obtain ⟨v, hv, he⟩ := mem_arranged hmem
  exact ⟨v, List.mem_filter.2 ⟨hv, hname⟩, he⟩

variable (hfs : CarriedFields number fs) (hsteady : ∀ x ∈ fields, x.Steady number)
include hfs hsteady

theorem Taken.arranged (h : Taken fields o fs) : Taken fields o (arranged fs) where
  nodup := (Dict.nodup_keys _).sublist (List.filter_sublist.map _)
  checks := fun f hf x hx => by
    obtain ⟨v, hv, he⟩ := exists_of_known_arranged hf
    have hcarried := (carriedFields_iff number).1 hfs _ (List.mem_filter.1 hv).1
    exact hsteady x (List.mem_of_find?_eq_some hx) ⟨v, hcarried, rfl, he ▸ rfl⟩
      (h.checks _ hv x hx)

/-- Of an object in its canonical form the same values are taken, in their canonical forms. -/
theorem collect_arranged {found : List (String × Datum)}
    (h : collect fields o (fieldsToData fs) [] = .ok found) :
    ∃ found', collect fields o (fieldsToData (Json.arranged fs)) [] = .ok found' ∧
      ∀ name ∈ fields.map (·.name), Option.Rel (Datum.Arranges number) (found.lookup name)
        (found'.lookup name) := by
  obtain ⟨rfl, -, htaken⟩ := collect_eq_ok.1 h
  have htaken' := htaken.arranged hfs hsteady
  refine ⟨_, collect_eq_ok.2 ⟨rfl, fun _ _ => rfl, htaken'⟩, fun name hname => ?_⟩
  rw [List.nil_append, List.nil_append, htaken.lookup_eq hname, htaken'.lookup_eq hname,
    lookup_reverse_arranged]
  cases hv : fs.reverse.lookup name with
  | none => exact .none
  | some v =>
    have hmem := List.mem_reverse.1 (Dict.mem_of_lookup hv)
    exact .some ⟨v, (carriedFields_iff number).1 hfs _ hmem, rfl, rfl⟩

end Collect

/-- Values that stand in the order of the fields are canonical each on its own. -/
theorem lookup_zip_canonicalItems {vs : List Json} (hvs : CarriedItems number vs)
    (names : List String) (name : String) :
    Option.Rel (Datum.Arranges number) ((names.zip (itemsToData vs)).lookup name)
      ((names.zip (itemsToData (canonicalItems vs))).lookup name) := by
  induction names generalizing vs with
  | nil => exact .none
  | cons n names ih =>
    cases vs with
    | nil => exact .none
    | cons v vs =>
      simp only [itemsToData, canonicalItems, List.zip_cons_cons]
      by_cases hn : name = n
      · subst hn
        simpa using Option.Rel.some ⟨v, hvs.1, rfl, rfl⟩
      · rw [Dict.lookup_cons_of_ne hn, Dict.lookup_cons_of_ne hn]
        exact ih hvs.2

instance {f : Fields α} [h : f.Steady number] : f.decoder.Steady number where
  reads := fun {o v a} hv ha => by
    cases v with
    | object fs =>
      obtain ⟨found, hfound, ha⟩ := Decoder.bind_eq_ok.1 ha
      obtain ⟨found', hfound', hrel⟩ := collect_arranged hv h.checks hfound
      rw [canonical_object]
      exact Decoder.bind_eq_ok.2 ⟨found', hfound', h.builds hrel ha⟩
    | array vs =>
      by_cases ho : o = .yaml
      · simp [ho, decoder, toDatum, Datum.untagged] at ha
      have hitems (ds : List Datum) : f.decoder o (.list ds) = f.ofItems o ds := if_neg ho
      have hlength : (itemsToData (canonicalItems vs)).length = (itemsToData vs).length := by
        rw [length_itemsToData, length_itemsToData, canonicalItems_eq, List.length_map]
      rw [toDatum, hitems] at ha
      rw [canonical, toDatum, hitems]
      obtain ⟨b, hb, ha⟩ := Decoder.bind_eq_ok.1 ha
      have hrel := fun name (_ : name ∈ f.names) => lookup_zip_canonicalItems hv f.names name
      exact Decoder.bind_eq_ok.2 ⟨b, h.builds hrel hb, by rwa [hlength]⟩
    | _ => cases ha

end Fields
end Steady

/-! ### The decoders of reports -/

section Reports
variable {number : Numeral → Datum}

instance : AutoScale.decoder.Steady number := by
  unfold AutoScale.decoder
  infer_instance

instance : AwsAttributes.decoder.Steady number := by
  unfold AwsAttributes.decoder
  infer_instance

instance : AzureAttributes.decoder.Steady number := by
  unfold AzureAttributes.decoder
  infer_instance

instance : GcpAttributes.decoder.Steady number := by
  unfold GcpAttributes.decoder
  infer_instance

instance : Phase.decoder.Steady number := by
  unfold Phase.decoder
  infer_instance

instance : Cluster.Info.decoder.Steady number := by
  unfold Cluster.Info.decoder Cluster.Info.fields
  infer_instance

instance : Library.decoder.Steady number := by
  unfold Library.decoder Library.wireFields Library.package Library.mavenArtifact
  infer_instance

/-- The only object that is read as a status has one key, with a null. -/
theorem InstallStatus.eq_of_decoder {o : Origin} {fs : List (String × Json)} {s : InstallStatus}
    (h : decoder o (Json.object fs).toDatum = .ok s) : ∃ k, fs = [(k, .null)] := by
  cases fs with
  | nil => cases o <;> cases h
  | cons f more =>
    obtain ⟨k, v⟩ := f
    cases more with
    | nil =>
      cases v with
      | null => exact ⟨k, rfl⟩
      | _ => cases o <;> cases h
    | cons g more => cases v <;> cases o <;> cases h

instance : InstallStatus.decoder.Steady number where
  reads := fun {o v s} _ hs => by
    cases v with
    | text t => exact hs
    | object fs =>
      obtain ⟨k, rfl⟩ := InstallStatus.eq_of_decoder hs
      exact hs
    | _ => cases o <;> cases hs

instance : LibraryStatus.decoder.Steady number := by
  unfold LibraryStatus.decoder
  infer_instance

end Reports
end ClusterReconciliation
