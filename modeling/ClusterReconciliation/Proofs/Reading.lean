import ClusterReconciliation.Cluster.Layout
import ClusterReconciliation.Proofs.Shown

/-! Reading back what was written. A record is read from a table that has a value for each of its
fields, or a default for an absent one, in whatever order the entries stand and whatever else is
there. -/
namespace ClusterReconciliation
open Decimal Datum
variable {α β : Type}

namespace Datum

mutual
theorem Shows.isBroken_eq : {d : Datum} → {v : Json} → d.Shows v → d.isBroken = false
  | _, _, .null => rfl
  | _, _, .bool _ => rfl
  | _, _, .integer _ => rfl
  | _, _, .float _ => rfl
  | _, _, .text _ => rfl
  | _, _, .scalar _ => rfl
  | _, _, .list h => h.anyBroken_eq
  | _, _, .table h => h.anyBrokenEntry_eq

theorem ShowsItems.anyBroken_eq :
    {ds : List Datum} → {vs : List Json} → ShowsItems ds vs → anyBroken ds = false
  | _, _, .nil => rfl
  | _, _, .cons hd h => by rw [anyBroken, hd.isBroken_eq, h.anyBroken_eq]; rfl

theorem ShowsFields.anyBrokenEntry_eq :
    {es : List (Datum × Datum)} → {fs : List (String × Json)} → ShowsFields es fs →
      anyBrokenEntry es = false
  | _, _, .nil => rfl
  | _, _, .cons hk hd h => by
    rw [anyBrokenEntry, hk.isBroken_eq, hd.isBroken_eq, h.anyBrokenEntry_eq]; rfl
end

theorem Shows.text_eq {d : Datum} {s : String} (h : d.Shows (.text s)) (o : Origin) :
    Decoder.text o d = .ok s := by
  cases h with
  | text => rfl
  | scalar h => exact congrArg Except.ok (Yaml.Scalar.of_held_text h).1

end Datum

theorem Reading.decode_eq_ok {r : Reading} {dec : Decoder α} {a : α} :
    r.decode dec = .ok a ↔ dec r.origin r.datum = .ok a ∧ r.complete = true := by
  rw [decode, Decoder.bind_eq_ok]
  cases r.complete <;> simp [pure, Except.pure]

/-- A decoder reads a value from all data that show it. -/
def Decoder.Reads (dec : Decoder α) (v : Json) (a : α) : Prop :=
  ∀ o d, d.Shows v → dec o d = .ok a

namespace Decoder

theorem text_reads (s : String) : text.Reads (.text s) s := fun o _ h => h.text_eq o

theorem bool_reads (b : Bool) : bool.Reads (.bool b) b := by
  intro o d h
  cases h
  rfl

theorem uint32_reads (n : UInt32) : uint32.Reads (.ofNat n.toNat) n := by
  intro o d h
  cases h
  have hn := n.toNat_lt
  simpa [uint32] using hn

theorem double_reads (x : Double) : double.Reads (.float x) x := by
  intro o d h
  cases h
  rfl

variable {dec : Decoder α} {v : Json} {a : α}

theorem Reads.orNull (h : dec.Reads v a) (hv : v ≠ .null) : dec.orNull.Reads v (some a) := by
  intro o d hd
  have ha := h o d hd
  cases hd with
  | null => exact absurd rfl hv
  | scalar hs =>
    rw [Decoder.orNull, (Yaml.Scalar.of_held_text hs).2, ha]
    rfl
  | _ => simp [Decoder.orNull, ha]

theorem Reads.refine (h : dec.Reads v a) {f : α → Except DecodeError β} {b : β} (hf : f a = .ok b) :
    (dec.refine f).Reads v b := by
  intro o d hd
  rw [Decoder.refine, h o d hd]
  exact hf

theorem mapM_reads {enc : α → Json} (h : ∀ a, dec.Reads (enc a) a) (o : Origin) (l : List α)
    {ds : List Datum} (hd : ShowsItems ds (l.map enc)) : ds.mapM (dec o) = .ok l := by
  induction l generalizing ds with
  | nil => cases hd; rfl
  | cons a rest ih =>
    cases hd with
    | cons ha hrest => rw [List.mapM_cons, h a o _ ha, ih hrest]; rfl

theorem listOf_reads {enc : α → Json} (h : ∀ a, dec.Reads (enc a) a) (l : List α) :
    (listOf dec).Reads (.array (l.map enc)) l := by
  intro o d hd
  cases hd with
  | list hds => exact mapM_reads h o l hds

theorem mapM_entries_reads (o : Origin) (l : List (String × String)) {es : List (Datum × Datum)}
    (h : ShowsFields es (l.map fun e => (e.1, .text e.2))) :
    (es.mapM fun e => do
      let k ← text o e.1
      return (k, ← text o e.2)) = .ok l := by
  induction l generalizing es with
  | nil => cases h; rfl
  | cons e rest ih =>
    cases h with
    | cons hk hv hrest =>
      rw [List.mapM_cons, ih hrest]
      simp only [hk.text_eq, hv.text_eq]
      rfl

theorem dictOf_reads (d : Dict String) : (dictOf text).Reads d.toJson d := by
  intro o _ hd
  cases hd with
  | table h =>
    rw [dictOf]
    simp only [untagged]
    rw [mapM_entries_reads o d.entries h]
    exact congrArg Except.ok d.ofList_entries

end Decoder

namespace Fields

/-- What `f` builds out of the fields of an object is `a`, and none of the fields that it asks for is
refused. -/
structure Reads (f : Fields α) (fs : List (String × Json)) (a : α) : Prop where
  checks : ∀ x ∈ f.fields, ∀ v, fs.lookup x.name = some v → ∀ o d, d.Shows v → x.check o d = .ok ()
  builds : ∀ o found, (∀ name ∈ f.names, Option.Rel Shows (found.lookup name) (fs.lookup name)) →
    f.build ⟨o, false, found⟩ = .ok a

section Combinators
variable {fs : List (String × Json)} {a : α}

/-- Only the fields that are asked for matter. -/
theorem Reads.of_lookup {f : Fields α} (h : f.Reads fs a) {gs : List (String × Json)}
    (hl : ∀ name ∈ f.names, gs.lookup name = fs.lookup name) : f.Reads gs a where
  checks := fun x hx v hv => h.checks x hx v (by rw [← hl _ (List.mem_map_of_mem hx), hv])
  builds := fun o found hf => h.builds o found fun name hn => hl name hn ▸ hf name hn

theorem Reads.map (f : α → β) {x : Fields α} (h : x.Reads fs a) : (f <$> x).Reads fs (f a) where
  checks := h.checks
  builds := fun o found hf => by
    have hx := h.builds o found hf
    change f <$> x.build _ = _
    rw [hx]
    rfl

theorem Reads.seq {f : Fields (α → β)} {g : α → β} {x : Fields α} (hf : f.Reads fs g)
    (hx : x.Reads fs a) : (f <*> x).Reads fs (g a) where
  checks := fun y hy => (List.mem_append.1 hy).elim (hf.checks y) (hx.checks y)
  builds := fun o found h => by
    have hnames : (f <*> x).names = f.names ++ x.names := List.map_append
    have hg := hf.builds o found fun name hn => h name (by simp [hnames, hn])
    have ha := hx.builds o found fun name hn => h name (by simp [hnames, hn])
    change (do let g ← f.build _; return g (← x.build _)) = _
    rw [hg, ha]
    rfl

variable {name : String} {dec : Decoder α}

/-- A field that is there is decoded, and an absent one is what its absence stands for. -/
theorem field_reads {absent : Bool → Except DecodeError α}
    (hpresent : ∀ v, fs.lookup name = some v → dec.Reads v a)
    (habsent : fs.lookup name = none → absent false = .ok a) :
    (field name dec absent).Reads fs a where
  checks := fun x hx v hv o d hd => by
    obtain rfl := List.mem_singleton.1 hx
    change (dec o d).map _ = _
    rw [hpresent v hv o d hd]
    rfl
  builds := fun o found h => by
    have hname := h name (by simp [names, field])
    simp only [field]
    cases hf : fs.lookup name with
    | none =>
      rw [hf] at hname
      cases hfound : found.lookup name with
      | none => exact habsent hf
      | some d => rw [hfound] at hname; cases hname
    | some v =>
      rw [hf] at hname
      cases hfound : found.lookup name with
      | none => rw [hfound] at hname; cases hname
      | some d =>
        rw [hfound] at hname
        cases hname with
        | some hd => exact hpresent v hf o d hd

theorem required_reads {v : Json} (hv : fs.lookup name = some v) (h : dec.Reads v a) :
    (required name dec).Reads fs a :=
  field_reads (fun _ hw => by rwa [← Option.some.inj (hv.symm.trans hw)])
    fun hw => by simp [hv] at hw

theorem defaulted_reads {v : Json} (hv : fs.lookup name = some v) (h : dec.Reads v a) (b : α) :
    (defaulted name b dec).Reads fs a :=
  field_reads (fun _ hw => by rwa [← Option.some.inj (hv.symm.trans hw)])
    fun hw => by simp [hv] at hw

/-- A value that is left out when it is the default is read back. -/
theorem defaulted_reads_of_ite {c : Prop} [Decidable c] {b : α} {v : Json} (hc : c → a = b)
    (hv : fs.lookup name = if c then none else some v) (h : dec.Reads v a) :
    (defaulted name b dec).Reads fs a := by
  by_cases hcase : c
  · rw [if_pos hcase] at hv
    exact field_reads (fun _ hw => by simp [hv] at hw) fun _ => by rw [hc hcase]
  · rw [if_neg hcase] at hv
    exact defaulted_reads hv h b

variable {enc : α → Json} (henc : ∀ a, dec.Reads (enc a) a) (hnull : ∀ a, enc a ≠ .null)
include henc hnull

theorem orNull_reads {absent : Bool → Except DecodeError (Option α)} {x : Option α}
    (hx : fs.lookup name = x.map enc) (habsent : absent false = .ok none) :
    (field name dec.orNull absent).Reads fs x := by
  refine field_reads (fun v hv => ?_) fun hv => ?_
  · rw [hx] at hv
    obtain ⟨a, rfl, rfl⟩ := Option.map_eq_some_iff.1 hv
    exact (henc a).orNull (hnull a)
  · rw [hx] at hv
    rw [habsent, Option.map_eq_none_iff.1 hv]

theorem optional_reads {x : Option α} (hx : fs.lookup name = x.map enc) :
    (optional name dec).Reads fs x := by
  rw [optional]
  exact orNull_reads henc hnull hx rfl

theorem omissible_reads {x : Option α} (hx : fs.lookup name = x.map enc) :
    (omissible name dec).Reads fs x := by
  rw [omissible, defaulted]
  exact orNull_reads henc hnull hx rfl

end Combinators

theorem keyName_shows {k : Datum} {name : String} (h : k.Shows (.text name)) (names : List String)
    (o : Origin) :
    keyName names o k = .ok (if names.contains name then some name else none) := by
  have htext := h.text_eq o
  cases h <;> simp [keyName, htext, bind, Except.bind, pure, Except.pure]

/-- The entries that are collected are those of the fields, whatever else there is. -/
theorem collect_shows {fields : List Field} {o : Origin} {fs : List (String × Json)}
    (hn : (fs.map (·.1)).Nodup)
    (hc : ∀ x ∈ fields, ∀ v, fs.lookup x.name = some v → ∀ d, d.Shows v → x.check o d = .ok ())
    {es : List (Datum × Datum)} (h : ShowsFields es fs) {found : List (String × Datum)}
    (hf : ∀ f ∈ fs, found.lookup f.1 = none) :
    ∃ more, collect fields o es found = .ok (found ++ more) ∧
      ∀ name ∈ fields.map (·.name), Option.Rel Shows (more.lookup name) (fs.lookup name) := by
  induction fs generalizing es found with
  | nil =>
    cases h
    exact ⟨[], by simp [collect], fun _ _ => .none⟩
  | cons f rest ih =>
    obtain ⟨name, v⟩ := f
    rw [List.map_cons, List.nodup_cons] at hn
    have hne : ∀ f ∈ rest, f.1 ≠ name := fun f hf he =>
      hn.1 (List.mem_map.2 ⟨f, hf, he⟩)
    have hrest : ∀ x ∈ fields, ∀ w, rest.lookup x.name = some w → ∀ d, d.Shows w →
        x.check o d = .ok () := fun x hx w hw =>
      hc x hx w (by rw [Dict.lookup_cons_of_ne (hne _ (Dict.mem_of_lookup hw)), hw])
    cases h with
    | @cons k d _ _ es _ hk hd hes =>
      rw [collect, keyName_shows hk]
      by_cases hin : (fields.map (·.name)).contains name = true
      · have hfresh : ∀ f ∈ rest, (found ++ [(name, d)]).lookup f.1 = none := fun f hr => by
          rw [List.lookup_append, hf f (by simp [hr]), Dict.lookup_cons_of_ne (hne f hr)]
          rfl
        obtain ⟨more, hmore, hlookup⟩ := ih hn.2 hrest hes hfresh
        refine ⟨(name, d) :: more, ?_, fun other ho => ?_⟩
        · have hnew : (found.lookup name).isSome = false := by simp [hf (name, v) (by simp)]
          simp only [hin, if_true, bind, Except.bind, hnew, Bool.false_eq_true, if_false]
          cases hx : fields.find? (·.name == name) with
          | none => simpa using hmore
          | some x =>
            obtain rfl : x.name = name := by simpa using List.find?_some hx
            simpa [hc x (List.mem_of_find?_eq_some hx) v (by simp) d hd] using hmore
        · by_cases he : other = name
          · subst he
            simpa using Option.Rel.some hd
          · rw [Dict.lookup_cons_of_ne he, Dict.lookup_cons_of_ne he]
            exact hlookup other ho
      · -- An entry of no field is passed over, since nothing in it is broken.
        obtain ⟨more, hmore, hlookup⟩ := ih hn.2 hrest hes fun f hr => hf f (by simp [hr])
        refine ⟨more, ?_, fun other ho => ?_⟩
        · simp only [hin, Bool.false_eq_true, if_false, bind, Except.bind, hd.isBroken_eq]
          exact hmore
        · have he : other ≠ name := fun he => hin (by simpa [he] using ho)
          rw [Dict.lookup_cons_of_ne he]
          exact hlookup other ho

theorem Reads.ofEntries {f : Fields α} {fs : List (String × Json)} {a : α} (h : f.Reads fs a)
    (hn : (fs.map (·.1)).Nodup) (o : Origin) {es : List (Datum × Datum)}
    (hes : ShowsFields es fs) : f.ofEntries o es = .ok a := by
  have hnone : ∀ f ∈ fs, ([] : List (String × Datum)).lookup f.1 = none := fun _ _ => rfl
  obtain ⟨found, hfound, hlookup⟩ := collect_shows hn
    (fun x hx v hv d hd => h.checks x hx v hv o d hd) hes hnone
  rw [Fields.ofEntries, hfound]
  exact h.builds o _ hlookup

theorem Reads.decoder {f : Fields α} {fs : List (String × Json)} {a : α} (h : f.Reads fs a)
    (hn : (fs.map (·.1)).Nodup) : f.decoder.Reads (.object fs) a := by
  intro o d hd
  cases hd with
  | table hes => exact h.ofEntries hn o hes

end Fields
end ClusterReconciliation
