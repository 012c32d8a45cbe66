import ClusterReconciliation.Display.Output
import ClusterReconciliation.Json.Parse
import ClusterReconciliation.Proofs.Echoes
import ClusterReconciliation.Proofs.Steadiness

/-! Reports in JSON. The text of what was observed has a value, and the cluster and the libraries that are
decoded from it are those that were observed. -/
namespace ClusterReconciliation
open Decimal Decoder Fields Json

theorem Decoder.int64_reads (t : Int64) : int64.Reads (.integer t.toInt) t := by
  intro o d h
  cases h
  have hlow := t.le_toInt
  have hhigh := t.toInt_lt
  rw [int64, if_pos ⟨by omega, by omega⟩, Int64.ofInt_toInt]

namespace Cluster

theorem Info.decoder_reads (i : Info) : Info.decoder.Reads i.toJson i := by
  refine Reads.decoder ?_ ?_
  · refine (((((((((((((((((((defaulted_reads ?_ (text_reads i.id) "").map Info.mk).seq
      (defaulted_reads ?_ (text_reads i.name) "")).seq
      (defaulted_reads ?_ (text_reads i.sparkVersion) "")).seq (optional_text ?_)).seq
      (optional_text ?_)).seq (defaulted_reads ?_ (uint32_reads i.workers) 0)).seq
      (optional_reads AutoScale.decoder_reads (fun _ => Json.noConfusion) ?_)).seq
      (defaulted_reads ?_ (uint32_reads i.autotermination) 0)).seq
      (defaulted_reads ?_ (dictOf_reads i.sparkConf) ∅)).seq
      (defaulted_reads ?_ (dictOf_reads i.sparkEnvVars) ∅)).seq
      (defaulted_reads ?_ (dictOf_reads i.customTags) ∅)).seq
      (optional_reads AwsAttributes.decoder_reads (fun _ => Json.noConfusion) ?_)).seq
      (optional_reads AzureAttributes.decoder_reads (fun _ => Json.noConfusion) ?_)).seq
      (optional_reads GcpAttributes.decoder_reads (fun _ => Json.noConfusion) ?_)).seq
      (optional_text ?_)).seq (defaulted_reads ?_ (Phase.decoder_reads i.phase) .unknown)).seq
      (defaulted_reads ?_ (text_reads i.message) "")).seq
      (optional_reads int64_reads (fun _ => Json.noConfusion) ?_)).seq
      (optional_reads int64_reads (fun _ => Json.noConfusion) ?_)
    all_goals simp [List.lookup_append, lookup_pair, lookup_field?]
  · simp only [List.map_append]
    exact ((((((((((((((List.Sublist.refl ["cluster_id", "cluster_name", "spark_version"]).append
      (names_field? _ _)).append (names_field? _ _)).append
      (List.Sublist.refl ["num_workers"])).append (names_field? _ _)).append
      (List.Sublist.refl ["autotermination_minutes", "spark_conf", "spark_env_vars",
        "custom_tags"])).append (names_field? _ _)).append (names_field? _ _)).append
      (names_field? _ _)).append (names_field? _ _)).append
      (List.Sublist.refl ["state", "state_message"])).append (names_field? _ _)).append
      (names_field? _ _))).nodup (by decide)

end Cluster

/-! ### The values of a report -/

section Values
variable {number : Numeral → Datum}

/-- A reader that takes times for what they are. -/
def Json.Times (number : Numeral → Datum) : Prop :=
  ∀ t : Int64, (integer t.toInt).Carried number

theorem Json.times_datum : Times Numeral.datum := fun t =>
  integerNumeral_datum (by have := t.le_toInt; omega) (by have := t.toInt_lt; omega)

theorem Json.times_exact : Times Numeral.exact := fun t => carried_integer_exact (times_datum t)

/-- The price that is bid for machines, as it is reported. -/
def Cluster.Info.bidPrice? (i : Info) : Option Double := i.azure.bind (·.spotBidMaxPrice)

theorem Cluster.Info.carried_toJson (h : Counts number) (ht : Times number) {i : Info}
    (hp : ∀ x, i.bidPrice? = some x → (float x).Carried number) : i.toJson.Carried number := by
  have hazure : FieldsAll (Carried number)
      (field? "azure_attributes" (i.azure.map AzureAttributes.toJson)) :=
    fieldsAll_map fun a ha => a.carried_toJson h fun x hx =>
      hp x (Option.bind_eq_some_iff.2 ⟨a, ha, hx⟩)
  refine carried_object ?_
  simp [h _, ht _, hazure, AutoScale.carried_toJson h, Dict.carried_toJson,
    AwsAttributes.carried_toJson h, GcpAttributes.carried_toJson]

theorem LibraryStatus.carried_toJson (s : LibraryStatus) : s.toJson.Carried number := by
  have hmessages : (texts s.messages).Carried number :=
    (carriedItems_iff number).2 fun v hv => by
      obtain ⟨t, -, rfl⟩ := List.mem_map.1 hv
      exact carried_text t
  exact carried_object (by simp [Library.carried_toJson, hmessages])

theorem LibraryStatus.carried_list (ss : List LibraryStatus) :
    (array (ss.map (·.toJson))).Carried number :=
  (carriedItems_iff number).2 fun v hv => by
    obtain ⟨s, -, rfl⟩ := List.mem_map.1 hv
    exact s.carried_toJson

end Values

/-! ### Statuses of libraries -/

namespace Fields
variable {α β : Type} {fs : List (String × Json)} {a : α} {o : Origin}

/-- What `f` builds out of the fields of an object is `a`, as they stand there. A scalar that only looks
like one of their values need not do. -/
structure Gives (f : Fields α) (o : Origin) (fs : List (String × Json)) (a : α) : Prop where
  checks : ∀ x ∈ f.fields, ∀ v, fs.lookup x.name = some v → x.check o v.toDatum = .ok ()
  builds : ∀ found, (∀ name ∈ f.names, found.lookup name = (fs.lookup name).map toDatum) →
    f.build ⟨o, false, found⟩ = .ok a

theorem Reads.gives {f : Fields α} (h : f.Reads fs a) : f.Gives o fs a where
  checks := fun x hx v hv => h.checks x hx v hv o _ v.shows_toDatum
  builds := fun found hf => h.builds o found fun name hname => by
    rw [hf name hname]
    cases fs.lookup name with
    | none => exact .none
    | some v => exact .some v.shows_toDatum

theorem Gives.map (f : α → β) {x : Fields α} (h : x.Gives o fs a) : (f <$> x).Gives o fs (f a) where
  checks := h.checks
  builds := fun found hf => Decoder.map_eq_ok.2 ⟨a, h.builds found hf, rfl⟩

theorem Gives.seq {f : Fields (α → β)} {g : α → β} {x : Fields α} (hf : f.Gives o fs g)
    (hx : x.Gives o fs a) : (f <*> x).Gives o fs (g a) where
  checks := fun y hy => (List.mem_append.1 hy).elim (hf.checks y) (hx.checks y)
  builds := fun found h => by
    have hnames : (f <*> x).names = f.names ++ x.names := List.map_append
    have hg := hf.builds found fun name hn => h name (by simp [hnames, hn])
    have ha := hx.builds found fun name hn => h name (by simp [hnames, hn])
    exact Decoder.bind_eq_ok.2 ⟨g, hg, Decoder.bind_eq_ok.2 ⟨a, ha, rfl⟩⟩

theorem required_gives {name : String} {dec : Decoder α} {v : Json} (hv : fs.lookup name = some v)
    (h : dec o v.toDatum = .ok a) : (required name dec).Gives o fs a where
  checks := fun x hx w hw => by
    obtain rfl := List.mem_singleton.1 hx
    obtain rfl : v = w := Option.some.inj (hv.symm.trans hw)
    exact Decoder.map_eq_ok.2 ⟨a, h, rfl⟩
  builds := fun found hf => by
    have hname := hf name (by simp [names, required, field])
    simp only [required, field, hname, hv, Option.map_some, h]

/-- The fields of an object are all asked for, and none stands twice. -/
theorem Gives.decoder {f : Fields α} (h : f.Gives o fs a) (hn : (fs.map (·.1)).Nodup) :
    f.decoder o (Json.object fs).toDatum = .ok a := by
  have htaken : Taken f.fields o fs := by
    refine ⟨hn.sublist (List.filter_sublist.map _), fun e he x hx => ?_⟩
    have hname : x.name = e.1 := by simpa using List.find?_some hx
    have hlookup : fs.lookup x.name = some e.2 := by
      rw [hname, Dict.lookup_of_mem hn (List.mem_filter.1 he).1]
    exact h.checks x (List.mem_of_find?_eq_some hx) e.2 hlookup
  have hcollect : collect f.fields o (fieldsToData fs) [] = .ok _ :=
    collect_eq_ok.2 ⟨rfl, fun _ _ => rfl, htaken⟩
  refine Decoder.bind_eq_ok.2 ⟨_, hcollect, h.builds _ fun name hname => ?_⟩
  rw [List.nil_append, htaken.lookup_eq hname, lookup_perm fs.reverse_perm.symm hn]

end Fields

theorem InstallStatus.decoder_name (s : InstallStatus) (o : Origin) :
    decoder o (Json.text s.name).toDatum = .ok s := congrArg Except.ok s.ofName_name

theorem LibraryStatus.decoder_toJson (s : LibraryStatus) (o : Origin) :
    decoder o s.toJson.toDatum = .ok s := by
  refine Gives.decoder ?_ ?_
  · refine (((required_gives ?_ (s.library.decoder_reads o _ (shows_toDatum _))).map
      LibraryStatus.mk).seq (required_gives ?_ (s.status.decoder_name o))).seq
      (Reads.gives (defaulted_reads_of_ite (c := s.messages.isEmpty) List.isEmpty_iff.1 ?_
        (listOf_reads text_reads s.messages))) |>.seq
      (Reads.gives (defaulted_reads ?_ (bool_reads s.forAllClusters) false))
    all_goals simp [List.lookup_append, lookup_pair, lookup_field?, texts]
  · simp only [List.map_append]
    exact ((List.Sublist.refl ["library", "status"]).append (names_field? _ _)).append
      (List.Sublist.refl ["is_library_for_all_clusters"]) |>.nodup (by decide)

/-! ### Texts that have a value -/

namespace Json

mutual
theorem ofDatum_toDatum : (v : Json) → ofDatum v.toDatum = some v
  | null => rfl
  | bool _ => rfl
  | integer _ => rfl
  | float _ => rfl
  | text _ => rfl
  | array items => by rw [toDatum, ofDatum, ofItems_itemsToData items]; rfl
  | object fields => by rw [toDatum, ofDatum, ofEntries_fieldsToData fields]; rfl

theorem ofItems_itemsToData : (l : List Json) → ofItems (itemsToData l) = some l
  | [] => rfl
  | v :: rest => by
    rw [itemsToData, ofItems, ofDatum_toDatum v, ofItems_itemsToData rest]
    rfl

theorem ofEntries_fieldsToData : (l : List (String × Json)) → ofEntries (fieldsToData l) = some l
  | [] => rfl
  | (k, v) :: rest => by
    rw [fieldsToData, ofEntries, ofDatum_toDatum v, ofEntries_fieldsToData rest]
    rfl
end

/-- The value of a text for a reader of numbers. The program's own reader is that of `parse`. -/
def parseWith (number : Numeral → Datum) (s : String) : Option Json :=
  let reading := readWith number s
  if reading.complete then ofDatum reading.datum else none

theorem parseWith_datum : parseWith Numeral.datum = parse := rfl

/-- A line feed behind a text does not belong to its value. -/
theorem parseWith_line {number : Numeral → Datum} {v : Json} (h : v.Carried number) :
    parseWith number (v.renderIndented ++ "\n") = some v := by
  have hread := readsBack Style.indented_spaced v h 0 ((write .indented 0 v).length + 2) ['\n']
    (Nat.le_add_right _ 2) (endsNumeral_cons (by decide) [])
  have htext : (v.renderIndented ++ "\n").toList = write .indented 0 v ++ ['\n'] := by
    simp [renderIndented]
  have hreading : readWith number (v.renderIndented ++ "\n") = ⟨.json, v.toDatum, true⟩ := by
    rw [readWith]
    simp only [htext, List.length_append, List.length_singleton, hread]
    rfl
  rw [parseWith, hreading]
  exact ofDatum_toDatum v

end Json

namespace LibraryStatus

theorem listOf_decoder_toJson (ss : List LibraryStatus) (o : Origin) :
    listOf decoder o (Json.array (ss.map (·.toJson))).toDatum = .ok ss := by
  have hitems : (itemsToData (ss.map (·.toJson))).mapM (decoder o) = .ok ss := by
    induction ss with
    | nil => rfl
    | cons s ss ih =>
      rw [List.map_cons, itemsToData, List.mapM_cons]
      exact bind_eq_ok.2 ⟨s, s.decoder_toJson o, bind_eq_ok.2 ⟨ss, ih, rfl⟩⟩
  exact hitems

end LibraryStatus

namespace Observed

/-- The text of the report has a value, and what was observed is decoded from the members of that value,
wherever their data are said to come from. -/
def Survives (parse : String → Option Json) (o : Observed) : Prop :=
  ∃ v cluster libraries, parse (o.render .json) = some v ∧
    v.get? "cluster" = some cluster ∧ v.get? "libraries" = some libraries ∧
    ∀ origin, Cluster.Info.decoder origin cluster.toDatum = .ok o.info ∧
      listOf LibraryStatus.decoder origin libraries.toDatum = .ok o.libraries

theorem survives_of_carried {number : Numeral → Datum} (h : Counts number) (ht : Times number)
    {o : Observed} (hp : ∀ x, o.info.bidPrice? = some x → (float x).Carried number) :
    o.Survives (parseWith number) := by
  have hinfo : o.info.toJson.Carried number := o.info.carried_toJson h ht hp
  have hlibraries : (array (o.libraries.map (·.toJson))).Carried number :=
    LibraryStatus.carried_list o.libraries
  have hreport : o.toJson.Carried number := carried_object (by simp [hinfo, hlibraries])
  refine ⟨_, _, _, parseWith_line (carried_canonical _ hreport), get?_canonical rfl,
    get?_canonical rfl, fun origin => ⟨?_, ?_⟩⟩
  · exact Steady.reads hinfo (o.info.decoder_reads origin _ (shows_toDatum _))
  · exact Steady.reads hlibraries (LibraryStatus.listOf_decoder_toJson o.libraries origin)

/-- A report that is rendered in JSON is read back as what was observed: a cluster of any phase, with its
libraries in their order and of any status. A price that is bid must be finite, and for the program's own
way with numbers one that its text carries. -/
theorem render_survives (o : Observed) :
    ((∀ x, o.info.bidPrice? = some x → x.isFinite) → o.Survives (parseWith Numeral.exact)) ∧
      ((∀ x, o.info.bidPrice? = some x → CarriedByText x) → o.Survives parse) :=
  ⟨fun h => survives_of_carried counts_exact times_exact fun x hx => carried_exact (h x hx),
    fun h => parseWith_datum ▸
      survives_of_carried counts_datum times_datum fun x hx => (h x hx).carried⟩

/-- A cluster of unknown phase with a price and a time before the epoch, and a library of unknown
status. -/
theorem render_survives_unknown :
    let price : Double := .ofDecimal false 25 (-2)
    let o : Observed :=
      ⟨{ id := "a", azure := some { spotBidMaxPrice := some price }, startTime := some (-1) },
        [⟨.maven "g:a:1" none ["g:b"], .unknown, ["state"], true⟩]⟩
    o.info.phase = .unknown ∧ o.Survives (parseWith Numeral.exact) ∧ o.Survives parse := by
  intro price o
  have hprice : ∀ x, o.info.bidPrice? = some x → CarriedByText x := by
    intro x hx
    obtain rfl : price = x := Option.some.inj hx
    exact ⟨by decide +kernel, by decide +kernel⟩
  exact ⟨rfl, (render_survives o).1 fun x hx => (hprice x hx).1, (render_survives o).2 hprice⟩

end Observed
end ClusterReconciliation
