import ClusterReconciliation.Http.Response
import ClusterReconciliation.Proofs.Messages
import ClusterReconciliation.Proofs.Transitions

/-! A control plane that says what it was told. The layout in which clusters are reported reads
every field of the one in which shapes are sent, and what is left out there means the same here. -/
namespace ClusterReconciliation
open Decimal Decoder Fields Json

namespace Fields
variable {α : Type} {fs : List (String × Json)} {name : String} {dec : Decoder α}

/-- A field that may be left out stands for the default then. -/
theorem defaulted_reads_getD {enc : α → Json} (henc : ∀ a, dec.Reads (enc a) a) {x : Option α}
    (hx : fs.lookup name = x.map enc) (b : α) :
    (defaulted name b dec).Reads fs (x.getD b) := by
  cases x with
  | none => exact field_reads (fun v hv => by simp [hx] at hv) fun _ => rfl
  | some a => exact defaulted_reads hx (henc a) b

theorem optional_reads_none (h : fs.lookup name = none) : (optional name dec).Reads fs none :=
  field_reads (fun v hv => by simp [h] at hv) fun _ => rfl

end Fields

theorem Phase.decoder_reads (p : Phase) : Phase.decoder.Reads (.text p.name) p := by
  intro o d hd
  rw [Phase.decoder, Decoder.map, hd.text_eq]
  exact congrArg Except.ok p.ofStatus_name

namespace Http

def phaseField (p : Phase) : String × Json := ("state", .text p.name)

/-- Fields that were sent, with the id and the phase of a cluster in place of any that there are. -/
def echo (id : String) (phase : Phase) (sent : List (String × Json)) : List (String × Json) :=
  idField id :: phaseField phase :: sent.filter fun f => f.1 != "cluster_id" && f.1 != "state"

end Http

namespace Cluster
open Http
variable (id : String) (phase : Phase) (s : Spec)

theorem Info.fields_reads_sent :
    Info.fields.Reads (idField id :: phaseField phase :: s.toFields)
      (SimulatedCluster.reshape { id := id, phase := phase } s) := by
  refine (((((((((((((((((((defaulted_reads ?_ (text_reads id) "").map Info.mk).seq
    (defaulted_reads ?_ (text_reads s.name) "")).seq
    (defaulted_reads ?_ (text_reads s.sparkVersion) "")).seq (optional_text ?_)).seq
    (optional_text ?_)).seq (defaulted_reads_getD uint32_reads ?_ 0)).seq
    (optional_reads AutoScale.decoder_reads (fun _ => Json.noConfusion) ?_)).seq
    (defaulted_reads ?_ (uint32_reads s.autotermination) 0)).seq
    (defaulted_dict ?_)).seq (defaulted_dict ?_)).seq (defaulted_dict ?_)).seq
    (optional_reads AwsAttributes.decoder_reads (fun _ => Json.noConfusion) ?_)).seq
    (optional_reads AzureAttributes.decoder_reads (fun _ => Json.noConfusion) ?_)).seq
    (optional_reads GcpAttributes.decoder_reads (fun _ => Json.noConfusion) ?_)).seq
    (optional_text ?_)).seq (defaulted_reads ?_ (Phase.decoder_reads phase) .unknown)).seq
    (defaulted_reads_getD text_reads (x := none) ?_ "")).seq
    (optional_reads_none ?_)).seq (optional_reads_none ?_)
  all_goals
    simp [idField, phaseField, Spec.toFields, Spec.toLayout, Layout.toFields, List.lookup_append,
      lookup_pair, lookup_field?]

/-- The names of an echo, in their order. -/
theorem Layout.nodup_echoed : ("cluster_id" :: "state" :: Layout.fields.names).Nodup := by decide

theorem Spec.names_toFields (s : Spec) {f : String × Json} (hf : f ∈ s.toFields) :
    f.1 ∈ Layout.fields.names := s.toLayout.names_toFields.subset (List.mem_map_of_mem hf)

/-- The fields of a shape have other names than those of the id and the phase. -/
theorem Spec.filter_toFields (s : Spec) :
    (s.toFields.filter fun f => f.1 != "cluster_id" && f.1 != "state") = s.toFields := by
  have hid : "cluster_id" ∉ Layout.fields.names := by decide
  have hstate : "state" ∉ Layout.fields.names := by decide
  refine List.filter_eq_self.2 fun f hf => ?_
  have hname := s.names_toFields hf
  have hne : f.1 ≠ "cluster_id" ∧ f.1 ≠ "state" :=
    ⟨fun h => hid (h ▸ hname), fun h => hstate (h ▸ hname)⟩
  simpa using hne

theorem Spec.nodup_echo (s : Spec) :
    ((idField id :: phaseField phase :: s.toFields).map (·.1)).Nodup :=
  ((s.toLayout.names_toFields.cons_cons _).cons_cons _).nodup Layout.nodup_echoed

/-- A report is read whatever the order of its fields. -/
theorem Info.decoder_reads_sent {fs : List (String × Json)}
    (h : fs.Perm (idField id :: phaseField phase :: s.toFields)) :
    Info.decoder.Reads (.object fs)
      (SimulatedCluster.reshape { id := id, phase := phase } s) := by
  have hn := (h.map (·.1)).nodup_iff.2 (s.nodup_echo id phase)
  have hlookup := fun name (_ : name ∈ Info.fields.names) => lookup_perm h hn name
  exact ((Info.fields_reads_sent id phase s).of_lookup hlookup).decoder hn

end Cluster

/-- The shape that a call sends. -/
def Call.shape? : Call → Option Cluster.Spec
  | createCluster s => some s
  | editCluster _ s => some s
  | _ => none

namespace Http

/-- Both calls that send a shape send its fields, and an edit an id besides, which an echo
replaces. -/
theorem echo_of_shape {c : Call} {s : Cluster.Spec} (hc : c.shape? = some s) :
    ∃ sent, (requestOf c).body = some (.object sent) ∧
      ∀ id phase, echo id phase sent = idField id :: phaseField phase :: s.toFields := by
  cases c with
  | createCluster spec =>
    obtain rfl := Option.some.inj hc
    exact ⟨_, rfl, fun id phase => by rw [echo, spec.filter_toFields]⟩
  | editCluster id' spec =>
    obtain rfl := Option.some.inj hc
    refine ⟨_, rfl, fun id phase => ?_⟩
    rw [echo, List.filter_cons_of_neg (by simp [idField]), spec.filter_toFields]
  | _ => cases hc

theorem not_isBlankText_write (style : Style) (fs : List (String × Json)) :
    Text.isBlankText (String.ofList (write style 0 (.object fs))) = false := by
  cases fs <;> simp [Text.isBlankText, write, Text.isBlank]

/-- A report with these fields is read as the cluster `i`, as data and from its text. -/
structure ReadAs (number : Numeral → Datum) (fs : List (String × Json)) (i : Cluster.Info) :
    Prop where
  data : ∀ o, Cluster.Info.decoder o (Json.object fs).toDatum = .ok i
  text : ∀ style ∈ [Style.compact, Style.indented],
    (readWith number (String.ofList (write style 0 (.object fs)))).decode Cluster.Info.decoder =
      .ok i

section Echo
variable {number : Numeral → Datum} {s : Cluster.Spec} {fs : List (String × Json)} {id : String}
  {phase : Phase} {i : Cluster.Info}

theorem carried_echo (h : Counts number)
    (hp : ∀ x, s.bidPrice? = some x → (float x).Carried number)
    (hfs : fs.Perm (idField id :: phaseField phase :: s.toFields)) :
    FieldsAll (Carried number) fs := by
  have hsent : FieldsAll (Carried number) (idField id :: phaseField phase :: s.toFields) := by
    simp [idField, phaseField, Cluster.Spec.carried_toFields h hp]
  exact fun f hf => hsent f (hfs.subset hf)

theorem readAs_of_carried (h : Counts number)
    (hp : ∀ x, s.bidPrice? = some x → (float x).Carried number)
    (hfs : fs.Perm (idField id :: phaseField phase :: s.toFields)) :
    ReadAs number fs (SimulatedCluster.reshape { id := id, phase := phase } s) := by
  have hdata (o : Origin) := Cluster.Info.decoder_reads_sent id phase s hfs o _ (shows_toDatum _)
  refine ⟨hdata, fun style hstyle => ?_⟩
  have hspaced : style.Spaced := by
    rcases List.mem_pair.1 hstyle with rfl | rfl
    · exact Style.compact_spaced
    · exact Style.indented_spaced
  rw [readWith_write hspaced (carried_object (carried_echo h hp hfs))]
  exact Reading.decode_eq_ok.2 ⟨hdata _, rfl⟩

/-- What the client makes of a report that it can read. -/
theorem interpret_of_readAs (h : ReadAs Numeral.datum fs i) {style : Style}
    (hstyle : style ∈ [Style.compact, Style.indented]) {status : UInt16}
    (hstatus : isSuccess status = true) :
    interpret (.getCluster id) ⟨status, String.ofList (write style 0 (.object fs))⟩ = .ok i := by
  rw [interpret, if_pos hstatus, readReply, not_isBlankText_write]
  exact congrArg (Except.mapError fun e => ClientError.parse e.message) (h.text style hstyle)

end Echo

/-- A control plane that says of a cluster what was sent for it, in whatever order, is understood:
the cluster has the id and the phase that are said, and nothing of its shape is left to edit. The
price that is bid must be finite, and for the program's own way with numbers one that its text
carries. -/
theorem echo_fits {c : Call} {s : Cluster.Spec} (hc : c.shape? = some s) (id : String)
    (phase : Phase) :
    ∃ sent i, (requestOf c).body = some (.object sent) ∧ i.id = id ∧ i.phase = phase ∧
      s.shapeDiff i = [] ∧ ∀ fs, fs.Perm (echo id phase sent) →
        ((∀ x, s.bidPrice? = some x → x.isFinite) → ReadAs Numeral.exact fs i) ∧
        ((∀ x, s.bidPrice? = some x → CarriedByText x) → ReadAs Numeral.datum fs i ∧
          ∀ style ∈ [Style.compact, Style.indented], ∀ status, isSuccess status = true →
            interpret (.getCluster id) ⟨status, String.ofList (write style 0 (.object fs))⟩ =
              .ok i) := by
  obtain ⟨sent, hbody, hecho⟩ := echo_of_shape hc
  refine ⟨sent, SimulatedCluster.reshape { id := id, phase := phase } s, hbody, rfl, rfl,
    s.shapeDiff_reshape _, fun fs hfs => ?_⟩
  rw [hecho] at hfs
  refine ⟨fun h => readAs_of_carried counts_exact (fun x hx => carried_exact (h x hx)) hfs,
    fun h => ?_⟩
  have hread := readAs_of_carried counts_datum (fun x hx => (h x hx).carried) hfs
  exact ⟨hread, fun style hstyle status hstatus => interpret_of_readAs hread hstyle hstatus⟩

/-- A cluster that is sized by a range, in an edit of another cluster than the one that is
reported. -/
theorem echo_fits_edited :
    let price : Double := .ofDecimal false 25 (-2)
    let spec : Cluster.Spec :=
      { name := "state", sparkVersion := "7.1", sizing := .autoscale ⟨1, 8⟩, autotermination := 0,
        customTags := .ofList [("cluster_id", "b")],
        cloud := some (.azure { spotBidMaxPrice := some price }) }
    let text := render (.object (echo "a" .running (idField "b" :: spec.toFields)))
    ∃ i, interpret (.getCluster "a") ⟨200, text⟩ = .ok i ∧ i.id = "a" ∧ i.phase = .running ∧
      spec.shapeDiff i = [] := by
  intro price spec text
  have hprice : CarriedByText price := ⟨by decide +kernel, by decide +kernel⟩
  obtain ⟨sent, i, hbody, hid, hphase, hdiff, hread⟩ :=
    echo_fits (c := .editCluster "b" spec) (s := spec) rfl "a" .running
  obtain rfl : idField "b" :: spec.toFields = sent := by simpa [requestOf, Request.send] using hbody
  have hcarried : ∀ x, spec.bidPrice? = some x → CarriedByText x := by
    intro x hx
    obtain rfl : price = x := Option.some.inj hx
    exact hprice
  obtain ⟨-, hinterpret⟩ := (hread _ (.refl _)).2 hcarried
  exact ⟨i, hinterpret .compact (by simp) 200 (by decide), hid, hphase, hdiff⟩

end Http
end ClusterReconciliation
