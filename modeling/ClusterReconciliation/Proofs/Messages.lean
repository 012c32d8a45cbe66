import ClusterReconciliation.Http.Request
import ClusterReconciliation.Proofs.Carried
import ClusterReconciliation.Proofs.Doubles

/-! What is sent for a call tells which call it is. The call is read back from the method, the path, the
query and the text of the body, whose numbers are taken for the nearest ones that there are. -/
namespace ClusterReconciliation
open Decimal Decoder Fields Json

namespace Json

/-- An integer where one is kept, and otherwise the number nearest to what is spelt. -/
def Numeral.exact (n : Numeral) : Datum :=
  match n.datum with
  | .integer i => .integer i
  | _ => .float (Double.ofDecimal n.negative n.digits n.power)

theorem carried_integer_exact {i : Int} (h : (integer i).Carried Numeral.datum) :
    (integer i).Carried Numeral.exact := by
  change (integerNumeral i).datum = _ at h
  change (integerNumeral i).exact = _
  rw [Numeral.exact, h]

theorem counts_exact : Counts Numeral.exact := fun n => carried_integer_exact (counts_datum n)

/-- Every finite number is nearest to its own text. -/
theorem carried_exact {x : Double} (h : x.isFinite) : (float x).Carried Numeral.exact := by
  obtain ⟨n, hw, hnegative, hspell⟩ := writeFloat_spells h
  obtain ⟨k, hdigits, hpower⟩ := hw.value
  have hx : Double.ofDecimal n.negative n.digits n.power = x := by
    rw [hnegative]
    exact Double.ofDecimal_shortest h hdigits hpower
  refine ⟨n, hw.sound, hspell, ?_⟩
  -- A point or an exponent marks the numeral, so it is not taken for an integer.
  rcases datum_of_marked hw.marked with ⟨y, hy⟩ | hy <;> rw [Numeral.exact, hy, hx]

end Json

def Call.bidPrice? : Call → Option Double
  | createCluster spec => spec.bidPrice?
  | editCluster _ spec => spec.bidPrice?
  | _ => none

namespace Http

/-- A request as it goes out. The query stands for the fields that the address carries, and the body
is a text. -/
structure Message where
  method : Method
  path : String
  query : List (String × String)
  body : Option String

def Request.message (r : Request) : Message := ⟨r.method, r.path, r.query, r.body.map render⟩

/-- A body names its cluster as the reply to a creation names the new one. -/
def namedCluster : Decoder String := createdId

def namedLibraries : Decoder (List Library) :=
  (Fields.required "libraries" (.listOf Library.decoder)).decoder

@[simp] theorem Request.message_send_method (path : String) (fs : List (String × Json)) :
    (send path fs).message.method = .post := rfl

@[simp] theorem Request.message_send_path (path : String) (fs : List (String × Json)) :
    (send path fs).message.path = path := rfl

section Message
variable {α : Type} (number : Numeral → Datum)

def Message.decode (m : Message) (dec : Decoder α) : Option α := do
  ((readWith number (← m.body)).decode dec).toOption

def Message.asked (m : Message) : Option String := m.query.lookup "cluster_id"

/-- The call that a message asks for. -/
def Message.call? (m : Message) : Option Call :=
  match m.method, m.path with
  | .post, "clusters/create" => .createCluster <$> m.decode number Cluster.Spec.decoder
  | .get, "clusters/get" => .getCluster <$> m.asked
  | .post, "clusters/start" => .startCluster <$> m.decode number namedCluster
  | .post, "clusters/edit" =>
    .editCluster <$> m.decode number namedCluster <*> m.decode number Cluster.Spec.decoder
  | .post, "clusters/delete" => .deleteCluster <$> m.decode number namedCluster
  | .post, "clusters/permanent-delete" => .permanentDeleteCluster <$> m.decode number namedCluster
  | .get, "libraries/cluster-status" => .libraryStatuses <$> m.asked
  | .post, "libraries/install" =>
    .installLibraries <$> m.decode number namedCluster <*> m.decode number namedLibraries
  | .post, "libraries/uninstall" =>
    .uninstallLibraries <$> m.decode number namedCluster <*> m.decode number namedLibraries
  | _, _ => none

/-- The body of a request is decoded as `a`, both as data and from its text. -/
def Request.Tells (r : Request) (dec : Decoder α) (a : α) : Prop :=
  ∃ body, r.body = some body ∧ (∀ o, dec o body.toDatum = .ok a) ∧
    (readWith number (render body)).decode dec = .ok a

variable {number} {dec : Decoder α} {a : α}

theorem Request.Tells.decode_eq {r : Request} (h : r.Tells number dec a) :
    r.message.decode number dec = some a := by
  obtain ⟨body, hbody, -, htext⟩ := h
  rw [Message.decode, message, hbody]
  exact congrArg Except.toOption htext

theorem Request.send_tells {fs : List (String × Json)} (hc : FieldsAll (Carried number) fs)
    (h : dec.Reads (.object fs) a) (path : String) : (send path fs).Tells number dec a := by
  have hdata (o : Origin) : dec o (object fs).toDatum = .ok a := h o _ (shows_toDatum _)
  refine ⟨_, rfl, hdata, ?_⟩
  rw [render, readWith_write Style.compact_spaced (carried_object hc)]
  exact Reading.decode_eq_ok.2 ⟨hdata _, rfl⟩

end Message

section Bodies
variable (id : String) (spec : Cluster.Spec) (ls : List Library)

theorem namedCluster_reads {id : String} {fs : List (String × Json)}
    (hn : ((idField id :: fs).map (·.1)).Nodup) :
    namedCluster.Reads (.object (idField id :: fs)) id :=
  (required_reads (by simp [idField]) (text_reads id)).decoder hn

theorem namedLibraries_reads : namedLibraries.Reads (.object [idField id, librariesField ls]) ls :=
  (required_reads (by simp [idField, librariesField, lookup_pair])
    (listOf_reads Library.decoder_reads ls)).decoder (by simp [idField, librariesField])

theorem nodup_toFields : (spec.toFields.map (·.1)).Nodup :=
  spec.toLayout.names_toFields.nodup Cluster.Layout.nodup_names

/-- No field of a shape has the name of the field beside which they stand. -/
theorem idField_ne {name : String} (h : name ∈ Cluster.Layout.fields.names) :
    name ≠ (idField id).1 := by
  have hid : "cluster_id" ∉ Cluster.Layout.fields.names := by decide
  rintro rfl
  exact hid h

theorem nodup_edited : ((idField id :: spec.toFields).map (·.1)).Nodup :=
  List.nodup_cons.2
    ⟨fun h => idField_ne id (spec.toLayout.names_toFields.subset h) rfl, nodup_toFields spec⟩

theorem edited_reads : Cluster.Spec.decoder.Reads (.object (idField id :: spec.toFields)) spec :=
  spec.decoder_reads (nodup_edited id spec) fun _ h =>
    Dict.lookup_cons_of_ne (idField_ne id h) _

end Bodies

section Calls
variable (number : Numeral → Datum)

theorem tells_libraries (path id : String) (ls : List Library) :
    (Request.send path [idField id, librariesField ls]).Tells number namedCluster id ∧
      (Request.send path [idField id, librariesField ls]).Tells number namedLibraries ls := by
  have hc : FieldsAll (Carried number) [idField id, librariesField ls] := by
    simp [idField, librariesField, carried_libraries]
  exact ⟨Request.send_tells hc (namedCluster_reads (by simp [idField, librariesField])) path,
    Request.send_tells hc (namedLibraries_reads id ls) path⟩

theorem tells_cluster (path id : String) :
    (Request.send path [idField id]).Tells number namedCluster id :=
  Request.send_tells (by simp [idField]) (namedCluster_reads (by simp [idField])) path

variable {number}

theorem tells_create (h : Counts number) {spec : Cluster.Spec}
    (hp : ∀ x, spec.bidPrice? = some x → (float x).Carried number) :
    (Request.send "clusters/create" spec.toFields).Tells number Cluster.Spec.decoder spec :=
  Request.send_tells (Cluster.Spec.carried_toFields h hp)
    (spec.decoder_reads (nodup_toFields spec) fun _ _ => rfl) _

theorem tells_edit (h : Counts number) {spec : Cluster.Spec}
    (hp : ∀ x, spec.bidPrice? = some x → (float x).Carried number) (id : String) :
    (Request.send "clusters/edit" (idField id :: spec.toFields)).Tells number
      Cluster.Spec.decoder spec ∧
    (Request.send "clusters/edit" (idField id :: spec.toFields)).Tells number namedCluster id := by
  have hc : FieldsAll (Carried number) (idField id :: spec.toFields) := by
    simp [idField, Cluster.Spec.carried_toFields h hp]
  exact ⟨Request.send_tells hc (edited_reads id spec) _,
    Request.send_tells hc (namedCluster_reads (nodup_edited id spec)) _⟩

theorem call?_message (h : Counts number) {c : Call}
    (hp : ∀ x, c.bidPrice? = some x → (float x).Carried number) :
    (requestOf c).message.call? number = some c := by
  cases c with
  | createCluster spec =>
    simp [requestOf, Message.call?, (tells_create h hp).decode_eq]
  | getCluster id => rfl
  | startCluster id => simp [requestOf, Message.call?, (tells_cluster number _ id).decode_eq]
  | editCluster id spec =>
    obtain ⟨hspec, hid⟩ := tells_edit h hp id
    simp [requestOf, Message.call?, hid.decode_eq, hspec.decode_eq]
  | deleteCluster id => simp [requestOf, Message.call?, (tells_cluster number _ id).decode_eq]
  | permanentDeleteCluster id =>
    simp [requestOf, Message.call?, (tells_cluster number _ id).decode_eq]
  | libraryStatuses id => rfl
  | installLibraries id ls =>
    obtain ⟨hid, hls⟩ := tells_libraries number "libraries/install" id ls
    simp [requestOf, Message.call?, hid.decode_eq, hls.decode_eq]
  | uninstallLibraries id ls =>
    obtain ⟨hid, hls⟩ := tells_libraries number "libraries/uninstall" id ls
    simp [requestOf, Message.call?, hid.decode_eq, hls.decode_eq]

/-- What is sent for a call tells all of it: the call can be read back, the body of an edit is decoded
as the shape and names the cluster, and the body of an order of libraries is decoded as those
libraries. -/
structure Told (number : Numeral → Datum) (c : Call) : Prop where
  call : (requestOf c).message.call? number = some c
  edit : ∀ id spec, c = .editCluster id spec →
    (requestOf c).Tells number Cluster.Spec.decoder spec ∧
      (requestOf c).Tells number namedCluster id
  libraries : ∀ id ls, c = .installLibraries id ls ∨ c = .uninstallLibraries id ls →
    (requestOf c).Tells number namedCluster id ∧ (requestOf c).Tells number namedLibraries ls

theorem told_of_carried (h : Counts number) {c : Call}
    (hp : ∀ x, c.bidPrice? = some x → (float x).Carried number) : Told number c where
  call := call?_message h hp
  edit := by
    rintro id spec rfl
    exact tells_edit h hp id
  libraries := by
    rintro id ls (rfl | rfl)
    · exact tells_libraries number _ id ls
    · exact tells_libraries number _ id ls

end Calls

/-- Every call is told by what is sent for it, if the price that is bid is finite. The program's own
way with numbers will do for the prices that their texts carry. -/
theorem requestOf_told (c : Call) :
    ((∀ x, c.bidPrice? = some x → x.isFinite) → Told Numeral.exact c) ∧
      ((∀ x, c.bidPrice? = some x → CarriedByText x) → Told Numeral.datum c) :=
  ⟨fun h => told_of_carried counts_exact fun x hx => carried_exact (h x hx),
    fun h => told_of_carried counts_datum fun x hx => (h x hx).carried⟩

/-- Names and tags that look like the field of the id are not taken for it. -/
theorem requestOf_told_lookalike :
    let cluster : Cluster.Spec :=
      { name := "cluster_id", sparkVersion := "", sizing := .fixed 0, autotermination := 60,
        customTags := .ofList [("cluster_id", "b")],
        cloud := some (.azure { spotBidMaxPrice := some (.ofDecimal false 1 (-1)) }) }
    (requestOf (.editCluster "a" cluster)).message.call? Numeral.exact =
      some (.editCluster "a" cluster) := by
  intro cluster
  refine ((requestOf_told (.editCluster "a" cluster)).1 fun x hx => ?_).call
  obtain rfl : Double.ofDecimal false 1 (-1) = x := Option.some.inj hx
  decide +kernel

end Http
end ClusterReconciliation
