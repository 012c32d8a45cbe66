import ClusterReconciliation.Manifest
import ClusterReconciliation.Proofs.Carried
import ClusterReconciliation.Proofs.Desires
import ClusterReconciliation.Yaml.Writer

/-! Manifests that were written are read back: nothing of a desired state is lost or confused with
anything else, and it is judged as before. -/
namespace ClusterReconciliation
open Decimal Json

/-- The data that a YAML text stands for, to the depth that a manifest may have. -/
def Yaml.data (text : String) : Except DecodeError Datum :=
  (read text).decode fun o d => d.hold (Desired.nesting o + 1)

namespace Desired
variable {d : Desired}

theorem carried_toJson (h : ∀ x, d.cluster.bidPrice? = some x → CarriedByText x) :
    d.toJson.Carried Numeral.datum := by
  have hcluster := Cluster.Spec.carried_toFields counts_datum fun x hx => (h x hx).carried
  exact carried_object (by simp [hcluster, carried_libraries])

theorem ofText_json (h : ∀ x, d.cluster.bidPrice? = some x → CarriedByText x) {style : Style}
    (hs : style.Spaced) : ofText (String.ofList (write style 0 d.toJson)) .json = .ok d := by
  rw [ofText, ManifestFormat.read, Json.read, readWith_write hs (carried_toJson h)]
  exact Reading.decode_eq_ok.2 ⟨decoder_toDatum .json d, rfl⟩

theorem ofText_yaml {text : String} (h : Yaml.data text = .ok d.toJson.toDatum) :
    ofText text .yaml = .ok d := by
  obtain ⟨hdata, hcomplete⟩ := Reading.decode_eq_ok.1 h
  exact Reading.decode_eq_ok.2 ⟨decoder_of_hold hdata, hcomplete⟩

/-- A manifest that can be read is refused for nothing but the fault of what it says. -/
theorem parse_of_ofText {text : String} {format : ManifestFormat} (h : ofText text format = .ok d) :
    parse text format = (d.validate.mapError .invalid).map fun _ => d := by
  rw [parse, h]
  change (do d.validate.mapError ManifestError.invalid; return d) = _
  cases d.validate <;> rfl

/-- A desired state that is written as a manifest is read back, and judged as it was. In JSON the
price that is bid must be one that its text carries, and a YAML text must stand for the data that were
written. -/
theorem parse_written (d : Desired) :
    ((∀ x, d.cluster.bidPrice? = some x → CarriedByText x) →
      ∀ text ∈ [render d.toJson, renderIndented d.toJson], ofText text .json = .ok d ∧
        parse text .json = (d.validate.mapError .invalid).map fun _ => d) ∧
    ∀ text, Yaml.data text = .ok d.toJson.toDatum → ofText text .yaml = .ok d ∧
      parse text .yaml = (d.validate.mapError .invalid).map fun _ => d := by
  refine ⟨fun h text ht => ?_, fun text h => ⟨ofText_yaml h, parse_of_ofText (ofText_yaml h)⟩⟩
  have hread : ofText text .json = .ok d := by
    rcases List.mem_pair.1 ht with rfl | rfl
    · exact ofText_json h Style.compact_spaced
    · exact ofText_json h Style.indented_spaced
  exact ⟨hread, parse_of_ofText hread⟩

/-- Texts that are empty or look like null, and counts of nought, are read back. -/
theorem parse_written_blank :
    let price : Double := .ofDecimal false 25 (-2)
    let cluster : Cluster.Spec :=
      { name := "null", sparkVersion := "", sizing := .fixed 0, autotermination := 0,
        cloud := some (.azure { spotBidMaxPrice := some price }) }
    let d : Desired := ⟨cluster, [.pypi "" (some "~")]⟩
    ofText (render d.toJson) .json = .ok d ∧ ofText (Yaml.render d.toJson) .yaml = .ok d := by
  intro price cluster d
  obtain ⟨hjson, hyaml⟩ := parse_written d
  have hprice : CarriedByText price := ⟨by decide +kernel, by decide +kernel⟩
  refine ⟨(hjson (fun x hx => ?_) _ (by simp)).1, (hyaml _ (by decide +kernel)).1⟩
  obtain rfl : price = x := Option.some.inj hx
  exact hprice

end Desired
end ClusterReconciliation
