import ClusterReconciliation.Library.Wire
import ClusterReconciliation.Proofs.Reading

/-! Unions that are written as optional fields of a record. A record is taken exactly if as many of the
fields are there as the union has parts, and then what was taken tells the record again. -/
namespace ClusterReconciliation

/-- A record that is judged once it is decoded is read if both go well. -/
theorem Decoder.refine_judged {α β : Type} {dec : Decoder α}
    {judge : α → Except ValidationError β} {o : Origin} {d : Datum} {b : β} :
    dec.refine (fun a => (judge a).mapError .invalid) o d = .ok b ↔
      ∃ a, dec o d = .ok a ∧ judge a = .ok b := by
  rw [refine, bind_eq_ok]
  refine exists_congr fun a => and_congr_right fun _ => ?_
  cases judge a <;> simp [Except.mapError]

namespace Cluster

/-- In how many ways a layout says how many machines there are. -/
def Layout.sizings (l : Layout) : ℕ := l.workers.isSome.toNat + l.autoscale.isSome.toNat

/-- Of how many clouds a layout has attributes. -/
def Layout.clouds (l : Layout) : ℕ :=
  l.aws.isSome.toNat + l.azure.isSome.toNat + l.gcp.isSome.toNat

/-- What a layout comes to: the shape that is laid out like it, or what is wrong with its unions. The
cloud is found at fault only where the sizing is not. -/
inductive Layout.Yields (l : Layout) : Except ValidationError Spec → Prop
  | shape {s : Spec} (h : s.toLayout = l) : l.Yields (.ok s)
  | unsized (h : l.sizings = 0) : l.Yields (.error .missingSizing)
  | sizedTwice (h : l.sizings = 2) : l.Yields (.error .conflictingSizing)
  | severalClouds (hs : l.sizings = 1) (h : 1 < l.clouds) :
    l.Yields (.error .conflictingCloudAttributes)

namespace Spec

theorem sizings_toLayout (s : Spec) : s.toLayout.sizings = 1 := by
  cases h : s.sizing <;> simp [toLayout, Layout.sizings, workers?, autoscale?, h]

theorem clouds_toLayout (s : Spec) : s.toLayout.clouds ≤ 1 := by
  rcases h : s.cloud with _ | (a | a | a) <;>
    simp [toLayout, Layout.clouds, aws?, azure?, gcp?, h]

end Spec

namespace Layout

theorem yields_ofLayout (l : Layout) : l.Yields (Spec.ofLayout l) := by
  obtain ⟨name, version, node, driver, workers, autoscale, minutes, conf, env, tags, aws, azure, gcp,
    pool⟩ := l
  rcases workers with _ | n <;> rcases autoscale with _ | r
  case none.none => exact .unsized rfl
  case some.some => exact .sizedTwice rfl
  all_goals
    rcases aws with _ | a <;> rcases azure with _ | b <;> rcases gcp with _ | c
    case none.none.none | some.none.none | none.some.none | none.none.some => exact .shape rfl
    all_goals exact .severalClouds rfl (by simp [clouds])

/-- No two outcomes are called for, since a shape is laid out with one sizing and no more than one
cloud. -/
theorem Yields.unique {l : Layout} {r r' : Except ValidationError Spec} (h : l.Yields r)
    (h' : l.Yields r') : r = r' := by
  have hshape {s : Spec} (hs : s.toLayout = l) : l.sizings = 1 ∧ l.clouds ≤ 1 :=
    hs ▸ ⟨s.sizings_toLayout, s.clouds_toLayout⟩
  cases h <;> cases h'
  case shape.shape s hs t ht =>
    rw [← s.ofLayout_toLayout, hs, ← ht, t.ofLayout_toLayout]
  all_goals grind

end Layout

theorem Spec.ofLayout_eq_iff (l : Layout) (r : Except ValidationError Spec) :
    ofLayout l = r ↔ l.Yields r :=
  ⟨fun h => h ▸ l.yields_ofLayout, fun h => l.yields_ofLayout.unique h⟩

theorem Spec.ofLayout_eq_ok {l : Layout} {s : Spec} : ofLayout l = .ok s ↔ s.toLayout = l := by
  rw [ofLayout_eq_iff]
  exact ⟨fun h => by cases h; assumption, .shape⟩

theorem Spec.exists_ofLayout (l : Layout) :
    (∃ s, ofLayout l = .ok s) ↔ l.sizings = 1 ∧ l.clouds ≤ 1 := by
  constructor
  · rintro ⟨s, hs⟩
    obtain rfl := ofLayout_eq_ok.1 hs
    exact ⟨s.sizings_toLayout, s.clouds_toLayout⟩
  · rintro ⟨hs, hc⟩
    have hl := l.yields_ofLayout
    generalize ofLayout l = r at hl
    cases hl with
    | @shape s _ => exact ⟨s, rfl⟩
    | unsized h => omega
    | sizedTwice h => omega
    | severalClouds _ h => omega

end Cluster

namespace Library

/-- Which kinds of library an object has a field for, as they are listed. -/
def Wire.kinds (w : Wire) : List String :=
  ([("jar", w.jar.isSome), ("egg", w.egg.isSome), ("whl", w.whl.isSome), ("pypi", w.pypi.isSome),
    ("maven", w.maven.isSome), ("cran", w.cran.isSome)].filter (·.2)).map (·.1)

/-- The field for the kind of the library holds it. -/
def Wire.Holds (w : Wire) : Library → Prop
  | .jar path => w.jar = some path
  | .egg path => w.egg = some path
  | .whl path => w.whl = some path
  | .pypi package repo => w.pypi = some (package, repo)
  | .maven coordinates repo exclusions => w.maven = some (coordinates, repo, exclusions)
  | .cran package repo => w.cran = some (package, repo)

/-- What an object comes to: the library that is written like it, or that it has no kind, or which
kinds it has. -/
inductive Wire.Yields (w : Wire) : Except ValidationError Library → Prop
  | library {l : Library} (h : l.toWire = w) : w.Yields (.ok l)
  | noKind (h : w.kinds = []) : w.Yields (.error (.invalidLibrary .noKind))
  | severalKinds (h : 1 < w.kinds.length) :
    w.Yields (.error (.invalidLibrary (.severalKinds w.kinds)))

namespace Wire

theorem kinds_eq (w : Wire) : w.kinds = w.libraries.map kind := by
  rcases w with ⟨_ | _, _ | _, _ | _, _ | _, _ | _, _ | _⟩ <;> rfl

theorem mem_libraries {w : Wire} {l : Library} : l ∈ w.libraries ↔ w.Holds l := by
  cases l <;> simp [libraries, Holds]

/-- Objects are the same if they hold the same libraries. -/
theorem eq_of_holds {v w : Wire} (h : ∀ l, v.Holds l ↔ w.Holds l) : v = w := by
  have hjar : v.jar = w.jar := Option.ext fun p => h (.jar p)
  have hegg : v.egg = w.egg := Option.ext fun p => h (.egg p)
  have hwhl : v.whl = w.whl := Option.ext fun p => h (.whl p)
  have hpypi : v.pypi = w.pypi := Option.ext fun p => h (.pypi p.1 p.2)
  have hmaven : v.maven = w.maven := Option.ext fun m => h (.maven m.1 m.2.1 m.2.2)
  have hcran : v.cran = w.cran := Option.ext fun p => h (.cran p.1 p.2)
  cases v
  cases w
  simp_all

theorem holds_toWire {l l' : Library} : l.toWire.Holds l' ↔ l' = l := by
  cases l <;> cases l' <;> simp [toWire, Holds, eq_comm]

theorem toWire_of_libraries {w : Wire} {l : Library} (h : w.libraries = [l]) : l.toWire = w :=
  eq_of_holds fun l' => by rw [holds_toWire, ← mem_libraries, h, List.mem_singleton]

theorem kinds_toWire (l : Library) : l.toWire.kinds = [l.kind] := by cases l <;> rfl

theorem yields_ofWire (w : Wire) : w.Yields (ofWire w) := by
  rw [ofWire]
  match h : w.libraries with
  | [] => exact .noKind (by rw [kinds_eq, h, List.map_nil])
  | [l] => exact .library (toWire_of_libraries h)
  | l :: l' :: ls =>
    have hkinds : w.kinds = (l :: l' :: ls).map kind := by rw [kinds_eq, h]
    simp only [← hkinds]
    exact .severalKinds (by simp [hkinds])

/-- No two outcomes are called for, since a library is written with the one kind that it has. -/
theorem Yields.unique {w : Wire} {r r' : Except ValidationError Library} (h : w.Yields r)
    (h' : w.Yields r') : r = r' := by
  have hlibrary {l : Library} (hl : l.toWire = w) : w.kinds.length = 1 :=
    hl ▸ congrArg List.length (kinds_toWire l)
  cases h <;> cases h'
  case library.library l hl m hm =>
    rw [← l.ofWire_toWire, hl, ← hm, m.ofWire_toWire]
  all_goals grind

end Wire

theorem ofWire_eq_iff (w : Wire) (r : Except ValidationError Library) :
    ofWire w = r ↔ w.Yields r :=
  ⟨fun h => h ▸ w.yields_ofWire, fun h => w.yields_ofWire.unique h⟩

theorem ofWire_eq_ok {w : Wire} {l : Library} : ofWire w = .ok l ↔ l.toWire = w := by
  rw [ofWire_eq_iff]
  exact ⟨fun h => by cases h; assumption, .library⟩

theorem exists_ofWire (w : Wire) : (∃ l, ofWire w = .ok l) ↔ w.kinds.length = 1 := by
  constructor
  · rintro ⟨l, hl⟩
    obtain rfl := ofWire_eq_ok.1 hl
    rw [Wire.kinds_toWire, List.length_singleton]
  · intro h
    have hw := w.yields_ofWire
    generalize ofWire w = r at hw
    cases hw with
    | @library l _ => exact ⟨l, rfl⟩
    | noKind h0 => simp [h0] at h
    | severalKinds h2 => omega

end Library

open Cluster Library

/-- Shapes and libraries are read exactly from records whose unions are in order, and are written as the
records that they are read from. Otherwise the fault is the first that there is, of the sizing before the
cloud, and a library of several kinds is refused with their names in the order in which they are
listed. -/
theorem unions_read_exactly :
    (∀ l : Layout, ((∃ s, Spec.ofLayout l = .ok s) ↔ l.sizings = 1 ∧ l.clouds ≤ 1) ∧
      ∀ r, Spec.ofLayout l = r ↔ l.Yields r) ∧
    (∀ w : Wire, ((∃ l, ofWire w = .ok l) ↔ w.kinds.length = 1) ∧
      (∀ r, ofWire w = r ↔ w.Yields r) ∧
      (1 < w.kinds.length → ∃ e, ofWire w = .error e ∧ e.message =
        "invalid library: exactly one library kind may be set, got " ++
          ", ".intercalate w.kinds)) ∧
    ∀ o d, (∀ s, Spec.decoder o d = .ok s ↔ Layout.fields.decoder o d = .ok s.toLayout) ∧
      ∀ l, Library.decoder o d = .ok l ↔ wireFields.decoder o d = .ok l.toWire := by
  refine ⟨fun l => ⟨Spec.exists_ofLayout l, Spec.ofLayout_eq_iff l⟩,
    fun w => ⟨exists_ofWire w, ofWire_eq_iff w, fun h => ?_⟩,
    fun o d => ⟨fun s => ?_, fun l => ?_⟩⟩
  · exact ⟨_, (ofWire_eq_iff w _).2 (.severalKinds h), rfl⟩
  · refine Decoder.refine_judged.trans ?_
    simp only [Spec.ofLayout_eq_ok, exists_eq_right']
  · refine Decoder.refine_judged.trans ?_
    simp only [ofWire_eq_ok, exists_eq_right']

end ClusterReconciliation
