import ClusterReconciliation.Proofs.Manifests
import ClusterReconciliation.Proofs.Overrides
import ClusterReconciliation.Proofs.Unions

/-! What a manifest must say to be fit to be sent. It is accepted if it does, and else only where a pool
that is blank is taken for a machine. -/
namespace ClusterReconciliation

namespace Cluster.Spec
variable {s : Spec}

/-- A node type or a pool is given, and it is not blank. -/
def HasMachine (s : Spec) : Prop := Filled s.nodeType ∨ Filled s.instancePool

/-- There is no node type, and a pool is given that is blank. -/
def HasBlankPool (s : Spec) : Prop :=
  ¬Filled s.nodeType ∧ ∃ pool, s.instancePool = some pool ∧ Text.trim pool = ""

theorem any_filled {v : Option String} : v.any (!Text.isBlankText ·) = true ↔ Filled v := by
  simp [Option.any_eq_true, Filled, ← Text.isBlankText_iff]

/-- Any pool will do for a machine, also one that is blank. -/
theorem namesMachine_iff : s.namesMachine = true ↔ s.HasMachine ∨ s.HasBlankPool := by
  rw [namesMachine, Bool.or_eq_true, any_filled, HasMachine, HasBlankPool]
  constructor
  · rintro (hnode | hpool)
    · exact .inl (.inl hnode)
    · obtain ⟨pool, hpool⟩ := Option.isSome_iff_exists.1 hpool
      by_cases hnode : Filled s.nodeType
      · exact .inl (.inl hnode)
      by_cases hblank : Text.trim pool = ""
      · exact .inr ⟨hnode, pool, hpool, hblank⟩
      · exact .inl (.inr ⟨pool, hpool, hblank⟩)
  · rintro ((hnode | ⟨pool, hpool, -⟩) | ⟨-, pool, hpool, -⟩)
    · exact .inl hnode
    · exact .inr (hpool ▸ rfl)
    · exact .inr (hpool ▸ rfl)

/-- The shape is as it has to be, apart from its machine. -/
structure Sound (s : Spec) : Prop where
  range : ∀ r, s.sizing = .autoscale r → r.minWorkers ≤ r.maxWorkers
  version : Text.trim s.sparkVersion ≠ ""
  minutes : s.autotermination = 0 ∨ 10 ≤ s.autotermination ∧ s.autotermination ≤ 10000
  clouds : s.toLayout.clouds ≤ 1

theorem faultBeyondSizing_eq_none :
    fault.faultBeyondSizing s = none ↔ Text.trim s.sparkVersion ≠ "" ∧ s.namesMachine = true ∧
      (s.autotermination = 0 ∨ 10 ≤ s.autotermination ∧ s.autotermination ≤ 10000) := by
  have hversion : Text.trim s.sparkVersion ≠ "" ↔ Text.isBlankText s.sparkVersion = false := by
    rw [ne_eq, ← Text.isBlankText_iff, Bool.not_eq_true]
  rw [hversion, fault.faultBeyondSizing, minAutotermination, maxAutotermination]
  split_ifs <;> grind

theorem fault_eq_none : s.fault = none ↔ s.Sound ∧ s.namesMachine = true := by
  have hrest (hrange : ∀ r, s.sizing = .autoscale r → r.minWorkers ≤ r.maxWorkers) :
      fault.faultBeyondSizing s = none ↔ s.Sound ∧ s.namesMachine = true := by
    rw [faultBeyondSizing_eq_none]
    constructor
    · rintro ⟨hversion, hmachine, hminutes⟩
      exact ⟨⟨hrange, hversion, hminutes, s.clouds_toLayout⟩, hmachine⟩
    · rintro ⟨h, hmachine⟩
      exact ⟨h.version, hmachine, h.minutes⟩
  rw [fault]
  cases hs : s.sizing with
  | fixed n => exact hrest (by simp [hs])
  | autoscale r =>
    by_cases hr : r.maxWorkers < r.minWorkers
    · simp only [hr, if_true, reduceCtorEq, false_iff]
      rintro ⟨h, -⟩
      exact UInt32.not_le.2 hr (h.range r hs)
    · simp only [hr, if_false]
      exact hrest fun r' hr' => by
        obtain rfl : r = r' := by simpa [hs] using hr'
        exact UInt32.not_lt.1 hr

theorem validate_eq_ok : s.validate = .ok () ↔ s.Sound ∧ (s.HasMachine ∨ s.HasBlankPool) := by
  rw [← namesMachine_iff, ← fault_eq_none, validate]
  cases s.fault <;> simp

end Cluster.Spec

namespace Desired
variable {d : Desired}

/-- The desired state is as it has to be, apart from the machine of the cluster. -/
structure Sound (d : Desired) : Prop where
  cluster : d.cluster.Sound
  libraries : ∀ l ∈ d.libraries, l.validate = .ok ()

/-- The desired state is fit to be sent. -/
structure Fit (d : Desired) : Prop extends d.Sound where
  machine : d.cluster.HasMachine

theorem validateEach_eq_ok (ls : List Library) :
    (do for l in ls do l.validate) = (.ok () : Except ValidationError Unit) ↔
      ∀ l ∈ ls, l.validate = .ok () := by
  induction ls with
  | nil => exact ⟨fun _ _ hl => absurd hl List.not_mem_nil, fun _ => rfl⟩
  | cons l ls ih =>
    rw [List.forIn_cons, List.forall_mem_cons, ← ih]
    cases l.validate <;> simp [bind, Except.bind, pure, Except.pure]

theorem validate_eq_ok :
    d.validate = .ok () ↔ d.Fit ∨ d.Sound ∧ d.cluster.HasBlankPool := by
  have hparts : d.validate = .ok () ↔
      d.cluster.validate = .ok () ∧ ∀ l ∈ d.libraries, l.validate = .ok () := by
    rw [← validateEach_eq_ok, validate]
    cases d.cluster.validate <;> simp [bind, Except.bind]
  rw [hparts, Cluster.Spec.validate_eq_ok]
  constructor
  · rintro ⟨⟨hcluster, hmachine | hpool⟩, hlibraries⟩
    · exact .inl ⟨⟨hcluster, hlibraries⟩, hmachine⟩
    · exact .inr ⟨⟨hcluster, hlibraries⟩, hpool⟩
  · rintro (h | ⟨h, hpool⟩)
    · exact ⟨⟨h.cluster, .inl h.machine⟩, h.libraries⟩
    · exact ⟨⟨h.cluster, .inr hpool⟩, h.libraries⟩

theorem parse_eq_ok {text : String} {format : ManifestFormat} :
    parse text format = .ok d ↔ ofText text format = .ok d ∧ d.validate = .ok () := by
  cases h : ofText text format with
  | error e => simp [parse, h, Except.mapError, bind, Except.bind]
  | ok d' =>
    have hparse : parse text format = .ok d ↔ d'.validate = .ok () ∧ d' = d := by
      rw [parse_of_ofText h]
      cases d'.validate <;> simp [Except.mapError, Except.map]
    rw [hparse, Except.ok.injEq]
    constructor
    · rintro ⟨hv, rfl⟩
      exact ⟨rfl, hv⟩
    · rintro ⟨rfl, hv⟩
      exact ⟨hv, rfl⟩

/-- A manifest is accepted as the desired state that it stands for, exactly if that is fit to be sent or
has nothing wrong with it but a blank pool in place of a machine. -/
theorem parse_fit_iff (text : String) (format : ManifestFormat) (d : Desired) :
    parse text format = .ok d ↔
      ofText text format = .ok d ∧ (d.Fit ∨ d.Sound ∧ d.cluster.HasBlankPool) := by
  rw [parse_eq_ok, validate_eq_ok]

/-- A desired state is accepted whose only machine is a pool with a blank name. -/
theorem parse_unfit :
    let text := "\x7b\"spark_version\": \"7.1\", \"num_workers\": 1, \"instance_pool_id\": \" \"\x7d"
    ∃ d, parse text .json = .ok d ∧ ¬d.Fit := by
  intro text
  let d : Desired := ⟨{ sparkVersion := "7.1", sizing := .fixed 1, instancePool := some " " }, []⟩
  have hparse : parse text .json = .ok d := by decide +kernel
  refine ⟨d, hparse, fun h => ?_⟩
  obtain ⟨node, hnode, -⟩ | ⟨pool, hpool, hfilled⟩ := h.machine
  · exact absurd hnode (by simp [d])
  · obtain rfl : " " = pool := Option.some.inj hpool
    exact hfilled (by decide)

end Desired
end ClusterReconciliation
