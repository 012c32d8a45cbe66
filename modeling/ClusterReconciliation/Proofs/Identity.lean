import ClusterReconciliation.Http.Response
import ClusterReconciliation.Proofs.Records

/-! The id by which the result of a run names its cluster: the one that the cluster was last seen with,
or that it was made with if it has not been seen. A run makes all its calls by the id that it was given
when it made its cluster, but its result loses that id to any report that does not bear it. -/
namespace ClusterReconciliation
open Run
variable {σ : Type}

/-- A cluster that was last seen was seen by one of the calls. -/
theorem exists_of_lastSighting {es : List (Event σ)} {info : Cluster.Info}
    (h : lastSighting es = some info) : ∃ e ∈ es, e.sighting = some info :=
  List.mem_filterMap.1 (List.mem_of_getLast? h)

namespace Reconciler
variable (r : Reconciler σ)

/-- A result names its cluster as it was last seen, or else as it was made, unless that is no name. -/
theorem carryOut_clusterId (task : Task) (world : σ) :
    (r.carryOut task world).clusterId =
      (((lastSighting (r.carryOut task world).session.calls).map (·.id)).or
        (created (r.carryOut task world).session.calls)).filter (!·.isEmpty) := by
  have hc := (r.carryOut_recorded task world).cluster
  rw [getLast?_notice (r.carryOut_creation task world)] at hc
  rw [Reconciliation.clusterId, hc, Option.map_or, Option.map_map]
  congr 2
  exact congrFun Option.map_id _

/-- The result of a run that has made a cluster names it by its id exactly if it was last seen with
that id, if it was seen. -/
theorem clusterId_eq_some_iff (task : Task) (world : σ) {id : String}
    (hc : created (r.carryOut task world).session.calls = some id) (hid : id ≠ "") :
    (r.carryOut task world).clusterId = some id ↔
      ∀ info, lastSighting (r.carryOut task world).session.calls = some info → info.id = id := by
  have hempty : id.isEmpty = false := by simpa using hid
  rw [carryOut_clusterId, hc]
  cases lastSighting (r.carryOut task world).session.calls with
  | none => simp [hempty]
  | some info =>
    constructor
    · rintro h i ⟨⟩
      simpa using (Option.filter_eq_some_iff.1 h).1
    · intro h
      simp [h info rfl, hempty]

/-- A run makes its cluster with its first call, and all that it asks for later is about it. -/
theorem create_calls_of_created {desired : Desired} {world : σ} {id : String}
    (h : created (exec (r.create desired) { world := world }).2.calls = some id) :
    ∃ e rest, (exec (r.create desired) { world := world }).2.calls = e :: rest ∧
      e.creation = some id ∧ ∀ f ∈ rest, .getCluster id = f.call ∨ f.call.OfLibraries id := by
  rcases r.create_calls desired world with hx | ⟨e, rest, hx, -, hrest⟩ <;> rw [hx] at h
  · cases h
  · have he : e.creation = some id := by
      rw [created_cons] at h
      cases hm : e.creation with
      | some i => rwa [hm] at h
      | none =>
        -- Only on a cluster that was made can any call follow.
        obtain rfl : rest = [] := List.eq_nil_iff_forall_not_mem.2 fun f hf => by
          obtain ⟨i, hi, -⟩ := hrest f hf
          rw [hm] at hi
          cases hi
        rw [hm] at h
        cases h
    refine ⟨e, rest, hx, he, fun f hf => ?_⟩
    obtain ⟨i, hi, hcall⟩ := hrest f hf
    rw [he] at hi
    cases hi
    exact hcall

/-- The result of a creation names the cluster by the id that it was made with exactly if the cluster
was last seen with that id, if it was seen. The run itself keeps to that id, and so does its result
where the cluster is always reported by the id that is asked for. -/
theorem create_named (desired : Desired) (world : σ) {id : String}
    (hc : created (r.reconcile desired none world).session.calls = some id) (hid : id ≠ "") :
    let x := r.reconcile desired none world
    (x.clusterId = some id ↔
      ∀ info, lastSighting x.session.calls = some info → info.id = id) ∧
      (∀ f ∈ x.session.calls.tail, f.call.id = id) ∧
      ((∀ e ∈ x.session.calls, ∀ info, e.sighting = some info → info.id = e.call.id) →
        x.clusterId = some id) := by
  intro x
  have hiff : x.clusterId = some id ↔
      ∀ info, lastSighting x.session.calls = some info → info.id = id :=
    r.clusterId_eq_some_iff (.reconcile desired none) world hc hid
  obtain ⟨e, rest, hx, he, hrest⟩ := r.create_calls_of_created hc
  have htail : ∀ f ∈ rest, f.call.id = id := by
    intro f hf
    rcases hrest f hf with h | h
    · rw [← h]
      rfl
    · exact h.id_eq
  have hcalls : x.session.calls = e :: rest := hx
  refine ⟨hiff, by rwa [hcalls], fun hbear => hiff.2 fun info hl => ?_⟩
  obtain ⟨f, hf, hsight⟩ := exists_of_lastSighting hl
  rw [hbear f hf info hsight]
  -- What was seen was not seen by the call that made the cluster.
  rw [hcalls] at hf
  rcases List.mem_cons.1 hf with rfl | hf
  · rcases f.sighting_or_creation with hn | hn
    · rw [hn] at hsight
      cases hsight
    · rw [hn] at he
      cases he
  · exact htail f hf

theorem create_named_failing :
    let world : Scene Simulation := { state := ({} : Simulation).failInstall (.jar "a.jar") 5 }
    let x := (simulated {} 9).reconcile sample none world
    let failed : List LibraryStatus :=
      [{ library := .jar "a.jar", status := .failed, messages := ["Library resolution failed"] }]
    x.outcome = .error (.failed ⟨.libraryInstall, .partialConvergence failed⟩) ∧
      created x.session.calls = some "cluster-1" ∧ x.clusterId = some "cluster-1" := by
  intro world x failed
  have hfailed : x.outcome = .error (.failed ⟨.libraryInstall, .partialConvergence failed⟩) := by
    decide +kernel
  have hc : created x.session.calls = some "cluster-1" := by decide +kernel
  have hbear : ∀ e ∈ x.session.calls, ∀ info, e.sighting = some info → info.id = e.call.id := by
    decide +kernel
  obtain ⟨-, -, hnamed⟩ := (simulated {} 9).create_named sample world hc (by decide)
  exact ⟨hfailed, hc, hnamed hbear⟩

end Reconciler

/-- A control plane that makes clusters and reports them by responses without a body. -/
def World.bodiless : World Unit where
  now _ := 0
  sleep _ w := w
  isCancelled _ := false
  answer
    | .createCluster _, w => (.ok "c", w)
    | .getCluster id, w => (Http.interpret (.getCluster id) ⟨200, ""⟩, w)
    | _, w => (.error (.notFound ""), w)

/-- A body that is left out is read as a cluster of no name, and the result has none from then on. -/
theorem create_unnamed :
    let x := (⟨.bodiless, {}, 5⟩ : Reconciler Unit).reconcile sample none ()
    created x.session.calls = some "c" ∧ lastSighting x.session.calls = some {} ∧
      x.clusterId = none := by decide +kernel

end ClusterReconciliation
