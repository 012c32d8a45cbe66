import ClusterReconciliation.Proofs.Requests
import ClusterReconciliation.Proofs.Stages

/-! The order in which reconciliations change a cluster. An update starts a cluster before it edits
it, does both at most once, and decides on both by what it first saw of the settled cluster. The
libraries come last. A creation makes its cluster before anything else. -/
namespace ClusterReconciliation
open Run
open scoped Computability
variable {σ : Type}

namespace Call

/-- The call ends a cluster. -/
def isDeletion : Call → Bool
  | deleteCluster _ => true
  | permanentDeleteCluster _ => true
  | _ => false

theorem OfUpdate.addressed {c : Call} {id : String} {spec : Cluster.Spec} (h : c.OfUpdate id spec) :
    c.id = id ∧ c.isDeletion = false := by
  cases c <;> first | exact ⟨h, rfl⟩ | exact ⟨h.1, rfl⟩ | exact h.elim

end Call

/-- A start has succeeded, and the cluster was seen running later. -/
def Restarted (es : List (Event σ)) : Prop :=
  ∃ before e after, es = before ++ e :: after ∧ e.change = some .start ∧
    ∃ f ∈ after, ∃ info, f.sighting = some info ∧ info.phase = .running

/-- The rule for starts and edits, which goes by the cluster as it was first seen settled. It is
started only if it was terminated and anything differed, and edited only if its shape differed, and
not before it runs again. -/
def Prepared (desired : Desired) (budget : Nat) (before : List (Event σ)) : Call → Prop
  | .startCluster _ => ∃ info o, firstSettled before = some info ∧ info.phase = .terminated ∧
      lastReport before = some o ∧ (desired.cluster.shapeDiff info ≠ [] ∨
        (diffLibraries desired.libraries o (.ofBudget budget)).isEmpty = false)
  | .editCluster _ _ => ∃ info, firstSettled before = some info ∧
      desired.cluster.shapeDiff info ≠ [] ∧ (info.phase = .terminated → Restarted before)
  | _ => True

/-- What an update asks for, and when. -/
structure UpdateOrder (id : String) (desired : Desired) (budget : Nat) (x : Reconciliation σ) :
    Prop where
  order : requests x.session.calls ∈ Call.updateOrder id desired.cluster
  addressed : ∀ e ∈ x.session.calls, e.call.id = id ∧ e.call.isDeletion = false
  prepared : Obeys (Prepared desired budget) x.session.calls
  read : ∀ e, x.outcome = .error (.failed ⟨.read, e⟩) → requests x.session.calls = []

/-- What a creation asks for: its cluster, and then libraries on the cluster that was made. -/
structure CreationOrder (desired : Desired) (calls : List (Event σ)) : Prop where
  order : ∃ id, ∃ w ∈ (Call.libraryTurn id)∗,
    requests calls <+: .createCluster desired.cluster :: w
  addressed : ∀ e ∈ calls, e.call.isDeletion = false ∧
    (e.call = .createCluster desired.cluster ∨ created calls = some e.call.id)

theorem prepared_of_read {desired : Desired} {budget : Nat} (before : List (Event σ)) (c : Call)
    (h : c.isMutation = false) : Prepared desired budget before c := by
  cases c <;> first | exact trivial | cases h

namespace Reconciler
variable {r : Reconciler σ} {s t : Session σ} {id : String} {desired : Desired} {budget : Nat}

theorem exec_validate_of_error {e : ValidationError} (h : desired.validate = .error e)
    (s : Session σ) :
    exec (validate desired) s = (.error (.failed ⟨.validate, .validation e⟩), s) := by
  unfold validate
  rw [h]
  rfl

section Rules
variable {R : List (Event σ) → Call → Prop}

theorem changeAndWait_obeys {action : Action} (stage : Stage) {c : Call} (hc : R s.calls c)
    (hget : ∀ before, R before (.getCluster id)) (hs : Obeys R s.calls) :
    EndsIn (do
      r.mutate action stage c
      let _ ← r.waitRunning stage id) s (Obeys R ·.calls) := by
  refine (endsIn_mutate_obeys stage hc hs).bind fun _ t _ hobeys => ?_
  have hwait := (r.madeOf (K := (Call.getCluster id = ·))).waitRunning stage rfl
  have hlooks := endsIn_obeys hwait (fun before c h => h ▸ hget before) hobeys
  exact hlooks.bind fun _ _ _ hu => ensures_pure hu

end Rules

theorem restarted_of_start {u : Unit} (h : exec (do
      r.mutate .start .start (.startCluster id)
      let _ ← r.waitRunning .start id) s = (.ok u, t)) : Restarted t.calls := by
  obtain ⟨_, v, hm, hv⟩ := exec_bind_eq_ok.1 h
  obtain ⟨info, w, hw, hpure⟩ := exec_bind_eq_ok.1 hv
  obtain ⟨-, -, ⟨reply, ho⟩, rfl⟩ := r.mutate_eq_ok hm
  obtain rfl : w = t := congrArg Prod.snd hpure
  obtain ⟨x, hx, -, hi, hp, rfl⟩ := waitRunning_eq_ok
    (r.watchesCluster_steps (rfl : Call.getCluster id = _) _) .refl hw
  obtain ⟨es, hes, -⟩ := hx.grows
  have hstart : (r.perform (.startCluster id) s).2.calls =
      s.calls ++ [⟨s.world, .startCluster id, .ok reply⟩] := by
    rw [Session.calls_cons (r.perform_history _ s), ho]
  have hlooks : x.calls = (r.perform (.startCluster id) s).2.calls ++ es.reverse :=
    Session.calls_eq hes
  have hlast : (r.lookAtCluster id x).calls = x.calls ++ [⟨x.world, .getCluster id, .ok info⟩] := by
    rw [Session.calls_cons (r.lookAtCluster_history id x), hi]
  refine ⟨s.calls, ⟨s.world, .startCluster id, .ok reply⟩,
    es.reverse ++ [⟨x.world, .getCluster id, .ok info⟩], ?_, rfl,
    ⟨x.world, .getCluster id, .ok info⟩, by simp, info, rfl, hp⟩
  rw [hlast, hlooks, hstart]
  simp

/-- An inspection ends with the report that it goes by. -/
theorem inspect_lastReport {o : Observed} (h : exec (r.inspect id) s = (.ok o, t)) :
    lastReport t.calls = some o.libraries := by
  obtain ⟨info, u, -, k₁⟩ := exec_bind_eq_ok.1 h
  obtain ⟨_, v, -, k₂⟩ := exec_bind_eq_ok.1 k₁
  obtain ⟨libraries, w, hw, k₃⟩ := exec_bind_eq_ok.1 k₂
  obtain ⟨-, ho, rfl⟩ := r.fetchLibraries_eq_ok hw
  cases k₃
  rw [Session.calls_cons (r.lookAtLibraries_history id v), lastReport_concat, ho]
  rfl

section Update
variable {o : Observed}

/-- A terminated cluster that is needed is started, and runs again when the run goes on. -/
theorem startFor_prepared (needed : Bool) (hs : Obeys (Prepared desired budget) s.calls)
    (hf : firstSettled s.calls = some o.info) (hl : lastReport s.calls = some o.libraries)
    (hneed : needed = true → desired.cluster.shapeDiff o.info ≠ [] ∨
      (diffLibraries desired.libraries o.libraries (.ofBudget budget)).isEmpty = false) :
    Ensures (r.startFor id needed o.info.phase) s
      (fun _ t => Obeys (Prepared desired budget) t.calls ∧ firstSettled t.calls = some o.info ∧
        (needed = true → o.info.phase = .terminated → Restarted t.calls))
      fun _ t => Obeys (Prepared desired budget) t.calls := by
  have hm := (r.madeOf (K := fun _ => True)).startFor id needed o.info.phase trivial trivial
  have hobeys : EndsIn (r.startFor id needed o.info.phase) s
      (Obeys (Prepared desired budget) ·.calls) := by
    unfold startFor
    split_ifs with hn
    · rw [Bool.and_eq_true, beq_iff_eq] at hn
      have hmay : Prepared desired budget s.calls (.startCluster id) :=
        ⟨o.info, o.libraries, hf, hn.2, hl, hneed hn.1⟩
      exact changeAndWait_obeys .start hmay (fun _ => trivial) hs
    · exact ensures_pure hs
  refine ⟨fun u t hx => ⟨hobeys.ok u t hx, ?_, fun hn hp => ?_⟩, hobeys.halted⟩
  · exact ((hm.endsIn s).ok u t hx).grows.firstSettled_eq hf
  · rw [startFor, hn, hp] at hx
    exact restarted_of_start hx

theorem editTo_prepared (needed : Bool) (hs : Obeys (Prepared desired budget) s.calls)
    (hf : firstSettled s.calls = some o.info)
    (hneed : needed = true → desired.cluster.shapeDiff o.info ≠ [])
    (hrun : needed = true → o.info.phase = .terminated → Restarted s.calls) :
    EndsIn (r.editTo id desired.cluster needed) s (Obeys (Prepared desired budget) ·.calls) := by
  unfold editTo
  split_ifs with hn
  · have hmay : Prepared desired budget s.calls (.editCluster id desired.cluster) :=
      ⟨o.info, hf, hneed hn, hrun hn⟩
    exact changeAndWait_obeys .edit hmay (fun _ => trivial) hs
  · exact ensures_pure hs

theorem adjust_prepared (hs : Obeys (Prepared desired r.options.attemptBudget) s.calls)
    (hf : firstSettled s.calls = some o.info) (hl : lastReport s.calls = some o.libraries) :
    EndsIn (r.adjust id desired o) s
      (Obeys (Prepared desired r.options.attemptBudget) ·.calls) := by
  refine (startFor_prepared _ hs hf hl (by simp)).bind fun _ t _ ht => ?_
  obtain ⟨ht, hft, hrun⟩ := ht
  have hedited : !(desired.cluster.shapeDiff o.info).isEmpty →
      o.info.phase = .terminated → Restarted t.calls := fun hn => hrun (by rw [hn, Bool.true_or])
  refine (editTo_prepared _ ht hft (by simp) hedited).bind fun _ u _ hu => ?_
  refine endsIn_obeys (r.madeOf.finishLibraries id (fun _ h => h) _ _) (fun before c hc => ?_) hu
  cases c <;> first | exact trivial | exact hc.elim

theorem update_prepared (hs : s.history = []) : EndsIn (r.update id desired) s
    (Obeys (Prepared desired r.options.attemptBudget) ·.calls) := by
  have hnil : Obeys (Prepared desired r.options.attemptBudget) s.calls := by
    rw [Session.calls, hs]
    exact obeys_nil
  have hvalidate := endsIn_obeys (r.madeOf.validate desired) prepared_of_read hnil
  refine hvalidate.bind fun _ t hx _ => ?_
  obtain ⟨-, rfl⟩ := validate_eq_ok hx
  have hreads : MadeOf r (fun c => c.isMutation = false) (r.inspect id) :=
    r.madeOf.inspect id rfl rfl
  refine (endsIn_obeys hreads prepared_of_read hnil).bind fun o u hx hu => ?_
  obtain ⟨-, -, -, hf⟩ := inspect_eq_ok (by simp [Session.calls, hs, firstSettled]) hx
  exact adjust_prepared hu hf (inspect_lastReport hx)

end Update

section Read

theorem LibraryDiff.stage_ne_read (d : LibraryDiff) : d.stage ≠ .read := by
  unfold LibraryDiff.stage
  split_ifs <;> exact Stage.noConfusion

theorem haltsAt_avoids (r : Reconciler σ) {stage : Stage} (hne : stage ≠ .read) :
    r.HaltsAt stage fun h _ => h.Avoids .read :=
  (r.haltsAt_within stage).mono fun _ _ hw => hw.avoids hne

theorem libraryRound_avoids (libraries : List Library) (p : Progress) :
    Halts (r.libraryRound id libraries p) s fun h _ => h.Avoids .read := by
  refine libraryRound_halts (fun _ _ _ he => by cases he) ?_ fun d =>
    r.haltsAt_avoids (LibraryDiff.stage_ne_read d)
  refine (within_submit p _).mono fun h _ hw => ?_
  rcases hw with hw | hw <;> exact hw.avoids Stage.noConfusion

theorem finishLibraries_avoids (libraries : List Library) (o : List LibraryStatus) :
    Halts (r.finishLibraries id libraries o) s fun h _ => h.Avoids .read := by
  have hconverge : ∀ o s,
      Halts (r.convergeLibraries id libraries o) s fun h _ => h.Avoids .read := by
    intro o s
    refine convergeLibraries_ensures (I := fun _ _ => True) (fun p s _ => ?_)
      (fun _ _ _ _ he => by cases he) trivial
    exact Ensures.mono (libraryRound_avoids libraries p)
      (fun _ _ _ => ⟨fun _ => trivial, fun _ _ => trivial⟩) fun _ _ ha => ha
  refine Ensures.bind ensures_get fun _ t _ _ => ?_
  split_ifs
  · have hinstall : r.HaltsAt .libraryInstall fun h _ => h.Avoids .read :=
      r.haltsAt_avoids Stage.noConfusion
    exact (hinstall.currentLibraries o).bind fun o' u _ => hconverge o' u
  · exact halts_pure ()

/-- What fails while a cluster is read has changed nothing. -/
theorem update_read (hs : s.history = []) : Halts (r.update id desired) s fun h t =>
    ∀ e, h = .failed ⟨.read, e⟩ → requests t.calls = [] := by
  have hnil : requests s.calls = [] := by rw [Session.calls, hs]; rfl
  have hquiet : ∀ {m : Run σ Observed}, MadeOf r (fun c => c.isMutation = false) m →
      Halts m s fun h t => ∀ e, h = .failed ⟨.read, e⟩ → requests t.calls = [] := by
    intro m hm
    refine ⟨fun _ _ _ => trivial, fun h t hx e _ => ?_⟩
    have hgrows := ((hm.endsIn s).halted h t hx).grows
    rw [hgrows.requests_eq fun _ he => he, hnil]
  have hadjust : ∀ o t, Halts (r.adjust id desired o) t fun h _ => h.Avoids .read := by
    intro o t
    refine Halts.bind ?_ fun _ u _ => Halts.bind ?_ fun _ v _ => finishLibraries_avoids _ _
    · exact (within_startFor _ _).mono fun _ _ hw => hw.avoids Stage.noConfusion
    · exact (within_editTo _ _).mono fun _ _ hw => hw.avoids Stage.noConfusion
  refine Halts.bind ?_ fun _ t hx => ?_
  · exact within_validate.mono fun h _ hw e he => absurd he (hw.avoids Stage.noConfusion e)
  · obtain ⟨-, rfl⟩ := validate_eq_ok hx
    refine (hquiet (r.madeOf.inspect id rfl rfl)).bind fun o u _ => ?_
    exact (hadjust o u).mono fun h _ ha e he => absurd he (ha e)

end Read

theorem update_order (r : Reconciler σ) (id : String) (desired : Desired) (world : σ) :
    UpdateOrder id desired r.options.attemptBudget
      (r.reconcile desired (some id) world) where
  order := by
    obtain ⟨w, hw, hs⟩ := r.asks_update id desired { world := world }
    have hcalls : requests (r.reconcile desired (some id) world).session.calls = w := hs
    rwa [hcalls]
  addressed := by
    have hsteps := ((r.madeOf_update id desired).endsIn { world := world }).always
    obtain ⟨es, hes, hk⟩ := hsteps.grows
    intro e he
    have hmem : e ∈ es := by
      rw [Session.mem_calls] at he
      have hh : (r.reconcile desired (some id) world).session.history = es ++ [] := hes
      rwa [hh, List.append_nil] at he
    exact (hk e hmem).addressed
  prepared := (update_prepared rfl).always
  read e he := (update_read rfl).halted _ _ (Prod.ext he rfl) e rfl

theorem create_order (r : Reconciler σ) (desired : Desired) (world : σ) :
    CreationOrder desired (exec (r.create desired) { world := world }).2.calls where
  order := by
    have hfirst : requests (r.perform (.createCluster desired.cluster) { world := world }).2.calls =
        [.createCluster desired.cluster] := rfl
    rcases r.exec_create_cases desired { world := world } with hx | ⟨e, -, hx⟩ | ⟨id, -, hx⟩ <;>
      rw [hx]
    · exact ⟨"", [], Language.nil_mem_kstar _, List.nil_prefix⟩
    · exact ⟨"", [], Language.nil_mem_kstar _, by rw [hfirst]⟩
    · obtain ⟨w, hw, hs⟩ := r.asks_equip id desired.libraries
        { (r.perform (.createCluster desired.cluster) { world := world }).2 with
          cluster := some { id := id, phase := .pending } }
      exact ⟨id, w, hw, by rw [hs]; exact List.prefix_refl _⟩
  addressed := by
    intro f hf
    rcases r.create_calls desired world with h | ⟨e, rest, h, hcall, hrest⟩ <;> rw [h] at hf ⊢
    · cases hf
    · rcases List.mem_cons.1 hf with rfl | hf
      · exact ⟨by rw [hcall]; rfl, .inl hcall⟩
      · obtain ⟨id, hid, hof⟩ := hrest f hf
        have hupdate : f.call.OfUpdate id desired.cluster := by
          rcases hof with heq | hof
          · rw [← heq]
            rfl
          · exact hof.ofUpdate _
        obtain ⟨haddressed, hdeletes⟩ := hupdate.addressed
        refine ⟨hdeletes, .inr ?_⟩
        rw [created_cons, hid, haddressed, Option.some_or]

/-- A reconciliation with what is not valid calls nothing. An update starts its cluster, edits it
and takes turns with its libraries, in this order; a creation makes its cluster before such
turns. -/
theorem reconcile_ordered (r : Reconciler σ) (desired : Desired) (existing : Option String)
    (world : σ) :
    let x := r.reconcile desired existing world
    (∀ e, desired.validate = .error e → x.session.calls = [] ∧
      x.outcome = .error (.failed ⟨.validate, .validation e⟩)) ∧
      (existing = none → CreationOrder desired x.session.calls) ∧
      ∀ id, existing = some id → UpdateOrder id desired r.options.attemptBudget x := by
  intro x
  refine ⟨fun e he => ?_, ?_, ?_⟩
  · have hfails := exec_validate_of_error he { world := world }
    cases existing with
    | none =>
      have hx : exec (r.create desired) { world := world } = _ := exec_bind_of_error hfails
      exact ⟨congrArg (·.2.calls) hx, congrArg Prod.fst hx⟩
    | some id =>
      have hx : exec (r.update id desired) { world := world } = _ := exec_bind_of_error hfails
      exact ⟨congrArg (·.2.calls) hx, congrArg Prod.fst hx⟩
  · rintro rfl
    exact r.create_order desired world
  · rintro id rfl
    exact r.update_order id desired world

/-- The sample with another limit of idle time, which is an edit away. -/
def reshaped : Desired := { sample with cluster := { sample.cluster with autotermination := 30 } }

theorem reconcile_ordered_reshaped :
    let x := (simulated {} 9).reconcile reshaped (some "c") (sampleWorld .terminated)
    requests x.session.calls = [.startCluster "c", .editCluster "c" reshaped.cluster,
        .installLibraries "c" [.jar "a.jar"]] ∧
      UpdateOrder "c" reshaped 3 x := by
  intro x
  have hall : requests x.session.calls = [.startCluster "c", .editCluster "c" reshaped.cluster,
      .installLibraries "c" [.jar "a.jar"]] := by decide +kernel
  obtain ⟨-, -, hupdate⟩ :=
    reconcile_ordered (simulated {} 9) reshaped (some "c") (sampleWorld .terminated)
  exact ⟨hall, hupdate "c" rfl⟩

end Reconciler
end ClusterReconciliation
