import ClusterReconciliation.Proofs.Alike
import ClusterReconciliation.Proofs.Records
import ClusterReconciliation.Proofs.Simulated

/-! What a cancellation does to a run. From then on no call is started. A call in flight is completed,
and what it has shown or done is noted. An outcome other than the cancellation does not come from it:
every world that looks the same up to then gives the same one. -/
namespace ClusterReconciliation
open Run
variable {σ : Type}

namespace World

/-- A cancellation is for good. -/
structure Steadfast (w : World σ) : Prop where
  answer : ∀ c s, w.isCancelled s = true → w.isCancelled (w.answer c s).2 = true
  sleep : ∀ d s, w.isCancelled s = true → w.isCancelled (w.sleep d s) = true

/-- The state that a call leaves behind. -/
def after (w : World σ) (e : Event σ) : σ := (w.answer e.call e.before).2

/-- The way from one state to another by sleeps and by calls, none of which is started when it is
cancelled. -/
inductive Course (w : World σ) (start : σ) : List (Event σ) → σ → Prop
  | start : Course w start [] start
  | sleep {es : List (Event σ)} {s : σ} (h : Course w start es s) (d : Duration) :
    Course w start es (w.sleep d s)
  | call {es : List (Event σ)} {s : σ} (h : Course w start es s) (c : Call)
    (hc : w.isCancelled s = false) :
    Course w start (es ++ [⟨s, c, (w.answer c s).1⟩]) (w.answer c s).2

section
variable {w : World σ} {start finish : σ} {es fs gs : List (Event σ)} {e : Event σ}

/-- A call in the midst of its course. -/
theorem Course.at_call (h : w.Course start es finish) (he : es = fs ++ e :: gs) :
    w.Course start fs e.before ∧ w.isCancelled e.before = false ∧
      e.answer = (w.answer e.call e.before).1 ∧ w.Course (w.after e) gs finish := by
  induction h generalizing gs with
  | start => simp at he
  | sleep h d ih =>
    obtain ⟨hb, hc, ha, hrest⟩ := ih he
    exact ⟨hb, hc, ha, hrest.sleep d⟩
  | call h c hc ih =>
    -- It is the last call, or it is one of those before that.
    rcases List.eq_nil_or_concat' gs with rfl | ⟨rest, last, rfl⟩
    · obtain ⟨rfl, hlast⟩ := List.append_inj' he rfl
      cases hlast
      exact ⟨h, hc, rfl, .start⟩
    · rw [← List.cons_append, ← List.append_assoc] at he
      obtain ⟨rfl, hlast⟩ := List.append_inj' he rfl
      cases hlast
      obtain ⟨hb, hc', ha, hrest⟩ := ih rfl
      exact ⟨hb, hc', ha, hrest.call c hc⟩

theorem Steadfast.cancelled (hw : w.Steadfast) (h : w.Course start es finish)
    (hc : w.isCancelled start = true) : w.isCancelled finish = true := by
  induction h with
  | start => exact hc
  | sleep h d ih => exact hw.sleep d _ ih
  | call h c _ ih => exact hw.answer c _ ih

/-- Nothing is called on a way that begins with the cancellation. -/
theorem Steadfast.no_calls (hw : w.Steadfast) (h : w.Course start es finish)
    (hc : w.isCancelled start = true) : es = [] := by
  cases es with
  | nil => rfl
  | cons e es =>
    obtain ⟨hb, hlive, -⟩ := h.at_call (List.nil_append (e :: es)).symm
    rw [hw.cancelled hb hc] at hlive
    cases hlive

end
end World

section
variable {r : Reconciler σ} {K : Call → Prop} {s t : Session σ} {start : σ}

theorem World.Course.concat {w : World σ} {c : Call} (hs : w.Course start s.calls s.world)
    (hc : w.isCancelled s.world = false)
    (hh : t.history = ⟨s.world, c, (w.answer c s.world).1⟩ :: s.history)
    (hw : t.world = (w.answer c s.world).2) : w.Course start t.calls t.world := by
  rw [Session.calls_cons hh, hw]
  exact hs.call c hc

theorem Step.course (h : Step r K s t) (hs : r.world.Course start s.calls s.world) :
    r.world.Course start t.calls t.world := by
  cases h with
  | sleep d => exact hs.sleep d
  | lookAtCluster id _ _ hc =>
    exact hs.concat hc (r.lookAtCluster_history id s) (r.lookAtCluster_world id s)
  | lookAtLibraries id _ _ hc =>
    exact hs.concat hc (r.lookAtLibraries_history id s) (r.lookAtLibraries_world id s)
  | attempt c a _ _ _ _ hc e _ => exact hs.concat hc (r.perform_history c s) rfl
  | change c a _ _ _ _ hc reply _ => exact hs.concat hc (r.perform_history c s) rfl
  | refuse spec _ _ hc e _ => exact hs.concat hc (r.perform_history _ s) rfl
  | create spec _ _ hc id _ => exact hs.concat hc (r.perform_history _ s) rfl

theorem Steps.course (h : Steps r K s t) (hs : r.world.Course start s.calls s.world) :
    r.world.Course start t.calls t.world := by
  induction h with
  | refl => exact hs
  | tail _ h ih => exact h.course ih

end

/-- What a call has shown or done is the last that a session has noted of such things. -/
structure Session.HasNoted (s : Session σ) (e : Event σ) : Prop where
  cluster : ∀ info, e.notice = some info → s.cluster = some info
  libraries : ∀ observed, e.report = some observed → s.libraries = observed
  actions : ∀ a, e.change = some a → s.actions.getLast? = some a

theorem Session.Recorded.hasNoted {s : Session σ} {es : List (Event σ)} {e : Event σ}
    (h : s.Recorded) (hs : s.calls = es ++ [e]) : s.HasNoted e where
  cluster info hn := by simp [h.cluster, hs, hn]
  libraries observed hr := by simp [h.libraries, hs, lastReport_concat, hr]
  actions a ha := by simp [h.actions, hs, ha]

namespace Reconciler
variable (r : Reconciler σ)

theorem carryOut_course (task : Task) (world : σ) :
    r.world.Course world (r.carryOut task world).session.calls
      (r.carryOut task world).session.world := by
  have hsteps : ∀ {K : Call → Prop} {m : Run σ Unit}, MadeOf r K m →
      EndsIn m { world := world } fun t => r.world.Course world t.calls t.world :=
    fun hm => (hm.endsIn _).imp fun _ h => h.course .start
  exact carryOut_endsIn task (fun desired => hsteps (r.madeOf_create desired))
    (fun id desired => hsteps (r.madeOf_update id desired)) fun id => hsteps (r.madeOf_purge id)

/-- A run heeds its cancellation, whenever that comes. The run is a course of sleeps and calls; no
call comes after a moment of it that is cancelled. A call that is cancelled in flight has been answered,
is the last one, and is noted. A run that does not end with the cancellation ends as it would in any
world that looks the same until then, with the same calls, answers and notes. -/
theorem carryOut_heeds (stays : r.world.Steadfast) (task : Task) (world : σ) :
    let x := r.carryOut task world
    r.world.Course world x.session.calls x.session.world ∧
    (∀ es moment fs, x.session.calls = es ++ fs → r.world.Course world es moment →
      r.world.Course moment fs x.session.world → r.world.isCancelled moment = true → fs = []) ∧
    (∀ es e fs, x.session.calls = es ++ e :: fs → r.world.isCancelled (r.world.after e) = true →
      e.answer = (r.world.answer e.call e.before).1 ∧ fs = [] ∧ x.session.HasNoted e) ∧
    ((∀ h, x.outcome = .error h → ¬h.IsCut) →
      ∀ {τ : Type} {R : σ → τ → Prop} (r' : Reconciler τ) (world' : τ), r.Alike r' R →
        R world world' → (r'.carryOut task world').outcome = x.outcome ∧
          x.session.Alike R (r'.carryOut task world').session) := by
  intro x
  have hx : r.world.Course world x.session.calls x.session.world := r.carryOut_course task world
  refine ⟨hx, fun es moment fs _ _ hrest hc => stays.no_calls hrest hc, ?_, ?_⟩
  · intro es e fs he hc
    obtain ⟨-, -, ha, hrest⟩ := hx.at_call he
    obtain rfl : fs = [] := stays.no_calls hrest hc
    exact ⟨ha, rfl, (r.carryOut_recorded task world).hasNoted he⟩
  · intro hcut τ R r' world' halike hw
    exact halike.carryOut task hw hcut

/-- A control plane with one running cluster, whose user cancels as soon as libraries are asked
for. -/
def interrupting : Reconciler Bool where
  world :=
    { now := fun _ => 0
      sleep := fun _ w => w
      isCancelled := fun w => w
      answer
        | .getCluster _, w =>
          (.ok (SimulatedCluster.reshape { id := "c", phase := .running } sample.cluster), w)
        | .libraryStatuses _, _ => (.ok [{ library := .jar "a.jar", status := .installed }], true)
        | _, w => (.error (.notFound ""), w) }
  options := {}
  fuel := 3

theorem carryOut_heeds_interrupting :
    let task : Task := .reconcile sample (some "c")
    let x := interrupting.carryOut task false
    let installed : List LibraryStatus := [{ library := .jar "a.jar", status := .installed }]
    x.outcome = .ok () ∧ x.session.world = true ∧ x.session.libraries = installed ∧
      (interrupting.uncancelled.carryOut task false).outcome = .ok () ∧
      (interrupting.carryOut task true).session.calls = [] := by
  intro task x installed
  have stays : interrupting.world.Steadfast := by
    refine ⟨fun c s hc => ?_, fun d s hc => hc⟩
    cases c <;> first | exact hc | rfl
  have hok : x.outcome = .ok () := by decide +kernel
  obtain ⟨e, hcalls⟩ : ∃ e, x.session.calls =
      [e] ++ ⟨false, .libraryStatuses "c", .ok installed⟩ :: [] := ⟨_, rfl⟩
  obtain ⟨-, -, hflight, hsame⟩ := interrupting.carryOut_heeds stays task false
  obtain ⟨-, -, hnotes⟩ := hflight _ _ _ hcalls rfl
  obtain ⟨hout, -⟩ := hsame (by simp [hok, x]) interrupting.uncancelled false
    interrupting.alike_uncancelled rfl
  obtain ⟨hstart, hnone, -⟩ := interrupting.carryOut_heeds stays task true
  exact ⟨hok, by decide +kernel, hnotes.libraries _ rfl, hout.trans hok,
    hnone [] true _ rfl .start hstart rfl⟩

end Reconciler
end ClusterReconciliation
