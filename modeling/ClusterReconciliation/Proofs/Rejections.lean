import ClusterReconciliation.Proofs.Deletion

/-! Rejections end runs. What the control plane has decided against is not asked again: no wait tolerates
a rejection and no run makes a call after one, whatever comes of it. So a deletion that is rejected ends
with the rejection, and ends well exactly if that says that the cluster is missing. -/
namespace ClusterReconciliation
open Run
variable {σ α β : Type}

namespace Event
variable {e : Event σ} {error : ClientError}

/-- The error that the call was answered with. -/
def failure : Event σ → Option ClientError
  | ⟨_, _, .error e⟩ => some e
  | ⟨_, _, .ok _⟩ => none

/-- The control plane has decided against the call. -/
def isRejected : Event σ → Bool
  | ⟨_, _, .error e⟩ => !e.isTransient
  | ⟨_, _, .ok _⟩ => false

theorem isRejected_of_failure (h : e.failure = some error) (ht : error.isTransient = false) :
    e.isRejected = true := by
  rcases e with ⟨_, _, _ | _⟩ <;> cases h
  simp [isRejected, ht]

theorem isMissing_of_failure (h : e.failure = some error) : e.isMissing = error.isNotFound := by
  rcases e with ⟨_, _, _ | _⟩ <;> cases h
  rfl

theorem isRejected_of_isMissing (h : e.isMissing = true) : e.isRejected = true := by
  rcases e with ⟨_, _, error | _⟩
  · cases error <;> first | rfl | cases h
  · cases h

theorem not_isPurge_of_isRejected (h : e.isRejected = true) : e.isPurge = false := by
  rcases e with ⟨_, c, error | _⟩
  · cases c <;> rfl
  · cases h

end Event

namespace Session
variable {s t : Session σ}

/-- No call has been rejected. -/
def Unrejected (s : Session σ) : Prop := ∀ e ∈ s.history, e.isRejected = false

/-- No call has followed on one that was rejected. -/
def Heedful (s : Session σ) : Prop := ∀ e ∈ s.history.tail, e.isRejected = false

theorem Unrejected.heedful (h : s.Unrejected) : s.Heedful :=
  fun e he => h e (List.mem_of_mem_tail he)

theorem Unrejected.of_eq (h : s.Unrejected) (hh : t.history = s.history) : t.Unrejected := by
  rwa [Unrejected, hh]

theorem Unrejected.cons (h : s.Unrejected) {e : Event σ} (hh : t.history = e :: s.history)
    (he : e.isRejected = false) : t.Unrejected := by
  rw [Unrejected, hh]
  exact List.forall_mem_cons.2 ⟨he, h⟩

theorem Unrejected.heedful_cons (h : s.Unrejected) {e : Event σ}
    (hh : t.history = e :: s.history) : t.Heedful := by
  rw [Heedful, hh]
  exact h

/-- No call follows on one that was rejected. -/
theorem Heedful.eq_nil (h : s.Heedful) {before after : List (Event σ)} {e : Event σ}
    (hc : s.calls = before ++ e :: after) (hr : e.isRejected = true) : after = [] := by
  have hh : s.history = after.reverse ++ e :: before.reverse := by
    rw [← List.reverse_reverse s.history]
    exact (congrArg List.reverse hc).trans (by simp)
  rw [← List.reverse_eq_nil_iff]
  cases hrev : after.reverse with
  | nil => rfl
  | cons last others =>
    rw [Heedful, hh, hrev] at h
    rw [h e (by simp)] at hr
    cases hr

theorem Heedful.getLast?_calls (h : s.Heedful) {e : Event σ} (he : e ∈ s.calls)
    (hr : e.isRejected = true) : s.calls.getLast? = some e := by
  obtain ⟨before, after, hc⟩ := List.append_of_mem he
  rw [hc, h.eq_nil hc hr]
  exact List.getLast?_concat

end Session

/-- A run that makes no call after one that is rejected, and does not go on from there. -/
def Run.Yields (m : Run σ α) : Prop :=
  ∀ s : Session σ, s.Unrejected → Ensures m s (fun _ t => t.Unrejected) fun _ t => t.Heedful

namespace Run
variable {m : Run σ α} {f : α → Run σ β}

theorem yields_pure (a : α) : Yields (pure a : Run σ α) := fun _ hs => ensures_pure hs

theorem yields_throw (h : Halt) : Yields (throw h : Run σ α) :=
  fun _ hs => ensures_throw hs.heedful

theorem yields_fail (stage : Stage) (error : ReconcileError) :
    Yields (Reconciler.fail stage error : Run σ α) := yields_throw _

theorem yields_get : Yields (get : Run σ (Session σ)) := by
  intro s hs
  refine ensures_get.mono (fun _ t hx => ?_) fun _ _ h => h
  rwa [← hx.2]

theorem yields_modify {g : Session σ → Session σ} (h : ∀ s, (g s).history = s.history) :
    Yields (modify g : Run σ Unit) := by
  refine fun s hs => ⟨fun _ t hx => ?_, fun _ _ hx => ?_⟩
  · cases hx
    exact hs.of_eq (h s)
  · cases hx

theorem Yields.bind (hm : Yields m) (hf : ∀ a, Yields (f a)) : Yields (m >>= f) :=
  fun s hs => (hm s hs).bind fun a t _ ht => hf a t ht

/-- A note that is taken of a reply adds no call. -/
theorem yields_note {g : Session σ → Session σ} (a : α) (h : ∀ s, (g s).history = s.history) :
    Yields (do
      modify g
      return a) := (yields_modify h).bind fun _ => yields_pure a

theorem Yields.ite {c : Prop} [Decidable c] {m' : Run σ α} (hm : Yields m) (hm' : Yields m') :
    Yields (if c then m else m') := by
  split
  · exact hm
  · exact hm'

end Run

namespace Reconciler
variable (r : Reconciler σ)

theorem yields_checkpoint (stage : Stage) : Yields (r.checkpoint stage) :=
  yields_get.bind fun _ => .ite (yields_fail _ _) (yields_pure _)

theorem yields_require (id : String) (action : Action) (stage : Stage) :
    Yields (require id action stage : Run σ Unit) :=
  yields_get.bind fun _ => .ite (yields_fail _ _) (yields_pure _)

theorem yields_call (stage : Stage) (c : Call) : Yields (r.call stage c) := by
  intro s hs
  have hh := r.perform_history c s
  refine ⟨fun reply t hx => ?_, fun h t hx => ?_⟩ <;> rw [exec_call] at hx <;>
    rcases hp : r.perform c s with ⟨e | reply, u⟩ <;> rw [hp] at hx hh <;> cases hx
  · exact hs.cons hh rfl
  · exact hs.heedful_cons hh

theorem yields_mutate (action : Action) (stage : Stage) (c : Call) :
    Yields (r.mutate action stage c) :=
  (yields_require _ _ _).bind fun _ => (r.yields_checkpoint stage).bind fun _ =>
    (r.yields_call stage c).bind fun _ => yields_modify fun _ => rfl

theorem yields_launch (spec : Cluster.Spec) : Yields (r.launch spec) :=
  (r.yields_checkpoint .create).bind fun _ => (r.yields_call .create _).bind fun id =>
    yields_note id fun _ => rfl

theorem yields_fetchCluster (stage : Stage) (id : String) : Yields (r.fetchCluster stage id) :=
  (r.yields_checkpoint stage).bind fun _ => (r.yields_call stage _).bind fun info =>
    yields_note info fun _ => rfl

theorem yields_fetchLibraries (stage : Stage) (id : String) : Yields (r.fetchLibraries stage id) :=
  (r.yields_checkpoint stage).bind fun _ => (r.yields_call stage _).bind fun observed =>
    yields_note observed fun _ => rfl

section Waits
variable {r} {c : Call} {w : Watch (Session σ) c.Reply α ReconcileError} {s : Session σ}

/-- A watch of one call, which it repeats as long as it is not decided, and not after a rejection. -/
structure Heeds (r : Reconciler σ) (c : Call) (w : Watch (Session σ) c.Reply α ReconcileError) :
    Prop where
  fetch : w.fetch = r.perform c
  note : ∀ answer s, (w.decide answer s).2.history = s.history
  again : ∀ e s, e.isTransient = false → (w.decide (.error e) s).1 ≠ .ok .again

theorem Heeds.look_history (h : r.Heeds c w) (s : Session σ) :
    (w.look s).2.history = ⟨s.world, c, (w.fetch s).1⟩ :: s.history := by
  rw [Watch.look, h.note, h.fetch]
  rfl

theorem Heeds.keeps (h : r.Heeds c w) : w.Keeps r.clock Session.Unrejected where
  sleep _ _ hs := hs
  tolerate e s hs _ he ht := by
    have hh : (w.fetch s).2.history = ⟨s.world, c, (w.fetch s).1⟩ :: s.history := by
      rw [h.fetch]
      rfl
    exact hs.cons hh (by simp [Event.isRejected, he, ht])
  again s hs _ ha := by
    refine hs.cons (h.look_history s) ?_
    cases he : (w.fetch s).1 with
    | ok reply => rfl
    | error e =>
      rw [Watch.look, he] at ha
      have ht : e.isTransient = true := by
        by_contra hn
        exact h.again e _ (by simpa using hn) ha
      simp [Event.isRejected, ht]

/-- A wait ends with a rejection if there is one, and it ends well with one only where the watch is
content with that. -/
theorem Heeds.ensures (h : r.Heeds c w) (stage : Stage) (hs : s.Unrejected) :
    Ensures (r.await stage w) s (fun v t => t.Heedful ∧ (t.Unrejected ∨
      ∃ e u, e.isTransient = false ∧ (w.decide (.error e) u).1 = .ok (.done v)))
      fun _ t => t.Heedful := by
  refine ⟨fun v t hx => ?_, (halts_await stage h.keeps hs (fun u e t hu hl => ?_)
    (fun _ _ ht _ => ht.heedful) fun _ ht => ht.heedful).halted⟩
  · obtain ⟨u, hu, -, hl⟩ := await_eq_ok h.keeps hs hx
    have hh := h.look_history u
    rw [hl] at hh
    refine ⟨hu.heedful_cons hh, ?_⟩
    cases he : (w.fetch u).1 with
    | ok reply =>
      rw [he] at hh
      exact .inl (hu.cons hh rfl)
    | error e =>
      rw [he] at hh
      cases ht : e.isTransient with
      | true => exact .inl (hu.cons hh (by simp [Event.isRejected, ht]))
      | false =>
        rw [Watch.look, he] at hl
        exact .inr ⟨e, _, ht, congrArg Prod.fst hl⟩
  · have hh := h.look_history u
    rw [hl] at hh
    exact hu.heedful_cons hh

theorem Heeds.yields (h : r.Heeds c w) (stage : Stage)
    (hd : ∀ e s v, (w.decide (.error e) s).1 ≠ .ok (.done v)) : Yields (r.await stage w) := by
  refine fun s hs => (h.ensures stage hs).mono (fun v t ht => ?_) fun _ _ ht => ht
  rcases ht.2 with ht | ⟨e, u, -, he⟩
  · exact ht
  · exact absurd he (hd e u v)

theorem heeds_watchCluster {id : String} (what : String)
    {judge : Except ClientError Cluster.Info → Except ReconcileError (Check α)}
    (hj : ∀ e, judge (.error e) ≠ .ok .again) :
    r.Heeds (.getCluster id) (r.watchCluster id what judge) where
  fetch := rfl
  note answer s := s.noteCluster_history answer
  again e _ _ := hj e

theorem yields_waitRunning (stage : Stage) (id : String) : Yields (r.waitRunning stage id) := by
  have hj : ∀ e c, judgeRunning id (.error e) ≠ .ok c := by
    intro e c h
    simp only [judgeRunning] at h
    split_ifs at h
  exact (heeds_watchCluster _ fun e => hj e _).yields stage fun e _ _ => hj e _

theorem yields_waitStable (stage : Stage) (id : String) : Yields (r.waitStable stage id) := by
  have hj : ∀ e c, judgeStable (.error e) ≠ .ok c := fun _ _ h => by cases h
  exact (heeds_watchCluster _ fun e => hj e _).yields stage fun e _ _ => hj e _

/-- A wait for a cluster to terminate is content with a rejection only if it takes the cluster for
gone. -/
theorem waitTerminated_heedful {id : String} (hs : s.Unrejected) :
    Ensures (r.waitTerminated id) s (fun there t => t.Heedful ∧ (there = true → t.Unrejected))
      fun _ t => t.Heedful := by
  have hagain : ∀ e, judgeTerminated (.error e) ≠ .ok .again := by
    intro e h
    simp only [judgeTerminated] at h
    split_ifs at h
    cases h
  refine ((heeds_watchCluster _ hagain).ensures .delete hs).mono (fun there t ht => ?_)
    fun _ _ ht => ht
  refine ⟨ht.1, fun hthere => ht.2.resolve_right ?_⟩
  rintro ⟨e, u, -, he⟩
  have hjudge : judgeTerminated (.error e) = .ok (.done there) := he
  rcases judgeTerminated_eq_done hjudge with ⟨info, hok, -⟩ | ⟨-, -, hgone, -⟩
  · cases hok
  · rw [hthere] at hgone
    cases hgone

theorem yields_awaitLibraries (stage : Stage) (id : String)
    (desired submitted removing : List Library) :
    Yields (r.await stage (r.watchLibraries id desired submitted removing)) := by
  have hheeds : r.Heeds (.libraryStatuses id) (r.watchLibraries id desired submitted removing) :=
    { fetch := rfl
      note := fun answer s => s.noteLibraries_history answer
      again := fun _ _ _ h => by cases h }
  exact hheeds.yields stage fun _ _ _ h => by cases h

end Waits

/-- All that a reconciler does yields to rejections, but for the wait of a deletion. -/
theorem yields : r.Congruence r (fun _ => True) fun _ m _ => Yields m where
  options := rfl
  fuel := rfl
  pure := yields_pure
  throw := yields_throw
  bind := Yields.bind
  get hf := yields_get.bind fun s => hf s s rfl rfl
  mutate stage c _ _ := r.yields_mutate _ stage c
  launch _ := r.yields_launch _
  fetchCluster stage id _ := r.yields_fetchCluster stage id
  fetchLibraries stage id _ := r.yields_fetchLibraries stage id
  waitRunning stage id _ := yields_waitRunning stage id
  waitStable stage id _ := yields_waitStable stage id
  awaitLibraries stage id desired submitted removing _ :=
    yields_awaitLibraries stage id desired submitted removing

variable (id : String)

/-- A cluster that is taken for gone is not purged, so no call follows on the answer that it is
missing. -/
theorem purge_heedful {s : Session σ} (hs : s.Unrejected) :
    EndsIn (r.purge id) s Session.Heedful := by
  -- A cluster that is to be purged is still there, so no answer so far was a rejection.
  have hdown : ∀ phase t, Session.Unrejected t → Ensures (r.bringDown id phase) t
      (fun there u => u.Heedful ∧ (there = true → u.Unrejected)) fun _ u => u.Heedful := by
    intro phase t ht
    unfold bringDown
    split_ifs
    · exact ensures_pure ⟨ht.heedful, fun _ => ht⟩
    · exact (r.yields_mutate _ _ _ t ht).bind fun _ u _ hu => waitTerminated_heedful hu
  have hterminate : EndsIn (r.terminate id) s Session.Heedful := by
    refine (r.yields.readSettled id trivial s hs).bind fun info t _ ht => ?_
    refine (hdown info.phase t ht).bind fun there u _ hu => ?_
    cases there with
    | false => exact ensures_pure hu.1
    | true =>
      exact (r.yields_mutate _ _ _ u (hu.2 rfl)).mono (fun _ _ hv => hv.heedful) fun _ _ hv => hv
  refine hterminate.tryCatch fun h t ht => ?_
  split_ifs
  · exact ensures_pure ht
  · exact ensures_throw ht

/-- Whatever comes of a task, no call is made in it after one that was rejected. -/
theorem carryOut_heedful (task : Task) (world : σ) :
    (r.carryOut task world).session.Heedful := by
  have hstart : Session.Unrejected (σ := σ) { world := world } := by simp [Session.Unrejected]
  have heeds {m : Run σ Unit} (hm : Yields m) : EndsIn m { world := world } Session.Heedful :=
    (hm _ hstart).mono (fun _ _ ht => ht.heedful) fun _ _ ht => ht
  refine carryOut_endsIn task (fun desired => ?_) (fun id desired => ?_) fun id => ?_
  · exact heeds (r.yields.create desired fun _ _ => trivial)
  · exact heeds (r.yields.update id desired fun _ _ => trivial)
  · exact r.purge_heedful id hstart

/-- A deletion that is rejected succeeds exactly if the rejection says that the cluster is missing. -/
theorem delete_rejected (world : σ) {e : Event σ} (he : e ∈ (r.delete id world).session.calls)
    (hr : e.isRejected = true) :
    (r.delete id world).outcome = .ok () ↔ e.isMissing = true := by
  have hheedful : (r.delete id world).session.Heedful := r.carryOut_heedful (.delete id) world
  rw [r.delete_eq_ok_iff]
  refine ⟨?_, fun hm => .inr ⟨e, Session.mem_calls.1 he, hm⟩⟩
  rintro (⟨e', hpurge, hp⟩ | ⟨e', he', hm⟩)
  · obtain rfl : e' = e := Option.some.inj (hpurge.symm.trans (hheedful.getLast?_calls he hr))
    rw [Event.not_isPurge_of_isRejected hr] at hp
    cases hp
  · have hlast := hheedful.getLast?_calls (Session.mem_calls.2 he') (Event.isRejected_of_isMissing hm)
    obtain rfl : e' = e := Option.some.inj (hlast.symm.trans (hheedful.getLast?_calls he hr))
    exact hm

end Reconciler
end ClusterReconciliation
