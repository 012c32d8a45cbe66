import ClusterReconciliation.Proofs.Traces

/-! The phases in which changes are asked for. What a session holds of its cluster is what was last
seen of it, so that a change which is asked for follows on a sight of the cluster in a phase that
permits it. No run is stopped by a phase but an update that finds its cluster failed. -/
namespace ClusterReconciliation
open Run
variable {σ α : Type}

/-- The phases of a cluster in which a change is asked for. -/
def Call.phases : Call → List Phase
  | .startCluster _ => [.terminated]
  | .editCluster _ _ => [.running]
  | .installLibraries _ _ => [.running]
  | .uninstallLibraries _ _ => [.running]
  | .deleteCluster _ => [.running, .unknown]
  | .permanentDeleteCluster _ => [.terminated, .error]
  | _ => []

/-- A change of an existing cluster follows on a sight of it in a phase for the change. -/
def Timely (before : List (Event σ)) (c : Call) : Prop :=
  c.isMutation = true → (∀ spec, c ≠ .createCluster spec) →
    ∃ info, lastSighting before = some info ∧ info.phase ∈ c.phases

theorem timely_of_read {c : Call} (h : c.isMutation = false) (before : List (Event σ)) :
    Timely before c := fun hm => by
  rw [h] at hm
  cases hm

theorem timely_create (spec : Cluster.Spec) (before : List (Event σ)) :
    Timely before (.createCluster spec) := fun _ hc => absurd rfl (hc spec)

/-- A phase that permits a change is one in which it is asked for, unless it ends the cluster. -/
theorem Call.mem_phases {c : Call} {a : Action} {p : Phase} (ha : c.action? = some a)
    (hp : p.permits a = true) (hd : ∀ id, c ≠ .deleteCluster id) : p ∈ c.phases := by
  cases c <;> simp only [Call.action?, reduceCtorEq, Option.some.injEq] at ha <;> subst ha <;>
    cases p <;> simp_all [Phase.permits, Phase.legalActions, Call.phases]

theorem Call.pending_not_mem_phases (c : Call) : Phase.pending ∉ c.phases := by
  cases c <;> simp [Call.phases]

theorem Call.unknown_not_mem_phases {c : Call} (hd : ∀ id, c ≠ .deleteCluster id) :
    Phase.unknown ∉ c.phases := by
  cases c <;> simp_all [Call.phases]

/-- The session holds what was last seen of the cluster, unless it has just had one made. -/
def Session.IsCurrent (s : Session σ) : Prop :=
  s.cluster = lastSighting s.calls ∨ s.phase = .pending

namespace Session
variable {s t : Session σ}

theorem IsCurrent.of_calls (h : s.IsCurrent) {e : Event σ} (hc : t.cluster = s.cluster)
    (hh : t.history = e :: s.history) (he : e.sighting = none) : t.IsCurrent := by
  have hphase : t.phase = s.phase := by rw [phase, hc, phase]
  unfold IsCurrent
  rwa [hc, hphase, calls_cons hh, lastSighting_concat, he, Option.none_or]

theorem IsCurrent.lookAtCluster (h : s.IsCurrent) (r : Reconciler σ) (id : String) :
    (r.lookAtCluster id s).IsCurrent := by
  cases ho : (r.perform (.getCluster id) s).1 with
  | ok info =>
    left
    rw [r.lookAtCluster_cluster ho, calls_cons (r.lookAtCluster_history id s), lastSighting_concat,
      ho]
    rfl
  | error e =>
    refine h.of_calls ?_ (r.lookAtCluster_history id s) (by rw [ho]; rfl)
    rw [Reconciler.lookAtCluster, ho]
    rfl

theorem IsCurrent.timely (h : s.IsCurrent) {c : Call} {info : Cluster.Info}
    (hc : s.cluster = some info) (hp : info.phase ∈ c.phases) : Timely s.calls c := by
  intro _ _
  refine ⟨info, ?_, hp⟩
  rcases h with h | h
  · rw [← h, hc]
  · rw [phase, hc] at h
    exact absurd (show info.phase = .pending from h ▸ rfl) fun hpend =>
      c.pending_not_mem_phases (hpend ▸ hp)

/-- A change that the noted phase permits follows on a sight in a phase for it. -/
theorem IsCurrent.timely_of_permits (h : s.IsCurrent) {c : Call} {a : Action}
    (ha : c.action? = some a) (hp : s.phase.permits a = true)
    (hd : ∀ id, c ≠ .deleteCluster id) : Timely s.calls c := by
  have hm := Call.mem_phases ha hp hd
  cases hc : s.cluster with
  | none =>
    rw [phase, hc] at hm
    exact absurd hm (Call.unknown_not_mem_phases hd)
  | some info =>
    refine h.timely hc ?_
    rwa [phase, hc] at hm

/-- The session is up to date, and so it was whenever a change was asked for. -/
structure InTime (s : Session σ) : Prop where
  current : s.IsCurrent
  timely : Obeys Timely s.calls

theorem InTime.start (world : σ) : InTime { world := world } where
  current := .inl rfl
  timely := obeys_nil

theorem InTime.of_calls (h : s.InTime) {e : Event σ} (hc : t.cluster = s.cluster)
    (hh : t.history = e :: s.history) (he : e.sighting = none) (ht : Timely s.calls e.call) :
    t.InTime where
  current := h.current.of_calls hc hh he
  timely := by
    rw [calls_cons hh, obeys_concat]
    exact ⟨h.timely, ht⟩

end Session

section
variable {r : Reconciler σ} {K : Call → Prop} {s t : Session σ}

theorem Event.sighting_of_action {e : Event σ} {a : Action} (h : e.call.action? = some a) :
    e.sighting = none := by
  rcases e with ⟨w, c, answer⟩
  cases c <;> first | rfl | cases h

theorem Step.inTime (h : Step r K s t) (hK : ∀ id, ¬K (.deleteCluster id)) (hs : s.InTime) :
    t.InTime := by
  have hd : ∀ {c}, K c → ∀ id, c ≠ .deleteCluster id := fun hk id he => hK id (he ▸ hk)
  cases h with
  | sleep d => exact ⟨hs.current, hs.timely⟩
  | lookAtCluster id _ hk hc =>
    refine ⟨hs.current.lookAtCluster r id, ?_⟩
    rw [Session.calls_cons (r.lookAtCluster_history id s), obeys_concat]
    exact ⟨hs.timely, timely_of_read rfl _⟩
  | lookAtLibraries id _ hk hc =>
    exact hs.of_calls (r.lookAtLibraries_cluster id s) (r.lookAtLibraries_history id s) rfl
      (timely_of_read rfl _)
  | attempt c a _ hk ha hp hc e he =>
    exact hs.of_calls rfl (r.perform_history c s) (Event.sighting_of_action ha)
      (hs.current.timely_of_permits ha hp (hd hk))
  | change c a _ hk ha hp hc reply ho =>
    exact hs.of_calls rfl (r.perform_history c s) (Event.sighting_of_action ha)
      (hs.current.timely_of_permits ha hp (hd hk))
  | refuse spec _ hk hc e he =>
    exact hs.of_calls rfl (r.perform_history _ s) rfl (timely_create spec _)
  | create spec _ hk hc id ho =>
    refine ⟨.inr rfl, ?_⟩
    have ht := hs.of_calls (t := (r.perform (.createCluster spec) s).2) rfl
      (r.perform_history _ s) rfl (timely_create spec _)
    exact ht.timely

theorem Steps.inTime (h : Steps r K s t) (hK : ∀ id, ¬K (.deleteCluster id)) (hs : s.InTime) :
    t.InTime := by
  induction h with
  | refl => exact hs
  | tail _ h ih => exact h.inTime hK ih

end

namespace Reconciler
variable {r : Reconciler σ} {s : Session σ} {id : String}

/-- A run that does not terminate clusters asks for changes in time. -/
theorem endsIn_inTime {m : Run σ α} {K : Call → Prop} (hm : MadeOf r K m)
    (hK : ∀ id, ¬K (.deleteCluster id)) (hs : s.InTime) : EndsIn m s Session.InTime :=
  (hm.endsIn s).imp fun _ h => h.inTime hK hs

theorem mutate_inTime {action : Action} (stage : Stage) {c : Call}
    (ha : c.action? = some action) (hs : s.InTime) (hc : Timely s.calls c) :
    EndsIn (r.mutate action stage c) s Session.InTime :=
  endsIn_mutate stage hs fun _ _ =>
    hs.of_calls rfl (r.perform_history c s) (Event.sighting_of_action ha) hc

theorem bringDown_inTime {info : Cluster.Info} (hs : s.InTime) (hc : s.cluster = some info)
    (hn : info.phase.isTransitional = false) :
    EndsIn (r.bringDown id info.phase) s Session.InTime := by
  unfold bringDown
  split_ifs with hp
  · exact ensures_pure hs
  · have ht : Timely s.calls (.deleteCluster id) := by
      refine hs.current.timely hc ?_
      cases hi : info.phase <;> simp_all [Phase.isTransitional, Call.phases]
    refine (mutate_inTime .delete rfl hs ht).bind fun _ t _ hx => ?_
    refine endsIn_inTime (r.madeOf_waitTerminated (rfl : Call.getCluster id = _)) ?_ hx
    exact fun i h => by cases h

theorem terminate_inTime (hs : s.InTime) :
    EndsIn (r.terminate id) s Session.InTime := by
  have hlooks := r.madeOf.readSettled id (rfl : Call.getCluster id = _)
  refine (endsIn_inTime hlooks (fun i h => by cases h) hs).bind fun info t hx ht => ?_
  obtain ⟨hc, hn⟩ := readSettled_eq_ok hx
  refine (bringDown_inTime ht hc hn).bind fun there u hu hut => ?_
  split_ifs with hthere
  · subst hthere
    have hend := bringDown_eq_ok (by rw [Session.phase, hc]; rfl) hu
    cases hcl : u.cluster with
    | none => simp [Session.phase, hcl] at hend
    | some i =>
      refine mutate_inTime .delete rfl hut (hut.current.timely hcl ?_)
      simpa [Session.phase, hcl, Call.phases] using hend
  · exact ensures_pure hut

theorem purge_inTime (hs : s.InTime) :
    EndsIn (r.purge id) s Session.InTime := by
  refine (terminate_inTime hs).tryCatch fun h t ht => ?_
  split_ifs
  · exact ensures_pure ht
  · exact ensures_throw ht

theorem carryOut_inTime (r : Reconciler σ) (task : Task) (world : σ) :
    (r.carryOut task world).session.InTime := by
  have hs := Session.InTime.start world
  refine carryOut_endsIn task (fun desired => ?_) (fun id desired => ?_) fun id => purge_inTime hs
  · refine endsIn_inTime (r.madeOf_create desired) (fun i => ?_) hs
    simp [Call.OfCreate, Call.OfLibraries]
  · exact endsIn_inTime (r.madeOf_update id desired) (fun i h => h) hs

/-- Why a task was not carried out: a rejection, an end of its own, or, for an update only, that the
cluster was found failed when it was inspected. -/
theorem carryOut_halted (r : Reconciler σ) (task : Task) (world : σ) {h : Halt}
    (hx : (r.carryOut task world).outcome = .error h) :
    h.Explained (r.carryOut task world).session ∨ ∃ desired id,
      task = .reconcile desired (some id) ∧ h.Refused id (r.carryOut task world).session ∧
        (exec (r.inspect id) { world := world }).1 = .error h := by
  cases task with
  | delete id => exact .inl (explained_purge.halted h _ (Prod.ext hx rfl))
  | reconcile desired existing =>
    cases existing with
    | none => exact .inl (explained_create.halted h _ (Prod.ext hx rfl))
    | some id =>
      rcases (explained_update rfl).halted h _ (Prod.ext hx rfl) with he | ⟨he, hi⟩
      · exact .inl he
      · exact .inr ⟨desired, id, rfl, he, congrArg Prod.fst hi⟩

/-- Every change of an existing cluster is asked for after the cluster was last seen in a phase for
it. A phase ends no run but an update that has seen its cluster fail and has made no other call. That
update ends while it inspects the cluster, so that no change which came to be asked for was ever
refused. -/
theorem carryOut_lawful (r : Reconciler σ) (task : Task) (world : σ) :
    let x := r.carryOut task world
    (∀ before e after, x.session.calls = before ++ e :: after → e.call.isMutation = true →
      (∀ spec, e.call ≠ .createCluster spec) →
        ∃ info, lastSighting before = some info ∧ info.phase ∈ e.call.phases) ∧
      ∀ stage id phase action,
        x.outcome = .error (.failed ⟨stage, .invalidPhase id phase action⟩) →
          (∃ desired, task = .reconcile desired (some id)) ∧ stage = .start ∧ phase = .error ∧
            action = .start ∧
            (∃ info, lastSighting x.session.calls = some info ∧ info.phase = .error) ∧
            (∀ e ∈ x.session.calls, e.call = .getCluster id) ∧
            (exec (r.inspect id) { world := world }).1 =
              .error (.failed ⟨.start, .invalidPhase id .error .start⟩) := by
  intro x
  have ht : x.session.InTime := r.carryOut_inTime task world
  refine ⟨ht.timely, fun stage id phase action hx => ?_⟩
  obtain he | ⟨desired, i, htask, he, hi⟩ := r.carryOut_halted task world hx
  · exact he.elim
  · cases he.eq
    refine ⟨⟨desired, htask⟩, rfl, rfl, rfl, ?_,
      fun e hm => he.looks e (Session.mem_calls.1 hm), hi⟩
    have hp : x.session.phase = .error := he.phase
    rcases ht.current with hc | hc
    · cases hcl : x.session.cluster with
      | none => simp [Session.phase, hcl] at hp
      | some info => exact ⟨info, by rw [← hc, hcl], by simpa [Session.phase, hcl] using hp⟩
    · rw [hp] at hc
      cases hc

theorem carryOut_lawful_sample :
    let task : Task := .reconcile sample (some "c")
    let x := (simulated {} 9).carryOut task (sampleWorld .terminated)
    let y := (simulated {} 9).carryOut task (sampleWorld .error)
    (∃ before e after, x.session.calls = before ++ e :: after ∧ e.call = .startCluster "c" ∧
      ∃ info, lastSighting before = some info ∧ info.phase = .terminated) ∧
      y.outcome = .error (.failed ⟨.start, .invalidPhase "c" .error .start⟩) ∧
      ∀ e ∈ y.session.calls, e.call = .getCluster "c" := by
  intro task x y
  have hstart : ∃ e ∈ x.session.calls, e.call = .startCluster "c" := by decide +kernel
  have hfailed : y.outcome = .error (.failed ⟨.start, .invalidPhase "c" .error .start⟩) := by
    decide +kernel
  obtain ⟨e, he, hcall⟩ := hstart
  obtain ⟨before, after, hsplit⟩ := List.append_of_mem he
  obtain ⟨htimely, -⟩ := (simulated {} 9).carryOut_lawful task (sampleWorld .terminated)
  obtain ⟨info, hl, hp⟩ := htimely before e after hsplit (by rw [hcall]; rfl) (by simp [hcall])
  obtain ⟨-, hrefused⟩ := (simulated {} 9).carryOut_lawful task (sampleWorld .error)
  refine ⟨⟨before, e, after, hsplit, hcall, info, hl, ?_⟩, hfailed, ?_⟩
  · simpa [hcall, Call.phases] using hp
  · exact (hrefused _ _ _ _ hfailed).2.2.2.2.2.1

end Reconciler
end ClusterReconciliation
