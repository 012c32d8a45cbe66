import ClusterReconciliation.Proofs.Traces

/-! What a session has noted at any time. The cluster and the libraries are as they were last
observed, and the actions are the changes that succeeded, in order. Only a cluster that has just
been made is noted before it is seen, and none is made but by the first call of a run. -/
namespace ClusterReconciliation
open Run
variable {σ α : Type}

namespace Event

/-- The id of the cluster that the call made. -/
def creation : Event σ → Option String
  | ⟨_, .createCluster _, .ok id⟩ => some id
  | _ => none

/-- What the call made known of the cluster. -/
def notice (e : Event σ) : Option Cluster.Info :=
  e.sighting.or (e.creation.map fun id => { id := id, phase := .pending })

/-- The change that the call made to an existing cluster. -/
def change : Event σ → Option Action
  | ⟨_, c, .ok _⟩ => c.action?
  | ⟨_, _, .error _⟩ => none

section Fields
variable {w : σ} {c : Call} {a : Action} {e : ClientError}

theorem notice_of_error : (Event.mk w c (.error e)).notice = none := by cases c <;> rfl

theorem report_of_error : (Event.mk w c (.error e)).report = none := by cases c <;> rfl

theorem notice_of_action {answer : Except ClientError c.Reply} (h : c.action? = some a) :
    (Event.mk w c answer).notice = none := by
  cases c <;> first | rfl | cases h

theorem report_of_action {answer : Except ClientError c.Reply} (h : c.action? = some a) :
    (Event.mk w c answer).report = none := by
  cases c <;> first | rfl | cases h

theorem creation_of_call {e : Event σ} (h : ∀ spec, e.call ≠ .createCluster spec) :
    e.creation = none := by
  rcases e with ⟨w, c, answer⟩
  cases c <;> first | rfl | exact absurd rfl (h _)

/-- No call both shows a cluster and makes one. -/
theorem sighting_or_creation (e : Event σ) : e.sighting = none ∨ e.creation = none := by
  rcases e with ⟨w, c, answer⟩
  cases c <;> first | exact .inl rfl | exact .inr rfl

end Fields
end Event

/-- The id of the cluster that was made. -/
def created (es : List (Event σ)) : Option String := es.findSome? Event.creation

theorem created_cons (e : Event σ) (es : List (Event σ)) :
    created (e :: es) = e.creation.or (created es) := by
  rw [created, List.findSome?_cons]
  cases e.creation <;> rfl

/-- If only the first call may have made a cluster, then whatever was seen of it was seen later. -/
theorem getLast?_notice {es : List (Event σ)} (h : ∀ e ∈ es.tail, e.creation = none) :
    (es.filterMap Event.notice).getLast? = (lastSighting es).or
      ((created es).map fun id => { id := id, phase := .pending }) := by
  cases es with
  | nil => rfl
  | cons e rest =>
    have hsame : rest.filterMap Event.notice = rest.filterMap Event.sighting :=
      List.filterMap_congr fun f hf => by simp [Event.notice, h f hf]
    have hnone : created rest = none := List.findSome?_eq_none_iff.2 h
    rw [lastSighting, created_cons, hnone, Option.or_none, List.filterMap_cons,
      List.filterMap_cons, hsame]
    rcases e.sighting_or_creation with hs | hc
    · cases hc : e.creation <;> simp [Event.notice, hs, hc, List.getLast?_cons]
    · cases hs : e.sighting <;> simp [Event.notice, hs, hc]

namespace Session
variable {s t : Session σ}

/-- The notes of a session are what its calls have shown and done. -/
structure Recorded (s : Session σ) : Prop where
  cluster : s.cluster = (s.calls.filterMap Event.notice).getLast?
  libraries : s.libraries = (lastReport s.calls).getD []
  actions : s.actions = s.calls.filterMap Event.change

theorem Recorded.start (world : σ) : Recorded { world := world } := ⟨rfl, rfl, rfl⟩

/-- One more call is noted by what it has shown and done. -/
theorem Recorded.concat (h : s.Recorded) {e : Event σ} (hh : t.history = e :: s.history)
    (hc : t.cluster = e.notice.or s.cluster) (hl : t.libraries = e.report.getD s.libraries)
    (ha : t.actions = s.actions ++ e.change.toList) : t.Recorded where
  cluster := by
    rw [hc, h.cluster, calls_cons hh]
    cases hn : e.notice <;> simp [hn]
  libraries := by
    rw [hl, h.libraries, calls_cons hh, lastReport_concat]
    cases e.report <;> rfl
  actions := by
    rw [ha, h.actions, calls_cons hh, List.filterMap_append]
    cases hx : e.change <;> simp [hx]

end Session

section
variable {r : Reconciler σ} {K : Call → Prop} {s t : Session σ}

theorem Step.recorded (h : Step r K s t) (hs : s.Recorded) : t.Recorded := by
  cases h with
  | sleep d => exact ⟨hs.cluster, hs.libraries, hs.actions⟩
  | lookAtCluster id _ hk hc =>
    refine hs.concat (r.lookAtCluster_history id s) ?_ (by simp [Event.report]) ?_
    · cases ho : (r.perform (.getCluster id) s).1 with
      | ok info => exact r.lookAtCluster_cluster ho
      | error e => rw [Reconciler.lookAtCluster, ho, Event.notice_of_error]; rfl
    · cases (r.perform (.getCluster id) s).1 <;> simp [Event.change, Call.action?]
  | lookAtLibraries id _ hk hc =>
    refine hs.concat (r.lookAtLibraries_history id s)
      (r.lookAtLibraries_cluster id s) ?_ ?_
    · cases ho : (r.perform (.libraryStatuses id) s).1 with
      | ok observed => exact r.lookAtLibraries_libraries ho
      | error e => rw [Reconciler.lookAtLibraries, ho, Event.report_of_error]; rfl
    · cases (r.perform (.libraryStatuses id) s).1 <;> simp [Event.change, Call.action?]
  | attempt c a _ hk ha hp hc e he =>
    refine hs.concat (r.perform_history c s) ?_ ?_ ?_
    · rw [he, Event.notice_of_error]; rfl
    · rw [he, Event.report_of_error]; rfl
    · rw [he]; simp [Event.change]
  | change c a _ hk ha hp hc reply ho =>
    refine hs.concat (r.perform_history c s) ?_ ?_ ?_
    · rw [Event.notice_of_action ha]; rfl
    · rw [Event.report_of_action ha]; rfl
    · rw [ho]; simp [Event.change, ha]
  | refuse spec _ hk hc e he =>
    refine hs.concat (r.perform_history _ s) ?_ ?_ ?_
    · rw [he, Event.notice_of_error]; rfl
    · rfl
    · rw [he]; simp [Event.change]
  | create spec _ hk hc id ho =>
    refine hs.concat (r.perform_history _ s) ?_ rfl ?_
    · rw [ho]; rfl
    · rw [ho]; simp [Event.change, Call.action?]

theorem Steps.recorded (h : Steps r K s t) (hs : s.Recorded) : t.Recorded := by
  induction h with
  | refl => exact hs
  | tail _ h ih => exact h.recorded ih

end

namespace Reconciler
variable (r : Reconciler σ)

section Creation

/-- A creation makes no call, or its first call makes a cluster and the others follow on that. -/
theorem exec_create_cases (desired : Desired) (s : Session σ) :
    (exec (r.create desired) s).2 = s ∨
    (∃ e, (r.perform (.createCluster desired.cluster) s).1 = .error e ∧
      (exec (r.create desired) s).2 = (r.perform (.createCluster desired.cluster) s).2) ∨
    ∃ id, (r.perform (.createCluster desired.cluster) s).1 = .ok id ∧
      exec (r.create desired) s = exec (r.equip id desired.libraries)
        { (r.perform (.createCluster desired.cluster) s).2 with
          cluster := some { id := id, phase := .pending } } := by
  rw [create_eq, exec_bind]
  rcases hv : exec (validate desired : Run σ Unit) s with ⟨e | u, t⟩
  · left
    unfold validate at hv
    split at hv <;> cases hv
    rfl
  · obtain ⟨-, rfl⟩ := validate_eq_ok hv
    have hl := r.exec_launch desired.cluster t
    simp only [exec_bind]
    split_ifs at hl with hc
    · exact .inl (by rw [hl])
    · rcases hp : r.perform (.createCluster desired.cluster) t with ⟨e | id, u⟩ <;> rw [hp] at hl
      · exact .inr (.inl ⟨e, rfl, by rw [hl]⟩)
      · exact .inr (.inr ⟨id, rfl, by rw [hl]⟩)

/-- All calls after the first one of a creation are about the cluster that was made. -/
theorem create_calls (desired : Desired) (world : σ) :
    (exec (r.create desired) { world := world }).2.calls = [] ∨
    ∃ e rest, (exec (r.create desired) { world := world }).2.calls = e :: rest ∧
      e.call = .createCluster desired.cluster ∧
      ∀ f ∈ rest, ∃ id, e.creation = some id ∧
        (.getCluster id = f.call ∨ f.call.OfLibraries id) := by
  rcases r.exec_create_cases desired { world := world } with
    hx | ⟨e, -, hx⟩ | ⟨id, ho, hx⟩ <;> rw [hx]
  · exact .inl rfl
  · exact .inr ⟨_, [], rfl, rfl, by simp⟩
  · have hequip : MadeOf r (fun c => .getCluster id = c ∨ c.OfLibraries id)
        (r.equip id desired.libraries) :=
      r.madeOf.equip id desired.libraries (.inl rfl) fun _ => .inr
    obtain ⟨es, hes, hk⟩ := (hequip _).grows
    refine .inr ⟨_, es.reverse, by rw [Session.calls, hes, perform_history]; simp; rfl, rfl, ?_⟩
    intro f hf
    exact ⟨id, by rw [ho]; rfl, hk f (List.mem_reverse.1 hf)⟩

end Creation

/-- No call of a run but the first one makes a cluster. -/
theorem carryOut_creation (task : Task) (world : σ) :
    ∀ e ∈ (r.carryOut task world).session.calls.tail, e.creation = none := by
  have hnone : ∀ {K : Call → Prop} {m : Run σ Unit}, MadeOf r K m →
      (∀ spec, ¬K (.createCluster spec)) →
      EndsIn m { world := world } fun t => ∀ e ∈ t.calls.tail, e.creation = none := by
    refine fun hm hK => (hm.endsIn _).imp fun t ht e he => ?_
    refine Event.creation_of_call fun spec hspec => ?_
    obtain ⟨es, hes, hk⟩ := ht.grows
    have hmem : e ∈ es := by simpa [Session.calls, hes] using List.mem_of_mem_tail he
    exact hK spec (hspec ▸ hk e hmem)
  refine carryOut_endsIn task (fun desired => .of_exec ?_)
    (fun id desired => hnone (r.madeOf_update id desired) fun _ h => h)
    fun id => hnone (r.madeOf_purge id) fun _ h => h
  rcases r.create_calls desired world with h | ⟨e, rest, h, -, hrest⟩ <;> rw [h]
  · simp
  · intro f hf
    obtain ⟨id, -, hcall⟩ := hrest f hf
    refine Event.creation_of_call fun spec hspec => ?_
    rw [hspec] at hcall
    rcases hcall with h | h
    · cases h
    · exact h

theorem carryOut_recorded (task : Task) (world : σ) :
    (r.carryOut task world).session.Recorded := by
  have hs := Session.Recorded.start world
  have hsteps : ∀ {K : Call → Prop} {m : Run σ Unit}, MadeOf r K m →
      EndsIn m { world := world } Session.Recorded :=
    fun hm => (hm.endsIn _).imp fun _ h => h.recorded hs
  exact carryOut_endsIn task (fun desired => hsteps (r.madeOf_create desired))
    (fun id desired => hsteps (r.madeOf_update id desired)) fun id => hsteps (r.madeOf_purge id)

/-- However a run ends, its result holds what was last seen of the cluster, what was last reported
of the libraries, and the changes that succeeded, in order. A cluster that has been made and not
been seen yet is held as pending, with nothing but its id. -/
theorem carryOut_noted (r : Reconciler σ) (task : Task) (world : σ) :
    let s := (r.carryOut task world).session
    s.cluster = (lastSighting s.calls).or
        ((created s.calls).map fun id => { id := id, phase := .pending }) ∧
      s.libraries = (lastReport s.calls).getD [] ∧
      s.actions = s.calls.filterMap Event.change := by
  intro s
  have hs : s.Recorded := r.carryOut_recorded task world
  refine ⟨?_, hs.libraries, hs.actions⟩
  rw [hs.cluster, getLast?_notice (r.carryOut_creation task world)]

end Reconciler
end ClusterReconciliation
