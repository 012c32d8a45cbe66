import ClusterReconciliation.Proofs.Cancellation
import ClusterReconciliation.Proofs.Deletion

/-! What a wait does to a deletion. A deletion waits for a cluster in transition to settle. From the
phase that is found it goes on as if it had been found at once, but for the unknown one: a cluster
that is found so at once is terminated, and one that is found so by the wait is waited for on. -/
namespace ClusterReconciliation
open Run
variable {σ τ α β γ : Type}

/-- States of two worlds go together: the first clock is ahead by a fixed time, and what is called and
slept leads to states that go together, with the same answers. -/
structure World.Lockstep (w : World σ) (v : World τ) (lag : Duration) (R : σ → τ → Prop) : Prop where
  now : ∀ s t, R s t → w.now s = v.now t + lag
  isCancelled : ∀ s t, R s t → v.isCancelled t = w.isCancelled s
  sleep : ∀ d s t, R s t → R (w.sleep d s) (v.sleep d t)
  answer : ∀ c s t, R s t → w.isCancelled s = false →
    (v.answer c t).1 = (w.answer c s).1 ∧ R (w.answer c s).2 (v.answer c t).2

/-- Sessions that have asked for the same changes and go by the same phase, in worlds that go
together. They may have looked differently often. -/
structure Session.InStep (R : σ → τ → Prop) (s : Session σ) (t : Session τ) : Prop where
  world : R s.world t.world
  phase : t.phase = s.phase
  actions : t.actions = s.actions
  requests : requests t.calls = requests s.calls

namespace Session.InStep
variable {R : σ → τ → Prop} {s : Session σ} {t : Session τ}

theorem noteCluster (h : s.InStep R t) (answer : Except ClientError Cluster.Info) :
    (s.noteCluster answer).InStep R (t.noteCluster answer) := by
  cases answer with
  | ok info => exact ⟨h.world, rfl, h.actions, h.requests⟩
  | error e => exact h

theorem noteLibraries (h : s.InStep R t) (answer : Except ClientError (List LibraryStatus)) :
    (s.noteLibraries answer).InStep R (t.noteLibraries answer) := by
  cases answer with
  | ok observed => exact ⟨h.world, h.phase, h.actions, h.requests⟩
  | error e => exact h

end Session.InStep

/-- Reconcilers of the same patience in worlds that go together. -/
structure Reconciler.Lockstep (r : Reconciler σ) (r' : Reconciler τ) (lag : Duration)
    (R : σ → τ → Prop) : Prop where
  world : r.world.Lockstep r'.world lag R
  options : r'.options = r.options
  fuel : r'.fuel = r.fuel

namespace Reconciler
variable {r : Reconciler σ} {r' : Reconciler τ} {lag : Duration} {R : σ → τ → Prop} {id : String}

section Lockstep
variable {s : Session σ} {s' : Session τ}

theorem Lockstep.perform (h : r.Lockstep r' lag R) (hs : s.InStep R s')
    (hc : r.world.isCancelled s.world = false) (c : Call) :
    (r'.perform c s').1 = (r.perform c s).1 ∧ (r.perform c s).2.InStep R (r'.perform c s').2 := by
  obtain ⟨ha, hw⟩ := h.world.answer c s.world s'.world hs.world hc
  refine ⟨ha, hw, hs.phase, hs.actions, ?_⟩
  rw [Session.calls_cons (r.perform_history c s), Session.calls_cons (r'.perform_history c s'),
    requests_append, requests_append, hs.requests]
  rfl

/-- Such reconcilers are in tandem, and no cancellation cuts only one of them short. -/
theorem Lockstep.tandem (h : r.Lockstep r' lag R) :
    r.Tandem r' lag (Session.InStep R) fun _ => False where
  now _ _ hs := h.world.now _ _ hs.world
  isCancelled _ _ hs := .inl (h.world.isCancelled _ _ hs.world)
  sleep d _ _ hs := .inl ⟨h.world.sleep d _ _ hs.world, hs.phase, hs.actions, hs.requests⟩
  cancelled _ := False.elim
  options := h.options
  fuel := h.fuel
  phase _ _ hs := hs.phase
  actions _ _ hs := hs.actions
  perform c _ _ hs hc := h.perform hs hc c
  noteCluster answer _ _ hs := hs.noteCluster answer
  noteLibraries answer _ _ hs := hs.noteLibraries answer
  noteAction action _ _ hs :=
    ⟨hs.world, hs.phase, congrArg (· ++ [action]) hs.actions, hs.requests⟩

/-- What a deletion does to a cluster in a phase that it does not wait out. -/
def dispose (r : Reconciler σ) (id : String) (phase : Phase) : Run σ Unit :=
  tryCatch (do
      if ← r.bringDown id phase then
        r.mutate .permanentDelete .delete (.permanentDeleteCluster id))
    fun h => if isGone h then pure () else throw h

theorem Lockstep.dispose (h : r.Lockstep r' lag R) (hs : s.InStep R s') (id : String)
    (phase : Phase) : ∃ x u u', exec (r.dispose id phase) s = (x, u) ∧
      exec (r'.dispose id phase) s' = (x, u') ∧ u.InStep R u' := by
  have disposed : Agree (Session.InStep R) (fun _ => False) (r.dispose id phase)
      (r'.dispose id phase) :=
    (h.tandem.congruence.bringDownAndPurge id (h.tandem.waitTerminated id) (fun _ _ => trivial)
      phase).orGone
  rcases disposed s s' hs with ⟨-, -, -, -, hcut⟩ | hends
  · exact hcut.elim
  · exact hends

end Lockstep

end Reconciler

/-- The event shows the cluster in such a phase. -/
def Event.Shows (e : Event σ) (p : Phase) : Prop := ∃ info, e.sighting = some info ∧ info.phase = p

/-- Events that show the cluster in transition, if they show it. -/
def InTransition (es : List (Event σ)) : Prop :=
  ∀ e ∈ es, ∀ info, e.sighting = some info → info.phase.isTransitional = true

theorem Phase.isSettling_of_isTransitional {p : Phase} (h : p.isTransitional = true) :
    p.isSettling = true := by simp [isSettling, h]

theorem Phase.isTransitional_of_not_isSettling {p : Phase} (h : p.isSettling = false) :
    p.isTransitional = false := by
  cases p <;> first | rfl | cases h

theorem Phase.eq_unknown {p : Phase} (hs : p.isSettling = true) (ht : p.isTransitional = false) :
    p = .unknown := by simpa [isSettling, ht] using hs

/-- Of two members of a list the one that the other is not before. -/
theorem mem_of_append_cons {before after between more : List α} {c f : α}
    (h : before ++ c :: after = between ++ f :: more) (hc : c ∉ between) (hne : c ≠ f) :
    f ∈ before := by
  rcases List.append_eq_append_iff.1 h with ⟨ls, rfl, hl⟩ | ⟨ls, rfl, hl⟩
  · cases ls with
    | nil => exact absurd (List.cons.inj hl).1 hne
    | cons x xs => exact absurd (by simp [(List.cons.inj hl).1]) hc
  · cases ls with
    | nil => exact absurd (List.cons.inj hl).1.symm hne
    | cons x xs => simp [(List.cons.inj hl).1]

namespace Session
variable {s t : Session σ} {id : String} {e : Event σ}

/-- So far there have been only looks. The first one has shown the cluster in transition, if it has
shown it, and none has shown it settled. -/
structure Unsettled (id : String) (s : Session σ) : Prop where
  actions : s.actions = []
  looks : ∀ e ∈ s.calls, e.call = .getCluster id
  settling : ∀ e ∈ s.calls, ∀ info, e.sighting = some info → info.phase.isSettling = true
  first : ∀ e, s.calls.head? = some e → ∀ info, e.sighting = some info →
    info.phase.isTransitional = true

theorem unsettled_start (id : String) (world : σ) : Unsettled id { world := world } where
  actions := rfl
  looks _ he := absurd he List.not_mem_nil
  settling _ he := absurd he List.not_mem_nil
  first _ he := by cases he

theorem Unsettled.concat (h : s.Unsettled id) (hh : t.history = e :: s.history)
    (ha : t.actions = s.actions) (he : e.call = .getCluster id)
    (hp : ∀ info, e.sighting = some info → info.phase.isSettling = true)
    (hfirst : s.calls = [] → ∀ info, e.sighting = some info → info.phase.isTransitional = true) :
    t.Unsettled id where
  actions := ha.trans h.actions
  looks := by
    rw [calls_cons hh, List.forall_mem_append]
    exact ⟨h.looks, by simpa using he⟩
  settling := by
    rw [calls_cons hh, List.forall_mem_append]
    exact ⟨h.settling, by simpa using hp⟩
  first := by
    rw [calls_cons hh]
    cases hs : s.calls with
    | nil =>
      rintro x ⟨⟩
      exact hfirst hs
    | cons y ys =>
      intro x hx
      exact h.first x (by rw [hs]; exact hx)

/-- A look that fails shows nothing. -/
theorem Unsettled.concat_error (h : s.Unsettled id) {w : σ} {c : ClientError}
    (hh : t.history = ⟨w, .getCluster id, .error c⟩ :: s.history) (ha : t.actions = s.actions) :
    t.Unsettled id :=
  h.concat hh ha rfl (fun _ hi => by cases hi) fun _ _ hi => by cases hi

theorem Unsettled.requests (h : s.Unsettled id) : requests s.calls = [] :=
  requests_eq_nil.2 fun e he => by rw [h.looks e he]; rfl

end Session

namespace Reconciler
variable {r : Reconciler σ} {s t : Session σ} {id : String}

theorem unsettled_of_error (hs : s.Unsettled id) {e : ClientError}
    (he : (r.perform (.getCluster id) s).1 = .error e)
    (hh : t.history = (r.perform (.getCluster id) s).2.history) (ha : t.actions = s.actions) :
    t.Unsettled id := by
  rw [perform_history, he] at hh
  exact hs.concat_error hh ha

theorem unsettled_of_ok (hs : s.Unsettled id) {info : Cluster.Info}
    (ho : (r.perform (.getCluster id) s).1 = .ok info) (hp : info.phase.isSettling = true)
    (hfirst : s.calls = [] → info.phase.isTransitional = true) :
    (r.lookAtCluster id s).Unsettled id := by
  refine hs.concat (r.lookAtCluster_history id s) (r.lookAtCluster_actions id s) rfl ?_ ?_ <;>
    rw [ho]
  · rintro _ ⟨⟩
    exact hp
  · rintro hnil _ ⟨⟩
    exact hfirst hnil

/-- The wait for a cluster that was seen in transition. -/
theorem keeps_unsettled_after (r : Reconciler σ) (id what : String) :
    (r.watchCluster id what judgeStable).Keeps r.clock
      fun s => s.Unsettled id ∧ s.calls ≠ [] where
  sleep _ _ hs := ⟨⟨hs.1.actions, hs.1.looks, hs.1.settling, hs.1.first⟩, hs.2⟩
  tolerate e s hs _ he _ := by
    refine ⟨unsettled_of_error hs.1 he rfl rfl, ?_⟩
    change (r.perform (.getCluster id) s).2.calls ≠ []
    simp [Session.calls]
  again s hs _ ha := by
    have hj : judgeStable (r.perform (.getCluster id) s).1 = .ok .again := ha
    change (r.lookAtCluster id s).Unsettled id ∧ (r.lookAtCluster id s).calls ≠ []
    cases ho : (r.perform (.getCluster id) s).1 with
    | error e => simp [ho, judgeStable] at hj
    | ok info =>
      have hp : info.phase.isSettling = true := by
        cases hp : info.phase.isSettling <;> simp [ho, judgeStable, hp] at hj ⊢
      exact ⟨unsettled_of_ok hs.1 ho hp fun hnil => absurd hnil hs.2, by simp [Session.calls]⟩

/-- The reading of a deletion ends with the first phase that it finds and does not wait out. The
unknown phase is one only if nothing was seen before. -/
theorem readSettled_finds (r : Reconciler σ) (id : String) (world : σ) :
    Ensures (r.readSettled id) { world := world }
      (fun info t => ∃ u, u.Unsettled id ∧ (r.perform (.getCluster id) u).1 = .ok info ∧
        info.phase.isTransitional = false ∧ (info.phase = .unknown → u.calls = []) ∧
        t = r.lookAtCluster id u)
      fun _ t => t.Unsettled id := by
  have hstart := Session.unsettled_start id world
  have hfetch : Ensures (r.fetchCluster .delete id) { world := world }
      (fun info t => (r.perform (.getCluster id) { world := world }).1 = .ok info ∧
        t = r.lookAtCluster id { world := world }) fun _ t => t.Unsettled id := by
    refine ⟨fun info t hx => (r.fetchCluster_eq_ok hx).2, fun h t hx => ?_⟩
    rw [exec_fetchCluster] at hx
    split_ifs at hx
    · cases hx
      exact hstart
    · cases he : (r.perform (.getCluster id) { world := world }).1 <;> rw [he] at hx <;> cases hx
      exact unsettled_of_error hstart he (by simp) (by simp)
  refine hfetch.bind fun info t _ ht => ?_
  obtain ⟨ho, rfl⟩ := ht
  split_ifs with hp
  · have hlook : (r.lookAtCluster id { world := world }).Unsettled id ∧
        (r.lookAtCluster id { world := world }).calls ≠ [] :=
      ⟨unsettled_of_ok hstart ho (Phase.isSettling_of_isTransitional hp) fun _ => hp,
        by simp [Session.calls]⟩
    constructor
    · intro settled u hx
      obtain ⟨v, hv, -, hi, hn, rfl⟩ :=
        waitStable_eq_ok (r.keeps_unsettled_after id) hlook hx
      refine ⟨v, hv.1, hi, Phase.isTransitional_of_not_isSettling hn, fun hu => ?_, rfl⟩
      rw [hu] at hn
      cases hn
    · refine (halts_await .delete (r.keeps_unsettled_after id _) hlook (fun u e t hu hl => ?_)
        (fun e t ht _ => ht.1) fun t ht => ht.1).halted
      obtain ⟨c, ha, -⟩ := judgeStable_eq_error (congrArg Prod.fst hl)
      have ht : t = r.lookAtCluster id u := (congrArg Prod.snd hl).symm
      exact unsettled_of_error hu.1 ha (by simp [ht]) (by simp [ht])
  · exact ensures_pure ⟨_, hstart, ho, by simpa using hp, fun _ => rfl, rfl⟩

/-- A deletion reads, and disposes of what it has found. -/
theorem exec_purge (r : Reconciler σ) (id : String) (s : Session σ) :
    exec (r.purge id) s =
      match exec (r.readSettled id) s with
      | (.ok info, t) => exec (r.dispose id info.phase) t
      | (.error h, t) => (if isGone h then .ok () else .error h, t) := by
  rw [purge, exec_tryCatch, terminate, exec_bind]
  rcases exec (r.readSettled id) s with ⟨h | info, t⟩
  · dsimp only
    split_ifs <;> rfl
  · exact (exec_tryCatch _ _ t).symm

theorem madeOf_dispose (r : Reconciler σ) (id : String) (phase : Phase) :
    MadeOf r (·.OfDelete id) (r.dispose id phase) := by
  have hwait : MadeOf r (·.OfDelete id) (r.waitTerminated id) := r.madeOf_waitTerminated rfl
  exact (r.madeOf.bringDownAndPurge id hwait (fun _ h => h) phase).orGone

/-- A deletion that has found the cluster in a phase that it does not wait out. -/
structure Finds (r : Reconciler σ) (id : String) (world : σ) (info : Cluster.Info)
    (u : Session σ) (more : List (Event σ)) : Prop where
  unsettled : u.Unsettled id
  found : (r.perform (.getCluster id) u).1 = .ok info
  notTransitional : info.phase.isTransitional = false
  unknown : info.phase = .unknown → u.calls = []
  outcome : (r.delete id world).outcome =
    (exec (r.dispose id info.phase) (r.lookAtCluster id u)).1
  session : (r.delete id world).session =
    (exec (r.dispose id info.phase) (r.lookAtCluster id u)).2
  calls : (r.delete id world).session.calls =
    u.calls ++ ⟨u.world, .getCluster id, .ok info⟩ :: more

theorem delete_finds (r : Reconciler σ) (id : String) (world : σ) :
    (r.delete id world).session.Unsettled id ∨
      ∃ info u more, r.Finds id world info u more := by
  have hfinds := r.readSettled_finds id world
  have hx := r.exec_purge id { world := world }
  have ho : (r.delete id world).outcome = (exec (r.purge id) { world := world }).1 := rfl
  have hs : (r.delete id world).session = (exec (r.purge id) { world := world }).2 := rfl
  rcases hr : exec (r.readSettled id) { world := world } with ⟨h | info, t⟩ <;>
    rw [hr] at hx <;> rw [hx] at ho hs
  · exact .inl (hs ▸ hfinds.halted h t hr)
  · obtain ⟨u, hu, hi, hp, hk, rfl⟩ := hfinds.ok info t hr
    have hgrows := (r.madeOf_dispose id info.phase (r.lookAtCluster id u)).grows
    obtain ⟨es, hes, -⟩ := hgrows
    refine .inr ⟨info, u, es.reverse, hu, hi, hp, hk, ho, hs, ?_⟩
    rw [hs, Session.calls_eq hes, Session.calls_cons (r.lookAtCluster_history id u), hi,
      List.append_assoc]
    rfl

section
variable {world : σ} {info : Cluster.Info} {u : Session σ} {more looks rest : List (Event σ)}
  {e : Event σ} {p : Phase}

theorem Finds.isSettling_eq_false (h : r.Finds id world info u more) (hu : u.calls ≠ []) :
    info.phase.isSettling = false := by
  cases hp : info.phase.isSettling with
  | false => rfl
  | true => exact absurd (h.unknown (Phase.eq_unknown hp h.notTransitional)) hu

/-- As long as no settled cluster was seen, a phase that is not one of transition is the unknown one,
and it was not seen at once. -/
theorem unsettled_shows (hs : s.Unsettled id) (hcalls : s.calls = looks ++ e :: rest)
    (he : e.Shows p) (hp : p.isTransitional = false) : p = .unknown ∧ looks ≠ [] := by
  obtain ⟨info, hi, rfl⟩ := he
  have hmem : e ∈ s.calls := by simp [hcalls]
  refine ⟨Phase.eq_unknown (hs.settling e hmem info hi) hp, ?_⟩
  rintro rfl
  rw [hs.first e (by simp [hcalls]) info hi] at hp
  cases hp

/-- The phase that a deletion goes by is found by the first look that shows one out of transition,
but for the unknown one, or it is found later. -/
theorem Finds.split (h : r.Finds id world info u more)
    (hcalls : (r.delete id world).session.calls = looks ++ e :: rest) (hlooks : InTransition looks)
    (he : e.Shows p) (hp : p.isTransitional = false) :
    (u.calls = looks ∧ e = ⟨u.world, .getCluster id, .ok info⟩ ∧ rest = more) ∨
      p = .unknown ∧ looks ≠ [] ∧ ∃ between, u.calls = looks ++ e :: between ∧
        rest = between ++ ⟨u.world, .getCluster id, .ok info⟩ :: more := by
  rcases List.append_eq_append_iff.1 (h.calls.symm.trans hcalls) with
    ⟨looks', rfl, hrest⟩ | ⟨between, hu, hrest⟩
  · cases looks' with
    | nil =>
      cases hrest
      exact .inl ⟨(List.append_nil _).symm, rfl, rfl⟩
    | cons x xs =>
      -- The deletion would have gone by an earlier look.
      cases hrest
      have ht := hlooks ⟨u.world, .getCluster id, .ok info⟩ (by simp) info rfl
      rw [h.notTransitional] at ht
      cases ht
  · cases between with
    | nil =>
      cases hrest
      exact .inl ⟨by simpa using hu, rfl, rfl⟩
    | cons x xs =>
      cases hrest
      obtain ⟨hp, hne⟩ := unsettled_shows h.unsettled hu he hp
      exact .inr ⟨hp, hne, xs, hu, rfl⟩

/-- What a deletion does from the first phase that it sees out of transition. -/
theorem delete_at_phase
    (hcalls : (r.delete id world).session.calls = looks ++ e :: rest) (hlooks : InTransition looks)
    (he : e.Shows p) (hp : p.isTransitional = false) (hgoes : p ≠ .unknown ∨ looks = []) :
    ∃ t : Session σ, t.world = r.world.after e ∧ t.phase = p ∧ t.actions = [] ∧
      requests t.calls = [] ∧ t.calls = looks ++ [e] ∧
      (r.delete id world).outcome = (exec (r.dispose id p) t).1 ∧
      (r.delete id world).session = (exec (r.dispose id p) t).2 := by
  have hnot : ¬(p = .unknown ∧ looks ≠ []) := by
    rintro ⟨hu, hne⟩
    rcases hgoes with h | h
    · exact h hu
    · exact hne h
  rcases r.delete_finds id world with hs | ⟨info, u, more, h⟩
  · exact absurd (unsettled_shows hs hcalls he hp) hnot
  · rcases h.split hcalls hlooks he hp with ⟨rfl, rfl, rfl⟩ | ⟨hu, hne, -⟩
    · obtain ⟨i, hi, rfl⟩ := he
      cases hi
      have hl := Session.calls_cons (r.lookAtCluster_history id u)
      rw [h.found] at hl
      refine ⟨r.lookAtCluster id u, r.lookAtCluster_world id u, ?_, ?_, ?_, hl, h.outcome, h.session⟩
      · rw [Session.phase, r.lookAtCluster_cluster h.found]
        rfl
      · rw [r.lookAtCluster_actions, h.unsettled.actions]
      · rw [hl, requests_append, h.unsettled.requests]
        rfl
    · exact absurd ⟨hu, hne⟩ hnot

/-- After a cluster in transition was seen in the unknown phase no change is asked for until it is
seen settled. -/
theorem delete_after_unknown
    (hcalls : (r.delete id world).session.calls = looks ++ e :: rest) (hlooks : InTransition looks)
    (he : e.Shows .unknown) (hne : looks ≠ []) {before after : List (Event σ)} {c : Event σ}
    (hrest : rest = before ++ c :: after) (hc : c.call.isMutation = true) :
    ∃ l ∈ before, ∃ p, l.Shows p ∧ p.isSettling = false := by
  have hlook : c.call ≠ .getCluster id := by
    intro h
    rw [h] at hc
    cases hc
  rcases r.delete_finds id world with hs | ⟨info, u, more, h⟩
  · exact absurd (hs.looks c (by simp [hcalls, hrest])) hlook
  · rcases h.split hcalls hlooks he rfl with ⟨rfl, rfl, -⟩ | ⟨-, -, between, hu, hfound⟩
    · obtain ⟨i, hi, hp⟩ := he
      cases hi
      exact absurd (h.unknown hp) hne
    · have hsettled : info.phase.isSettling = false := h.isSettling_eq_false (by simp [hu])
      have hbetween : c ∉ between := fun hmem => hlook (h.unsettled.looks c (by simp [hu, hmem]))
      have hmem := mem_of_append_cons (hrest.symm.trans hfound) hbetween fun heq =>
        hlook (congrArg Event.call heq)
      exact ⟨_, hmem, info.phase, ⟨info, rfl, rfl⟩, hsettled⟩

end

/-- A phase that is found unknown lets the cluster be terminated next. -/
theorem dispose_unknown_endsIn (id : String) (hp : s.phase = .unknown)
    (hc : r.world.isCancelled s.world = false) :
    EndsIn (r.dispose id .unknown) s
      ((r.perform (.deleteCluster id) s).2.Grows (·.call.OfDelete id)) := by
  have grows : ∀ {β : Type} {m : Run σ β} {u t : Session σ}, MadeOf r (·.OfDelete id) m →
      u.Grows (·.call.OfDelete id) t → EndsIn m t (u.Grows (·.call.OfDelete id)) :=
    fun hm ht => (hm.endsIn _).imp fun _ hv => ht.trans hv.grows
  have terminated : EndsIn (r.mutate .delete .delete (.deleteCluster id)) s
      ((r.perform (.deleteCluster id) s).2.Grows (·.call.OfDelete id)) := by
    refine .of_exec ?_
    rcases r.exec_mutate_cases .delete .delete (.deleteCluster id) s with
      ⟨hn, -⟩ | ⟨-, hn, -⟩ | ⟨-, -, ⟨e, t, ht, hx⟩ | ⟨reply, t, ht, hx⟩⟩
    · rw [hp] at hn
      cases hn
    · rw [hc] at hn
      cases hn
    · rw [hx, ht]
      exact .refl t
    · rw [hx, ht]
      exact ⟨[], rfl, by simp⟩
  have down : EndsIn (r.bringDown id .unknown) s
      ((r.perform (.deleteCluster id) s).2.Grows (·.call.OfDelete id)) :=
    terminated.bind fun _ t _ ht => grows (r.madeOf_waitTerminated rfl) ht
  refine (down.bind fun there t _ ht => grows (.ite ?_ (madeOf_pure _)) ht).tryCatch
    fun h t ht => grows (.ite (madeOf_pure _) (madeOf_throw h)) ht
  exact r.madeOf_mutate .delete (c := .permanentDeleteCluster id) rfl rfl

/-- What is found in the unknown phase is terminated next, unless the deletion is cancelled. -/
theorem dispose_unknown (r : Reconciler σ) (id : String) (hp : s.phase = .unknown)
    (hc : r.world.isCancelled s.world = false) :
    ∃ answer more, (exec (r.dispose id .unknown) s).2.calls =
      s.calls ++ ⟨s.world, .deleteCluster id, answer⟩ :: more := by
  obtain ⟨es, hes, -⟩ := (dispose_unknown_endsIn id hp hc).always
  refine ⟨(r.perform (.deleteCluster id) s).1, es.reverse, ?_⟩
  rw [Session.calls_eq hes, Session.calls_cons (r.perform_history _ s), List.append_assoc]
  rfl

/-- Two deletions see the same phase out of transition, the first one after it has seen the cluster in
transition, and from there on their worlds go together. They end alike, with the same changes, if the
phase is known or nothing was seen before it. In an unknown phase the one that has waited changes
nothing until it sees the cluster settled, and the other one has it terminated next. -/
theorem delete_after_wait {r : Reconciler σ} {r' : Reconciler τ} {lag : Duration} {R : σ → τ → Prop}
    (h : r.Lockstep r' lag R) (id : String) (a : σ) (b : τ) {looks rest : List (Event σ)}
    {e : Event σ} {e' : Event τ} {rest' : List (Event τ)} {p : Phase}
    (ha : (r.delete id a).session.calls = looks ++ e :: rest) (hlooks : InTransition looks)
    (he : e.Shows p) (hb : (r'.delete id b).session.calls = e' :: rest') (he' : e'.Shows p)
    (hp : p.isTransitional = false) (hR : R (r.world.after e) (r'.world.after e')) :
    let x := r.delete id a
    let y := r'.delete id b
    (p ≠ .unknown ∨ looks = [] → y.outcome = x.outcome ∧
      requests y.session.calls = requests x.session.calls ∧ y.session.actions = x.session.actions) ∧
    (p = .unknown →
      (looks ≠ [] → ∀ before c after, rest = before ++ c :: after → c.call.isMutation = true →
        ∃ l ∈ before, ∃ q, l.Shows q ∧ q.isSettling = false) ∧
      (r'.world.isCancelled (r'.world.after e') = false →
        ∃ c more, rest' = c :: more ∧ c.call = .deleteCluster id)) := by
  intro x y
  have hb' : (r'.delete id b).session.calls = [] ++ e' :: rest' := hb
  obtain ⟨t', hw', hp', ha', hq', hc', hout', hses'⟩ :=
    delete_at_phase hb' (fun _ hmem => absurd hmem List.not_mem_nil) he' hp (.inr rfl)
  refine ⟨fun hgoes => ?_, ?_⟩
  · obtain ⟨t, hw, hph, hac, hq, -, hout, hses⟩ := delete_at_phase ha hlooks he hp hgoes
    have hstep : t.InStep R t' :=
      ⟨by rw [hw, hw']; exact hR, hp'.trans hph.symm, ha'.trans hac.symm, hq'.trans hq.symm⟩
    obtain ⟨z, u, u', hx, hy, hu⟩ := h.dispose hstep id p
    rw [hx] at hout hses
    rw [hy] at hout' hses'
    refine ⟨hout'.trans hout.symm, ?_, ?_⟩
    · simp only [x, y, hses, hses', hu.requests]
    · simp only [x, y, hses, hses', hu.actions]
  · rintro rfl
    refine ⟨fun hne before c after => delete_after_unknown ha hlooks he hne, fun hlive => ?_⟩
    obtain ⟨answer, more, hcalls⟩ := r'.dispose_unknown id hp' (by rw [hw']; exact hlive)
    rw [← hses', hb, hc'] at hcalls
    exact ⟨_, more, (List.cons.inj hcalls).2, rfl⟩

/-- A control plane that shows a cluster in one phase after the other and takes every change. -/
def showing : Reconciler (Duration × List Phase) where
  world :=
    { now := fun w => w.1
      sleep := fun d w => (w.1 + d, w.2)
      isCancelled := fun _ => false
      answer
        | .getCluster id, w => (.ok { id := id, phase := w.2.headD .unknown }, w.1, w.2.tail)
        | .deleteCluster _, w => (.ok (), w)
        | .permanentDeleteCluster _, w => (.ok (), w)
        | _, w => (.error (.notFound ""), w) }
  options := {}
  fuel := 9

/-- What remains to be shown is the same. -/
def SameLater (lag : Duration) (w v : Duration × List Phase) : Prop :=
  w.1 = v.1 + lag ∧ w.2 = v.2

theorem showing_lockstep (lag : Duration) : showing.Lockstep showing lag (SameLater lag) where
  world :=
    { now := fun _ _ h => h.1
      isCancelled := fun _ _ _ => rfl
      sleep := fun d w v h => ⟨by
        change w.1 + d = v.1 + d + lag
        rw [h.1, Nat.add_right_comm], h.2⟩
      answer := by
        rintro c ⟨now, later⟩ ⟨now', later'⟩ ⟨ht, hl⟩ -
        obtain rfl : later = later' := hl
        cases c <;> exact ⟨rfl, ht, rfl⟩ }
  options := rfl
  fuel := rfl

/-- A look at the cluster `"c"`, with what remains to be shown. -/
def lookAt (now : Duration) (p : Phase) (later : List Phase) : Event (Duration × List Phase) :=
  ⟨(now, p :: later), .getCluster "c", .ok { id := "c", phase := p }⟩

/-- A cluster that comes to run while it is waited for, and one that runs. -/
theorem delete_after_wait_running :
    let x := showing.delete "c" (0, [.pending, .terminating, .running, .terminated])
    let y := showing.delete "c" (0, [.running, .terminated])
    x.outcome = .ok () ∧ y.outcome = x.outcome ∧
      requests x.session.calls = [.deleteCluster "c", .permanentDeleteCluster "c"] ∧
      requests y.session.calls = requests x.session.calls := by
  intro x y
  let looks := [lookAt 0 .pending [.terminating, .running, .terminated],
    lookAt 0 .terminating [.running, .terminated]]
  let e := lookAt (.ofSeconds 10) .running [.terminated]
  let e' := lookAt 0 .running [.terminated]
  obtain ⟨rest, hx⟩ : ∃ rest, x.session.calls = looks ++ e :: rest := ⟨_, rfl⟩
  obtain ⟨rest', hy⟩ : ∃ rest', y.session.calls = e' :: rest' := ⟨_, rfl⟩
  have hlooks : InTransition looks := by
    intro l hl info hi
    simp only [looks, List.mem_cons, List.not_mem_nil, or_false] at hl
    rcases hl with rfl | rfl <;> cases hi <;> rfl
  have hsame : SameLater (.ofSeconds 10) (showing.world.after e) (showing.world.after e') :=
    ⟨(Nat.zero_add _).symm, rfl⟩
  obtain ⟨hgoes, -⟩ := delete_after_wait (showing_lockstep (.ofSeconds 10)) "c" _ _ hx hlooks
    ⟨_, rfl, rfl⟩ hy ⟨_, rfl, rfl⟩ (p := .running) rfl hsame
  obtain ⟨hout, hrequests, -⟩ := hgoes (.inl (by decide))
  exact ⟨by decide +kernel, hout, by decide +kernel, hrequests⟩

/-- A cluster whose phase comes to be unknown while it is waited for, and one whose phase is unknown.
Only the latter is asked to terminate, though both are shown terminated next. -/
theorem delete_unknown_after_wait :
    let x := showing.delete "c" (0, [.pending, .unknown, .terminated])
    let y := showing.delete "c" (0, [.unknown, .terminated])
    let e := lookAt 0 .unknown [.terminated]
    (∃ rest rest', x.session.calls = lookAt 0 .pending [.unknown, .terminated] :: e :: rest ∧
      y.session.calls = e :: rest') ∧
    x.outcome = .ok () ∧ y.outcome = .ok () ∧
    requests x.session.calls = [.permanentDeleteCluster "c"] ∧
    requests y.session.calls = [.deleteCluster "c", .permanentDeleteCluster "c"] := by
  refine ⟨⟨_, _, rfl, rfl⟩, ?_, ?_, ?_, ?_⟩ <;> decide +kernel

end Reconciler
end ClusterReconciliation
