import ClusterReconciliation.Proofs.Acceptance
import ClusterReconciliation.Proofs.Requests

/-! Deletions. A deletion ends well as soon as a call is answered that the cluster is missing, or
with the purge that succeeds, and in no other way. A cluster that stands is purged only when it was
just seen terminated or failed. On a simulation the cluster is then gone, and nothing else is. -/
namespace ClusterReconciliation
open Run
variable {σ α : Type}

namespace Event

/-- The call was answered that there is no such cluster. -/
def isMissing : Event σ → Bool
  | ⟨_, _, .error e⟩ => e.isNotFound
  | ⟨_, _, .ok _⟩ => false

/-- The call has removed a cluster for good. -/
def isPurge : Event σ → Bool
  | ⟨_, .permanentDeleteCluster _, .ok _⟩ => true
  | _ => false

end Event

theorem ClientError.not_isNotFound_of_isTransient {e : ClientError} (h : e.isTransient = true) :
    e.isNotFound = false := by
  cases e <;> first | rfl | cases h

/-- The rule for purges: the call just before has shown the cluster terminated or failed. -/
def SeenDown (before : List (Event σ)) : Call → Prop
  | .permanentDeleteCluster _ => ∃ e info, before.getLast? = some e ∧ e.sighting = some info ∧
      (info.phase = .terminated ∨ info.phase = .error)
  | _ => True

namespace Session
variable {s t : Session σ}

/-- As far as the answers go, the cluster is still there. -/
def Stands (s : Session σ) : Prop := ∀ e ∈ s.history, e.isMissing = false ∧ e.isPurge = false

/-- Some answer was that there is no such cluster. -/
def Misses (s : Session σ) : Prop := ∃ e ∈ s.history, e.isMissing = true

/-- The last call has shown the cluster like that. -/
def Sees (s : Session σ) (info : Cluster.Info) : Prop :=
  ∃ e, s.calls.getLast? = some e ∧ e.sighting = some info

/-- The last call has removed the cluster. -/
def Purges (s : Session σ) : Prop := ∃ e, s.calls.getLast? = some e ∧ e.isPurge = true

theorem Stands.cons (h : s.Stands) {e : Event σ} (hh : t.history = e :: s.history)
    (hm : e.isMissing = false) (hp : e.isPurge = false) : t.Stands := by
  rw [Stands, hh]
  exact List.forall_mem_cons.2 ⟨⟨hm, hp⟩, h⟩

theorem Misses.of_cons {e : Event σ} (hh : t.history = e :: s.history) (hm : e.isMissing = true) :
    t.Misses := ⟨e, hh ▸ List.mem_cons_self, hm⟩

theorem Stands.not_misses (h : s.Stands) : ¬s.Misses := by
  rintro ⟨e, he, hm⟩
  rw [(h e he).1] at hm
  cases hm

theorem Stands.not_purges (h : s.Stands) : ¬s.Purges := by
  rintro ⟨e, he, hp⟩
  have hmem : e ∈ s.history := mem_calls.1 (List.mem_of_getLast? he)
  rw [(h e hmem).2] at hp
  cases hp

theorem getLast?_calls_of_cons {e : Event σ} (hh : t.history = e :: s.history) :
    t.calls.getLast? = some e := by
  rw [calls_cons hh, List.getLast?_concat]

end Session

/-- A deletion halts for a missing cluster exactly when an answer has said that it is missing. -/
def Halt.Tells (h : Halt) (s : Session σ) : Prop :=
  Reconciler.isGone h = true ∧ s.Misses ∨ Reconciler.isGone h = false ∧ s.Stands

namespace Reconciler
variable {r : Reconciler σ} {s t : Session σ} {id : String} {stage : Stage}

/-- A call that fails is told from its error. -/
theorem tells_of_error {c : Call} {e : ClientError} (hs : s.Stands)
    (he : (r.perform c s).1 = .error e) (ht : t.history = (r.perform c s).2.history) :
    Halt.Tells (.failed ⟨stage, .ofClient e⟩) t := by
  have hh : t.history = ⟨s.world, c, .error e⟩ :: s.history := by rw [ht, perform_history, he]
  cases hn : e.isNotFound with
  | true => exact .inl ⟨(ReconcileError.isNotFound_ofClient e).trans hn, .of_cons hh hn⟩
  | false =>
    have hpurge : (Event.mk s.world c (.error e)).isPurge = false := by cases c <;> rfl
    exact .inr ⟨(ReconcileError.isNotFound_ofClient e).trans hn, hs.cons hh hn hpurge⟩

theorem stands_of_look {info : Cluster.Info} (hs : s.Stands)
    (ho : (r.perform (.getCluster id) s).1 = .ok info) : (r.lookAtCluster id s).Stands := by
  refine hs.cons (r.lookAtCluster_history id s) ?_ rfl
  rw [ho]
  rfl

theorem sees_of_look {info : Cluster.Info} (ho : (r.perform (.getCluster id) s).1 = .ok info) :
    (r.lookAtCluster id s).Sees info := by
  refine ⟨_, Session.getLast?_calls_of_cons (r.lookAtCluster_history id s), ?_⟩
  rw [ho]
  rfl

section Parts

theorem fetchCluster_tells (hs : s.Stands) :
    Ensures (r.fetchCluster stage id) s (fun info t => t.Stands ∧ t.Sees info) Halt.Tells := by
  refine ⟨fun info t hx => ?_, fun h t hx => ?_⟩
  · obtain ⟨-, ho, rfl⟩ := r.fetchCluster_eq_ok hx
    exact ⟨stands_of_look hs ho, sees_of_look ho⟩
  · rw [exec_fetchCluster] at hx
    split_ifs at hx
    · cases hx
      exact .inr ⟨rfl, hs⟩
    · cases he : (r.perform (.getCluster id) s).1 <;> rw [he] at hx <;> cases hx
      exact tells_of_error hs he (by simp)

theorem mutate_tells {action : Action} {c : Call} (hs : s.Stands) :
    Ensures (r.mutate action stage c) s
      (fun _ t => ∃ reply, t.history = ⟨s.world, c, .ok reply⟩ :: s.history) Halt.Tells := by
  refine ⟨fun u t hx => ?_, fun h t hx => ?_⟩
  · obtain ⟨-, -, ⟨reply, ho⟩, rfl⟩ := r.mutate_eq_ok hx
    exact ⟨reply, by rw [perform_history, ho]⟩
  · rcases r.exec_mutate_cases action stage c s with
      ⟨-, hy⟩ | ⟨-, -, hy⟩ | ⟨-, -, ⟨e, v, he, hy⟩ | ⟨reply, v, -, hy⟩⟩ <;> rw [hy] at hx
    · cases hx
      exact .inr ⟨rfl, hs⟩
    · cases hx
      exact .inr ⟨rfl, hs⟩
    · cases hx
      exact tells_of_error hs (congrArg Prod.fst he) (by rw [he])
    · cases congrArg Prod.fst hx

/-- While a wait for a cluster goes on, every look has shown the cluster or has failed to reach the
other side. -/
theorem keeps_stands (what : String)
    {judge : Except ClientError Cluster.Info → Except ReconcileError (Check α)}
    (hj : ∀ e, judge (.error e) ≠ .ok .again) :
    (r.watchCluster id what judge).Keeps r.clock Session.Stands where
  sleep _ _ hs := hs
  tolerate e s hs _ he ht := by
    have hh : (r.perform (.getCluster id) s).2.history =
        ⟨s.world, .getCluster id, .error e⟩ :: s.history := by
      rw [perform_history, show (r.perform (.getCluster id) s).1 = .error e from he]
    exact hs.cons hh (ClientError.not_isNotFound_of_isTransient ht) rfl
  again s hs _ ha := by
    have hagain : judge (r.perform (.getCluster id) s).1 = .ok .again := ha
    change (r.lookAtCluster id s).Stands
    cases ho : (r.perform (.getCluster id) s).1 with
    | error e =>
      rw [ho] at hagain
      exact absurd hagain (hj e)
    | ok info => exact stands_of_look hs ho

/-- What ends a wait badly is told from the last answer. -/
theorem await_tells (what : String)
    {judge : Except ClientError Cluster.Info → Except ReconcileError (Check α)}
    (hagain : ∀ e, judge (.error e) ≠ .ok .again)
    (hj : ∀ answer e, judge answer = .error e → ∃ c, answer = .error c ∧ e = .ofClient c)
    (hs : s.Stands) : Halts (r.await stage (r.watchCluster id what judge)) s Halt.Tells := by
  refine halts_await stage (keeps_stands what hagain) hs (fun u e t hu hl => ?_)
    (fun e t ht he => .inr ⟨?_, ht⟩) fun t ht => .inr ⟨rfl, ht⟩
  · obtain ⟨c, ha, rfl⟩ := hj _ e (congrArg Prod.fst hl)
    have ht : t = r.lookAtCluster id u := (congrArg Prod.snd hl).symm
    exact tells_of_error hu ha (by simp [ht])
  · cases e with
    | client c =>
      have hn := ClientError.not_isNotFound_of_isTransient (he c rfl)
      exact (ReconcileError.isNotFound_ofClient c).trans hn
    | _ => rfl

theorem waitStable_tells (hs : s.Stands) :
    Ensures (r.waitStable stage id) s (fun info t => t.Stands ∧ t.Sees info) Halt.Tells := by
  have hagain : ∀ e, judgeStable (.error e) ≠ .ok .again := fun _ h => by cases h
  refine ⟨fun info t hx => ?_, ?_⟩
  · obtain ⟨u, hu, -, ho, -, rfl⟩ :=
      waitStable_eq_ok (fun what => keeps_stands what hagain) hs hx
    exact ⟨stands_of_look hu ho, sees_of_look ho⟩
  · exact (await_tells _ hagain (fun _ _ => judgeStable_eq_error) hs).halted

/-- A cluster that is waited for until it is no longer alive was last seen so, or is missing. -/
theorem waitTerminated_tells (hs : s.Stands) :
    Ensures (r.waitTerminated id) s
      (fun there t => if there then t.Stands ∧ ∃ info, t.Sees info ∧
        (info.phase = .terminated ∨ info.phase = .error) else t.Misses) Halt.Tells := by
  have hagain : ∀ e, judgeTerminated (.error e) ≠ .ok .again := by
    intro e h
    simp only [judgeTerminated] at h
    split_ifs at h
    cases h
  refine ⟨fun there t hx => ?_, ?_⟩
  · obtain ⟨u, hu, -, hl⟩ := await_eq_ok (keeps_stands _ hagain) hs hx
    obtain rfl : t = r.lookAtCluster id u := (congrArg Prod.snd hl).symm
    rcases judgeTerminated_eq_done (congrArg Prod.fst hl) with
      ⟨info, ho, rfl, hdown⟩ | ⟨e, ho, rfl, hn⟩
    · exact ⟨stands_of_look hu ho, info, sees_of_look ho, hdown⟩
    · have hh : (r.lookAtCluster id u).history =
          ⟨u.world, .getCluster id, .error e⟩ :: u.history := by
        rw [lookAtCluster_history, show (r.perform (.getCluster id) u).1 = .error e from ho]
      exact .of_cons hh hn
  · exact (await_tells _ hagain (fun _ _ => judgeTerminated_eq_error) hs).halted

theorem readSettled_tells (hs : s.Stands) :
    Ensures (r.readSettled id) s (fun info t => t.Stands ∧ t.Sees info) Halt.Tells := by
  refine (fetchCluster_tells hs).bind fun info t _ ht => ?_
  split_ifs
  · exact waitStable_tells ht.1
  · exact ensures_pure ht

/-- When a cluster is to be purged it stands, and was just seen terminated or failed. -/
theorem bringDown_tells {info : Cluster.Info} (hs : s.Stands) (hsees : s.Sees info) :
    Ensures (r.bringDown id info.phase) s
      (fun there t => if there then t.Stands ∧ ∃ info, t.Sees info ∧
        (info.phase = .terminated ∨ info.phase = .error) else t.Misses) Halt.Tells := by
  unfold bringDown
  split_ifs with hdown
  · exact ensures_pure ⟨hs, info, hsees, hdown⟩
  · refine (mutate_tells hs).bind fun _ t _ ht => ?_
    obtain ⟨reply, hh⟩ := ht
    exact waitTerminated_tells (hs.cons hh rfl rfl)

theorem terminate_tells (hs : s.Stands) :
    Ensures (r.terminate id) s (fun _ t => t.Purges ∨ t.Misses) Halt.Tells := by
  refine (readSettled_tells hs).bind fun info t _ ht => ?_
  refine (bringDown_tells ht.1 ht.2).bind fun there u _ hu => ?_
  cases there with
  | false => exact ensures_pure (.inr hu)
  | true =>
    refine (mutate_tells hu.1).mono (fun _ v hv => ?_) fun _ _ hv => hv
    obtain ⟨reply, hh⟩ := hv
    exact .inl ⟨_, Session.getLast?_calls_of_cons hh, rfl⟩

/-- A deletion that halts leaves a cluster that stands as far as the answers go. -/
theorem purge_tells (hs : s.Stands) :
    Ensures (r.purge id) s (fun _ t => t.Purges ∨ t.Misses) fun _ t => t.Stands := by
  refine (terminate_tells hs).tryCatch fun h t ht => ?_
  rcases ht with ⟨hgone, hm⟩ | ⟨hgone, hstands⟩ <;> rw [hgone]
  · exact ensures_pure (.inr hm)
  · exact ensures_throw hstands

/-- A cluster is purged right after it has been seen terminated or failed. -/
theorem purge_seenDown (hs : s.Stands) (hrule : Obeys SeenDown s.calls) :
    EndsIn (r.purge id) s (Obeys SeenDown ·.calls) := by
  have hother : ∀ (before : List (Event σ)) (c : Call),
      (∀ i, c ≠ .permanentDeleteCluster i) → SeenDown before c := by
    intro before c hc
    cases c <;> first | exact trivial | exact absurd rfl (hc _)
  have hterminate : EndsIn (r.terminate id) s (Obeys SeenDown ·.calls) := by
    have hread : MadeOf r (fun c => ∀ i, c ≠ .permanentDeleteCluster i) (r.readSettled id) :=
      r.madeOf.readSettled id fun _ => Call.noConfusion
    refine (endsIn_obeys hread hother hrule).bind fun info t hx ht => ?_
    obtain ⟨hstands, hsees⟩ := (readSettled_tells hs).ok info t hx
    have hwait : MadeOf r (fun c => ∀ i, c ≠ .permanentDeleteCluster i) (r.waitTerminated id) :=
      r.madeOf_waitTerminated fun _ => Call.noConfusion
    have hdown := r.madeOf.bringDown id hwait info.phase fun _ => Call.noConfusion
    refine (endsIn_obeys hdown hother ht).bind fun there u hy hu => ?_
    have htold := (bringDown_tells hstands hsees).ok there u hy
    cases there with
    | false => exact ensures_pure hu
    | true =>
      obtain ⟨-, info', ⟨e, he, hsight⟩, hphase⟩ := htold
      have hmay : SeenDown u.calls (.permanentDeleteCluster id) := ⟨e, info', he, hsight, hphase⟩
      exact endsIn_mutate_obeys .delete hmay hu
  refine hterminate.tryCatch fun h t ht => ?_
  split_ifs
  · exact ensures_pure ht
  · exact ensures_throw ht

end Parts

theorem delete_steps (r : Reconciler σ) (id : String) (world : σ) :
    Steps r (·.OfDelete id) { world := world } (r.delete id world).session :=
  r.madeOf_purge id { world := world }

/-- A deletion succeeds exactly if it has purged its cluster with its last call or has been answered
that there is none. -/
theorem delete_eq_ok_iff (r : Reconciler σ) (id : String) (world : σ) :
    (r.delete id world).outcome = .ok () ↔
      (r.delete id world).session.Purges ∨ (r.delete id world).session.Misses := by
  have hstart : Session.Stands (σ := σ) { world := world } := by simp [Session.Stands]
  have htells : Ensures (r.purge id) { world := world } (fun _ t => t.Purges ∨ t.Misses)
      fun _ t => t.Stands := purge_tells hstart
  constructor
  · exact fun h => htells.ok () _ (Prod.ext h rfl)
  · intro h
    cases hx : (r.delete id world).outcome with
    | ok u => rfl
    | error e =>
      have hstands : (r.delete id world).session.Stands := htells.halted e _ (Prod.ext hx rfl)
      rcases h with h | h
      · exact absurd h hstands.not_purges
      · exact absurd h hstands.not_misses

end Reconciler

namespace Simulation
variable {s : Simulation} {id : String} {c : Call}

theorem serve_of_missing (hc : c.OfDelete id) (h : s.clusters.get? id = none) :
    s.serve c = (.error (missing id), s) := by
  cases c with
  | getCluster i =>
    obtain rfl : i = id := hc
    simp only [serve, look, h]
  | deleteCluster i =>
    obtain rfl : i = id := hc
    simp only [serve, terminate, look, h]
  | permanentDeleteCluster i =>
    obtain rfl : i = id := hc
    simp only [serve, purge, h]
  | _ => exact hc.elim

theorem serve_of_gone (hc : c.OfDelete id) (h : s.clusters.get? id = none) :
    (s.serve c).2.clusters.get? id = none := by rwa [serve_of_missing hc h]

/-- A call by which a cluster is deleted touches no other one. -/
theorem serve_clusters_of_ne (hc : c.OfDelete id) {j : String} (hj : j ≠ id) :
    (s.serve c).2.clusters.get? j = s.clusters.get? j := by
  have h := s.serve_served c
  generalize (s.serve c).1 = a, (s.serve c).2 = t at h ⊢
  cases h with
  | failed _ hclusters => rw [hclusters]
  | @done r _ _ _ others =>
    refine others j ?_
    cases c with
    | getCluster | deleteCluster | permanentDeleteCluster => exact hc ▸ hj
    | _ => exact hc.elim

/-- A cluster is gone when the answer to such a call says so. -/
theorem gone_of_serve (hc : c.OfDelete id) {w : Scene Simulation}
    (h : (Event.mk w c (s.serve c).1).isMissing = true ∨
      (Event.mk w c (s.serve c).1).isPurge = true) : (s.serve c).2.clusters.get? id = none := by
  cases hk : s.clusters.get? id with
  | none => rwa [serve_of_missing hc hk]
  | some k =>
    cases c with
    | getCluster i =>
      obtain rfl : i = id := hc
      simp [serve, look, hk, Event.isMissing, Event.isPurge] at h
    | deleteCluster i =>
      obtain rfl : i = id := hc
      simp [serve, terminate, look, hk, Event.isMissing, Event.isPurge] at h
    | permanentDeleteCluster i =>
      obtain rfl : i = id := hc
      simp only [serve, purge, hk] at h ⊢
      split_ifs at h ⊢ with hdown
      · exact s.clusters.get?_erase_self i
      · -- What is there is rejected for its phase.
        have hrejected : (k.rejection "permanent-delete").isNotFound = false := by
          simp [SimulatedCluster.rejection, ClientError.isNotFound, saysNotFound, notFoundCodes]
        simp [Event.isMissing, Event.isPurge, hrejected] at h
    | _ => exact hc.elim

end Simulation

namespace Session
variable {origin : Simulation} {s t : Session (Scene Simulation)} {id : String}

/-- Nobody else acts and nothing is queued, all clusters but one are as in the beginning, and that
one is gone as soon as an answer has said so. -/
structure Confined (origin : Simulation) (id : String) (s : Session (Scene Simulation)) : Prop where
  still : s.world.Still
  clear : s.world.state.Clear
  others : ∀ j, j ≠ id → s.world.state.clusters.get? j = origin.clusters.get? j
  gone : ∀ e ∈ s.history, e.isMissing = true ∨ e.isPurge = true →
    s.world.state.clusters.get? id = none

theorem Confined.of_eq (h : s.Confined origin id) (hw : t.world = s.world)
    (hh : t.history = s.history) : t.Confined origin id where
  still := hw ▸ h.still
  clear := hw ▸ h.clear
  others := hw ▸ h.others
  gone := by
    rw [hw, hh]
    exact h.gone

theorem Confined.atTime (h : s.Confined origin id) (now : Duration) :
    Confined origin id { s with world := { s.world with now := now } } :=
  ⟨⟨h.still.cancelled, h.still.cancelAt, h.still.schedule⟩, h.clear, h.others, h.gone⟩

theorem Confined.sleep (h : s.Confined origin id) (options : Options) (fuel : Nat) (d : Duration) :
    ((Reconciler.simulated options fuel).clock.sleep d s).Confined origin id := by
  rw [Reconciler.simulated_sleep, h.still.sleep_eq]
  exact h.atTime _

theorem Confined.perform (h : s.Confined origin id) (options : Options) (fuel : Nat) {c : Call}
    (hc : c.OfDelete id) :
    ((Reconciler.simulated options fuel).perform c s).2.Confined origin id := by
  rw [Reconciler.simulated_perform, Simulation.answer_of_clear h.clear]
  refine ⟨⟨h.still.cancelled, h.still.cancelAt, h.still.schedule⟩, fun m => ?_, fun j hj => ?_, ?_⟩
  · rw [Simulation.serve_queued]
    exact h.clear m
  · rw [Simulation.serve_clusters_of_ne hc hj]
    exact h.others j hj
  · refine List.forall_mem_cons.2 ⟨Simulation.gone_of_serve hc, fun e he htold => ?_⟩
    exact Simulation.serve_of_gone hc (h.gone e he htold)

end Session

section
variable {options : Options} {fuel : Nat} {origin : Simulation} {id : String}
  {s t : Session (Scene Simulation)}

theorem Step.confined (h : Step (.simulated options fuel) (·.OfDelete id) s t)
    (hs : s.Confined origin id) : t.Confined origin id := by
  cases h with
  | sleep d => exact hs.sleep options fuel d
  | lookAtCluster i _ hk => exact (hs.perform options fuel hk).of_eq (by simp) (by simp)
  | lookAtLibraries i _ hk => exact hk.elim
  | attempt c a _ hk => exact hs.perform options fuel hk
  | change c a _ hk => exact (hs.perform options fuel hk).of_eq rfl rfl
  | refuse spec _ hk => exact hk.elim
  | create spec _ hk => exact hk.elim

theorem Steps.confined (h : Steps (.simulated options fuel) (·.OfDelete id) s t)
    (hs : s.Confined origin id) : t.Confined origin id := by
  induction h with
  | refl => exact hs
  | tail _ h ih => exact h.confined ih

end

namespace Reconciler

/-- The deletion of a cluster that is found to be missing has nothing to do. -/
theorem delete_of_missing (r : Reconciler σ) {id : String} {world : σ} {e : ClientError}
    (hc : r.world.isCancelled world = false)
    (he : (r.perform (.getCluster id) { world := world }).1 = .error e)
    (hn : e.isNotFound = true) :
    (r.delete id world).outcome = .ok () ∧ (r.delete id world).session.actions = [] := by
  have hread : exec (r.terminate id) { world := world } =
      (.error (.failed ⟨.delete, .ofClient e⟩), r.lookAtCluster id { world := world }) := by
    have hfetch := r.exec_fetchCluster .delete id { world := world }
    rw [hc, he] at hfetch
    exact exec_bind_of_error (exec_bind_of_error hfetch)
  have hgone : isGone (.failed ⟨.delete, .ofClient e⟩) = true :=
    (ReconcileError.isNotFound_ofClient e).trans hn
  have hx : exec (r.purge id) { world := world } =
      (.ok (), r.lookAtCluster id { world := world }) := by
    rw [purge, exec_tryCatch, hread]
    simp [hgone]
  exact ⟨congrArg Prod.fst hx, (congrArg (·.2.actions) hx).trans (r.lookAtCluster_actions id _)⟩

/-- A deletion succeeds exactly if its last call has purged the cluster, or some answer was that
there is none. It terminates and purges at most once, in this order, and purges only what it has
just seen terminated or failed. On a simulation left to it, a deletion that succeeds removes its
cluster and leaves all others, and the next one succeeds without a change. -/
theorem delete_sound :
    (∀ {σ : Type} (r : Reconciler σ) (id : String) (world : σ),
      let x := r.delete id world
      (x.outcome = .ok () ↔ x.session.Purges ∨ x.session.Misses) ∧
        (requests x.session.calls).Sublist [.deleteCluster id, .permanentDeleteCluster id] ∧
        Obeys SeenDown x.session.calls) ∧
      ∀ (options options' : Options) (fuel fuel' : Nat) (id : String) (w : Scene Simulation),
        w.Still → w.state.Clear →
        let x := (simulated options fuel).delete id w
        x.outcome = .ok () →
          x.session.world.state.clusters.get? id = none ∧
          (∀ j, j ≠ id → x.session.world.state.clusters.get? j = w.state.clusters.get? j) ∧
          let y := (simulated options' fuel').delete id x.session.world
          y.outcome = .ok () ∧ y.session.actions = [] := by
  constructor
  · intro σ r id world x
    have hstart : Session.Stands (σ := σ) { world := world } := by simp [Session.Stands]
    refine ⟨r.delete_eq_ok_iff id world, ?_, (purge_seenDown hstart obeys_nil).always⟩
    obtain ⟨v, hv, hs⟩ := r.asks_purge id { world := world }
    have hcalls : requests x.session.calls = v := hs
    rw [hcalls]
    exact Call.sublist_of_mem_deletionOrder hv
  · intro options options' fuel fuel' id w hstill hclear x hok
    have hconfined : x.session.Confined w.state id :=
      ((simulated options fuel).delete_steps id w).confined
        ⟨hstill, hclear, fun _ _ => rfl, by simp⟩
    have hgone : x.session.world.state.clusters.get? id = none := by
      rcases ((simulated options fuel).delete_eq_ok_iff id w).1 hok with
        ⟨e, he, hp⟩ | ⟨e, he, hm⟩
      · exact hconfined.gone e (Session.mem_calls.1 (List.mem_of_getLast? he)) (.inr hp)
      · exact hconfined.gone e he (.inl hm)
    refine ⟨hgone, hconfined.others, ?_⟩
    refine (simulated options' fuel').delete_of_missing (e := Simulation.missing id)
      hconfined.still.cancelled ?_ rfl
    rw [simulated_perform, Simulation.answer_of_clear hconfined.clear]
    have hserved := Simulation.serve_of_missing (c := .getCluster id)
      (s := { x.session.world.state with calls := x.session.world.state.calls ++ [.getCluster id] })
      rfl hgone
    rw [hserved]

theorem delete_sound_sample :
    let x := (simulated {} 9).delete "c" (sampleWorld .running)
    let y := (simulated {} 9).delete "c" x.session.world
    x.outcome = .ok () ∧ x.session.actions = [.delete, .permanentDelete] ∧
      (x.session.Purges ∨ x.session.Misses) ∧
      x.session.world.state.clusters.get? "c" = none ∧
      y.outcome = .ok () ∧ y.session.actions = [] := by
  intro x y
  have hok : x.outcome = .ok () := by decide +kernel
  have hactions : x.session.actions = [.delete, .permanentDelete] := by decide +kernel
  obtain ⟨hall, hleft⟩ := delete_sound
  obtain ⟨hiff, -, -⟩ := hall (simulated {} 9) "c" (sampleWorld .running)
  obtain ⟨hgone, -, hagain⟩ :=
    hleft {} {} 9 9 "c" (sampleWorld .running) ⟨rfl, rfl, rfl⟩ (fun _ => rfl) hok
  exact ⟨hok, hactions, hiff.1 hok, hgone, hagain.1, hagain.2⟩

end Reconciler
end ClusterReconciliation
