import ClusterReconciliation.Proofs.Legality
import ClusterReconciliation.Proofs.Transitions

/-! A simulation never rejects a change for the phase of its cluster. A cluster that was last seen
out of transition is as it was seen until the reconciler itself moves it, and it is looked at again
before the next change. So the simulation takes every change that the noted phase permits. -/
namespace ClusterReconciliation
open Run

/-- A simulation takes a call about a cluster in this phase. -/
def Call.TakenIn (p : Phase) : Call → Prop
  | .startCluster _ => p = .terminated
  | .editCluster _ _ => p = .running
  | .installLibraries _ _ => p = .running
  | .uninstallLibraries _ _ => p = .running
  | .permanentDeleteCluster _ => p = .terminated ∨ p = .error
  | _ => True

theorem Call.takenIn_of_permits {c : Call} {a : Action} {p : Phase} (ha : c.action? = some a)
    (hp : p.permits a = true) : c.TakenIn p := by
  cases c <;> simp only [action?, reduceCtorEq, Option.some.injEq] at ha <;> subst ha <;>
    cases p <;> simp_all [Phase.permits, Phase.legalActions, TakenIn]

theorem Call.takenIn_of_action {c : Call} (ha : c.action? = none) (p : Phase) : c.TakenIn p := by
  cases c with
  | createCluster | getCluster | libraryStatuses => trivial
  | _ => cases ha

/-- Reading and changing the libraries of a cluster does not move it. -/
theorem Call.Makes.of_libraries {polls : Nat} {id : String} {c : Call} {x : Option SimulatedCluster}
    {d : SimulatedCluster} (h : c.Makes polls id x (some d)) (hc : c.OfLibraries id) :
    ∃ b, x = some b ∧ d.info.phase = b.info.phase ∧ d.goal = b.goal := by
  cases h with
  | listed b => exact ⟨b, rfl, rfl, rfl⟩
  | installed b ls failing =>
    obtain ⟨hinfo, hgoal⟩ := View.submitAll_info ⟨polls, failing, b⟩ ls
    exact ⟨b, rfl, congrArg (·.phase) hinfo, hgoal⟩
  | removed b ls => exact ⟨b, rfl, rfl, rfl⟩
  | _ => exact hc.elim

namespace Simulation
variable {s : Simulation} {id : String} {p : Phase} {c : Call} {e : ClientError}

/-- The failure waits to be the answer to a call. -/
def Queues (s : Simulation) (e : ClientError) : Prop := ∃ m, some e ∈ (s.queued.get? m).getD []

/-- The cluster that the call is about, if there is one, is in a phase for it. -/
def Takes (s : Simulation) (c : Call) : Prop :=
  ∀ d, s.clusters.get? c.id = some d → c.TakenIn d.info.phase

/-- The cluster, if there is one, is in the phase and on its way to no other. -/
def StaysIn (s : Simulation) (id : String) (p : Phase) : Prop :=
  ∀ d, s.clusters.get? id = some d → d.info.phase = p ∧ d.goal = p

theorem takes_of_action (ha : c.action? = none) (s : Simulation) : s.Takes c :=
  fun _ _ => Call.takenIn_of_action ha _

theorem StaysIn.takes {a : Action} (h : s.StaysIn c.id p) (ha : c.action? = some a)
    (hp : p.permits a = true) : s.Takes c := by
  intro d hd
  rw [(h d hd).1]
  exact Call.takenIn_of_permits ha hp

section Queue

theorem queues_of_enter (h : (s.enter c).1 = some e) : s.Queues e := by
  simp only [enter] at h
  split at h
  · rename_i result rest hq
    subst h
    exact ⟨c.method, by simp [hq]⟩
  · cases h

/-- What waits after a call has waited before it. -/
theorem Queues.of_enter (h : (s.enter c).2.Queues e) : s.Queues e := by
  obtain ⟨m, hm⟩ := h
  simp only [enter] at hm
  split at hm
  · rename_i result rest hq
    by_cases hmc : m = c.method
    · subst hmc
      rw [Dict.get?_insert_self] at hm
      exact ⟨c.method, by simpa [hq] using .inr hm⟩
    · rw [Dict.get?_insert_of_ne _ hmc] at hm
      exact ⟨m, hm⟩
  · exact ⟨m, hm⟩

theorem change_queued (s : Simulation) (id : String) (phase : Phase) (operation : String)
    (f : SimulatedCluster → SimulatedCluster) :
    (s.change id phase operation f).2.queued = s.queued := by
  rcases s.change_cases id phase operation f with ⟨e, he⟩ | ⟨d, -, -, he⟩ <;> rw [he]
  rfl

theorem look_queued {α : Type} (s : Simulation) (id : String) (f : SimulatedCluster → α)
    (after : SimulatedCluster → SimulatedCluster) : (s.look id f after).2.queued = s.queued := by
  unfold look
  split <;> rfl

theorem submitAll_queued (id : String) (ls : List Library) (d : SimulatedCluster) :
    (submitAll id ls (d, s)).queued = s.queued := by
  induction ls generalizing s d with
  | nil => rfl
  | cons l ls ih =>
    have hn : (s.nextGoal l).2.queued = s.queued := (s.nextGoal_eq l).2.2.2.2
    exact (ih _).trans hn

theorem serve_queued (s : Simulation) (c : Call) : (s.serve c).2.queued = s.queued := by
  cases c with
  | createCluster spec => rfl
  | getCluster i => exact s.look_queued i _ _
  | startCluster i => exact s.change_queued i _ _ _
  | editCluster i spec => exact s.change_queued i _ _ _
  | deleteCluster i => exact s.look_queued i _ _
  | permanentDeleteCluster i =>
    rcases s.purge_cases i with ⟨e, he⟩ | ⟨d, -, -, he⟩ <;> rw [serve, he]
  | libraryStatuses i => exact s.look_queued i _ _
  | installLibraries i ls =>
    rcases s.install_cases i ls with ⟨e, he⟩ | ⟨d, -, -, he⟩ <;> rw [serve, he]
    exact submitAll_queued i ls d
  | uninstallLibraries i ls => exact s.change_queued i _ _ _

theorem Queues.of_answer (h : (s.answer c).2.Queues e) : s.Queues e := by
  unfold answer at h
  rcases hc : s.enter c with ⟨_ | e', t⟩ <;> rw [hc] at h
  · refine Queues.of_enter (c := c) ?_
    rw [hc]
    obtain ⟨m, hm⟩ := h
    exact ⟨m, by rwa [serve_queued] at hm⟩
  · exact Queues.of_enter (c := c) (hc ▸ h)

end Queue

section Rejections

theorem change_error {operation : String} {f : SimulatedCluster → SimulatedCluster}
    (hp : ∀ d, s.clusters.get? id = some d → d.info.phase = p)
    (h : (s.change id p operation f).1 = .error e) : e = missing id := by
  unfold change at h
  cases hc : s.clusters.get? id with
  | none =>
    rw [hc] at h
    cases h
    rfl
  | some d => simp [hc, hp d hc] at h

theorem look_error {α : Type} {f : SimulatedCluster → α}
    {after : SimulatedCluster → SimulatedCluster} (h : (s.look id f after).1 = .error e) :
    e = missing id := by
  unfold look at h
  split at h <;> cases h
  rfl

/-- A call that the phase of its cluster allows is rejected only for want of the cluster. -/
theorem Takes.serve_error (ht : s.Takes c) (h : (s.serve c).1 = .error e) : e = missing c.id := by
  cases c with
  | createCluster spec => cases h
  | getCluster i => exact look_error h
  | startCluster i => exact change_error ht h
  | editCluster i spec => exact change_error ht h
  | deleteCluster i => exact look_error h
  | permanentDeleteCluster i =>
    change (s.purge i).1 = .error e at h
    unfold purge at h
    cases hc : s.clusters.get? i with
    | none =>
      rw [hc] at h
      cases h
      rfl
    | some d =>
      have hd : d.info.phase = .terminated ∨ d.info.phase = .error := ht d hc
      simp [hc, hd] at h
  | libraryStatuses i => exact look_error h
  | installLibraries i ls =>
    change (s.install i ls).1 = .error e at h
    unfold install at h
    cases hc : s.clusters.get? i with
    | none =>
      rw [hc] at h
      cases h
      rfl
    | some d =>
      have hd : d.info.phase = .running := ht d hc
      simp [hc, hd] at h
  | uninstallLibraries i ls => exact change_error ht h

theorem Takes.answer_error (ht : s.Takes c) (h : (s.answer c).1 = .error e) :
    (s.enter c).1 = some e ∨ e = missing c.id := by
  unfold answer at h
  rcases hc : s.enter c with ⟨_ | e', t⟩ <;> rw [hc] at h
  · have hcl : t.clusters = s.clusters := by rw [← s.enter_clusters c, hc]
    have htake : t.Takes c := fun d hd => ht d (hcl ▸ hd)
    exact .inr (htake.serve_error h)
  · cases h
    exact .inl rfl

end Rejections

section Phases

theorem staysIn_put {d : SimulatedCluster} (hp : d.info.phase = p) (hg : d.goal = p) :
    (s.put id d).StaysIn id p := by
  intro c hc
  rw [put, Dict.get?_insert_self] at hc
  cases hc
  exact ⟨hp, hg⟩

theorem StaysIn.answer (h : s.StaysIn id p) (hc : c.OfLibraries id) :
    (s.answer c).2.StaysIn id p := by
  intro d hd
  rcases s.after_cases (.call c) id with ⟨-, hm⟩ | ⟨-, he⟩
  · cases hm with
    | answered hm =>
      obtain ⟨b, hb, hphase, hgoal⟩ := (show c.Makes _ id _ (some d) from hd ▸ hm).of_libraries hc
      exact ⟨hphase.trans (h b hb).1, hgoal.trans (h b hb).2⟩
  · exact h d (he ▸ hd)

/-- A cluster that is seen out of transition stays as it is seen. -/
theorem Sound.staysIn (h : s.Sound) {info : Cluster.Info}
    (ha : (s.answer (.getCluster id)).1 = .ok info) (hp : info.phase.isTransitional = false) :
    (s.answer (.getCluster id)).2.StaysIn id info.phase := by
  unfold Simulation.answer at ha ⊢
  rcases hx : s.enter (.getCluster id) with ⟨_ | e, t⟩ <;> rw [hx] at ha
  · have hcl : t.clusters = s.clusters := by rw [← s.enter_clusters (.getCluster id), hx]
    change (t.look id (·.info) (·.observe)).1 = .ok info at ha
    change (t.look id (·.info) (·.observe)).2.StaysIn id info.phase
    unfold Simulation.look at ha ⊢
    cases hc : t.clusters.get? id with
    | none =>
      rw [hc] at ha
      cases ha
    | some d =>
      rw [hc] at ha
      cases ha
      -- The look moves the cluster after it is seen, but only one in transition.
      have hg : d.goal = d.info.phase := (h id d (hcl ▸ hc)).goal_eq hp
      have ho : d.observe = d := if_pos hg.symm
      exact staysIn_put (congrArg (·.info.phase) ho) ((congrArg (·.goal) ho).trans hg)
  · cases ha

end Phases
end Simulation

theorem Scene.sleep_of_alone {τ : Type} {w : Scene τ} (h : w.schedule = []) (d : Duration) :
    (w.sleep d).state = w.state ∧ (w.sleep d).schedule = [] := by
  unfold Scene.sleep
  split_ifs
  · exact ⟨rfl, h⟩
  · split
    · split_ifs <;> simp [Scene.pass, Scene.moveTo, h]
    · simp [Scene.pass, Scene.moveTo, h]

/-- The simulation by itself rejected the call for the phase of its cluster. -/
def Event.IsOwnRejection (e : Event (Scene Simulation)) : Prop :=
  (e.before.state.enter e.call).1 = none ∧
    ∃ status message, e.answer = .error (.api status "INVALID_STATE" message)

/-- A failure was queued for the call, and in the beginning already, or there was no cluster. -/
def Event.IsInOrder (origin : Simulation) (e : Event (Scene Simulation)) : Prop :=
  ∀ error, e.answer = .error error →
    (e.before.state.enter e.call).1 = some error ∧ origin.Queues error ∨
      error = Simulation.missing e.call.id

theorem Event.IsInOrder.not_isOwnRejection {origin : Simulation} {e : Event (Scene Simulation)}
    (h : e.IsInOrder origin) : ¬e.IsOwnRejection := by
  rintro ⟨hn, status, message, he⟩
  rcases h _ he with ⟨hq, -⟩ | hm
  · rw [hn] at hq
    cases hq
  · simp [Simulation.missing, ClientError.notFound] at hm

namespace Session
variable {origin : Simulation} {s t : Session (Scene Simulation)} {id : String}

/-- Nobody else acts, nothing was queued since the beginning, and all answers were in order. -/
structure Calm (origin : Simulation) (s : Session (Scene Simulation)) : Prop where
  alone : s.world.schedule = []
  sound : s.world.state.Sound
  queues : ∀ e, s.world.state.Queues e → origin.Queues e
  inOrder : ∀ e ∈ s.history, e.IsInOrder origin

/-- The cluster is in the noted phase and on its way to no other. -/
def Trusts (s : Session (Scene Simulation)) (id : String) : Prop :=
  s.world.state.StaysIn id s.phase

theorem Calm.of_eq (h : s.Calm origin) (hw : t.world = s.world) (hh : t.history = s.history) :
    t.Calm origin where
  alone := hw ▸ h.alone
  sound := hw ▸ h.sound
  queues := hw ▸ h.queues
  inOrder := hh ▸ h.inOrder

theorem Calm.sleep (h : s.Calm origin) (options : Options) (fuel : Nat) (d : Duration) :
    ((Reconciler.simulated options fuel).clock.sleep d s).Calm origin := by
  obtain ⟨hs, hn⟩ := Scene.sleep_of_alone h.alone d
  rw [Reconciler.simulated_sleep]
  exact ⟨hn, by rw [hs]; exact h.sound, by rw [hs]; exact h.queues, h.inOrder⟩

theorem Calm.perform (h : s.Calm origin) (options : Options) (fuel : Nat) {c : Call}
    (hc : s.world.state.Takes c) :
    ((Reconciler.simulated options fuel).perform c s).2.Calm origin := by
  rw [Reconciler.simulated_perform]
  refine ⟨h.alone, h.sound.answer c, fun e he => h.queues e he.of_answer, ?_⟩
  refine List.forall_mem_cons.2 ⟨fun error he => ?_, h.inOrder⟩
  rcases hc.answer_error he with hq | hm
  · exact .inl ⟨hq, h.queues _ (Simulation.queues_of_enter hq)⟩
  · exact .inr hm

theorem Calm.lookAtCluster (h : s.Calm origin) (options : Options) (fuel : Nat) (id : String) :
    ((Reconciler.simulated options fuel).lookAtCluster id s).Calm origin :=
  (h.perform options fuel (Simulation.takes_of_action (c := .getCluster id) rfl _)).of_eq (by simp)
    (by simp)

theorem Calm.lookAtLibraries (h : s.Calm origin) (options : Options) (fuel : Nat) (id : String) :
    ((Reconciler.simulated options fuel).lookAtLibraries id s).Calm origin :=
  (h.perform options fuel (Simulation.takes_of_action (c := .libraryStatuses id) rfl _)).of_eq
    (by simp) (by simp)

/-- A look at a cluster out of transition is to be trusted. -/
theorem Calm.trusts (h : s.Calm origin) {options : Options} {fuel : Nat} {info : Cluster.Info}
    (ho : ((Reconciler.simulated options fuel).perform (.getCluster id) s).1 = .ok info)
    (hp : info.phase.isTransitional = false) :
    ((Reconciler.simulated options fuel).lookAtCluster id s).Trusts id := by
  have hc := Reconciler.lookAtCluster_cluster _ ho
  rw [Trusts, phase, hc, Reconciler.lookAtCluster_world]
  exact h.sound.staysIn ho hp

theorem Trusts.sleep (h : s.Trusts id) (hs : s.Calm origin) (options : Options) (fuel : Nat)
    (d : Duration) : ((Reconciler.simulated options fuel).clock.sleep d s).Trusts id := by
  unfold Trusts
  rw [Reconciler.simulated_sleep, (Scene.sleep_of_alone hs.alone d).1]
  exact h

/-- A call about libraries leaves the cluster in its phase. -/
theorem Trusts.of_world (h : s.Trusts id) {c : Call} (hc : c.OfLibraries id)
    (hw : t.world.state = (s.world.state.answer c).2) (hcl : t.cluster = s.cluster) :
    t.Trusts id := by
  rw [Trusts, hw, phase, hcl]
  exact Simulation.StaysIn.answer h hc

end Session

section
variable {options : Options} {fuel : Nat} {origin : Simulation} {id : String}
  {s t : Session (Scene Simulation)} {K : Call → Prop}

theorem Step.calm (h : Step (.simulated options fuel) K s t)
    (hK : ∀ c a, K c → c.action? = some a → s.phase.permits a = true → s.world.state.Takes c)
    (hs : s.Calm origin) : t.Calm origin := by
  cases h with
  | sleep d => exact hs.sleep options fuel d
  | lookAtCluster i => exact hs.lookAtCluster options fuel i
  | lookAtLibraries i => exact hs.lookAtLibraries options fuel i
  | attempt c a _ hk ha hp => exact hs.perform options fuel (hK c a hk ha hp)
  | change c a _ hk ha hp => exact (hs.perform options fuel (hK c a hk ha hp)).of_eq rfl rfl
  | refuse spec => exact hs.perform options fuel (Simulation.takes_of_action rfl _)
  | create spec => exact (hs.perform options fuel (Simulation.takes_of_action rfl _)).of_eq rfl rfl

theorem Steps.calm (h : Steps (.simulated options fuel) K s t)
    (hK : ∀ c, K c → c.action? = none) (hs : s.Calm origin) : t.Calm origin := by
  induction h with
  | refl => exact hs
  | tail _ h ih =>
    refine h.calm (fun c a hk ha _ => ?_) ih
    rw [hK c hk] at ha
    cases ha

theorem Step.trusts (h : Step (.simulated options fuel) (·.OfLibraries id) s t)
    (hs : s.Calm origin) (ht : s.Trusts id) : t.Trusts id := by
  cases h with
  | sleep d => exact ht.sleep hs options fuel d
  | lookAtCluster i _ hk => exact hk.elim
  | lookAtLibraries i _ hk =>
    exact ht.of_world hk (congrArg _ (Reconciler.lookAtLibraries_world ..)) (by simp)
  | attempt c a _ hk => exact ht.of_world hk rfl rfl
  | change c a _ hk => exact ht.of_world hk rfl rfl
  | refuse spec _ hk => exact hk.elim
  | create spec _ hk => exact hk.elim

/-- As long as only libraries are changed, every change finds the cluster in the noted phase. -/
theorem Steps.trusts (h : Steps (.simulated options fuel) (·.OfLibraries id) s t)
    (hs : s.Calm origin) (ht : s.Trusts id) : t.Calm origin ∧ t.Trusts id := by
  induction h with
  | refl => exact ⟨hs, ht⟩
  | tail _ h ih =>
    refine ⟨h.calm (fun c a hk ha hp => ?_) ih.1, h.trusts ih.1 ih.2⟩
    have hid : c.id = id := hk.id_eq
    exact Simulation.StaysIn.takes (hid ▸ ih.2) ha hp

end

namespace Reconciler
variable {options : Options} {fuel : Nat} {origin : Simulation} {id : String} {α : Type}
  {s : Session (Scene Simulation)} {K : Call → Prop}

/-- The run stays calm, and when it ends well the cluster is to be trusted. -/
abbrev EarnsTrust (origin : Simulation) (id : String) (m : Run (Scene Simulation) α)
    (s : Session (Scene Simulation)) : Prop :=
  Ensures m s (fun _ t => t.Calm origin ∧ t.Trusts id) fun _ t => t.Calm origin

theorem EarnsTrust.calm {m : Run (Scene Simulation) α} (h : EarnsTrust origin id m s) :
    EndsIn m s (Session.Calm origin) := h.mono (fun _ _ h => h.1) fun _ _ h => h

theorem endsIn_calm {m : Run (Scene Simulation) α} (hm : MadeOf (simulated options fuel) K m)
    (hK : ∀ c, K c → c.action? = none) (hs : s.Calm origin) : EndsIn m s (Session.Calm origin) :=
  (hm.endsIn s).imp fun _ h => h.calm hK hs

theorem earnsTrust {m : Run (Scene Simulation) α}
    (hm : MadeOf (simulated options fuel) (·.OfLibraries id) m) (hs : s.Calm origin)
    (ht : s.Trusts id) : EarnsTrust origin id m s :=
  (hm.endsIn s).mono (fun _ _ h => h.trusts hs ht) fun _ _ h => (h.trusts hs ht).1

theorem mutate_calm {action : Action} (stage : Stage) {c : Call} (hs : s.Calm origin)
    (hc : s.phase.permits action = true → s.world.state.Takes c) :
    EndsIn ((simulated options fuel).mutate action stage c) s (Session.Calm origin) :=
  endsIn_mutate stage hs fun hp _ => (hs.perform options fuel (hc hp)).of_eq rfl rfl

/-- A run of looks that ends with a look at a cluster out of transition is to be trusted. -/
theorem ensures_look {m : Run (Scene Simulation) α} {P : α → Prop}
    (hm : MadeOf (simulated options fuel) (Call.getCluster id = ·) m) (hs : s.Calm origin)
    (hok : ∀ a t, exec m s = (.ok a, t) → P a → ∃ u info,
      Steps (simulated options fuel) (Call.getCluster id = ·) s u ∧
        ((simulated options fuel).perform (.getCluster id) u).1 = .ok info ∧
        info.phase.isTransitional = false ∧ t = (simulated options fuel).lookAtCluster id u) :
    Ensures m s (fun a t => t.Calm origin ∧ (P a → t.Trusts id)) fun _ t => t.Calm origin := by
  have hlook : ∀ c, Call.getCluster id = c → c.action? = none := fun c h => by rw [← h]; rfl
  have hcalm := endsIn_calm hm hlook hs
  refine ⟨fun a t hx => ⟨hcalm.ok a t hx, fun hp => ?_⟩, hcalm.halted⟩
  obtain ⟨u, info, hu, ho, hn, rfl⟩ := hok a t hx hp
  exact (hu.calm hlook hs).trusts ho hn

theorem waitRunning_trusts (stage : Stage) (hs : s.Calm origin) :
    EarnsTrust origin id ((simulated options fuel).waitRunning stage id) s := by
  have hm := (simulated options fuel).madeOf.waitRunning stage (rfl : Call.getCluster id = _)
  refine (ensures_look (P := fun _ => True) hm hs fun info t hx _ => ?_).mono
    (fun _ _ h => ⟨h.1, h.2 trivial⟩) fun _ _ h => h
  have hw := (simulated options fuel).watchesCluster_steps (rfl : Call.getCluster id = _) s
  obtain ⟨u, hu, -, ho, hp, ht⟩ := waitRunning_eq_ok hw .refl hx
  exact ⟨u, info, hu, ho, by rw [hp]; rfl, ht⟩

theorem waitStable_trusts (stage : Stage) (hs : s.Calm origin) :
    EarnsTrust origin id ((simulated options fuel).waitStable stage id) s := by
  have hm := (simulated options fuel).madeOf.waitStable stage (rfl : Call.getCluster id = _)
  refine (ensures_look (P := fun _ => True) hm hs fun info t hx _ => ?_).mono
    (fun _ _ h => ⟨h.1, h.2 trivial⟩) fun _ _ h => h
  have hw := (simulated options fuel).watchesCluster_steps (rfl : Call.getCluster id = _) s
  obtain ⟨u, hu, -, ho, hp, ht⟩ := waitStable_eq_ok (fun what => hw.keeps what _) .refl hx
  exact ⟨u, info, hu, ho, (Bool.or_eq_false_iff.1 hp).1, ht⟩

theorem waitTerminated_trusts (hs : s.Calm origin) :
    Ensures ((simulated options fuel).waitTerminated id) s
      (fun there t => t.Calm origin ∧ (there = true → t.Trusts id)) fun _ t => t.Calm origin := by
  have hm := (simulated options fuel).madeOf_waitTerminated (rfl : Call.getCluster id = _)
  refine ensures_look hm hs fun there t hx hthere => ?_
  have hw := (simulated options fuel).watchesCluster_steps (rfl : Call.getCluster id = _) s
  obtain ⟨u, hu, -, ht, hi⟩ := waitTerminated_eq_ok hw .refl hx
  obtain ⟨info, ho, hp⟩ := hi hthere
  exact ⟨u, info, hu, ho, by rcases hp with hp | hp <;> rw [hp] <;> rfl, ht⟩

/-- A cluster that is read, and waited for if it is in transition, is to be trusted. -/
theorem fetchAndWait_trusts (stage : Stage) {waits : Phase → Bool}
    (hwait : ∀ p, waits p = false → p.isTransitional = false) (hs : s.Calm origin) :
    EarnsTrust origin id (do
        let info ← (simulated options fuel).fetchCluster stage id
        if waits info.phase then (simulated options fuel).waitStable stage id
        else return info) s := by
  have hm := (simulated options fuel).madeOf_fetchCluster stage (rfl : Call.getCluster id = _)
  refine (ensures_look (P := fun info => waits info.phase = false) hm hs
    fun info t hx hn => ?_).bind fun info t _ ht => ?_
  · obtain ⟨-, ho, rfl⟩ := (simulated options fuel).fetchCluster_eq_ok hx
    exact ⟨s, info, .refl, ho, hwait _ hn, rfl⟩
  · split_ifs with hp
    · exact waitStable_trusts stage ht.1
    · exact ensures_pure ⟨ht.1, ht.2 (by simpa using hp)⟩

theorem readStable_trusts (hs : s.Calm origin) :
    EarnsTrust origin id ((simulated options fuel).readStable id) s :=
  fetchAndWait_trusts .read (fun _ h => (Bool.or_eq_false_iff.1 h).1) hs

theorem readSettled_trusts (hs : s.Calm origin) :
    EarnsTrust origin id ((simulated options fuel).readSettled id) s :=
  fetchAndWait_trusts .delete (fun _ h => h) hs

theorem changeAndWait_trusts {action : Action} (stage : Stage) {c : Call}
    (ha : c.action? = some action) (hc : c.id = id) (hs : s.Calm origin) (ht : s.Trusts id) :
    EarnsTrust origin id (do
        (simulated options fuel).mutate action stage c
        let _ ← (simulated options fuel).waitRunning stage id) s := by
  subst hc
  -- The change may move the cluster, so that it is trusted again only after the wait.
  refine (mutate_calm stage hs fun hp => Simulation.StaysIn.takes ht ha hp).bind fun _ t _ h => ?_
  exact (waitRunning_trusts stage h).bind fun _ _ _ h => ensures_pure h

theorem adjust_trusts {desired : Desired} {o : Observed} (hs : s.Calm origin) (ht : s.Trusts id) :
    EarnsTrust origin id ((simulated options fuel).adjust id desired o) s := by
  have hstart : ∀ needed phase,
      EarnsTrust origin id ((simulated options fuel).startFor id needed phase) s := by
    intro needed phase
    unfold startFor
    split_ifs
    · exact changeAndWait_trusts .start rfl rfl hs ht
    · exact ensures_pure ⟨hs, ht⟩
  have hedit : ∀ needed t, Session.Calm origin t → t.Trusts id →
      EarnsTrust origin id ((simulated options fuel).editTo id desired.cluster needed) t := by
    intro needed t hs ht
    unfold editTo
    split_ifs
    · exact changeAndWait_trusts .edit rfl rfl hs ht
    · exact ensures_pure ⟨hs, ht⟩
  refine (hstart _ _).bind fun _ t _ h => (hedit _ t h.1 h.2).bind fun _ u _ h => ?_
  exact earnsTrust ((simulated options fuel).madeOf.finishLibraries id (fun _ h => h) _ _) h.1 h.2

theorem inspect_trusts (hs : s.Calm origin) :
    EarnsTrust origin id ((simulated options fuel).inspect id) s := by
  refine (readStable_trusts hs).bind fun info t _ h => ?_
  have hrefuse := (simulated options fuel).madeOf.refuseFailed (K := (·.OfLibraries id)) id info
  refine (earnsTrust hrefuse h.1 h.2).bind fun _ t _ h => ?_
  have hfetch := (simulated options fuel).madeOf_fetchLibraries .read
    (K := (·.OfLibraries id)) (rfl : Call.OfLibraries id (.libraryStatuses id))
  exact (earnsTrust hfetch h.1 h.2).bind fun _ _ _ h => ensures_pure h

theorem update_trusts {desired : Desired} (hs : s.Calm origin) :
    EarnsTrust origin id ((simulated options fuel).update id desired) s := by
  have hvalid := ((simulated options fuel).madeOf (K := fun _ => False)).validate desired
  refine (endsIn_calm hvalid (fun _ h => h.elim) hs).bind fun _ t _ h => ?_
  exact (inspect_trusts h).bind fun o u _ h => adjust_trusts h.1 h.2

theorem create_calm {desired : Desired} (hs : s.Calm origin) :
    EndsIn ((simulated options fuel).create desired) s (Session.Calm origin) := by
  have hvalid := ((simulated options fuel).madeOf (K := fun _ => False)).validate desired
  refine (endsIn_calm hvalid (fun _ h => h.elim) hs).bind fun _ t _ h => ?_
  have hlaunch := (simulated options fuel).madeOf_launch
    (rfl : Call.createCluster desired.cluster = _)
  refine (endsIn_calm hlaunch (fun c h => by rw [← h]; rfl) h).bind fun i t _ h => ?_
  refine (waitRunning_trusts .create h).bind fun _ t _ h => ?_
  split_ifs
  · have hlibraries := (simulated options fuel).madeOf.convergeLibraries i (fun _ h => h)
      desired.libraries []
    exact (earnsTrust hlibraries h.1 h.2).calm
  · exact ensures_pure h.1

theorem bringDown_trusts {phase : Phase} (hs : s.Calm origin) (ht : s.Trusts id) :
    Ensures ((simulated options fuel).bringDown id phase) s
      (fun there t => t.Calm origin ∧ (there = true → t.Trusts id)) fun _ t => t.Calm origin := by
  unfold bringDown
  split_ifs
  · exact ensures_pure ⟨hs, fun _ => ht⟩
  · refine (mutate_calm .delete hs fun _ => ?_).bind fun _ t _ h => waitTerminated_trusts h
    exact fun _ _ => trivial

theorem purge_calm (hs : s.Calm origin) :
    EndsIn ((simulated options fuel).purge id) s (Session.Calm origin) := by
  refine Ensures.tryCatch (E := fun _ t => t.Calm origin) ?_ fun h t ht => ?_
  · refine (readSettled_trusts hs).bind fun info t _ h => ?_
    refine (bringDown_trusts h.1 h.2).bind fun there t _ h => ?_
    split_ifs with hthere
    · refine mutate_calm .delete h.1 fun hp => ?_
      exact Simulation.StaysIn.takes (h.2 hthere) rfl hp
    · exact ensures_pure h.1
  · split_ifs
    · exact ensures_pure ht
    · exact ensures_throw ht

theorem carryOut_calm (options : Options) (fuel : Nat) (task : Task) {w : Scene Simulation}
    (hw : w.schedule = []) (hr : w.state.Reachable) :
    ((simulated options fuel).carryOut task w).session.Calm w.state := by
  have hs : Session.Calm w.state { world := w } := ⟨hw, hr.sound, fun _ h => h, by simp⟩
  exact carryOut_endsIn task (fun _ => create_calm hs)
    (fun _ _ => EarnsTrust.calm (update_trusts hs)) fun _ => purge_calm hs

/-- With nobody else at it, a simulation that has come about by its own operations never rejects a
call of a run for the phase of its cluster. If a run reports such a rejection, it was queued. -/
theorem carryOut_accepted (options : Options) (fuel : Nat) (task : Task) (w : Scene Simulation)
    (hw : w.schedule = []) (hr : w.state.Reachable) :
    let x := (simulated options fuel).carryOut task w
    (∀ e ∈ x.session.calls, ¬e.IsOwnRejection) ∧
      ∀ stage status message,
        x.outcome = .error (.failed ⟨stage, .api status "INVALID_STATE" message⟩) →
          w.state.Queues (.api status "INVALID_STATE" message) := by
  intro x
  have hs : x.session.Calm w.state := carryOut_calm options fuel task hw hr
  refine ⟨fun e he => (hs.inOrder e (Session.mem_calls.1 he)).not_isOwnRejection,
    fun stage status message hx => ?_⟩
  obtain he | ⟨desired, id, -, he, -⟩ := (simulated options fuel).carryOut_halted task w hx
  · obtain ⟨e, hmem, ha⟩ := he
    rcases hs.inOrder e hmem _ ha with ⟨-, hq⟩ | hm
    · exact hq
    · simp [Simulation.missing, ClientError.notFound] at hm
  · cases he.eq

/-- A terminated cluster with a rejection queued for the installation of its library. -/
def guardedWorld : Scene Simulation where
  state := (sampleWorld .terminated).state.enqueue "install_libraries"
    (some (.api 400 "INVALID_STATE" "queued"))

theorem carryOut_accepted_sample :
    let x := (simulated {} 9).carryOut (.reconcile sample (some "c")) guardedWorld
    x.outcome = .error (.failed ⟨.libraryInstall, .api 400 "INVALID_STATE" "queued"⟩) ∧
      guardedWorld.state.Queues (.api 400 "INVALID_STATE" "queued") ∧
      ∃ e ∈ x.session.calls, e.call = .startCluster "c" ∧ ¬e.IsOwnRejection := by
  intro x
  have hr : guardedWorld.state.Reachable := .enqueue (.insert (.start 1) _ _) _ _
  have hx : x.outcome = .error (.failed ⟨.libraryInstall, .api 400 "INVALID_STATE" "queued"⟩) := by
    decide +kernel
  have hstart : ∃ e ∈ x.session.calls, e.call = .startCluster "c" := by decide +kernel
  obtain ⟨haccepted, hqueued⟩ :=
    carryOut_accepted {} 9 (.reconcile sample (some "c")) guardedWorld rfl hr
  obtain ⟨e, he, hcall⟩ := hstart
  exact ⟨hx, hqueued _ _ _ hx, e, he, hcall, haccepted e he⟩

end Reconciler
end ClusterReconciliation
