import ClusterReconciliation.Proofs.Simulated

/-! What a call, or whatever else is done to a simulation, does to its clusters. A call that fails
changes none of them; one that is answered changes the cluster that it is about as that cluster
alone demands, and no other. All that holds of the clusters at any time follows from these
changes. -/
namespace ClusterReconciliation

namespace Call

/-- The cluster that an answered call was about. -/
def subject : (c : Call) → c.Reply → String
  | createCluster _, id => id
  | getCluster id, _ => id
  | startCluster id, _ => id
  | editCluster id _, _ => id
  | deleteCluster id, _ => id
  | permanentDeleteCluster id, _ => id
  | libraryStatuses id, _ => id
  | installLibraries id _, _ => id
  | uninstallLibraries id _, _ => id

/-- What an answered call makes of the cluster that it is about; transitions are seen so often. -/
inductive Makes (polls : Nat) (id : String) :
    Call → Option SimulatedCluster → Option SimulatedCluster → Prop
  | created (spec : Cluster.Spec) (c : Option SimulatedCluster) :
    Makes polls id (createCluster spec) c (some (SimulatedCluster.depart
      ⟨SimulatedCluster.reshape { id := id } spec, .running, 0, []⟩ .pending .running polls))
  | seen (c : SimulatedCluster) : Makes polls id (getCluster id) (some c) (some c.observe)
  | started (c : SimulatedCluster) (h : c.info.phase = .terminated) :
    Makes polls id (startCluster id) (some c) (some (c.depart .pending .running polls))
  | edited (c : SimulatedCluster) (spec : Cluster.Spec) (h : c.info.phase = .running) :
    Makes polls id (editCluster id spec) (some c) (some (c.edit spec polls))
  | down (c : SimulatedCluster) (h : c.info.phase = .terminated) :
    Makes polls id (deleteCluster id) (some c) (some c)
  | broughtDown (c : SimulatedCluster) (h : c.info.phase ≠ .terminated) :
    Makes polls id (deleteCluster id) (some c) (some (c.depart .terminating .terminated polls))
  | purged (c : SimulatedCluster) (h : c.info.phase = .terminated ∨ c.info.phase = .error) :
    Makes polls id (permanentDeleteCluster id) (some c) none
  | listed (c : SimulatedCluster) :
    Makes polls id (libraryStatuses id) (some c) (some c.observeLibraries)
  | installed (c : SimulatedCluster) (ls : List Library) (failing : Library → Nat)
    (h : c.info.phase = .running) : Makes polls id (installLibraries id ls) (some c)
      (some (View.submitAll ⟨polls, failing, c⟩ ls).cluster)
  | removed (c : SimulatedCluster) (ls : List Library) (h : c.info.phase = .running) :
    Makes polls id (uninstallLibraries id ls) (some c) (some (c.remove ls))

end Call

namespace Simulation
variable {s t : Simulation} {id : String} {c : Call}

/-- A call was answered, and left the clusters like this. -/
inductive Served (s : Simulation) (c : Call) : Except ClientError c.Reply → Simulation → Prop
  | failed {e : ClientError} {t : Simulation} (polls : t.transitionPolls = s.transitionPolls)
    (clusters : t.clusters = s.clusters) : Served s c (.error e) t
  | done {r : c.Reply} {t : Simulation} (polls : t.transitionPolls = s.transitionPolls)
    (subject : c.Makes s.transitionPolls (c.subject r) (s.clusters.get? (c.subject r))
      (t.clusters.get? (c.subject r)))
    (others : ∀ j, j ≠ c.subject r → t.clusters.get? j = s.clusters.get? j) : Served s c (.ok r) t

theorem served_done {r : c.Reply} {x y : Option SimulatedCluster} (hid : c.subject r = id)
    (polls : t.transitionPolls = s.transitionPolls) (before : s.clusters.get? id = x)
    (after : t.clusters.get? id = y) (h : c.Makes s.transitionPolls id x y)
    (others : ∀ j, j ≠ id → t.clusters.get? j = s.clusters.get? j) : s.Served c (.ok r) t := by
  subst hid before after
  exact .done polls h others

theorem served_put {r : c.Reply} {x : Option SimulatedCluster} {d : SimulatedCluster}
    (hid : c.subject r = id) (before : s.clusters.get? id = x)
    (h : c.Makes s.transitionPolls id x (some d)) : s.Served c (.ok r) (s.put id d) :=
  served_done hid rfl before (s.clusters.get?_insert_self id d) h fun _ hj =>
    s.clusters.get?_insert_of_ne hj d

theorem served_look {f : SimulatedCluster → c.Reply} {after : SimulatedCluster → SimulatedCluster}
    (hid : ∀ r, c.subject r = id)
    (h : ∀ d, c.Makes s.transitionPolls id (some d) (some (after d))) :
    s.Served c (s.look id f after).1 (s.look id f after).2 := by
  unfold look
  cases hd : s.clusters.get? id with
  | none => exact .failed rfl rfl
  | some d => exact served_put (hid _) hd (h d)

theorem change_cases (s : Simulation) (id : String) (phase : Phase) (operation : String)
    (f : SimulatedCluster → SimulatedCluster) :
    (∃ e, s.change id phase operation f = (.error e, s)) ∨
      ∃ d, s.clusters.get? id = some d ∧ d.info.phase = phase ∧
        s.change id phase operation f = (.ok (), s.put id (f d)) := by
  unfold change
  cases hd : s.clusters.get? id with
  | none => exact .inl ⟨_, rfl⟩
  | some d =>
    by_cases hp : d.info.phase = phase
    · exact .inr ⟨d, rfl, hp, by simp [hp]⟩
    · exact .inl ⟨d.rejection operation, by simp [hp]⟩

theorem purge_cases (s : Simulation) (id : String) :
    (∃ e, s.purge id = (.error e, s)) ∨
      ∃ d, s.clusters.get? id = some d ∧ (d.info.phase = .terminated ∨ d.info.phase = .error) ∧
        s.purge id = (.ok (), { s with clusters := s.clusters.erase id }) := by
  unfold purge
  cases hd : s.clusters.get? id with
  | none => exact .inl ⟨_, rfl⟩
  | some d =>
    by_cases hp : d.info.phase = .terminated ∨ d.info.phase = .error
    · exact .inr ⟨d, rfl, hp, by simp [hp]⟩
    · exact .inl ⟨d.rejection "permanent-delete", by simp [hp]⟩

theorem install_cases (s : Simulation) (id : String) (ls : List Library) :
    (∃ e, s.install id ls = (.error e, s)) ∨
      ∃ d, s.clusters.get? id = some d ∧ d.info.phase = .running ∧
        s.install id ls = (.ok (), submitAll id ls (d, s)) := by
  unfold install
  cases hd : s.clusters.get? id with
  | none => exact .inl ⟨_, rfl⟩
  | some d =>
    by_cases hp : d.info.phase = .running
    · exact .inr ⟨d, rfl, hp, by simp [hp]⟩
    · exact .inl ⟨d.rejection "library install", by simp [hp]⟩

/-- The submissions are made one by one, each of them to the cluster that the last one left. -/
theorem submitAll_effect (ls : List Library) {d : SimulatedCluster}
    (hd : s.clusters.get? id = some d) :
    (submitAll id ls (d, s)).transitionPolls = s.transitionPolls ∧
      (submitAll id ls (d, s)).clusters.get? id =
        some (View.submitAll ⟨s.transitionPolls, s.failuresLeft, d⟩ ls).cluster ∧
      ∀ j, j ≠ id → (submitAll id ls (d, s)).clusters.get? j = s.clusters.get? j := by
  induction ls generalizing s d with
  | nil => exact ⟨rfl, hd, fun j _ => rfl⟩
  | cons l ls ih =>
    obtain ⟨hgoal, hfailing, hpolls, hclusters, -⟩ := s.nextGoal_eq l
    obtain ⟨hp, hg, ho⟩ := ih (s := (s.submit id d l).2)
      ((s.nextGoal l).2.clusters.get?_insert_self id (s.submit id d l).1)
    have hview : View.submit ⟨s.transitionPolls, s.failuresLeft, d⟩ l =
        ⟨(s.submit id d l).2.transitionPolls, (s.submit id d l).2.failuresLeft,
          (s.submit id d l).1⟩ := by
      change _ = View.mk (s.nextGoal l).2.transitionPolls (s.nextGoal l).2.failuresLeft
        (d.submit l (s.nextGoal l).1 (s.nextGoal l).2.transitionPolls)
      rw [hgoal, hfailing, hpolls]
      rfl
    refine ⟨hp.trans hpolls, ?_, fun j hj => (ho j hj).trans ?_⟩
    · rw [View.submitAll, List.foldl_cons, hview]
      exact hg
    · rw [← hclusters]
      exact (s.nextGoal l).2.clusters.get?_insert_of_ne hj _

theorem Served.polls {a : Except ClientError c.Reply} (h : s.Served c a t) :
    t.transitionPolls = s.transitionPolls := by
  cases h with
  | failed hp => exact hp
  | done hp => exact hp

theorem serve_served (s : Simulation) (c : Call) : s.Served c (s.serve c).1 (s.serve c).2 := by
  cases c with
  | createCluster spec =>
    exact served_done rfl rfl rfl (s.clusters.get?_insert_self _ _) (.created spec _) fun _ hj =>
      s.clusters.get?_insert_of_ne hj _
  | getCluster i => exact served_look (fun _ => rfl) .seen
  | startCluster i =>
    rcases s.change_cases i .terminated "start" (·.depart .pending .running s.transitionPolls) with
      ⟨e, he⟩ | ⟨d, hd, hp, he⟩ <;> rw [serve, he]
    · exact .failed rfl rfl
    · exact served_put rfl hd (.started d hp)
  | editCluster i spec =>
    change s.Served (.editCluster i spec)
      (s.change i .running "edit" (·.edit spec s.transitionPolls)).1
      (s.change i .running "edit" (·.edit spec s.transitionPolls)).2
    rcases s.change_cases i .running "edit" (·.edit spec s.transitionPolls) with
      ⟨e, he⟩ | ⟨d, hd, hp, he⟩ <;> rw [he]
    · exact .failed rfl rfl
    · exact served_put rfl hd (.edited d spec hp)
  | deleteCluster i =>
    refine served_look (fun _ => rfl) fun d => ?_
    split_ifs with hp
    · exact .down d hp
    · exact .broughtDown d hp
  | permanentDeleteCluster i =>
    rcases s.purge_cases i with ⟨e, he⟩ | ⟨d, hd, hp, he⟩ <;> rw [serve, he]
    · exact .failed rfl rfl
    · exact served_done rfl rfl hd (s.clusters.get?_erase_self i) (.purged d hp) fun _ hj =>
        s.clusters.get?_erase_of_ne hj
  | libraryStatuses i => exact served_look (fun _ => rfl) .listed
  | installLibraries i ls =>
    rcases s.install_cases i ls with ⟨e, he⟩ | ⟨d, hd, hp, he⟩ <;> rw [serve, he]
    · exact .failed rfl rfl
    · obtain ⟨hpolls, hself, hothers⟩ := submitAll_effect ls hd
      exact served_done rfl hpolls hd hself (.installed d ls _ hp) hothers
  | uninstallLibraries i ls =>
    rcases s.change_cases i .running "library uninstall" (·.remove ls) with
      ⟨e, he⟩ | ⟨d, hd, hp, he⟩ <;> rw [serve, he]
    · exact .failed rfl rfl
    · exact served_put rfl hd (.removed d ls hp)

theorem enter_transitionPolls (s : Simulation) (c : Call) :
    (s.enter c).2.transitionPolls = s.transitionPolls := by
  simp only [enter]
  split <;> rfl

theorem enter_clusters (s : Simulation) (c : Call) : (s.enter c).2.clusters = s.clusters := by
  simp only [enter]
  split <;> rfl

/-- A call that fails changes no cluster, and one that is answered the one that it is about. -/
theorem answer_served (s : Simulation) (c : Call) : s.Served c (s.answer c).1 (s.answer c).2 := by
  have hpolls := s.enter_transitionPolls c
  have hclusters := s.enter_clusters c
  unfold answer
  rcases hc : s.enter c with ⟨_ | e, t⟩ <;> rw [hc] at hpolls hclusters
  · have h := t.serve_served c
    dsimp only at hpolls hclusters ⊢
    generalize (t.serve c).1 = a, (t.serve c).2 = u at h ⊢
    cases h with
    | failed hp hc => exact .failed (hp.trans hpolls) (hc.trans hclusters)
    | done hp hm ho =>
      rw [hpolls, hclusters] at hm
      rw [hclusters] at ho
      exact .done (hp.trans hpolls) hm ho
  · exact .failed hpolls hclusters

/-- What is done to a simulation: clusters are put there and set to a phase, failures are prepared,
and calls are made. -/
inductive Input
  | insert (info : Cluster.Info) (libraries : List LibraryStatus)
  | enqueue (method : String) (result : Option ClientError)
  | failInstall (l : Library) (times : Nat)
  | setPhase (id : String) (phase : Phase)
  | call (c : Call)
  deriving DecidableEq

def after (s : Simulation) : Input → Simulation
  | .insert info libraries => s.insert info libraries
  | .enqueue method result => s.enqueue method result
  | .failInstall l times => s.failInstall l times
  | .setPhase id phase => s.setPhase id phase
  | .call c => (s.answer c).2

/-- The cluster that an input goes to. A call goes to none unless it is answered. -/
def target (s : Simulation) : Input → Option String
  | .insert info _ => some info.id
  | .setPhase id _ => some id
  | .call c => (s.answer c).1.toOption.map c.subject
  | _ => none

/-- What an input makes of the cluster that it goes to. -/
inductive Input.Makes (polls : Nat) (id : String) :
    Input → Option SimulatedCluster → Option SimulatedCluster → Prop
  | inserted (info : Cluster.Info) (libraries : List LibraryStatus) (c : Option SimulatedCluster)
    (h : info.id = id) : Makes polls id (insert info libraries) c (some (.atRest info libraries))
  | set (phase : Phase) (c : Option SimulatedCluster) :
    Makes polls id (setPhase id phase) c (c.map (·.rest phase))
  | answered {c : Call} {x y : Option SimulatedCluster} (h : c.Makes polls id x y) :
    Makes polls id (call c) x y

/-- What holds of a cluster still does after an input, if it does of what is put there, of what is
brought to rest, and of what a call makes. -/
theorem Input.Makes.keeps {P : SimulatedCluster → Prop} {polls : Nat} {i : Input}
    {x : Option SimulatedCluster} {d : SimulatedCluster} (h : i.Makes polls id x (some d))
    (hx : ∀ b, x = some b → P b)
    (inserted : ∀ info libraries, i = .insert info libraries → info.id = id →
      P (.atRest info libraries))
    (rested : ∀ b phase, P b → P (b.rest phase))
    (made : ∀ {c : Call}, c.Makes polls id x (some d) → P d) : P d := by
  generalize hy : some d = y at h
  cases h with
  | inserted info libraries _ hid =>
    cases hy
    exact inserted info libraries rfl hid
  | set phase =>
    obtain ⟨b, rfl, rfl⟩ := Option.map_eq_some_iff.1 hy.symm
    exact rested b phase (hx b rfl)
  | answered h =>
    subst hy
    exact made h

theorem setPhase_cases (s : Simulation) (id : String) (phase : Phase) :
    (s.clusters.get? id = none ∧ s.setPhase id phase = s) ∨
      ∃ d, s.clusters.get? id = some d ∧ s.setPhase id phase = s.put id (d.rest phase) := by
  unfold setPhase
  cases hd : s.clusters.get? id with
  | none => exact .inl ⟨rfl, rfl⟩
  | some d => exact .inr ⟨d, rfl, rfl⟩

theorem after_transitionPolls (s : Simulation) (i : Input) :
    (s.after i).transitionPolls = s.transitionPolls := by
  cases i with
  | insert | enqueue | failInstall => rfl
  | setPhase id phase =>
    rcases s.setPhase_cases id phase with ⟨-, h⟩ | ⟨d, -, h⟩ <;> rw [after, h]
    rfl
  | call c => exact (s.answer_served c).polls

/-- An input makes something of the cluster that it goes to, and leaves all others as they are. -/
theorem after_cases (s : Simulation) (i : Input) (id : String) :
    (s.target i = some id ∧
      i.Makes s.transitionPolls id (s.clusters.get? id) ((s.after i).clusters.get? id)) ∨
    (s.target i ≠ some id ∧ (s.after i).clusters.get? id = s.clusters.get? id) := by
  cases i with
  | insert info libraries =>
    by_cases hid : info.id = id
    · refine .inl ⟨congrArg some hid, ?_⟩
      subst hid
      have hself : (s.after (.insert info libraries)).clusters.get? info.id =
          some (.atRest info libraries) := s.clusters.get?_insert_self _ _
      rw [hself]
      exact .inserted info libraries _ rfl
    · exact .inr ⟨fun h => hid (Option.some.inj h), s.clusters.get?_insert_of_ne (Ne.symm hid) _⟩
  | enqueue | failInstall => exact .inr ⟨nofun, rfl⟩
  | setPhase k phase =>
    by_cases hid : k = id
    · refine .inl ⟨congrArg some hid, ?_⟩
      subst hid
      have hself : (s.after (.setPhase k phase)).clusters.get? k =
          (s.clusters.get? k).map (·.rest phase) := by
        rcases s.setPhase_cases k phase with ⟨hd, h⟩ | ⟨d, hd, h⟩ <;> rw [after, h, hd]
        · rfl
        · exact s.clusters.get?_insert_self k _
      rw [hself]
      exact .set phase _
    · refine .inr ⟨fun h => hid (Option.some.inj h), ?_⟩
      rcases s.setPhase_cases k phase with ⟨-, h⟩ | ⟨d, -, h⟩ <;> rw [after, h]
      exact s.clusters.get?_insert_of_ne (Ne.symm hid) _
  | call c =>
    have h := s.answer_served c
    simp only [after, target]
    generalize (s.answer c).1 = a, (s.answer c).2 = t at h
    cases h with
    | failed _ hc => exact .inr ⟨nofun, by rw [hc]⟩
    | @done r _ _ hm ho =>
      by_cases hid : id = c.subject r
      · subst hid
        exact .inl ⟨rfl, .answered hm⟩
      · exact .inr ⟨fun h => hid (Option.some.inj h).symm, ho id hid⟩

/-- What holds of every cluster under its id still does after an input, if it does of what the input
makes of them. -/
theorem every_after {P : String → SimulatedCluster → Prop} (i : Input)
    (made : ∀ {id x d}, i.Makes s.transitionPolls id x (some d) →
      (∀ b, x = some b → P id b) → P id d)
    (hs : ∀ id d, s.clusters.get? id = some d → P id d) :
    ∀ id d, (s.after i).clusters.get? id = some d → P id d := by
  intro id d hd
  rcases s.after_cases i id with ⟨-, hm⟩ | ⟨-, he⟩
  · rw [hd] at hm
    exact made hm (hs id)
  · exact hs id d (he ▸ hd)

end Simulation
end ClusterReconciliation
