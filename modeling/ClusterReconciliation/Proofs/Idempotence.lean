import ClusterReconciliation.Proofs.SimulatedRounds

/-! A second reconciliation after one that succeeded. The first one leaves a running cluster with
the desired shape and with libraries that are at rest and as desired, on which the second one finds
nothing to do. A terminated cluster it may leave with libraries still on their way, and what becomes
of them is for the second one to see. -/
namespace ClusterReconciliation
open Run
variable {options : Options} {fuel : Nat} {s t : Session (Scene Simulation)} {id : String}
  {v w : View} {desired : Desired}

/-- The cluster was read as it is, and its libraries after it. -/
structure Session.Knows (s : Session (Scene Simulation)) (id : String) (v : View) : Prop where
  fresh : s.Fresh id v
  cluster : s.cluster = some v.cluster.info
  goal : v.cluster.goal = v.cluster.info.phase

theorem Session.Knows.phase (h : s.Knows id v) : s.phase = v.cluster.info.phase := by
  rw [Session.phase, h.cluster]
  rfl

theorem Session.Notes.phase (h : s.Notes id v) : s.phase = v.cluster.info.phase := by
  rw [Session.phase, h.cluster]
  rfl

theorem Scene.Still.shows {info : Cluster.Info} (hw : s.world.Still) (hc : s.world.state.Clear)
    (h : ((Reconciler.simulated options fuel).perform (.getCluster id) s).1 = .ok info) :
    ∃ v, s.Shows id v ∧ s.world.state.clusters.get? id = some v.cluster := by
  rw [Reconciler.simulated_perform, Simulation.answer_of_clear hc] at h
  cases hk : s.world.state.clusters.get? id with
  | none =>
    simp only [Simulation.serve, Simulation.look, hk] at h
    cases h
  | some k => exact ⟨⟨_, _, k⟩, ⟨hw, hc, rfl, rfl, hk⟩, rfl⟩

theorem diffLibraries_isEmpty {desired : List Library} {o : List LibraryStatus} {n : Nat} :
    (diffLibraries desired o (.ofBudget n)).isEmpty = true ↔
      (∀ l ∈ desired, isWanting o l = false) ∧ ∀ s ∈ o, isRemovable desired s = false := by
  have hall : ∀ l, (InstallAttempts.ofBudget n).allows l = true := fun l => by
    simp [InstallAttempts.allows, InstallAttempts.used, InstallAttempts.ofBudget]
  simp only [LibraryDiff.isEmpty_iff, List.eq_nil_iff_forall_not_mem, mem_install, mem_uninstall, hall]
  constructor
  · rintro ⟨hi, hu⟩
    refine ⟨fun l hl => ?_, fun s hs => ?_⟩
    · simpa [hl] using hi l
    · by_contra hr
      exact hu s.library ⟨s, hs, by simpa using hr, rfl⟩
  · rintro ⟨hi, hu⟩
    refine ⟨fun l hl => ?_, ?_⟩
    · simp [hi l hl.1] at hl
    · rintro l ⟨s, hs, hr, -⟩
      simp [hu s hs] at hr

namespace Reconciler

theorem inspect_knows {o : Observed} (hs : s.Shows id v) (hv : v.cluster.Sound id)
    (h : exec ((simulated options fuel).inspect id) s = (.ok o, t)) :
    ∃ w, t.Knows id w ∧ v.Like w ∧ o = ⟨w.cluster.info, w.cluster.statuses⟩ ∧
      t.actions = s.actions ∧
      (w.cluster.info.phase = .running ∨ w.cluster.info.phase = .terminated) := by
  have hact := ((simulated options fuel).madeOf.inspect id (K := fun c => c.action? = none)
    rfl rfl s).actions_eq fun c hc => hc
  rw [h] at hact
  obtain ⟨info, u, hu, k₁⟩ := exec_bind_eq_ok.1 h
  obtain ⟨_, u', hu', k₂⟩ := exec_bind_eq_ok.1 k₁
  obtain ⟨libraries, x, hx, k₃⟩ := exec_bind_eq_ok.1 k₂
  cases k₃
  obtain ⟨w, hw, hl, rfl, hn⟩ := readStable_notes hs hv hu
  unfold refuseFailed at hu'
  split_ifs at hu' with hf
  · cases congrArg Prod.fst hu'
  · obtain rfl : u = u' := congrArg Prod.snd hu'
    obtain ⟨hfresh, rfl, hc, -⟩ := fetchLibraries_fresh hw.shows hw.sound hx
    exact ⟨w, ⟨hfresh, hc.trans hw.cluster, hw.goal⟩, hl, rfl, hact,
      Phase.eq_of_settled hn (by simpa using hf)⟩

/-- A start leads to a running cluster with the shape and the libraries it had. -/
theorem startFor_notes {needed : Bool} {u : Unit} (hs : s.Knows id v)
    (h : exec ((simulated options fuel).startFor id needed v.cluster.info.phase) s = (.ok u, t)) :
    if needed && v.cluster.info.phase == .terminated then
      ∃ w, t.Notes id w ∧ w.cluster.info.phase = .running ∧ t.actions ≠ [] ∧
        (v.withCluster v.cluster.observeLibraries).Like w
    else t = s := by
  unfold startFor at h
  split_ifs at h ⊢ with hn
  · obtain ⟨w, hw, hl, hp, -, ha⟩ :=
      changeAndWait_notes hs.fresh.shows hs.fresh.sound.observeLibraries (c := .startCluster id) rfl h
    exact ⟨w, hw, hp, ha, (View.Like.start _).trans hl⟩
  · exact (congrArg Prod.snd h).symm

theorem editTo_notes {spec : Cluster.Spec} {u : Unit} (hs : s.Shows id v)
    (hv : v.cluster.Sound id) (hp : v.cluster.info.phase = .running)
    (h : exec ((simulated options fuel).editTo id spec true) s = (.ok u, t)) :
    ∃ w, t.Notes id w ∧ w.cluster.info.phase = .running ∧ t.actions ≠ [] ∧
      (v.withCluster (v.cluster.edit spec v.polls)).Like w := by
  rw [editTo, if_pos rfl] at h
  obtain ⟨w, hw, hl, hrun, -, ha⟩ := changeAndWait_notes hs hv (c := .editCluster id spec) rfl h
  rw [View.next, View.change_of_phase hp] at hl
  exact ⟨w, hw, hrun, ha, hl⟩

/-- Without fuel the rounds do not come to an end. -/
theorem fuel_pos_of_convergeLibraries {libraries : List Library} {o : List LibraryStatus}
    {u : Unit} (h : exec ((simulated options fuel).convergeLibraries id libraries o) s = (.ok u, t)) :
    0 < fuel := by
  cases fuel with
  | zero => cases congrArg Prod.fst h
  | succ n => exact n.succ_pos

theorem fuel_pos_of_waitRunning {stage : Stage} {info : Cluster.Info}
    (h : exec ((simulated options fuel).waitRunning stage id) s = (.ok info, t)) : 0 < fuel := by
  cases fuel with
  | zero => cases congrArg Prod.fst h
  | succ n => exact n.succ_pos

theorem convergeLibraries_knows {libraries : List Library} {o : List LibraryStatus} {u : Unit}
    (hs : s.Knows id v) (hp : v.cluster.info.phase = .running) (ho : o = v.cluster.statuses)
    (h : exec ((simulated options fuel).convergeLibraries id libraries o) s = (.ok u, t)) :
    ∃ w, t.Knows id w ∧ w.cluster.info = v.cluster.info ∧ w.Done libraries ∧ 0 < fuel := by
  have hmade := (simulated options fuel).madeOf.convergeLibraries id (fun _ h => h) libraries o
  have hc := (hmade s).cluster_eq (fun _ h => h) fun _ h => h
  rw [h] at hc
  obtain ⟨w, hw, hi, hg, hd⟩ := convergeLibraries_done hs.fresh hp ho h
  exact ⟨w, ⟨hw, hc.trans (hi ▸ hs.cluster), by rw [hg, hi, hs.goal]⟩, hi, hd,
    fuel_pos_of_convergeLibraries h⟩

/-- The libraries are brought to the desired ones from where they are, whether they were read
before or have to be read again after a change. -/
theorem finishLibraries_knows {libraries : List Library} {o : List LibraryStatus} {u : Unit}
    (hs : s.Notes id v ∧ s.actions ≠ [] ∨
      s.Knows id v ∧ s.actions = [] ∧ o = v.cluster.statuses)
    (hp : v.cluster.info.phase = .running)
    (h : exec ((simulated options fuel).finishLibraries id libraries o) s = (.ok u, t)) :
    ∃ w, t.Knows id w ∧ w.cluster.info = v.cluster.info ∧ w.Done libraries ∧ 0 < fuel := by
  obtain ⟨s', _, hs', k₁⟩ := exec_bind_eq_ok.1 h
  cases hs'
  have hphase : s.phase = .running := by
    rcases hs with ⟨hn, -⟩ | ⟨hk, -⟩
    · rw [hn.phase, hp]
    · rw [hk.phase, hp]
  rw [if_pos hphase] at k₁
  obtain ⟨o', x, ho, k₂⟩ := exec_bind_eq_ok.1 k₁
  obtain ⟨s', _, hs', k₃⟩ := exec_bind_eq_ok.1 ho
  cases hs'
  have hread : x.Knows id v ∧ o' = v.cluster.statuses := by
    rcases hs with ⟨hn, ha⟩ | ⟨hk, ha, rfl⟩
    · rw [if_neg (by simpa using ha)] at k₃
      obtain ⟨hf, ho', hc, -⟩ := fetchLibraries_fresh hn.shows hn.sound k₃
      exact ⟨⟨hf, hc.trans hn.cluster, hn.goal⟩, ho'⟩
    · rw [if_pos (by simpa using ha)] at k₃
      cases k₃
      exact ⟨hk, rfl⟩
  exact convergeLibraries_knows hread.1 hp hread.2 k₂

/-- An adjustment that succeeds leaves a running cluster with its libraries as desired, or did
nothing with a terminated one. -/
theorem adjust_done {u : Unit} (hs : s.Knows id v) (ha : s.actions = [])
    (hp : v.cluster.info.phase = .running ∨ v.cluster.info.phase = .terminated)
    (h : exec ((simulated options fuel).adjust id desired
      ⟨v.cluster.info, v.cluster.statuses⟩) s = (.ok u, t)) :
    ∃ w, t.Knows id w ∧ desired.cluster.shapeDiff w.cluster.info = [] ∧
      (w.cluster.info.phase = .running ∧ w.Done desired.libraries ∧ 0 < fuel ∨
        w = v ∧ t = s ∧ v.cluster.info.phase = .terminated ∧
          (diffLibraries desired.libraries v.cluster.statuses
            (.ofBudget options.attemptBudget)).isEmpty = true) := by
  obtain ⟨_, s₁, h₁, k₁⟩ := exec_bind_eq_ok.1 h
  obtain ⟨_, s₂, h₂, k₂⟩ := exec_bind_eq_ok.1 k₁
  have hstart := startFor_notes hs h₁
  have finish : ∀ {x : View}, s₂.Notes id x → s₂.actions ≠ [] → x.cluster.info.phase = .running →
      desired.cluster.shapeDiff x.cluster.info = [] →
      ∃ w, t.Knows id w ∧ desired.cluster.shapeDiff w.cluster.info = [] ∧
        w.cluster.info.phase = .running ∧ w.Done desired.libraries ∧ 0 < fuel := by
    intro x hx hact hrun hshape
    obtain ⟨w, hw, hi, hd⟩ := finishLibraries_knows (.inl ⟨hx, hact⟩) hrun k₂
    exact ⟨w, hw, hi ▸ hshape, hi ▸ hrun, hd⟩
  cases hshape : desired.cluster.shapeDiff v.cluster.info with
  | cons field fields =>
    simp only [hshape, List.isEmpty_cons, Bool.not_false, Bool.true_or, Bool.true_and,
      beq_iff_eq] at hstart h₂
    have hrun : ∃ x, s₁.Shows id x ∧ x.cluster.Sound id ∧ x.cluster.info.phase = .running := by
      split_ifs at hstart with hterm
      · obtain ⟨x, hx, hrun, -⟩ := hstart
        exact ⟨x, hx.shows, hx.sound, hrun⟩
      · exact ⟨v.withCluster v.cluster.observeLibraries, hstart ▸ hs.fresh.shows,
          hs.fresh.sound.observeLibraries, hp.resolve_right hterm⟩
    obtain ⟨x, hx, hsound, hrun⟩ := hrun
    obtain ⟨y, hy, hrun', hact, hlike⟩ := editTo_notes hx hsound hrun h₂
    have hnil : desired.cluster.shapeDiff y.cluster.info = [] := by
      rw [hlike.shapeDiff]
      exact desired.cluster.shapeDiff_reshape x.cluster.info
    obtain ⟨w, hw, hsh, hw'⟩ := finish hy hact hrun' hnil
    exact ⟨w, hw, hsh, .inl hw'⟩
  | nil =>
    simp only [hshape, List.isEmpty_nil, Bool.not_true, Bool.false_or] at hstart h₂
    obtain rfl : s₁ = s₂ := congrArg Prod.snd h₂
    split_ifs at hstart with hterm
    · obtain ⟨x, hx, hrun, hact, hlike⟩ := hstart
      obtain ⟨w, hw, hsh, hw'⟩ := finish hx hact hrun ((hlike.shapeDiff _).trans hshape)
      exact ⟨w, hw, hsh, .inl hw'⟩
    · subst hstart
      rcases hp with hp | hp
      · obtain ⟨w, hw, hi, hd⟩ := finishLibraries_knows (.inr ⟨hs, ha, rfl⟩) hp k₂
        exact ⟨w, hw, hi ▸ hshape, .inl ⟨hi ▸ hp, hd⟩⟩
      · have hdelta : (diffLibraries desired.libraries v.cluster.statuses
            (.ofBudget options.attemptBudget)).isEmpty = true := by
          simpa [hp] using hterm
        obtain ⟨s', _, hs', k₃⟩ := exec_bind_eq_ok.1 k₂
        cases hs'
        rw [if_neg (by rw [hs.phase, hp]; simp)] at k₃
        cases k₃
        exact ⟨v, hs, hshape, .inr ⟨rfl, rfl, hp, hdelta⟩⟩

/-- A library list that is empty has just been read wherever it was read. -/
theorem fresh_of_libraries_eq_nil (hs : s.Notes id v) (hv : v.cluster.libraries = [])
    (hl : s.libraries = []) : s.Knows id v := by
  have ho : v.cluster.observeLibraries = v.cluster :=
    SimulatedCluster.observeLibraries_eq (by simp [hv])
  refine ⟨⟨?_, hs.sound, ?_⟩, hs.cluster, hs.goal⟩
  · rw [ho]
    exact hs.shows
  · rw [hl, SimulatedCluster.statuses, hv]
    rfl

/-- A creation that succeeds leaves a running cluster with its libraries as desired. -/
theorem create_done {u : Unit} (hw : s.world.Still) (hc : s.world.state.Clear)
    (hl : s.libraries = [])
    (h : exec ((simulated options fuel).create desired) s = (.ok u, t)) :
    ∃ id w, t.Knows id w ∧ desired.cluster.shapeDiff w.cluster.info = [] ∧
      w.cluster.info.phase = .running ∧ w.Done desired.libraries ∧ 0 < fuel := by
  obtain ⟨_, s₁, h₁, k₁⟩ := exec_bind_eq_ok.1 h
  obtain ⟨id, s₂, h₂, k₂⟩ := exec_bind_eq_ok.1 k₁
  obtain ⟨info, s₃, h₃, k₃⟩ := exec_bind_eq_ok.1 k₂
  obtain ⟨-, rfl⟩ := validate_eq_ok h₁
  obtain ⟨hs₂, hl₂, -⟩ := launch_shows hw hc h₂
  obtain ⟨x, hx, hlike, hp⟩ := waitRunning_notes hs₂ (View.created_sound _ _ _) h₃
  have hxl : x.cluster.libraries = [] := hlike.libraries
  have hshape : desired.cluster.shapeDiff x.cluster.info = [] := by
    rw [hlike.shapeDiff]
    exact desired.cluster.shapeDiff_reshape { id := id }
  have hk := fresh_of_libraries_eq_nil hx hxl ((waitRunning_cluster h₃).2.2.trans (hl₂.trans hl))
  split_ifs at k₃ with he
  · obtain ⟨w, hw, hi, hd⟩ := convergeLibraries_knows hk hp
      (by rw [SimulatedCluster.statuses, hxl]; rfl) k₃
    exact ⟨id, w, hw, hi ▸ hshape, hi ▸ hp, hd⟩
  · cases k₃
    have hd : desired.libraries = [] := by simpa using he
    refine ⟨id, x, hk, hshape, hp, ⟨?_, ?_, ?_⟩, fuel_pos_of_waitRunning h₃⟩ <;>
      simp [hd, hxl, SimulatedCluster.statuses, isConverged]

/-- An update that succeeds leaves a running cluster with its libraries as desired, or found a
terminated one with nothing to do. -/
theorem update_done {u : Unit} (hw : s.world.Still) (hc : s.world.state.Clear)
    (hsound : ∀ k, s.world.state.clusters.get? id = some k → k.Sound id) (ha : s.actions = [])
    (h : exec ((simulated options fuel).update id desired) s = (.ok u, t)) :
    ∃ w, t.Knows id w ∧ desired.cluster.shapeDiff w.cluster.info = [] ∧
      (w.cluster.info.phase = .running ∧ w.Done desired.libraries ∧ 0 < fuel ∨
        w.cluster.info.phase = .terminated ∧
          (diffLibraries desired.libraries w.cluster.statuses
            (.ofBudget options.attemptBudget)).isEmpty = true ∧
          ∃ k, s.world.state.clusters.get? id = some k ∧ w.cluster.libraries = k.libraries) := by
  obtain ⟨_, s₁, h₁, k₁⟩ := exec_bind_eq_ok.1 h
  obtain ⟨o, s₂, h₂, k₂⟩ := exec_bind_eq_ok.1 k₁
  obtain ⟨-, rfl⟩ := validate_eq_ok h₁
  obtain ⟨v, hv, hget⟩ : ∃ v, s₁.Shows id v ∧
      s₁.world.state.clusters.get? id = some v.cluster := by
    obtain ⟨_, x, hx, -⟩ := exec_bind_eq_ok.1 h₂
    obtain ⟨_, y, hy, -⟩ := exec_bind_eq_ok.1 hx
    exact hw.shows hc (fetchCluster_eq_ok _ hy).2.1
  obtain ⟨x, hx, hlike, rfl, hact, hp⟩ := inspect_knows hv (hsound _ hget) h₂
  obtain ⟨w, hw, hshape, hend⟩ := adjust_done hx (hact.trans ha) hp k₂
  refine ⟨w, hw, hshape, hend.imp_right ?_⟩
  rintro ⟨rfl, -, hterm, hempty⟩
  exact ⟨hterm, hempty, v.cluster, hget, hlike.libraries⟩

theorem inspect_settled (hs : s.Shows id v) (hv : v.cluster.Sound id)
    (hp : v.cluster.info.phase = .running ∨ v.cluster.info.phase = .terminated) :
    exec ((simulated options fuel).inspect id) s = (.ok ⟨v.cluster.info, v.cluster.statuses⟩,
      (simulated options fuel).lookAtLibraries id ((simulated options fuel).lookAtCluster id s)) := by
  have hn : v.cluster.info.phase.isSettling = false := by rcases hp with h | h <;> rw [h] <;> rfl
  have hf : v.cluster.info.phase.isFailed = false := by rcases hp with h | h <;> rw [h] <;> rfl
  have hl : ((simulated options fuel).lookAtCluster id s).Shows id v :=
    (lookAtCluster_notes hs hv hn).shows
  have hread : exec ((simulated options fuel).readStable id) s =
      (.ok v.cluster.info, (simulated options fuel).lookAtCluster id s) := by
    rw [readStable, exec_bind_of_ok (exec_fetchCluster_of_shows hs .read)]
    simp [hn]
  rw [inspect, exec_bind_of_ok hread]
  simp only [refuseFailed, hf, Bool.false_eq_true, if_false]
  rw [exec_bind_of_ok (exec_pure () _), exec_bind_of_ok (exec_fetchLibraries_of_shows hl .read)]
  rfl

/-- With nothing to change, nothing is done. -/
theorem adjust_idle (hs : s.Knows id v) (ha : s.actions = [])
    (hshape : desired.cluster.shapeDiff v.cluster.info = [])
    (hdelta : (diffLibraries desired.libraries v.cluster.statuses
      (.ofBudget options.attemptBudget)).isEmpty = true)
    (hrun : v.cluster.info.phase = .running →
      isConverged desired.libraries v.cluster.statuses = true ∧ 0 < fuel) :
    exec ((simulated options fuel).adjust id desired ⟨v.cluster.info, v.cluster.statuses⟩) s =
      (.ok (), s) := by
  simp only [adjust, hshape, List.isEmpty_nil, Bool.not_true, Bool.false_or, simulated_options,
    hdelta, startFor, editTo, Bool.false_and, Bool.false_eq_true, if_false]
  rw [exec_bind_of_ok (exec_pure () s), exec_bind_of_ok (exec_pure () s)]
  rw [finishLibraries, exec_bind_of_ok (exec_get s), hs.phase]
  split_ifs with hp
  · obtain ⟨hconv, hfuel⟩ := hrun hp
    obtain ⟨n, rfl⟩ := Nat.exists_eq_succ_of_ne_zero hfuel.ne'
    have hcur : exec ((simulated options (n + 1)).currentLibraries id v.cluster.statuses) s =
        (.ok v.cluster.statuses, s) := by
      rw [currentLibraries, exec_bind_of_ok (exec_get s), ha]
      rfl
    have hverdict : verdict desired.libraries
        ⟨v.cluster.statuses, .ofBudget options.attemptBudget, []⟩
        ((⟨v.cluster.statuses, .ofBudget options.attemptBudget, []⟩ : Progress).diff
          desired.libraries) = .converged := by
      have he : ((⟨v.cluster.statuses, .ofBudget options.attemptBudget, []⟩ : Progress).diff
          desired.libraries).isEmpty = true := by
        simpa [Progress.diff, LibraryDiff.isEmpty] using hdelta
      simp [verdict, he, hconv]
    rw [exec_bind_of_ok hcur, convergeLibraries, simulated_fuel, exec_libraryRounds_succ,
      exec_beginRound, simulated_options, hverdict]
  · rfl

/-- An update that finds nothing to do only reads. -/
theorem update_idle (hs : s.Shows id v) (hv : v.cluster.Sound id) (ha : s.actions = [])
    (hvalid : desired.validate = .ok ())
    (hp : v.cluster.info.phase = .running ∨ v.cluster.info.phase = .terminated)
    (hshape : desired.cluster.shapeDiff v.cluster.info = [])
    (hdelta : (diffLibraries desired.libraries v.cluster.statuses
      (.ofBudget options.attemptBudget)).isEmpty = true)
    (hrun : v.cluster.info.phase = .running →
      isConverged desired.libraries v.cluster.statuses = true ∧ 0 < fuel) :
    exec ((simulated options fuel).update id desired) s = (.ok (),
      (simulated options fuel).lookAtLibraries id ((simulated options fuel).lookAtCluster id s)) := by
  have hval : exec (validate desired : Run (Scene Simulation) Unit) s = (.ok (), s) := by
    rw [validate, hvalid]
    rfl
  have hinspect : exec ((simulated options fuel).inspect id) s = _ := inspect_settled hs hv hp
  obtain ⟨w, hk, -, hw, hact, -⟩ := inspect_knows hs hv hinspect
  obtain ⟨hi, ho⟩ := (Observed.mk.injEq _ _ _ _).mp hw
  rw [ho] at hdelta hrun
  rw [hi] at hshape hrun
  rw [update, exec_bind_of_ok hval, exec_bind_of_ok hinspect, hi, ho]
  exact adjust_idle hk (hact.trans ha) hshape hdelta hrun

end Reconciler
/-- A look that finds nothing to move on leaves all clusters as they are. -/
theorem Simulation.look_clusters {α : Type} {x : Simulation} {c : SimulatedCluster}
    (h : x.clusters.get? id = some c) (f : SimulatedCluster → α)
    {after : SimulatedCluster → SimulatedCluster} (hf : after c = c) :
    (x.look id f after).2.clusters = x.clusters := by
  rw [Simulation.look, h]
  dsimp only [Simulation.put]
  rw [hf, Dict.insert_get? h]

theorem Session.Shows.lookAtCluster_clusters (h : s.Shows id v)
    (ho : v.cluster.observe = v.cluster) :
    ((Reconciler.simulated options fuel).lookAtCluster id s).world.state.clusters =
      s.world.state.clusters := by
  rw [Reconciler.lookAtCluster_world]
  change (s.world.state.answer (.getCluster id)).2.clusters = _
  rw [Simulation.answer_of_clear h.state.clear]
  exact Simulation.look_clusters (h.state.enter (.getCluster id)).cluster (·.info) ho

theorem Session.Shows.lookAtLibraries_clusters (h : s.Shows id v)
    (ho : v.cluster.observeLibraries = v.cluster) :
    ((Reconciler.simulated options fuel).lookAtLibraries id s).world.state.clusters =
      s.world.state.clusters := by
  rw [Reconciler.lookAtLibraries_world]
  change (s.world.state.answer (.libraryStatuses id)).2.clusters = _
  rw [Simulation.answer_of_clear h.state.clear]
  exact Simulation.look_clusters (h.state.enter (.libraryStatuses id)).cluster (·.statuses) ho

/-- A reconciliation in which nothing happened but two looks that moved nothing on. -/
structure Reconciliation.Quiet (y : Reconciliation (Scene Simulation)) (id : String)
    (w : Scene Simulation) : Prop where
  outcome : y.outcome = .ok ()
  actions : y.session.actions = []
  calls : y.session.calls.map (·.call) = [.getCluster id, .libraryStatuses id]
  clusters : y.session.world.state.clusters = w.state.clusters

namespace Reconciler

theorem reconcile_quiet {x : Scene Simulation} (hs : Session.Shows { world := x } id v)
    (hv : v.cluster.Sound id) (hvalid : desired.validate = .ok ())
    (hp : v.cluster.info.phase = .running ∨ v.cluster.info.phase = .terminated)
    (hshape : desired.cluster.shapeDiff v.cluster.info = [])
    (hdelta : (diffLibraries desired.libraries v.cluster.statuses
      (.ofBudget options.attemptBudget)).isEmpty = true)
    (hrun : v.cluster.info.phase = .running →
      isConverged desired.libraries v.cluster.statuses = true ∧ 0 < fuel)
    (hrest : ∀ l ∈ v.cluster.libraries, l.IsAtRest) :
    ((simulated options fuel).reconcile desired (some id) x).Quiet id x := by
  have hx : exec ((simulated options fuel).update id desired) { world := x } = _ :=
    update_idle hs hv rfl hvalid hp hshape hdelta hrun
  have hy : (simulated options fuel).reconcile desired (some id) x =
      ⟨.update, .ok (), (simulated options fuel).lookAtLibraries id
        ((simulated options fuel).lookAtCluster id { world := x })⟩ := by
    change (⟨.update, (exec ((simulated options fuel).update id desired) { world := x }).1,
      (exec ((simulated options fuel).update id desired) { world := x }).2⟩ :
        Reconciliation (Scene Simulation)) = _
    rw [hx]
  have hn : v.cluster.info.phase.isSettling = false := by rcases hp with h | h <;> rw [h] <;> rfl
  have hl : ((simulated options fuel).lookAtCluster id { world := x }).Shows id v :=
    (lookAtCluster_notes hs hv hn).shows
  rw [hy]
  refine ⟨rfl, by simp, by simp [Session.calls], ?_⟩
  exact (hl.lookAtLibraries_clusters (SimulatedCluster.observeLibraries_eq hrest)).trans
    (hs.lookAtCluster_clusters (hv.settled hn).2)

/-- What a reconciliation that succeeds leaves: a cluster of the desired shape, which runs and has
its libraries as desired, or which was terminated and is as it was. -/
theorem reconcile_knows {existing : Option String} {x : Scene Simulation} (hw : x.Still)
    (hc : x.state.Clear)
    (hsound : ∀ i k, existing = some i → x.state.clusters.get? i = some k → k.Sound i)
    (hok : ((simulated options fuel).reconcile desired existing x).outcome = .ok ()) :
    desired.validate = .ok () ∧ ∃ i v,
      ((simulated options fuel).reconcile desired existing x).session.Knows i v ∧
      (∀ j, existing = some j → j = i) ∧ desired.cluster.shapeDiff v.cluster.info = [] ∧
      (v.cluster.info.phase = .running ∧ v.Done desired.libraries ∧ 0 < fuel ∨
        v.cluster.info.phase = .terminated ∧
          (diffLibraries desired.libraries v.cluster.statuses
            (.ofBudget options.attemptBudget)).isEmpty = true ∧
          existing = some i ∧
          ∃ k, x.state.clusters.get? i = some k ∧ v.cluster.libraries = k.libraries) := by
  cases existing with
  | none =>
    have h : exec ((simulated options fuel).create desired) { world := x } = (.ok (), _) :=
      Prod.ext hok rfl
    obtain ⟨_, _, hval, -⟩ := exec_bind_eq_ok.1 h
    obtain ⟨i, v, hk, hshape, hp, hd, hf⟩ := create_done hw hc rfl h
    exact ⟨(validate_eq_ok hval).1, i, v, hk, by simp, hshape, .inl ⟨hp, hd, hf⟩⟩
  | some id =>
    have h : exec ((simulated options fuel).update id desired) { world := x } = (.ok (), _) :=
      Prod.ext hok rfl
    obtain ⟨_, _, hval, -⟩ := exec_bind_eq_ok.1 h
    obtain ⟨v, hk, hshape, hend⟩ := update_done hw hc (fun k => hsound id k rfl) rfl h
    refine ⟨(validate_eq_ok hval).1, id, v, hk, fun j hj => (Option.some.inj hj).symm, hshape, ?_⟩
    exact hend.imp_right fun ⟨hp, he, hk⟩ => ⟨hp, he, rfl, hk⟩

end Reconciler

/-- A library that cannot be removed does not become removable by itself. -/
theorem SimulatedCluster.Sound.isRemovable_observe {c : SimulatedCluster} {desired : List Library}
    (hc : c.Sound id) (h : ∀ s ∈ c.statuses, isRemovable desired s = false) :
    ∀ s ∈ c.observeLibraries.statuses, isRemovable desired s = false := by
  intro s hs
  simp only [statuses, SimulatedCluster.observeLibraries, List.map_map, List.mem_map,
    Function.comp_apply] at hs
  obtain ⟨l, hl, rfl⟩ := hs
  have hr := h _ (List.mem_map_of_mem hl)
  by_cases hrest : l.IsAtRest
  · rwa [hrest.observe_eq]
  · obtain ⟨hp, hall, -⟩ := hc.libraries l hl hrest
    have hmem : l.reported.library ∈ desired := by
      by_contra hn
      rw [isRemovable_eq_true.2 ⟨hn, hall, by rw [hp]; simp⟩] at hr
      cases hr
    simp [isRemovable, hmem]

/-- Every library is at rest, and no desired one has to be submitted. -/
def SimulatedCluster.IsQuiet (c : SimulatedCluster) (desired : List Library) : Prop :=
  (∀ l ∈ c.libraries, l.IsAtRest) ∧ ∀ l ∈ desired, isWanting c.statuses l = false

namespace Reconciler

/-- What a first reconciliation leaves, as a second one finds it. -/
theorem reconcile_quiet_of_isQuiet {x : Session (Scene Simulation)} (hk : x.Knows id v)
    (hvalid : desired.validate = .ok ()) (hshape : desired.cluster.shapeDiff v.cluster.info = [])
    (hend : v.cluster.info.phase = .running ∧ v.Done desired.libraries ∧ 0 < fuel ∨
      v.cluster.info.phase = .terminated ∧ (diffLibraries desired.libraries v.cluster.statuses
        (.ofBudget options.attemptBudget)).isEmpty = true)
    (hq : v.cluster.observeLibraries.IsQuiet desired.libraries) :
    ((simulated options fuel).reconcile desired (some id) x.world).Quiet id x.world := by
  have hs : Session.Shows { world := x.world } id (v.withCluster v.cluster.observeLibraries) :=
    ⟨hk.fresh.shows.still, hk.fresh.shows.state⟩
  have hremovable : ∀ s ∈ v.cluster.observeLibraries.statuses,
      isRemovable desired.libraries s = false := by
    refine hk.fresh.sound.isRemovable_observe ?_
    rcases hend with ⟨-, hd, -⟩ | ⟨-, he⟩
    · exact (isConverged_iff.1 hd.converged).2
    · exact (diffLibraries_isEmpty.1 he).2
  refine reconcile_quiet hs hk.fresh.sound.observeLibraries hvalid ?_ hshape
    (diffLibraries_isEmpty.2 ⟨hq.2, hremovable⟩) (fun hp => ?_) hq.1
  · exact hend.imp (·.1) (·.1)
  · rcases hend with ⟨-, hd, hf⟩ | ⟨hterm, -⟩
    · refine ⟨?_, hf⟩
      change isConverged _ v.cluster.observeLibraries.statuses = true
      rw [SimulatedCluster.observeLibraries_eq hd.atRest]
      exact hd.converged
    · have hrun : v.cluster.info.phase = .running := hp
      rw [hterm] at hrun
      cases hrun

/-- A reconciliation that moved nothing on found everything at rest. -/
theorem isQuiet_of_quiet {x : Session (Scene Simulation)} (hs : x.Shows id v)
    (hv : v.cluster.Sound id)
    (hy : ((simulated options fuel).reconcile desired (some id) x.world).Quiet id x.world) :
    v.cluster.IsQuiet desired.libraries := by
  have hget := hs.state.cluster
  have hsound : ∀ i k, some id = some i → x.world.state.clusters.get? i = some k → k.Sound i := by
    intro i k hi hk
    obtain rfl := Option.some.inj hi
    rw [hget] at hk
    exact Option.some.inj hk ▸ hv
  obtain ⟨-, i, w, hk, hi, -, hend⟩ := reconcile_knows hs.still hs.state.clear hsound hy.outcome
  obtain rfl := hi id rfl
  -- The cluster is left as its last observation made it, and that is how it was found.
  have hsame : w.cluster.observeLibraries = v.cluster := by
    have h := hk.fresh.shows.state.cluster
    rw [hy.clusters, hget] at h
    exact (Option.some.inj h).symm
  rcases hend with ⟨-, hd, -⟩ | ⟨-, he, -, k, hk', hl⟩
  · rw [← hsame, SimulatedCluster.observeLibraries_eq hd.atRest]
    exact ⟨hd.atRest, hd.wanting⟩
  · obtain rfl := Option.some.inj (hget.symm.trans hk')
    have hm : w.cluster.libraries.map (·.observe) = w.cluster.libraries :=
      (congrArg (·.libraries) hsame).trans hl.symm
    have hrest := SimulatedCluster.isAtRest_of_observeLibraries_eq (c := w.cluster) <| by
      rw [SimulatedCluster.observeLibraries, hm]
    rw [← hsame, SimulatedCluster.observeLibraries_eq hrest]
    exact ⟨hrest, (diffLibraries_isEmpty.1 he).1⟩

/-- A reconciliation that is repeated right after it succeeded changes nothing if the cluster runs.
If the cluster was left terminated, that is so exactly if its libraries have come to rest and no
desired one has to be submitted; they have if they were at rest when the first reconciliation
began. -/
theorem reconcile_again (options : Options) (fuel : Nat) (desired : Desired)
    (existing : Option String) (w : Scene Simulation) (c : String) (hr : w.state.Reachable)
    (hc : w.state.Clear) (hw : w.Still)
    (hok : ((simulated options fuel).reconcile desired existing w).outcome = .ok ())
    (hid : ((simulated options fuel).reconcile desired existing w).clusterId = some c) :
    let x := ((simulated options fuel).reconcile desired existing w).session
    let y := (simulated options fuel).reconcile desired (some c) x.world
    (x.phase = .running → y.Quiet c x.world) ∧
      (y.Quiet c x.world ↔ ∃ k, x.world.state.clusters.get? c = some k ∧
        k.IsQuiet desired.libraries) ∧
      ((∀ i k, existing = some i → w.state.clusters.get? i = some k →
        ∀ l ∈ k.libraries, l.IsAtRest) → y.Quiet c x.world) := by
  intro x y
  obtain ⟨hvalid, i, v, hk, -, hshape, hend⟩ :=
    reconcile_knows hw hc (fun i k _ hk => hr.sound i k hk) hok
  change x.Knows i v at hk
  have hshows := hk.fresh.shows
  obtain rfl : i = c := by
    have hcluster : x.cluster = some v.cluster.info := hk.cluster
    simp only [Reconciliation.clusterId, show ((simulated options fuel).reconcile desired existing
      w).session.cluster = _ from hcluster, Option.map_some, hk.fresh.sound.id,
      Option.filter_some] at hid
    split_ifs at hid
    exact Option.some.inj hid
  have hquiet : v.cluster.observeLibraries.IsQuiet desired.libraries → y.Quiet i x.world := by
    refine reconcile_quiet_of_isQuiet hk hvalid hshape (hend.imp_right fun h => ⟨h.1, h.2.1⟩)
  have hdone : v.Done desired.libraries →
      v.cluster.observeLibraries.IsQuiet desired.libraries := fun hd => by
    rw [SimulatedCluster.observeLibraries_eq hd.atRest]
    exact ⟨hd.atRest, hd.wanting⟩
  refine ⟨fun hp => ?_, ⟨fun hy => ⟨_, hshows.state.cluster, ?_⟩, ?_⟩, fun hrest => ?_⟩
  · rcases hend with ⟨-, hd, -⟩ | ⟨hterm, -⟩
    · exact hquiet (hdone hd)
    · rw [hk.phase, hterm] at hp
      cases hp
  · exact isQuiet_of_quiet hshows hk.fresh.sound.observeLibraries hy
  · rintro ⟨k, hget, hq⟩
    obtain rfl : v.cluster.observeLibraries = k :=
      Option.some.inj (hshows.state.cluster.symm.trans hget)
    exact hquiet hq
  · rcases hend with ⟨-, hd, -⟩ | ⟨-, he, hex, k, hget, hl⟩
    · exact hquiet (hdone hd)
    · have hall : ∀ l ∈ v.cluster.libraries, l.IsAtRest := hl ▸ hrest i k hex hget
      apply hquiet
      rw [SimulatedCluster.observeLibraries_eq hall]
      exact ⟨hall, (diffLibraries_isEmpty.1 he).1⟩

theorem reconcile_again_sample :
    let x := ((simulated {} 9).reconcile sample (some "c") (sampleWorld .terminated)).session
    x.phase = .running ∧
      ((simulated {} 9).reconcile sample (some "c") x.world).Quiet "c" x.world := by
  have hr : (sampleWorld .terminated).state.Reachable := .insert (.start 1) _ []
  have hok : ((simulated {} 9).reconcile sample (some "c") (sampleWorld .terminated)).outcome =
    .ok () := by decide +kernel
  have hid : ((simulated {} 9).reconcile sample (some "c") (sampleWorld .terminated)).clusterId =
    some "c" := by decide +kernel
  have hp : ((simulated {} 9).reconcile sample (some "c") (sampleWorld .terminated)).session.phase =
    .running := by decide +kernel
  obtain ⟨hrun, -⟩ := reconcile_again {} 9 sample (some "c") (sampleWorld .terminated) "c" hr
    (fun _ => rfl) ⟨rfl, rfl, rfl⟩ hok hid
  exact ⟨hp, hrun hp⟩

/-- A cluster that was terminated while its library was on the way to fail. -/
def unresolved : Simulation :=
  let c := SimulatedCluster.reshape { id := "c", phase := .running } sample.cluster
  let s := (({} : Simulation).insert c []).failInstall (.jar "a.jar") 1
  let s := (s.answer (.installLibraries "c" sample.libraries)).2
  let s := (s.answer (.deleteCluster "c")).2
  (s.answer (.getCluster "c")).2

theorem unresolved_reachable : unresolved.Reachable :=
  .answer (.answer (.answer (.failInstall (.insert (.start 1) _ []) _ 1) _) _) _

theorem unresolved_clear : unresolved.Clear := by
  have h : unresolved.queued = ∅ := by decide +kernel
  intro m
  rw [h]
  rfl

/-- The first run notes the library while it is on its way, and the second one finds it failed. -/
theorem reconcile_again_unresolved :
    ¬∀ (options : Options) (fuel : Nat) (desired : Desired) (existing : Option String)
      (w : Scene Simulation) (c : String), w.state.Reachable → w.state.Clear → w.Still →
      ((simulated options fuel).reconcile desired existing w).outcome = .ok () →
      ((simulated options fuel).reconcile desired existing w).clusterId = some c →
      ((simulated options fuel).reconcile desired (some c)
        ((simulated options fuel).reconcile desired existing w).session.world).Quiet c
          ((simulated options fuel).reconcile desired existing w).session.world := by
  intro h
  have hok : ((simulated {} 9).reconcile sample (some "c") ⟨unresolved, 0, false, none, []⟩).outcome =
    .ok () := by decide +kernel
  have hid : ((simulated {} 9).reconcile sample (some "c")
    ⟨unresolved, 0, false, none, []⟩).clusterId = some "c" := by decide +kernel
  have hq := h {} 9 sample (some "c") ⟨unresolved, 0, false, none, []⟩ "c" unresolved_reachable
    unresolved_clear ⟨rfl, rfl, rfl⟩ hok hid
  have ha : ((simulated {} 9).reconcile sample (some "c") ((simulated {} 9).reconcile sample
    (some "c") ⟨unresolved, 0, false, none, []⟩).session.world).session.actions =
      [.start, .installLibraries] := by decide +kernel
  rw [hq.actions] at ha
  cases ha

end Reconciler
end ClusterReconciliation
