import ClusterReconciliation.Proofs.LibraryRounds
import ClusterReconciliation.Proofs.Simulated

/-! What the success of a reconciliation means, whatever a control plane answers. The rounds of the
libraries end well only on a list that counts as converged, and this list is the last one observed.
An update that changes nothing found nothing to change. -/
namespace ClusterReconciliation
open Run
variable {σ : Type}

/-- What a control plane first reports of a cluster that has settled. -/
def firstSettled (es : List (Event σ)) : Option Cluster.Info :=
  (es.filterMap Event.sighting).find? (!·.phase.isSettling)

theorem firstSettled_append (es fs : List (Event σ)) :
    firstSettled (es ++ fs) = (firstSettled es).or (firstSettled fs) := by
  simp [firstSettled, List.find?_append]

theorem Session.calls_eq {s t : Session σ} {es : List (Event σ)}
    (h : t.history = es ++ s.history) : t.calls = s.calls ++ es.reverse := by
  simp [Session.calls, h]

/-- What was seen first remains what was seen first. -/
theorem Session.Grows.firstSettled_eq {P : Event σ → Prop} {s t : Session σ} (h : s.Grows P t)
    {info : Cluster.Info} (hs : firstSettled s.calls = some info) :
    firstSettled t.calls = some info := by
  obtain ⟨es, hes, -⟩ := h
  rw [Session.calls_eq hes, firstSettled_append, hs]
  rfl

/-- A cluster that is no longer about to change by itself runs or is terminated, or has failed. -/
theorem Phase.eq_of_settled {p : Phase} (hs : p.isSettling = false) (hf : p.isFailed = false) :
    p = .running ∨ p = .terminated := by
  cases p <;> simp_all [Phase.isSettling, Phase.isTransitional, Phase.isFailed]

section Libraries
variable {r : Reconciler σ} {id : String} {desired : List Library} {p q : Progress}
  {d : LibraryDiff} {s t : Session σ}

theorem verdict_eq_converged (h : Reconciler.verdict desired p d = .converged) :
    d.isEmpty = true ∧ isConverged desired p.observed = true := by
  unfold Reconciler.verdict at h
  split_ifs at h with hd hc
  exact ⟨by simpa using hd, hc⟩

theorem beginRound_eq_none (h : exec (r.beginRound id desired p) s = (.ok none, t)) :
    (p.diff desired).isEmpty = true ∧ isConverged desired p.observed = true ∧ t = s := by
  rw [Reconciler.exec_beginRound] at h
  cases hv : Reconciler.verdict desired p (p.diff desired) with
  | converged =>
    simp only [hv, Prod.mk.injEq] at h
    exact ⟨(verdict_eq_converged hv).1, (verdict_eq_converged hv).2, h.2.symm⟩
  | gaveUp failed => simp [hv] at h
  | goOn =>
    rcases hx : exec (r.submit id p (p.diff desired)) s with ⟨e | q, u⟩ <;> simp [hv, hx] at h

/-- After a wait the progress is what the session has noted. -/
theorem endRound_eq_ok (h : exec (r.endRound id desired p d) s = (.ok q, t)) :
    q.observed = t.libraries := by
  rw [Reconciler.exec_endRound] at h
  rcases hx : exec (r.await d.stage (r.watchLibraries id desired d.install p.removing)) s
    with ⟨e | o, u⟩ <;> simp only [hx, Prod.mk.injEq, Except.ok.injEq, reduceCtorEq,
      false_and] at h
  obtain ⟨rfl, rfl⟩ := h
  obtain ⟨v, -, -, ho, -, rfl⟩ := Reconciler.awaitLibraries_eq_ok
    (r.watchesLibraries_steps (rfl : Call.libraryStatuses id = _) s) .refl hx
  exact (r.lookAtLibraries_libraries ho).symm

/-- Rounds that started from what was observed last end well only on converged libraries. -/
theorem Rounds.isConverged {fuel : Nat} {x : Except Halt Unit × Session σ}
    {ws : List (LibraryWait σ)} (h : Rounds r id desired fuel p s x ws) (hx : x.1 = .ok ())
    (hp : p.observed = s.libraries) : isConverged desired x.2.libraries = true := by
  induction h with
  | spent p s => cases hx
  | converged fuel hb =>
    obtain ⟨-, hc, rfl⟩ := beginRound_eq_none hb
    rwa [← hp]
  | refused fuel hb => cases hx
  | halted fuel hb he => cases hx
  | next hb he hr ih => exact ih hx (endRound_eq_ok he)

theorem convergeLibraries_eq_ok
    (h : exec (r.convergeLibraries id desired s.libraries) s = (.ok (), t)) :
    isConverged desired t.libraries = true ∧ t.cluster = s.cluster := by
  have hr := r.rounds_libraryRounds id desired r.fuel
    ⟨s.libraries, .ofBudget r.options.attemptBudget, []⟩ s
  change Rounds r id desired _ _ s (exec (r.convergeLibraries id desired s.libraries) s) _ at hr
  have hm := r.madeOf.convergeLibraries id (fun _ h => h) desired s.libraries s
  rw [h] at hr hm
  exact ⟨hr.isConverged rfl rfl, hm.cluster_eq (fun _ h => h) fun _ h => h⟩

end Libraries
/-- The cluster was last seen running, with the libraries as desired. -/
def Session.Attains (s : Session σ) (desired : Desired) : Prop :=
  ∃ info, s.cluster = some info ∧ info.phase = .running ∧
    isConverged desired.libraries s.libraries = true

/-- The cluster was last seen terminated, with nothing to change, and nothing was changed. -/
def Session.Rests (s : Session σ) (desired : Desired) (budget : Nat) : Prop :=
  ∃ info, s.cluster = some info ∧ info.phase = .terminated ∧
    (∀ e ∈ s.history, e.call.isMutation = false) ∧ desired.cluster.shapeDiff info = [] ∧
      (diffLibraries desired.libraries s.libraries (.ofBudget budget)).install = [] ∧
        (diffLibraries desired.libraries s.libraries (.ofBudget budget)).uninstall = []

def Event.isEdit : Event σ → Bool
  | ⟨_, .editCluster _ _, .ok _⟩ => true
  | _ => false

namespace Reconciler
variable {r : Reconciler σ} {id : String} {desired : Desired} {s t : Session σ}

theorem waitRunning_cluster {stage : Stage} {info : Cluster.Info}
    (h : exec (r.waitRunning stage id) s = (.ok info, t)) :
    t.cluster = some info ∧ info.phase = .running ∧ t.libraries = s.libraries := by
  have hk : (fun c => c = Call.getCluster id) (.getCluster id) := rfl
  obtain ⟨u, hu, -, ho, hp, rfl⟩ := waitRunning_eq_ok (r.watchesCluster_steps hk s) .refl h
  refine ⟨r.lookAtCluster_cluster ho, hp, ?_⟩
  rw [lookAtCluster_libraries]
  exact hu.libraries_eq fun _ h => by cases h

theorem changeAndWait_eq_ok {action : Action} {stage : Stage} {c : Call} {u : Unit}
    (h : exec (do
      r.mutate action stage c
      let _ ← r.waitRunning stage id) s = (.ok u, t)) :
    (∃ info, t.cluster = some info ∧ info.phase = .running) ∧ t.libraries = s.libraries ∧
      ∃ reply, ⟨s.world, c, .ok reply⟩ ∈ t.history := by
  obtain ⟨_, v, hm, hv⟩ := exec_bind_eq_ok.1 h
  obtain ⟨info, w, hw, hpure⟩ := exec_bind_eq_ok.1 hv
  obtain ⟨-, -, ⟨reply, ho⟩, rfl⟩ := r.mutate_eq_ok hm
  obtain rfl : w = t := congrArg Prod.snd hpure
  obtain ⟨hc, hp, hl⟩ := waitRunning_cluster hw
  obtain ⟨es, hes, -⟩ := (r.madeOf.waitRunning stage (rfl : Call.getCluster id = _) _).grows
  refine ⟨⟨info, hc, hp⟩, hl, reply, ?_⟩
  rw [hw] at hes
  simp only at hes
  rw [hes, perform_history, ho]
  simp

theorem create_eq_ok {u : Unit} (hs : s.libraries = [])
    (h : exec (r.create desired) s = (.ok u, t)) : t.Attains desired := by
  obtain ⟨_, s₁, h₁, k₁⟩ := exec_bind_eq_ok.1 h
  obtain ⟨id, s₂, h₂, k₂⟩ := exec_bind_eq_ok.1 k₁
  obtain ⟨info, s₃, h₃, k₃⟩ := exec_bind_eq_ok.1 k₂
  obtain ⟨-, rfl⟩ := validate_eq_ok h₁
  obtain ⟨hc, hp, hl⟩ := waitRunning_cluster h₃
  have hm := (r.madeOf_launch (rfl : Call.createCluster desired.cluster = _) s₁).libraries_eq
    fun id h => by cases h
  rw [h₂] at hm
  have hlibs : s₃.libraries = [] := by rw [hl, hm, hs]
  split_ifs at k₃ with he
  · rw [← hlibs] at k₃
    obtain ⟨hconv, hcl⟩ := convergeLibraries_eq_ok k₃
    exact ⟨info, hcl.trans hc, hp, hconv⟩
  · obtain rfl : s₃ = t := congrArg Prod.snd k₃
    have hd : desired.libraries = [] := by simpa using he
    exact ⟨info, hc, hp, by rw [hlibs, hd]; rfl⟩

variable (r id) in
theorem firstSettled_lookAtCluster (hs : firstSettled s.calls = none) :
    firstSettled (r.lookAtCluster id s).calls =
      match (r.perform (.getCluster id) s).1 with
      | .ok info => if info.phase.isSettling then none else some info
      | .error _ => none := by
  have hh : (r.lookAtCluster id s).history = [_] ++ s.history := r.lookAtCluster_history id s
  rw [Session.calls_eq hh, firstSettled_append, hs]
  cases (r.perform (.getCluster id) s).1 with
  | error e => rfl
  | ok info => cases hp : info.phase.isSettling <;> simp [firstSettled, Event.sighting, hp]

variable (r id) in
/-- As long as a wait for a cluster to settle goes on, no settled cluster has been seen. -/
theorem keeps_unsettled (what : String) :
    (r.watchCluster id what judgeStable).Keeps r.clock fun s => firstSettled s.calls = none where
  sleep _ _ hs := hs
  tolerate e s hs _ he _ := by
    have hl := firstSettled_lookAtCluster r id hs
    rw [lookAtCluster, show (r.perform (.getCluster id) s).1 = .error e from he] at hl
    exact hl
  again s hs _ ha := by
    have hl := firstSettled_lookAtCluster r id hs
    have hj : judgeStable (r.perform (.getCluster id) s).1 = .ok .again := ha
    change firstSettled (r.lookAtCluster id s).calls = none
    cases ho : (r.perform (.getCluster id) s).1 with
    | error e => rw [hl, ho]
    | ok info =>
      cases hp : info.phase.isSettling
      · simp [judgeStable, ho, hp] at hj
      · rw [hl, ho]
        simp [hp]

theorem readStable_eq_ok {info : Cluster.Info} (hs : firstSettled s.calls = none)
    (h : exec (r.readStable id) s = (.ok info, t)) :
    t.cluster = some info ∧ info.phase.isSettling = false ∧ firstSettled t.calls = some info := by
  obtain ⟨i, u, hu, hrest⟩ := exec_bind_eq_ok.1 h
  obtain ⟨-, ho, rfl⟩ := r.fetchCluster_eq_ok hu
  have hl := firstSettled_lookAtCluster r id hs
  rw [ho] at hl
  dsimp only at hl
  split_ifs at hrest with hp
  · rw [if_pos hp] at hl
    obtain ⟨v, hv, -, hi, hn, rfl⟩ := waitStable_eq_ok (r.keeps_unsettled id) hl hrest
    have hf := firstSettled_lookAtCluster r id hv
    rw [hi] at hf
    exact ⟨r.lookAtCluster_cluster hi, hn, by rw [hf]; simp [hn]⟩
  · cases hrest
    rw [if_neg hp] at hl
    exact ⟨r.lookAtCluster_cluster ho, by simpa using hp, hl⟩

theorem inspect_eq_ok {o : Observed} (hs : firstSettled s.calls = none)
    (h : exec (r.inspect id) s = (.ok o, t)) :
    t.cluster = some o.info ∧ t.libraries = o.libraries ∧
      (o.info.phase = .running ∨ o.info.phase = .terminated) ∧
      firstSettled t.calls = some o.info := by
  obtain ⟨info, u, hu, k₁⟩ := exec_bind_eq_ok.1 h
  obtain ⟨_, v, hv, k₂⟩ := exec_bind_eq_ok.1 k₁
  obtain ⟨libraries, w, hw, k₃⟩ := exec_bind_eq_ok.1 k₂
  obtain ⟨hc, hn, hf⟩ := readStable_eq_ok hs hu
  obtain ⟨-, ho, rfl⟩ := r.fetchLibraries_eq_ok hw
  cases k₃
  unfold refuseFailed at hv
  split_ifs at hv with hfail
  · cases congrArg Prod.fst hv
  · obtain rfl : u = v := congrArg Prod.snd hv
    have hg : u.Grows (fun _ => True) (r.lookAtLibraries id u) :=
      .of_cons (r.lookAtLibraries_history id u) trivial
    exact ⟨(r.lookAtLibraries_cluster id u).trans hc, r.lookAtLibraries_libraries ho,
      Phase.eq_of_settled hn (by simpa using hfail), hg.firstSettled_eq hf⟩

theorem startFor_eq_ok {needed : Bool} {phase : Phase} {u : Unit}
    (h : exec (r.startFor id needed phase) s = (.ok u, t)) :
    t.libraries = s.libraries ∧
      if needed && phase == .terminated then ∃ info, t.cluster = some info ∧ info.phase = .running
      else t = s := by
  unfold startFor at h
  split_ifs at h ⊢ with hn
  · obtain ⟨hc, hl, -⟩ := changeAndWait_eq_ok h
    exact ⟨hl, hc⟩
  · cases h
    exact ⟨rfl, rfl⟩

theorem editTo_eq_ok {spec : Cluster.Spec} {needed : Bool} {u : Unit}
    (h : exec (r.editTo id spec needed) s = (.ok u, t)) :
    t.libraries = s.libraries ∧
      if needed then (∃ info, t.cluster = some info ∧ info.phase = .running) ∧
        ∃ e ∈ t.history, e.isEdit = true
      else t = s := by
  unfold editTo at h
  split_ifs at h ⊢ with hn
  · obtain ⟨hc, hl, reply, he⟩ := changeAndWait_eq_ok h
    exact ⟨hl, hc, _, he, rfl⟩
  · cases h
    exact ⟨rfl, rfl⟩

/-- The libraries of a running cluster are brought to the desired ones, and nothing is done about
the others. -/
theorem finishLibraries_eq_ok {libraries : List Library} {u : Unit}
    (h : exec (r.finishLibraries id libraries s.libraries) s = (.ok u, t)) :
    if s.phase = .running then isConverged libraries t.libraries = true ∧ t.cluster = s.cluster
    else t = s := by
  obtain ⟨s', _, hs', k₁⟩ := exec_bind_eq_ok.1 h
  cases hs'
  split_ifs at k₁ ⊢ with hp
  · obtain ⟨o, v, ho, k₂⟩ := exec_bind_eq_ok.1 k₁
    obtain ⟨s', _, hs', k₃⟩ := exec_bind_eq_ok.1 ho
    cases hs'
    split_ifs at k₃ with ha
    · cases k₃
      exact convergeLibraries_eq_ok k₂
    · obtain ⟨-, hr, rfl⟩ := r.fetchLibraries_eq_ok k₃
      rw [← r.lookAtLibraries_libraries hr] at k₂
      obtain ⟨hc, hcl⟩ := convergeLibraries_eq_ok k₂
      exact ⟨hc, hcl.trans (r.lookAtLibraries_cluster id s)⟩
  · cases k₁
    rfl

theorem attains_of_running {u : Unit}
    (hr : ∃ info, s.cluster = some info ∧ info.phase = .running)
    (h : exec (r.finishLibraries id desired.libraries s.libraries) s = (.ok u, t)) :
    t.Attains desired := by
  obtain ⟨info, hc, hp⟩ := hr
  have hphase : s.phase = .running := by simp [Session.phase, hc, hp]
  have hf := finishLibraries_eq_ok h
  rw [if_pos hphase] at hf
  exact ⟨info, hf.2.trans hc, hp, hf.1⟩

/-- An adjustment that succeeds leads to the desired cluster, unless a terminated one needs none. A
difference in shape is edited away. -/
theorem adjust_eq_ok {o : Observed} {u : Unit} (hc : s.cluster = some o.info)
    (hl : s.libraries = o.libraries) (hp : o.info.phase = .running ∨ o.info.phase = .terminated)
    (h : exec (r.adjust id desired o) s = (.ok u, t)) :
    (t.Attains desired ∨ t = s ∧ o.info.phase = .terminated ∧
      desired.cluster.shapeDiff o.info = [] ∧ (diffLibraries desired.libraries o.libraries
        (.ofBudget r.options.attemptBudget)).isEmpty = true) ∧
      (desired.cluster.shapeDiff o.info ≠ [] → ∃ e ∈ t.history, e.isEdit = true) := by
  obtain ⟨_, s₁, h₁, k₁⟩ := exec_bind_eq_ok.1 h
  obtain ⟨_, s₂, h₂, k₂⟩ := exec_bind_eq_ok.1 k₁
  obtain ⟨hl₁, hs₁⟩ := startFor_eq_ok h₁
  obtain ⟨hl₂, hs₂⟩ := editTo_eq_ok h₂
  have hfinish := r.madeOf.finishLibraries id (fun _ h => h) desired.libraries o.libraries
  obtain ⟨es, hes, -⟩ := (hfinish s₂).grows
  rw [k₂] at hes
  dsimp only at hes
  rw [← hl, ← hl₁, ← hl₂] at k₂
  cases hshape : desired.cluster.shapeDiff o.info with
  | cons field fields =>
    simp only [hshape, List.isEmpty_cons, Bool.not_false, if_true] at hs₂
    obtain ⟨hr, e, he, hedit⟩ := hs₂
    exact ⟨.inl (attains_of_running hr k₂), fun _ => ⟨e, by simp [hes, he], hedit⟩⟩
  | nil =>
    simp only [hshape, List.isEmpty_nil, Bool.not_true, Bool.false_eq_true, if_false,
      Bool.false_or] at hs₁ hs₂
    subst hs₂
    refine ⟨?_, by simp⟩
    rcases hp with hp | hp
    · have hs : s₂ = s := by simpa [hp] using hs₁
      exact .inl (attains_of_running ⟨o.info, by rw [hs, hc], hp⟩ k₂)
    · cases hd : (diffLibraries desired.libraries o.libraries
        (.ofBudget r.options.attemptBudget)).isEmpty with
      | false => exact .inl (attains_of_running (by simpa [hp, hd] using hs₁) k₂)
      | true =>
        obtain rfl : s₂ = s := by simpa [hd] using hs₁
        have hphase : s₂.phase ≠ .running := by simp [Session.phase, hc, hp]
        have hf := finishLibraries_eq_ok k₂
        rw [if_neg hphase] at hf
        exact .inr ⟨hf, hp, rfl, rfl⟩

theorem update_eq_ok {u : Unit} (hs : s.history = [])
    (h : exec (r.update id desired) s = (.ok u, t)) :
    (t.Attains desired ∨ t.Rests desired r.options.attemptBudget) ∧
      ((∀ e ∈ t.history, e.isEdit = false) →
        ∃ info, firstSettled t.calls = some info ∧ desired.cluster.shapeDiff info = []) := by
  obtain ⟨_, s₁, h₁, k₁⟩ := exec_bind_eq_ok.1 h
  obtain ⟨o, s₂, h₂, k₂⟩ := exec_bind_eq_ok.1 k₁
  obtain ⟨-, rfl⟩ := validate_eq_ok h₁
  have hnone : firstSettled s₁.calls = none := by simp [Session.calls, hs, firstSettled]
  obtain ⟨hc, hl, hp, hf⟩ := inspect_eq_ok hnone h₂
  obtain ⟨hend, hedit⟩ := adjust_eq_ok hc hl hp k₂
  have hgrows := (r.madeOf.adjust id desired (fun _ h => h) o s₂).grows
  rw [k₂] at hgrows
  refine ⟨?_, fun hno => ⟨o.info, hgrows.firstSettled_eq hf, ?_⟩⟩
  · rcases hend with ha | ⟨rfl, hterm, hshape, hempty⟩
    · exact .inl ha
    · have hreads : MadeOf r (fun c => c.isMutation = false) (r.inspect id) :=
        r.madeOf.inspect id rfl rfl
      obtain ⟨es, hes, hquiet⟩ := (hreads s₁).grows
      rw [h₂, hs, List.append_nil] at hes
      dsimp only at hes
      simp only [LibraryDiff.isEmpty, Bool.and_eq_true, List.isEmpty_iff] at hempty
      rw [← hl] at hempty
      exact .inr ⟨o.info, hc, hterm, fun e he => hquiet e (hes ▸ he), hshape, hempty.1, hempty.2⟩
  · by_contra hne
    obtain ⟨e, he, hise⟩ := hedit hne
    simp [hno e he] at hise

/-- Success means that the cluster was last seen running with its libraries as desired, or that an
update found it terminated and had nothing to change. An update that succeeds without an edit found
the shape as desired when it first saw the cluster settled. -/
theorem reconcile_sound (r : Reconciler σ) (desired : Desired) (existing : Option String)
    (world : σ) (h : (r.reconcile desired existing world).outcome = .ok ()) :
    let t := (r.reconcile desired existing world).session
    (t.Attains desired ∨ existing.isSome = true ∧ t.Rests desired r.options.attemptBudget) ∧
      (existing.isSome = true → (∀ e ∈ t.history, e.isEdit = false) →
        ∃ info, firstSettled t.calls = some info ∧ desired.cluster.shapeDiff info = []) := by
  cases existing with
  | none =>
    refine ⟨.inl ?_, by simp⟩
    exact create_eq_ok (s := { world := world }) (u := ()) rfl (Prod.ext h rfl)
  | some id =>
    obtain ⟨hend, hedit⟩ := update_eq_ok (s := { world := world }) (u := ()) rfl (Prod.ext h rfl)
    refine ⟨?_, fun _ => hedit⟩
    rcases hend with ha | hr
    · exact .inl ha
    · exact .inr ⟨rfl, hr⟩

theorem reconcile_sound_sample :
    let x := (simulated {} 9).reconcile sample (some "c") (sampleWorld .terminated)
    x.outcome = .ok () ∧ (∀ e ∈ x.session.history, e.isEdit = false) ∧
      (x.session.Attains sample ∨ x.session.Rests sample 3) ∧
      ∃ info, firstSettled x.session.calls = some info ∧ sample.cluster.shapeDiff info = [] := by
  have hok : ((simulated {} 9).reconcile sample (some "c") (sampleWorld .terminated)).outcome =
    .ok () := by decide +kernel
  have hno : ∀ e ∈ ((simulated {} 9).reconcile sample (some "c")
      (sampleWorld .terminated)).session.history, e.isEdit = false := by decide +kernel
  obtain ⟨hend, hedit⟩ :=
    reconcile_sound (simulated {} 9) sample (some "c") (sampleWorld .terminated) hok
  exact ⟨hok, hno, hend.imp_right (·.2), hedit rfl hno⟩

end Reconciler
end ClusterReconciliation
