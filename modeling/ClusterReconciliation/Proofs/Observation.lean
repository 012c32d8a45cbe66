import ClusterReconciliation.Proofs.Waiting

/-! Looks at a cluster and at its libraries, alone and as parts of a wait, and the events that they
leave in the history of a session. -/
namespace ClusterReconciliation
open Run
variable {σ α : Type}

def Event.sighting : Event σ → Option Cluster.Info
  | ⟨_, .getCluster _, .ok info⟩ => some info
  | _ => none

def Event.report : Event σ → Option (List LibraryStatus)
  | ⟨_, .libraryStatuses _, .ok observed⟩ => some observed
  | _ => none

namespace Session
variable {P : Event σ → Prop} {s t u : Session σ}

/-- The history has become longer by events of a kind. -/
def Grows (P : Event σ → Prop) (s t : Session σ) : Prop :=
  ∃ es, t.history = es ++ s.history ∧ ∀ e ∈ es, P e

theorem Grows.refl (s : Session σ) : Grows P s s := ⟨[], rfl, by simp⟩

theorem Grows.trans (hst : Grows P s t) (htu : Grows P t u) : Grows P s u := by
  obtain ⟨es, hes, hp⟩ := hst
  obtain ⟨fs, hfs, hq⟩ := htu
  refine ⟨fs ++ es, by rw [hfs, hes, List.append_assoc], fun e he => ?_⟩
  rcases List.mem_append.1 he with he | he
  · exact hq e he
  · exact hp e he

theorem Grows.of_cons {e : Event σ} (h : t.history = e :: s.history) (he : P e) : Grows P s t :=
  ⟨[e], h, by simpa using he⟩

@[simp] theorem noteCluster_history (s : Session σ) (a : Except ClientError Cluster.Info) :
    (s.noteCluster a).history = s.history := by cases a <;> rfl

@[simp] theorem noteCluster_libraries (s : Session σ) (a : Except ClientError Cluster.Info) :
    (s.noteCluster a).libraries = s.libraries := by cases a <;> rfl

@[simp] theorem noteCluster_actions (s : Session σ) (a : Except ClientError Cluster.Info) :
    (s.noteCluster a).actions = s.actions := by cases a <;> rfl

@[simp] theorem noteCluster_world (s : Session σ) (a : Except ClientError Cluster.Info) :
    (s.noteCluster a).world = s.world := by cases a <;> rfl

@[simp] theorem noteLibraries_history (s : Session σ)
    (a : Except ClientError (List LibraryStatus)) :
    (s.noteLibraries a).history = s.history := by cases a <;> rfl

@[simp] theorem noteLibraries_cluster (s : Session σ)
    (a : Except ClientError (List LibraryStatus)) :
    (s.noteLibraries a).cluster = s.cluster := by cases a <;> rfl

@[simp] theorem noteLibraries_actions (s : Session σ)
    (a : Except ClientError (List LibraryStatus)) :
    (s.noteLibraries a).actions = s.actions := by cases a <;> rfl

@[simp] theorem noteLibraries_world (s : Session σ)
    (a : Except ClientError (List LibraryStatus)) :
    (s.noteLibraries a).world = s.world := by cases a <;> rfl

end Session

namespace Reconciler
variable (r : Reconciler σ) {I : Session σ → Prop} {s t : Session σ}

def lookAtCluster (id : String) (s : Session σ) : Session σ :=
  (r.perform (.getCluster id) s).2.noteCluster (r.perform (.getCluster id) s).1

def lookAtLibraries (id : String) (s : Session σ) : Session σ :=
  (r.perform (.libraryStatuses id) s).2.noteLibraries (r.perform (.libraryStatuses id) s).1

@[simp] theorem perform_history (c : Call) (s : Session σ) :
    (r.perform c s).2.history = ⟨s.world, c, (r.perform c s).1⟩ :: s.history := rfl

@[simp] theorem perform_world (c : Call) (s : Session σ) :
    (r.perform c s).2.world = (r.world.answer c s.world).2 := rfl

@[simp] theorem perform_cluster (c : Call) (s : Session σ) :
    (r.perform c s).2.cluster = s.cluster := rfl

@[simp] theorem perform_libraries (c : Call) (s : Session σ) :
    (r.perform c s).2.libraries = s.libraries := rfl

@[simp] theorem perform_actions (c : Call) (s : Session σ) :
    (r.perform c s).2.actions = s.actions := rfl

@[simp] theorem lookAtCluster_history (id : String) (s : Session σ) :
    (r.lookAtCluster id s).history =
      ⟨s.world, .getCluster id, (r.perform (.getCluster id) s).1⟩ :: s.history := by
  simp [lookAtCluster]

@[simp] theorem lookAtCluster_libraries (id : String) (s : Session σ) :
    (r.lookAtCluster id s).libraries = s.libraries := by simp [lookAtCluster]

@[simp] theorem lookAtCluster_actions (id : String) (s : Session σ) :
    (r.lookAtCluster id s).actions = s.actions := by simp [lookAtCluster]

@[simp] theorem lookAtCluster_world (id : String) (s : Session σ) :
    (r.lookAtCluster id s).world = (r.world.answer (.getCluster id) s.world).2 := by
  simp [lookAtCluster]

theorem lookAtCluster_cluster {id : String} {info : Cluster.Info}
    (h : (r.perform (.getCluster id) s).1 = .ok info) :
    (r.lookAtCluster id s).cluster = some info := by rw [lookAtCluster, h]; rfl

@[simp] theorem lookAtLibraries_history (id : String) (s : Session σ) :
    (r.lookAtLibraries id s).history =
      ⟨s.world, .libraryStatuses id, (r.perform (.libraryStatuses id) s).1⟩ :: s.history := by
  simp [lookAtLibraries]

@[simp] theorem lookAtLibraries_cluster (id : String) (s : Session σ) :
    (r.lookAtLibraries id s).cluster = s.cluster := by simp [lookAtLibraries]

@[simp] theorem lookAtLibraries_actions (id : String) (s : Session σ) :
    (r.lookAtLibraries id s).actions = s.actions := by simp [lookAtLibraries]

@[simp] theorem lookAtLibraries_world (id : String) (s : Session σ) :
    (r.lookAtLibraries id s).world = (r.world.answer (.libraryStatuses id) s.world).2 := by
  simp [lookAtLibraries]

theorem lookAtLibraries_libraries {id : String} {observed : List LibraryStatus}
    (h : (r.perform (.libraryStatuses id) s).1 = .ok observed) :
    (r.lookAtLibraries id s).libraries = observed := by rw [lookAtLibraries, h]; rfl

/-- A call that is made unless the run is cancelled, with a note of its reply. -/
theorem exec_checkpoint_call (stage : Stage) (c : Call) (note : c.Reply → Session σ → Session σ)
    (s : Session σ) :
    exec (do
      r.checkpoint stage
      let reply ← r.call stage c
      modify (note reply)
      return reply) s =
      if r.world.isCancelled s.world then (.error (.failed ⟨stage, .cancelled stage.name⟩), s)
      else
        match r.perform c s with
        | (.ok reply, t) => (.ok reply, note reply t)
        | (.error e, t) => (.error (.failed ⟨stage, .ofClient e⟩), t) := by
  have hc := r.exec_checkpoint stage s
  have hk := r.exec_call stage c s
  cases hx : r.world.isCancelled s.world with
  | true =>
    rw [hx] at hc
    exact exec_bind_of_error hc
  | false =>
    rw [hx] at hc
    rw [exec_bind_of_ok hc]
    rcases hp : r.perform c s with ⟨e | reply, t⟩ <;> rw [hp] at hk
    · exact exec_bind_of_error hk
    · rw [exec_bind_of_ok hk]
      rfl

theorem exec_launch (spec : Cluster.Spec) (s : Session σ) :
    exec (r.launch spec) s =
      if r.world.isCancelled s.world then (.error (.failed ⟨.create, .cancelled Stage.create.name⟩), s)
      else
        match r.perform (.createCluster spec) s with
        | (.ok id, t) => (.ok id, { t with cluster := some { id := id, phase := .pending } })
        | (.error e, t) => (.error (.failed ⟨.create, .ofClient e⟩), t) := by
  refine (r.exec_checkpoint_call .create (.createCluster spec) _ s).trans ?_
  rcases r.perform (.createCluster spec) s with ⟨e | id, t⟩ <;> rfl

theorem exec_fetchCluster (stage : Stage) (id : String) (s : Session σ) :
    exec (r.fetchCluster stage id) s =
      if r.world.isCancelled s.world then (.error (.failed ⟨stage, .cancelled stage.name⟩), s)
      else
        match (r.perform (.getCluster id) s).1 with
        | .ok info => (.ok info, r.lookAtCluster id s)
        | .error e => (.error (.failed ⟨stage, .ofClient e⟩), r.lookAtCluster id s) := by
  refine (r.exec_checkpoint_call stage (.getCluster id) _ s).trans ?_
  rcases hp : r.perform (.getCluster id) s with ⟨e | info, t⟩ <;>
    simp [lookAtCluster, hp, Session.noteCluster]

theorem exec_fetchLibraries (stage : Stage) (id : String) (s : Session σ) :
    exec (r.fetchLibraries stage id) s =
      if r.world.isCancelled s.world then (.error (.failed ⟨stage, .cancelled stage.name⟩), s)
      else
        match (r.perform (.libraryStatuses id) s).1 with
        | .ok observed => (.ok observed, r.lookAtLibraries id s)
        | .error e => (.error (.failed ⟨stage, .ofClient e⟩), r.lookAtLibraries id s) := by
  refine (r.exec_checkpoint_call stage (.libraryStatuses id) _ s).trans ?_
  rcases hp : r.perform (.libraryStatuses id) s with ⟨e | observed, t⟩ <;>
    simp [lookAtLibraries, hp, Session.noteLibraries]

theorem fetchCluster_eq_ok {stage : Stage} {id : String} {info : Cluster.Info}
    (h : exec (r.fetchCluster stage id) s = (.ok info, t)) :
    r.world.isCancelled s.world = false ∧ (r.perform (.getCluster id) s).1 = .ok info ∧
      t = r.lookAtCluster id s := by
  rw [exec_fetchCluster] at h
  split_ifs at h with hc
  · simp at h
  · cases hp : (r.perform (.getCluster id) s).1 <;> simp_all

theorem fetchLibraries_eq_ok {stage : Stage} {id : String} {observed : List LibraryStatus}
    (h : exec (r.fetchLibraries stage id) s = (.ok observed, t)) :
    r.world.isCancelled s.world = false ∧
      (r.perform (.libraryStatuses id) s).1 = .ok observed ∧ t = r.lookAtLibraries id s := by
  rw [exec_fetchLibraries] at h
  split_ifs at h with hc
  · simp at h
  · cases hp : (r.perform (.libraryStatuses id) s).1 <;> simp_all

structure WatchesCluster (id : String) (I : Session σ → Prop) : Prop where
  sleep : ∀ d s, I s → I (r.clock.sleep d s)
  look : ∀ s, I s → r.world.isCancelled s.world = false → I (r.lookAtCluster id s)

structure WatchesLibraries (id : String) (I : Session σ → Prop) : Prop where
  sleep : ∀ d s, I s → I (r.clock.sleep d s)
  look : ∀ s, I s → r.world.isCancelled s.world = false → I (r.lookAtLibraries id s)

variable {r}

theorem WatchesCluster.keeps {id : String} (hw : r.WatchesCluster id I) (what : String)
    (judge : Except ClientError Cluster.Info → Except ReconcileError (Check α)) :
    (r.watchCluster id what judge).Keeps r.clock I where
  sleep := hw.sleep
  tolerate e s hs hc he _ := by
    have hl := hw.look s hs hc
    rw [lookAtCluster, show (r.perform (.getCluster id) s).1 = .error e from he] at hl
    exact hl
  again s hs hc _ := hw.look s hs hc

theorem WatchesLibraries.keeps {id : String} (hw : r.WatchesLibraries id I)
    (desired submitted removing : List Library) :
    (r.watchLibraries id desired submitted removing).Keeps r.clock I where
  sleep := hw.sleep
  tolerate e s hs hc he _ := by
    have hl := hw.look s hs hc
    rw [lookAtLibraries, show (r.perform (.libraryStatuses id) s).1 = .error e from he] at hl
    exact hl
  again s hs hc _ := hw.look s hs hc

theorem exec_await {β : Type} (stage : Stage) (w : Watch (Session σ) β α ReconcileError)
    (s : Session σ) :
    exec (r.await stage w) s =
      match w.run r.clock r.options.poll r.fuel s with
      | (.done a, t) => (.ok a, t)
      | (.rejected e, t) => (.error (.failed ⟨stage, e⟩), t)
      | (.stopped e, t) => (.error (.failed ⟨stage, .ofPoll e⟩), t)
      | (.unfinished, t) => (.error .unfinished, t) := rfl

/-- A wait that is part of a run ends with its last look, or in a state from its midst. -/
theorem exec_await_cases {β : Type} {w : Watch (Session σ) β α ReconcileError}
    (hk : w.Keeps r.clock I) (stage : Stage) (hs : I s) :
    (∃ v t, exec (r.await stage w) s = (.ok v, t) ∧ w.Found r.clock I (.ok (.done v)) t) ∨
    (∃ e t, exec (r.await stage w) s = (.error (.failed ⟨stage, e⟩), t) ∧
      (w.Found r.clock I (.error e) t ∨ I t)) ∨
    ∃ t, exec (r.await stage w) s = (.error .unfinished, t) ∧ I t := by
  have he := Watch.run_ended hk r.options.poll r.fuel hs
  have hx := r.exec_await stage w s
  rcases hr : w.run r.clock r.options.poll r.fuel s with ⟨v | e | e | _, t⟩ <;>
    rw [hr] at he hx
  · exact .inl ⟨v, t, hx, he⟩
  · exact .inr (.inl ⟨e, t, hx, .inl he⟩)
  · exact .inr (.inl ⟨_, t, hx, .inr he⟩)
  · exact .inr (.inr ⟨t, hx, he⟩)

theorem await_eq_ok {β : Type} {w : Watch (Session σ) β α ReconcileError}
    (hk : w.Keeps r.clock I) {stage : Stage} (hs : I s) {v : α}
    (h : exec (r.await stage w) s = (.ok v, t)) : w.Found r.clock I (.ok (.done v)) t := by
  rcases exec_await_cases hk stage hs with ⟨v', t', hx, hf⟩ | ⟨e, t', hx, -⟩ | ⟨t', hx, -⟩ <;>
    rw [hx] at h
  · cases h
    exact hf
  · cases h
  · cases h

/-- A wait for a cluster to run that succeeds ends with a look at a running cluster. -/
theorem waitRunning_eq_ok {id : String} (hw : r.WatchesCluster id I) {stage : Stage} (hs : I s)
    {info : Cluster.Info} (h : exec (r.waitRunning stage id) s = (.ok info, t)) :
    ∃ u, I u ∧ r.world.isCancelled u.world = false ∧
      (r.perform (.getCluster id) u).1 = .ok info ∧ info.phase = .running ∧
      t = r.lookAtCluster id u := by
  obtain ⟨u, hu, hc, hl⟩ := await_eq_ok (hw.keeps _ _) hs h
  have hj : judgeRunning id (r.perform (.getCluster id) u).1 = .ok (.done info) :=
    congrArg Prod.fst hl
  refine ⟨u, hu, hc, ?_⟩
  cases ha : (r.perform (.getCluster id) u).1 with
  | error e =>
    rw [ha] at hj
    simp only [judgeRunning] at hj
    split_ifs at hj
  | ok i =>
    rw [ha] at hj
    simp only [judgeRunning] at hj
    split at hj <;> simp_all
    exact (congrArg Prod.snd hl).symm

theorem waitStable_eq_ok {id : String}
    (hk : ∀ what, (r.watchCluster id what judgeStable).Keeps r.clock I) {stage : Stage} (hs : I s)
    {info : Cluster.Info} (h : exec (r.waitStable stage id) s = (.ok info, t)) :
    ∃ u, I u ∧ r.world.isCancelled u.world = false ∧
      (r.perform (.getCluster id) u).1 = .ok info ∧ info.phase.isSettling = false ∧
      t = r.lookAtCluster id u := by
  obtain ⟨u, hu, hc, hl⟩ := await_eq_ok (hk _) hs h
  have hj : judgeStable (r.perform (.getCluster id) u).1 = .ok (.done info) :=
    congrArg Prod.fst hl
  refine ⟨u, hu, hc, ?_⟩
  cases ha : (r.perform (.getCluster id) u).1 with
  | error e => simp [ha, judgeStable] at hj
  | ok i =>
    cases hp : i.phase.isSettling <;> simp [ha, judgeStable, hp] at hj
    subst hj
    exact ⟨rfl, hp, (congrArg Prod.snd hl).symm⟩

/-- A cluster is no longer waited for when it is no longer alive, or when it is gone. -/
theorem judgeTerminated_eq_done {answer : Except ClientError Cluster.Info} {there : Bool}
    (h : judgeTerminated answer = .ok (.done there)) :
    (∃ info, answer = .ok info ∧ there = true ∧
      (info.phase = .terminated ∨ info.phase = .error)) ∨
      ∃ e, answer = .error e ∧ there = false ∧ e.isNotFound = true := by
  cases answer with
  | error e =>
    simp only [judgeTerminated] at h
    split_ifs at h with hn
    cases h
    exact .inr ⟨e, rfl, rfl, hn⟩
  | ok info =>
    simp only [judgeTerminated, Except.ok.injEq] at h
    split_ifs at h with hp
    cases h
    exact .inl ⟨info, rfl, rfl, hp⟩

/-- A wait for a cluster to terminate ends well with a look at it when it is no longer alive, or
when it is gone. -/
theorem waitTerminated_eq_ok {id : String} (hw : r.WatchesCluster id I) (hs : I s) {there : Bool}
    (h : exec (r.waitTerminated id) s = (.ok there, t)) :
    ∃ u, I u ∧ r.world.isCancelled u.world = false ∧ t = r.lookAtCluster id u ∧
      (there = true → ∃ info, (r.perform (.getCluster id) u).1 = .ok info ∧
        (info.phase = .terminated ∨ info.phase = .error)) := by
  obtain ⟨u, hu, hc, hl⟩ := await_eq_ok (hw.keeps _ _) hs h
  refine ⟨u, hu, hc, (congrArg Prod.snd hl).symm, ?_⟩
  rintro rfl
  rcases judgeTerminated_eq_done (congrArg Prod.fst hl) with ⟨info, ho, -, hp⟩ | ⟨e, -, hfalse, -⟩
  · exact ⟨info, ho, hp⟩
  · cases hfalse

theorem awaitLibraries_eq_ok {id : String} (hw : r.WatchesLibraries id I) {stage : Stage}
    (hs : I s) {desired submitted removing : List Library} {observed : List LibraryStatus}
    (h : exec (r.await stage (r.watchLibraries id desired submitted removing)) s =
      (.ok observed, t)) :
    ∃ u, I u ∧ r.world.isCancelled u.world = false ∧
      (r.perform (.libraryStatuses id) u).1 = .ok observed ∧
      isSettled desired submitted removing observed = true ∧ t = r.lookAtLibraries id u := by
  obtain ⟨u, hu, hc, hl⟩ := await_eq_ok (hw.keeps _ _ _) hs h
  have hj : judgeLibraries desired submitted removing (r.perform (.libraryStatuses id) u).1 =
      .ok (.done observed) := congrArg Prod.fst hl
  refine ⟨u, hu, hc, ?_⟩
  cases ha : (r.perform (.libraryStatuses id) u).1 with
  | error e => simp [ha, judgeLibraries] at hj
  | ok o =>
    cases hp : isSettled desired submitted removing o <;> simp [ha, judgeLibraries, hp] at hj
    subst hj
    exact ⟨rfl, hp, (congrArg Prod.snd hl).symm⟩

end Reconciler
end ClusterReconciliation
