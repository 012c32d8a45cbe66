import ClusterReconciliation.Proofs.Congruence
import ClusterReconciliation.Proofs.Observation

/-! The steps that a session can take. Every run leads from a session to another one by a row of
such steps, so what each of them keeps holds after every run, however it ends. -/
namespace ClusterReconciliation
open Run
variable {σ α β : Type}

/-- One step of a session, with a call of a kind if it makes any. -/
inductive Step (r : Reconciler σ) (K : Call → Prop) : Session σ → Session σ → Prop
  | sleep (d : Duration) (s : Session σ) : Step r K s (r.clock.sleep d s)
  | lookAtCluster (id : String) (s : Session σ) (hk : K (.getCluster id))
    (hc : r.world.isCancelled s.world = false) : Step r K s (r.lookAtCluster id s)
  | lookAtLibraries (id : String) (s : Session σ) (hk : K (.libraryStatuses id))
    (hc : r.world.isCancelled s.world = false) : Step r K s (r.lookAtLibraries id s)
  | attempt (c : Call) (a : Action) (s : Session σ) (hk : K c) (ha : c.action? = some a)
    (hp : s.phase.permits a = true) (hc : r.world.isCancelled s.world = false)
    (e : ClientError) (he : (r.perform c s).1 = .error e) : Step r K s (r.perform c s).2
  | change (c : Call) (a : Action) (s : Session σ) (hk : K c) (ha : c.action? = some a)
    (hp : s.phase.permits a = true) (hc : r.world.isCancelled s.world = false)
    (reply : c.Reply) (ho : (r.perform c s).1 = .ok reply) :
    Step r K s { (r.perform c s).2 with actions := s.actions ++ [a] }
  | refuse (spec : Cluster.Spec) (s : Session σ) (hk : K (.createCluster spec))
    (hc : r.world.isCancelled s.world = false) (e : ClientError)
    (he : (r.perform (.createCluster spec) s).1 = .error e) :
    Step r K s (r.perform (.createCluster spec) s).2
  | create (spec : Cluster.Spec) (s : Session σ) (hk : K (.createCluster spec))
    (hc : r.world.isCancelled s.world = false) (id : String)
    (ho : (r.perform (.createCluster spec) s).1 = .ok id) :
    Step r K s { (r.perform (.createCluster spec) s).2 with
      cluster := some { id := id, phase := .pending } }

abbrev Steps (r : Reconciler σ) (K : Call → Prop) : Session σ → Session σ → Prop :=
  Relation.ReflTransGen (Step r K)

section
variable {r : Reconciler σ} {K : Call → Prop} {s t : Session σ}

theorem Step.grows (h : Step r K s t) : s.Grows (K ·.call) t := by
  cases h with
  | sleep d => exact .refl s
  | lookAtCluster id _ hk hc => exact .of_cons (r.lookAtCluster_history id s) hk
  | lookAtLibraries id _ hk hc => exact .of_cons (r.lookAtLibraries_history id s) hk
  | attempt c a _ hk ha hp hc e he => exact .of_cons (r.perform_history c s) hk
  | change c a _ hk ha hp hc reply ho => exact .of_cons (r.perform_history c s) hk
  | refuse spec _ hk hc e he => exact .of_cons (r.perform_history _ s) hk
  | create spec _ hk hc id ho => exact .of_cons (r.perform_history _ s) hk

theorem Steps.grows (h : Steps r K s t) : s.Grows (K ·.call) t := by
  induction h with
  | refl => exact .refl s
  | tail _ h ih => exact ih.trans h.grows

/-- A cluster that nobody looks at stays as it was last observed. -/
theorem Steps.cluster_eq (h : Steps r K s t) (hg : ∀ id, ¬K (.getCluster id))
    (hc : ∀ spec, ¬K (.createCluster spec)) : t.cluster = s.cluster := by
  induction h with
  | refl => rfl
  | tail _ h ih =>
    rw [← ih]
    cases h with
    | sleep d => rfl
    | lookAtCluster id _ hk _ => exact absurd hk (hg id)
    | lookAtLibraries id _ hk _ => exact r.lookAtLibraries_cluster id _
    | attempt c a _ hk _ _ _ e he => rfl
    | change c a _ hk _ _ _ reply ho => rfl
    | refuse spec _ hk _ e he => exact absurd hk (hc spec)
    | create spec _ hk _ id ho => exact absurd hk (hc spec)

/-- Libraries that nobody looks at stay as they were last observed. -/
theorem Steps.libraries_eq (h : Steps r K s t) (hg : ∀ id, ¬K (.libraryStatuses id)) :
    t.libraries = s.libraries := by
  induction h with
  | refl => rfl
  | tail _ h ih =>
    rw [← ih]
    cases h with
    | sleep d => rfl
    | lookAtCluster id _ hk _ => exact r.lookAtCluster_libraries id _
    | lookAtLibraries id _ hk _ => exact absurd hk (hg id)
    | attempt c a _ hk _ _ _ e he => rfl
    | change c a _ hk _ _ _ reply ho => rfl
    | refuse spec _ hk _ e he => rfl
    | create spec _ hk _ id ho => rfl

/-- Calls that only read leave no change to record. -/
theorem Steps.actions_eq (h : Steps r K s t) (hK : ∀ c, K c → c.action? = none) :
    t.actions = s.actions := by
  induction h with
  | refl => rfl
  | tail _ h ih =>
    rw [← ih]
    cases h with
    | sleep d => rfl
    | lookAtCluster id _ hk _ => exact r.lookAtCluster_actions id _
    | lookAtLibraries id _ hk _ => exact r.lookAtLibraries_actions id _
    | attempt c a _ hk _ _ _ e he => rfl
    | change c a _ hk ha _ _ reply ho => rw [hK c hk] at ha; cases ha
    | refuse spec _ hk _ e he => rfl
    | create spec _ hk _ id ho => rfl

end

/-- Wherever a run starts and however it ends, steps lead from there to its end. -/
def Run.MadeOf (r : Reconciler σ) (K : Call → Prop) (m : Run σ α) : Prop :=
  ∀ s, Steps r K s (exec m s).2

namespace Run
variable {r : Reconciler σ} {K : Call → Prop} {m : Run σ α} {f : α → Run σ β}

theorem madeOf_pure (a : α) : MadeOf r K (pure a : Run σ α) := fun _ => .refl

theorem madeOf_throw (h : Halt) : MadeOf r K (throw h : Run σ α) := fun _ => .refl

theorem madeOf_get : MadeOf r K (get : Run σ (Session σ)) := fun _ => .refl

theorem MadeOf.bind (hm : MadeOf r K m) (hf : ∀ a, MadeOf r K (f a)) : MadeOf r K (m >>= f) := by
  intro s
  have hs := hm s
  rw [exec_bind]
  rcases hx : exec m s with ⟨e | a, t⟩ <;> rw [hx] at hs
  · exact hs
  · exact hs.trans (hf a t)

theorem MadeOf.ite {c : Prop} [Decidable c] {m' : Run σ α} (hm : MadeOf r K m)
    (hm' : MadeOf r K m') : MadeOf r K (if c then m else m') := by
  split
  · exact hm
  · exact hm'

theorem MadeOf.tryCatch {g : Halt → Run σ α} (hm : MadeOf r K m) (hg : ∀ h, MadeOf r K (g h)) :
    MadeOf r K (tryCatch m g) := by
  intro s
  have hs := hm s
  rw [exec_tryCatch]
  rcases hx : exec m s with ⟨e | a, t⟩ <;> rw [hx] at hs
  · exact hs.trans (hg e t)
  · exact hs

theorem MadeOf.orGone {m : Run σ Unit} (hm : MadeOf r K m) : MadeOf r K m.orGone :=
  hm.tryCatch fun h => .ite (madeOf_pure ()) (madeOf_throw h)

end Run

namespace Reconciler
variable (r : Reconciler σ) {K : Call → Prop}

theorem madeOf_mutate {action : Action} (stage : Stage) {c : Call} (hk : K c)
    (ha : c.action? = some action) : MadeOf r K (r.mutate action stage c) := by
  intro s
  rcases r.exec_mutate_cases action stage c s with
    ⟨-, hx⟩ | ⟨-, -, hx⟩ | ⟨hp, hc, ⟨e, t, he, hx⟩ | ⟨reply, t, ho, hx⟩⟩ <;> simp only [hx]
  · exact .refl
  · exact .refl
  · obtain rfl : t = (r.perform c s).2 := by rw [he]
    exact .single (.attempt c action s hk ha hp hc e (congrArg Prod.fst he))
  · obtain rfl : t = (r.perform c s).2 := by rw [ho]
    exact .single (.change c action s hk ha hp hc reply (congrArg Prod.fst ho))

theorem madeOf_launch {spec : Cluster.Spec} (hk : K (.createCluster spec)) :
    MadeOf r K (r.launch spec) := by
  intro s
  rw [exec_launch]
  cases hc : r.world.isCancelled s.world with
  | true => exact .refl
  | false =>
    rcases ho : r.perform (.createCluster spec) s with ⟨e | id, t⟩ <;>
      obtain rfl : t = (r.perform (.createCluster spec) s).2 := by rw [ho]
    · exact .single (.refuse spec s hk hc e (congrArg Prod.fst ho))
    · exact .single (.create spec s hk hc id (congrArg Prod.fst ho))

theorem madeOf_fetchCluster (stage : Stage) {id : String} (hk : K (.getCluster id)) :
    MadeOf r K (r.fetchCluster stage id) := by
  intro s
  rw [exec_fetchCluster]
  cases hc : r.world.isCancelled s.world with
  | true => exact .refl
  | false =>
    have hl : Steps r K s (r.lookAtCluster id s) := .single (.lookAtCluster id s hk hc)
    cases (r.perform (.getCluster id) s).1 <;> exact hl

theorem madeOf_fetchLibraries (stage : Stage) {id : String} (hk : K (.libraryStatuses id)) :
    MadeOf r K (r.fetchLibraries stage id) := by
  intro s
  rw [exec_fetchLibraries]
  cases hc : r.world.isCancelled s.world with
  | true => exact .refl
  | false =>
    have hl : Steps r K s (r.lookAtLibraries id s) := .single (.lookAtLibraries id s hk hc)
    cases (r.perform (.libraryStatuses id) s).1 <;> exact hl

/-- The last look of a wait is one more step after its midst. -/
theorem madeOf_await {γ : Type} {w : Watch (Session σ) γ α ReconcileError}
    (hw : ∀ s, w.Keeps r.clock (Steps r K s))
    (hl : ∀ s, r.world.isCancelled s.world = false → Step r K s (w.look s).2) (stage : Stage) :
    MadeOf r K (r.await stage w) := by
  intro s
  have hf : ∀ {verdict t}, w.Found r.clock (Steps r K s) verdict t → Steps r K s t := by
    rintro verdict t ⟨u, hu, hc, hx⟩
    have ht : t = (w.look u).2 := by rw [hx]
    exact ht ▸ hu.tail (hl u hc)
  rcases exec_await_cases (hw s) stage (.refl : Steps r K s s) with
    ⟨v, t, hx, ht⟩ | ⟨e, t, hx, ht | ht⟩ | ⟨t, hx, ht⟩ <;> rw [hx]
  · exact hf ht
  · exact hf ht
  · exact ht
  · exact ht

theorem watchesCluster_steps {id : String} (hk : K (.getCluster id)) (s : Session σ) :
    r.WatchesCluster id (Steps r K s) where
  sleep d t ht := ht.tail (.sleep d t)
  look t ht hc := ht.tail (.lookAtCluster id t hk hc)

theorem watchesLibraries_steps {id : String} (hk : K (.libraryStatuses id)) (s : Session σ) :
    r.WatchesLibraries id (Steps r K s) where
  sleep d t ht := ht.tail (.sleep d t)
  look t ht hc := ht.tail (.lookAtLibraries id t hk hc)

theorem madeOf_awaitCluster (stage : Stage) {id : String} (what : String)
    (judge : Except ClientError Cluster.Info → Except ReconcileError (Check α))
    (hk : K (.getCluster id)) :
    MadeOf r K (r.await stage (r.watchCluster id what judge)) :=
  r.madeOf_await (fun s => (r.watchesCluster_steps hk s).keeps what judge)
    (fun s hc => .lookAtCluster id s hk hc) stage

theorem madeOf_awaitLibraries (stage : Stage) {id : String}
    (desired submitted removing : List Library) (hk : K (.libraryStatuses id)) :
    MadeOf r K (r.await stage (r.watchLibraries id desired submitted removing)) :=
  r.madeOf_await (fun s => (r.watchesLibraries_steps hk s).keeps desired submitted removing)
    (fun s hc => .lookAtLibraries id s hk hc) stage

/-- All that a reconciler does is made of steps, with calls of the kinds that are allowed to it. -/
theorem madeOf : r.Congruence r K fun _ m _ => MadeOf r K m where
  options := rfl
  fuel := rfl
  pure := madeOf_pure
  throw := madeOf_throw
  bind := MadeOf.bind
  get hf := madeOf_get.bind fun s => hf s s rfl rfl
  mutate := r.madeOf_mutate
  launch := r.madeOf_launch
  fetchCluster := r.madeOf_fetchCluster
  fetchLibraries := r.madeOf_fetchLibraries
  waitRunning stage _ := r.madeOf_awaitCluster stage _ _
  waitStable stage _ := r.madeOf_awaitCluster stage _ _
  awaitLibraries := r.madeOf_awaitLibraries

theorem madeOf_waitTerminated {id : String} (hk : K (.getCluster id)) :
    MadeOf r K (r.waitTerminated id) := r.madeOf_awaitCluster .delete _ _ hk

/-- A creation makes a cluster, and then installs and uninstalls libraries on it. -/
theorem madeOf_create (desired : Desired) :
    MadeOf r (·.OfCreate desired.cluster) (r.create desired) :=
  r.madeOf.create desired fun _ h => h

/-- An update only reads, starts and edits its cluster, and installs and uninstalls libraries. -/
theorem madeOf_update (id : String) (desired : Desired) :
    MadeOf r (·.OfUpdate id desired.cluster) (r.update id desired) :=
  r.madeOf.update id desired fun _ h => h

/-- A deletion only reads, terminates and purges its cluster. -/
theorem madeOf_purge (id : String) : MadeOf r (·.OfDelete id) (r.purge id) :=
  r.madeOf.purge id (r.madeOf_waitTerminated rfl) (fun _ h => h) MadeOf.orGone

end Reconciler
end ClusterReconciliation
