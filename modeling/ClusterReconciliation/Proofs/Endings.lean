import ClusterReconciliation.Proofs.Soundness

/-! How runs end, and why they halt. A run that halts was rejected by the control plane with what it
then reports, or it fails by itself. A change that the phase is known to permit is never refused, so
that of all runs only an update that finds its cluster failed is ended by a phase. -/
namespace ClusterReconciliation
open Run
variable {σ α β : Type}

namespace Run
variable {m : Run σ α} {f : α → Run σ β} {s : Session σ} {Q Q' : α → Session σ → Prop}
  {R : β → Session σ → Prop} {E E' : Halt → Session σ → Prop}

/-- From a session the run ends well only as `Q` says, and halts only as `E` says. -/
structure Ensures (m : Run σ α) (s : Session σ) (Q : α → Session σ → Prop)
    (E : Halt → Session σ → Prop) : Prop where
  ok : ∀ a t, exec m s = (.ok a, t) → Q a t
  halted : ∀ h t, exec m s = (.error h, t) → E h t

theorem ensures_pure {a : α} (h : Q a s) : Ensures (pure a) s Q E where
  ok _ _ hx := by
    cases hx
    exact h
  halted _ _ hx := by cases congrArg Prod.fst hx

theorem ensures_throw {h : Halt} (hE : E h s) : Ensures (throw h : Run σ α) s Q E where
  ok _ _ hx := by cases congrArg Prod.fst hx
  halted _ _ hx := by
    cases hx
    exact hE

theorem ensures_fail {stage : Stage} {error : ReconcileError}
    (h : E (.failed ⟨stage, error⟩) s) : Ensures (Reconciler.fail stage error) s Q E :=
  ensures_throw h

theorem ensures_get {E : Halt → Session σ → Prop} :
    Ensures (get : Run σ (Session σ)) s (fun a t => s = a ∧ s = t) E where
  ok _ _ hx := by
    cases hx
    exact ⟨rfl, rfl⟩
  halted _ _ hx := by cases congrArg Prod.fst hx

theorem Ensures.mono (h : Ensures m s Q E) (hQ : ∀ a t, Q a t → Q' a t)
    (hE : ∀ e t, E e t → E' e t) : Ensures m s Q' E' where
  ok a t hx := hQ a t (h.ok a t hx)
  halted e t hx := hE e t (h.halted e t hx)

/-- However the run ends from a session, it ends in a session like that. -/
abbrev EndsIn (m : Run σ α) (s : Session σ) (P : Session σ → Prop) : Prop :=
  Ensures m s (fun _ t => P t) fun _ t => P t

theorem EndsIn.always {P : Session σ → Prop} (h : EndsIn m s P) : P (exec m s).2 := by
  rcases hx : exec m s with ⟨e | a, t⟩
  · exact h.halted e t hx
  · exact h.ok a t hx

theorem EndsIn.of_exec {P : Session σ → Prop} (h : P (exec m s).2) : EndsIn m s P := by
  refine ⟨fun a t hx => ?_, fun e t hx => ?_⟩ <;> rwa [hx] at h

/-- What ends a run before its end is what ends one of its parts. -/
theorem Ensures.bind (hm : Ensures m s Q E)
    (hf : ∀ a t, exec m s = (.ok a, t) → Q a t → Ensures (f a) t R E) :
    Ensures (m >>= f) s R E where
  ok b t hx := by
    obtain ⟨a, u, hu, ht⟩ := exec_bind_eq_ok.1 hx
    exact (hf a u hu (hm.ok a u hu)).ok b t ht
  halted e t hx := by
    rw [exec_bind] at hx
    rcases hu : exec m s with ⟨e' | a, u⟩ <;> simp only [hu] at hx
    · cases hx
      exact hm.halted e t hu
    · exact (hf a u hu (hm.ok a u hu)).halted e t hx

theorem Ensures.tryCatch {g : Halt → Run σ α} (hm : Ensures m s Q E)
    (hg : ∀ h t, E h t → Ensures (g h) t Q E') : Ensures (tryCatch m g) s Q E' := by
  refine ⟨fun a t hx => ?_, fun h t hx => ?_⟩ <;> rw [exec_tryCatch] at hx <;>
    rcases hu : exec m s with ⟨e | b, u⟩ <;> simp only [hu] at hx
  · exact (hg e u (hm.halted e u hu)).ok a t hx
  · cases hx
    exact hm.ok a t hu
  · exact (hg e u (hm.halted e u hu)).halted h t hx
  · cases hx

/-- What steps keep holds wherever a run ends. -/
theorem MadeOf.endsIn {r : Reconciler σ} {K : Call → Prop} (hm : MadeOf r K m) (s : Session σ) :
    EndsIn m s (Steps r K s) := .of_exec (hm s)

theorem EndsIn.imp {P P' : Session σ → Prop} (h : EndsIn m s P) (hP : ∀ t, P t → P' t) :
    EndsIn m s P' := Ensures.mono h (fun _ => hP) fun _ => hP

/-- From a session the run halts only as `E` says, if it halts. -/
abbrev Halts (m : Run σ α) (s : Session σ) (E : Halt → Session σ → Prop) : Prop :=
  Ensures m s (fun _ _ => True) E

theorem halts_pure (a : α) : Halts (pure a) s E := ensures_pure trivial

theorem Halts.bind (hm : Halts m s E) (hf : ∀ a t, exec m s = (.ok a, t) → Halts (f a) t E) :
    Halts (m >>= f) s E := Ensures.bind hm fun a t hx _ => hf a t hx

theorem Halts.mono (h : Halts m s E) (hE : ∀ e t, E e t → E' e t) : Halts m s E' :=
  Ensures.mono h (fun _ _ h => h) hE

end Run

/-- What a run that halts has to show for it: the rejection that it reports was the answer to one of
its calls, and no phase has kept it from a change. -/
def Halt.Explained (h : Halt) (s : Session σ) : Prop :=
  match h with
  | .failed ⟨_, .api status code message⟩ =>
    ∃ e ∈ s.history, e.answer = .error (.api status code message)
  | .failed ⟨_, .invalidPhase _ _ _⟩ => False
  | _ => True

/-- The one way in which a phase ends a run: an update finds its cluster failed, before it has done
anything but look at it. -/
structure Halt.Refused (id : String) (h : Halt) (s : Session σ) : Prop where
  eq : h = .failed ⟨.start, .invalidPhase id .error .start⟩
  phase : s.phase = .error
  looks : ∀ e ∈ s.history, e.call = .getCluster id

section
variable {s : Session σ} {stage : Stage} {c : ClientError}

theorem Halt.explained_ofClient (h : ∃ e ∈ s.history, e.answer = .error c) :
    Explained (.failed ⟨stage, .ofClient c⟩) s := by
  cases c with
  | api status code message => exact h
  | _ => trivial

theorem Halt.explained_ofTransient (h : c.isTransient = true) :
    Explained (.failed ⟨stage, .ofClient c⟩) s := by
  cases c with
  | api status code message => cases h
  | _ => trivial

end

/-- A cluster that has failed and is not waited for has come to an error. -/
theorem Phase.eq_error {p : Phase} (hs : p.isSettling = false) (hf : p.isFailed = true) :
    p = .error := by
  cases p <;> simp_all [Phase.isSettling, Phase.isTransitional, Phase.isFailed]

namespace Reconciler
variable {r : Reconciler σ} {s t : Session σ} {id : String}

/-- The answer to the last call explains an end that reports it. -/
theorem explained_of_perform (r : Reconciler σ) {stage : Stage} {c : Call} {e : ClientError}
    (h : (r.perform c s).1 = .error e) (ht : t.history = (r.perform c s).2.history) :
    Halt.Explained (.failed ⟨stage, .ofClient e⟩) t :=
  Halt.explained_ofClient ⟨⟨s.world, c, (r.perform c s).1⟩, by simp [ht], h⟩

/-- A change leaves the session as it is, or makes one call that its phase permits. -/
theorem endsIn_mutate {action : Action} (stage : Stage) {c : Call} {P : Session σ → Prop}
    (hs : P s) (hc : s.phase.permits action = true →
      ∀ actions, P { (r.perform c s).2 with actions := actions }) :
    EndsIn (r.mutate action stage c) s P := by
  refine .of_exec ?_
  rcases r.exec_mutate_cases action stage c s with
    ⟨-, hx⟩ | ⟨-, -, hx⟩ | ⟨hp, -, ⟨e, t, he, hx⟩ | ⟨reply, t, ho, hx⟩⟩ <;> simp only [hx]
  · exact hs
  · exact hs
  · obtain rfl : t = (r.perform c s).2 := by rw [he]
    exact hc hp s.actions
  · obtain rfl : t = (r.perform c s).2 := by rw [ho]
    exact hc hp _

/-- A wait halts on a judgement of its last look, or in its midst: it is stopped without a decision
of the other side, or fuel runs out. -/
theorem halts_await {γ : Type} {w : Watch (Session σ) γ α ReconcileError} (stage : Stage)
    {I : Session σ → Prop} {E : Halt → Session σ → Prop} (hk : w.Keeps r.clock I) (hs : I s)
    (rejected : ∀ u e t, I u → w.look u = (.error e, t) → E (.failed ⟨stage, e⟩) t)
    (stopped : ∀ e t, I t → (∀ c, e = .client c → c.isTransient = true) →
      E (.failed ⟨stage, .ofPoll e⟩) t)
    (unfinished : ∀ t, I t → E .unfinished t) : Halts (r.await stage w) s E := by
  refine ⟨fun _ _ _ => trivial, fun h t hx => ?_⟩
  have hended := Watch.run_ended hk r.options.poll r.fuel hs
  rw [exec_await] at hx
  rcases hr : w.run r.clock r.options.poll r.fuel s with ⟨v | e | e | _, u⟩ <;>
    rw [hr] at hx hended <;> cases hx
  · obtain ⟨u, hu, -, hl⟩ := hended
    exact rejected u e t hu hl
  · refine stopped e t hended fun c hc => ?_
    subst hc
    exact Watch.run_stopped hr
  · exact unfinished t hended

section Judgements
variable {e : ReconcileError}

theorem judgeRunning_eq_error {answer : Except ClientError Cluster.Info}
    (h : judgeRunning id answer = .error e) :
    (∃ c, answer = .error c ∧ e = .ofClient c) ∨ ∃ i p message, e = .clusterFailed i p message := by
  cases answer with
  | error c =>
    simp only [judgeRunning] at h
    split_ifs at h with hn <;> cases h
    · exact .inr ⟨_, _, _, rfl⟩
    · exact .inl ⟨c, rfl, rfl⟩
  | ok info =>
    simp only [judgeRunning] at h
    split at h <;> cases h
    exact .inr ⟨_, _, _, rfl⟩

theorem judgeStable_eq_error {answer : Except ClientError Cluster.Info}
    (h : judgeStable answer = .error e) : ∃ c, answer = .error c ∧ e = .ofClient c := by
  cases answer <;> cases h
  exact ⟨_, rfl, rfl⟩

theorem judgeTerminated_eq_error {answer : Except ClientError Cluster.Info}
    (h : judgeTerminated answer = .error e) : ∃ c, answer = .error c ∧ e = .ofClient c := by
  cases answer with
  | error c =>
    simp only [judgeTerminated] at h
    split_ifs at h
    cases h
    exact ⟨c, rfl, rfl⟩
  | ok info => cases h

theorem judgeLibraries_eq_error {desired submitted removing : List Library}
    {answer : Except ClientError (List LibraryStatus)}
    (h : judgeLibraries desired submitted removing answer = .error e) :
    ∃ c, answer = .error c ∧ e = .ofClient c := by
  cases answer <;> cases h
  exact ⟨_, rfl, rfl⟩

end Judgements

/-- Such is every halt of a call or a wait at a stage: the run is cancelled, the answer of the call
is an error, the wait is given up or comes to a bad end, or fuel runs out. -/
structure HaltsAt (r : Reconciler σ) (stage : Stage) (E : Halt → Session σ → Prop) : Prop where
  cancelled : ∀ what s, E (.failed ⟨stage, .cancelled what⟩) s
  answered : ∀ c e s t, (r.perform c s).1 = .error e → t.history = (r.perform c s).2.history →
    E (.failed ⟨stage, .ofClient e⟩) t
  lost : ∀ e s, e.isTransient = true → E (.failed ⟨stage, .ofClient e⟩) s
  timedOut : ∀ what elapsed s, E (.failed ⟨stage, .convergenceTimeout what elapsed⟩) s
  clusterFailed : ∀ i p message s, E (.failed ⟨stage, .clusterFailed i p message⟩) s
  unfinished : ∀ s, E .unfinished s

section HaltsAt
variable {stage : Stage} {E E' : Halt → Session σ → Prop}

theorem HaltsAt.mono (h : r.HaltsAt stage E) (hE : ∀ e t, E e t → E' e t) :
    r.HaltsAt stage E' where
  cancelled what s := hE _ s (h.cancelled what s)
  answered c e s t ha ht := hE _ t (h.answered c e s t ha ht)
  lost e s he := hE _ s (h.lost e s he)
  timedOut what elapsed s := hE _ s (h.timedOut what elapsed s)
  clusterFailed i p message s := hE _ s (h.clusterFailed i p message s)
  unfinished s := hE _ s (h.unfinished s)

/-- A change may also be refused. -/
theorem HaltsAt.mutate (h : r.HaltsAt stage E) {action : Action} (c : Call)
    (hp : s.phase.permits action = false →
      E (.failed ⟨stage, .invalidPhase c.id s.phase action⟩) s) :
    Halts (r.mutate action stage c) s E := by
  refine ⟨fun _ _ _ => trivial, fun e t hx => ?_⟩
  rcases r.exec_mutate_cases action stage c s with
    ⟨hn, hy⟩ | ⟨-, -, hy⟩ | ⟨-, -, ⟨e, v, he, hy⟩ | ⟨reply, v, -, hy⟩⟩ <;>
    rw [hy] at hx <;> cases hx
  · exact hp hn
  · exact h.cancelled _ s
  · exact h.answered c e s t (congrArg Prod.fst he) (by rw [he])

theorem HaltsAt.launch (h : r.HaltsAt .create E) (spec : Cluster.Spec) :
    Halts (r.launch spec) s E := by
  refine ⟨fun _ _ _ => trivial, fun e t hx => ?_⟩
  rw [exec_launch] at hx
  split_ifs at hx
  · cases hx
    exact h.cancelled _ s
  · rcases he : r.perform (.createCluster spec) s with ⟨e | i, v⟩ <;> rw [he] at hx <;> cases hx
    exact h.answered _ e s t (congrArg Prod.fst he) (by rw [he])

theorem HaltsAt.fetchCluster (h : r.HaltsAt stage E) : Halts (r.fetchCluster stage id) s E := by
  refine ⟨fun _ _ _ => trivial, fun e t hx => ?_⟩
  rw [exec_fetchCluster] at hx
  split_ifs at hx
  · cases hx
    exact h.cancelled _ s
  · cases he : (r.perform (.getCluster id) s).1 <;> rw [he] at hx <;> cases hx
    exact h.answered _ _ s _ he (by simp)

theorem HaltsAt.fetchLibraries (h : r.HaltsAt stage E) :
    Halts (r.fetchLibraries stage id) s E := by
  refine ⟨fun _ _ _ => trivial, fun e t hx => ?_⟩
  rw [exec_fetchLibraries] at hx
  split_ifs at hx
  · cases hx
    exact h.cancelled _ s
  · cases he : (r.perform (.libraryStatuses id) s).1 <;> rw [he] at hx <;> cases hx
    exact h.answered _ _ s _ he (by simp)

/-- A wait halts on a judgement, or it is stopped without a rejection. -/
theorem HaltsAt.await (h : r.HaltsAt stage E) {γ : Type}
    {w : Watch (Session σ) γ α ReconcileError} (hk : w.Keeps r.clock fun _ => True)
    (hw : ∀ u e t, w.look u = (.error e, t) → E (.failed ⟨stage, e⟩) t) :
    Halts (r.await stage w) s E := by
  refine halts_await stage hk trivial (fun u e t _ => hw u e t) (fun e t _ he => ?_)
    fun t _ => h.unfinished t
  cases e with
  | client c => exact h.lost c t (he c rfl)
  | timeout what elapsed => exact h.timedOut what elapsed t
  | cancelled what => exact h.cancelled what t

theorem HaltsAt.awaitCluster (h : r.HaltsAt stage E) (what : String)
    {judge : Except ClientError Cluster.Info → Except ReconcileError (Check α)}
    (hj : ∀ answer e, judge answer = .error e →
      (∃ c, answer = .error c ∧ e = .ofClient c) ∨ ∃ i p message, e = .clusterFailed i p message) :
    Halts (r.await stage (r.watchCluster id what judge)) s E := by
  refine h.await ?_ fun u e t hl => ?_
  · exact WatchesCluster.keeps ⟨fun _ _ _ => trivial, fun _ _ _ => trivial⟩ what judge
  · have ht : t = r.lookAtCluster id u := (congrArg Prod.snd hl).symm
    rcases hj _ _ (congrArg Prod.fst hl) with ⟨c, ha, rfl⟩ | ⟨i, p, message, rfl⟩
    · exact h.answered _ c u t ha (by simp [ht])
    · exact h.clusterFailed i p message t

theorem HaltsAt.waitRunning (h : r.HaltsAt stage E) : Halts (r.waitRunning stage id) s E :=
  h.awaitCluster _ fun _ _ => judgeRunning_eq_error

theorem HaltsAt.waitStable (h : r.HaltsAt stage E) : Halts (r.waitStable stage id) s E :=
  h.awaitCluster _ fun _ _ he => .inl (judgeStable_eq_error he)

theorem HaltsAt.waitTerminated (h : r.HaltsAt .delete E) : Halts (r.waitTerminated id) s E :=
  h.awaitCluster _ fun _ _ he => .inl (judgeTerminated_eq_error he)

theorem HaltsAt.awaitLibraries (h : r.HaltsAt stage E)
    (desired submitted removing : List Library) :
    Halts (r.await stage (r.watchLibraries id desired submitted removing)) s E := by
  refine h.await ?_ fun u e t hl => ?_
  · exact WatchesLibraries.keeps ⟨fun _ _ _ => trivial, fun _ _ _ => trivial⟩ _ _ _
  · have ht : t = r.lookAtLibraries id u := (congrArg Prod.snd hl).symm
    obtain ⟨c, ha, rfl⟩ := judgeLibraries_eq_error (congrArg Prod.fst hl)
    exact h.answered _ c u t ha (by simp [ht])

theorem HaltsAt.endRound {d : LibraryDiff} (h : r.HaltsAt d.stage E) (desired : List Library)
    (p : Progress) : Halts (r.endRound id desired p d) s E :=
  (h.awaitLibraries desired d.install p.removing).bind fun _ _ _ => halts_pure _

theorem HaltsAt.changeAndWait (h : r.HaltsAt stage E) {action : Action} (c : Call)
    (hp : s.phase.permits action = false →
      E (.failed ⟨stage, .invalidPhase c.id s.phase action⟩) s) :
    Halts (do
      r.mutate action stage c
      let _ ← r.waitRunning stage id) s E :=
  (h.mutate c hp).bind fun _ _ _ => h.waitRunning.bind fun _ _ _ => halts_pure ()

theorem HaltsAt.readStable (h : r.HaltsAt .read E) : Halts (r.readStable id) s E := by
  refine h.fetchCluster.bind fun info t _ => ?_
  split_ifs
  · exact h.waitStable
  · exact halts_pure info

theorem HaltsAt.readSettled (h : r.HaltsAt .delete E) : Halts (r.readSettled id) s E := by
  refine h.fetchCluster.bind fun info t _ => ?_
  split_ifs
  · exact h.waitStable
  · exact halts_pure info

theorem HaltsAt.currentLibraries (h : r.HaltsAt .libraryInstall E) (o : List LibraryStatus) :
    Halts (r.currentLibraries id o) s E := by
  refine Ensures.bind ensures_get fun _ _ _ _ => ?_
  split_ifs
  · exact halts_pure o
  · exact h.fetchLibraries

section Rounds
variable {desired : List Library}

/-- A round halts as its submission or its wait does, or it gives up on libraries. -/
theorem libraryRound_halts {p : Progress}
    (gaveUp : ∀ failed, verdict desired p (p.diff desired) = .gaveUp failed →
      E (.failed ⟨.libraryInstall, .partialConvergence failed⟩) s)
    (submitted : Halts (r.submit id p (p.diff desired)) s E)
    (waits : ∀ d : LibraryDiff, r.HaltsAt d.stage E) :
    Halts (r.libraryRound id desired p) s E := by
  have hbegin : Halts (r.beginRound id desired p) s E := by
    simp only [beginRound]
    cases hv : verdict desired p (p.diff desired) with
    | converged => exact halts_pure none
    | gaveUp failed => exact ensures_fail (gaveUp failed hv)
    | goOn => exact submitted.bind fun _ _ _ => halts_pure _
  refine hbegin.bind fun x t _ => ?_
  rcases x with _ | ⟨q, d⟩
  · exact halts_pure none
  · exact ((waits d).endRound desired q).bind fun _ _ _ => halts_pure _

/-- What every round finds and leaves behind holds up to the end of the rounds. -/
theorem convergeLibraries_ensures {I : Progress → Session σ → Prop} {Q : Session σ → Prop}
    {observed : List LibraryStatus}
    (round : ∀ p s, I p s → Ensures (r.libraryRound id desired p) s
      (fun x t => (x = none → Q t) ∧ ∀ q ∈ x, I q t) E)
    (unfinished : ∀ p s, I p s → E .unfinished s)
    (hI : I ⟨observed, .ofBudget r.options.attemptBudget, []⟩ s) :
    Ensures (r.convergeLibraries id desired observed) s (fun _ t => Q t) E := by
  have hrounds : ∀ fuel p s, I p s →
      Ensures (r.libraryRounds id desired fuel p) s (fun _ t => Q t) E := by
    intro fuel
    induction fuel with
    | zero => exact fun p s hp => ensures_throw (unfinished p s hp)
    | succ fuel ih =>
      intro p s hp
      refine (round p s hp).bind fun x t _ hx => ?_
      cases x with
      | none => exact ensures_pure (hx.1 rfl)
      | some q => exact ih q t (hx.2 q rfl)
  exact hrounds _ _ _ hI

end Rounds

end HaltsAt

/-- At every stage a call or a wait that halts is explained. -/
theorem haltsAt_explained (r : Reconciler σ) (stage : Stage) : r.HaltsAt stage Halt.Explained where
  cancelled _ _ := trivial
  answered _ _ _ _ := r.explained_of_perform
  lost _ _ := Halt.explained_ofTransient
  timedOut _ _ _ := trivial
  clusterFailed _ _ _ _ := trivial
  unfinished _ := trivial

/-- A change that the phase permits is not refused. -/
theorem explained_mutate {action : Action} (stage : Stage) (c : Call)
    (hp : s.phase.permits action = true) : Halts (r.mutate action stage c) s Halt.Explained :=
  (r.haltsAt_explained stage).mutate c fun hn => absurd hn (by simp [hp])

theorem explained_validate {desired : Desired} : Halts (validate desired) s Halt.Explained := by
  unfold validate
  cases desired.validate with
  | ok u => exact halts_pure ()
  | error e => exact ensures_fail trivial

section Libraries
variable {desired : List Library}

/-- While libraries are changed the phase stays as it was noted. -/
theorem phase_of_madeOf {m : Run σ α} {a : α} (hm : MadeOf r (·.OfLibraries id) m)
    (h : exec m s = (.ok a, t)) : t.phase = s.phase := by
  have hc := ((hm.endsIn s).ok a t h).cluster_eq (fun _ h => h) fun _ h => h
  rw [Session.phase, hc, Session.phase]

theorem explained_submit (p : Progress) (d : LibraryDiff) (hs : s.phase = .running) :
    Halts (r.submit id p d) s Halt.Explained := by
  have hremove : Halts (r.submitRemovals id p d) s Halt.Explained := by
    unfold submitRemovals
    split_ifs
    · exact halts_pure p
    · exact (explained_mutate _ _ (by rw [hs]; rfl)).bind fun _ _ _ => halts_pure _
  refine hremove.bind fun q t hx => ?_
  have ht := (phase_of_madeOf (r.madeOf.submitRemovals id (fun _ h => h) p d) hx).trans hs
  unfold submitInstalls
  split_ifs
  · exact halts_pure q
  · exact (explained_mutate _ _ (by rw [ht]; rfl)).bind fun _ _ _ => halts_pure _

theorem explained_libraryRound (p : Progress) (hs : s.phase = .running) :
    Halts (r.libraryRound id desired p) s Halt.Explained :=
  libraryRound_halts (fun _ _ => trivial) (explained_submit p _ hs) fun d =>
    r.haltsAt_explained d.stage

theorem explained_convergeLibraries (observed : List LibraryStatus) (hs : s.phase = .running) :
    Halts (r.convergeLibraries id desired observed) s Halt.Explained := by
  refine convergeLibraries_ensures (I := fun _ t => t.phase = .running) (fun p s hs => ?_)
    (fun _ _ _ => trivial) hs
  refine ⟨fun x t hx => ⟨fun _ => trivial, fun _ _ => ?_⟩, (explained_libraryRound p hs).halted⟩
  exact (phase_of_madeOf (r.madeOf.libraryRound id (fun _ h => h) desired p) hx).trans hs

end Libraries

variable {desired : Desired}

theorem explained_create : Halts (r.create desired) s Halt.Explained := by
  refine explained_validate.bind fun _ s₁ _ => ?_
  refine ((r.haltsAt_explained .create).launch desired.cluster).bind fun id s₂ _ => ?_
  refine (r.haltsAt_explained .create).waitRunning.bind fun info s₃ hx => ?_
  obtain ⟨hc, hp, -⟩ := waitRunning_cluster hx
  split_ifs
  · exact explained_convergeLibraries [] (by rw [Session.phase, hc]; exact hp)
  · exact halts_pure ()

theorem explained_changeAndWait {action : Action} (stage : Stage) (c : Call)
    (hp : s.phase.permits action = true) :
    Halts (do
      r.mutate action stage c
      let _ ← r.waitRunning stage id) s Halt.Explained :=
  (r.haltsAt_explained stage).changeAndWait c fun hn => absurd hn (by simp [hp])

theorem explained_finishLibraries {libraries : List Library} {observed : List LibraryStatus} :
    Halts (r.finishLibraries id libraries observed) s Halt.Explained := by
  refine Ensures.bind ensures_get fun s' t _ hx => ?_
  obtain ⟨rfl, rfl⟩ := hx
  split_ifs with hrun
  · have hcurrent : Halts (r.currentLibraries id observed) s Halt.Explained :=
      (r.haltsAt_explained .libraryInstall).currentLibraries observed
    refine hcurrent.bind fun o t hx => explained_convergeLibraries o ?_
    exact (phase_of_madeOf (r.madeOf.currentLibraries id (fun _ h => h) observed) hx).trans hrun
  · exact halts_pure ()

/-- Once a cluster has been inspected, every change finds it in a phase that permits the change. -/
theorem explained_adjust {o : Observed} (hs : s.phase = o.info.phase)
    (hp : o.info.phase = .running ∨ o.info.phase = .terminated) :
    Halts (r.adjust id desired o) s Halt.Explained := by
  refine Halts.bind ?start fun _ t hx => Halts.bind ?edit fun _ _ _ => explained_finishLibraries
  case start =>
    unfold startFor
    split_ifs with hn
    · rw [Bool.and_eq_true, beq_iff_eq] at hn
      exact explained_changeAndWait .start _ (by rw [hs, hn.2]; rfl)
    · exact halts_pure ()
  case edit =>
    unfold editTo
    split_ifs with hn
    · obtain ⟨-, hstart⟩ := startFor_eq_ok hx
      have hrun : t.phase = .running := by
        rw [hn, Bool.true_or, Bool.true_and] at hstart
        split_ifs at hstart with ht
        · obtain ⟨info, hc, hi⟩ := hstart
          simp [Session.phase, hc, hi]
        · rw [hstart, hs]
          exact hp.resolve_right (by simpa using ht)
      exact explained_changeAndWait .edit _ (by rw [hrun]; rfl)
    · exact halts_pure ()

/-- An inspection is refused if it finds the cluster failed after it has settled. -/
theorem explained_inspect (hs : s.history = []) :
    Halts (r.inspect id) s fun h t => h.Explained t ∨ h.Refused id t := by
  refine ((r.haltsAt_explained .read).readStable.mono fun _ _ => .inl).bind fun info t hx => ?_
  obtain ⟨hc, hn, -⟩ := readStable_eq_ok (by simp [Session.calls, hs, firstSettled]) hx
  refine Halts.bind ?_ fun _ u _ => ?_
  · unfold refuseFailed
    split_ifs with hf
    · have hp : info.phase = .error := Phase.eq_error hn hf
      refine ensures_fail (.inr ⟨by rw [hp], by simp [Session.phase, hc, hp], fun e he => ?_⟩)
      have hlooks := r.madeOf.readStable id (rfl : Call.getCluster id = _)
      obtain ⟨es, hes, hq⟩ := ((hlooks.endsIn s).ok info t hx).grows
      rw [hs, List.append_nil] at hes
      exact (hq e (hes ▸ he)).symm
    · exact halts_pure ()
  · refine Halts.bind ?_ fun _ _ _ => halts_pure _
    exact (r.haltsAt_explained .read).fetchLibraries.mono fun _ _ => .inl

/-- An update that is refused is refused while it inspects its cluster. -/
theorem explained_update (hs : s.history = []) : Halts (r.update id desired) s fun h t =>
    h.Explained t ∨ h.Refused id t ∧ exec (r.inspect id) s = (.error h, t) := by
  have hinspect : Halts (r.inspect id) s fun h t =>
      h.Explained t ∨ h.Refused id t ∧ exec (r.inspect id) s = (.error h, t) :=
    ⟨fun _ _ _ => trivial, fun h t hx =>
      ((explained_inspect hs).halted h t hx).imp_right fun he => ⟨he, hx⟩⟩
  refine (explained_validate.mono fun _ _ => .inl).bind fun _ t hx => ?_
  obtain ⟨-, ht⟩ := validate_eq_ok hx
  rw [ht]
  refine hinspect.bind fun o u hu => ?_
  obtain ⟨hc, -, hp, -⟩ := inspect_eq_ok (by simp [Session.calls, hs, firstSettled]) hu
  exact (explained_adjust (by rw [Session.phase, hc]; rfl) hp).mono fun _ _ => .inl

/-- A cluster that is read for deletion has been noted, and is not about to change by itself. -/
theorem readSettled_eq_ok {info : Cluster.Info} (h : exec (r.readSettled id) s = (.ok info, t)) :
    t.cluster = some info ∧ info.phase.isTransitional = false := by
  obtain ⟨i, u, hu, hrest⟩ := exec_bind_eq_ok.1 h
  obtain ⟨-, ho, rfl⟩ := r.fetchCluster_eq_ok hu
  split_ifs at hrest with hp
  · have hw := r.watchesCluster_steps (rfl : Call.getCluster id = _) (r.lookAtCluster id s)
    obtain ⟨v, -, -, hi, hn, rfl⟩ := waitStable_eq_ok (fun what => hw.keeps what _) .refl hrest
    rw [Phase.isSettling, Bool.or_eq_false_iff] at hn
    exact ⟨r.lookAtCluster_cluster hi, hn.1⟩
  · cases hrest
    exact ⟨r.lookAtCluster_cluster ho, by simpa using hp⟩

theorem bringDown_eq_ok {phase : Phase} (hs : s.phase = phase)
    (h : exec (r.bringDown id phase) s = (.ok true, t)) :
    t.phase = .terminated ∨ t.phase = .error := by
  unfold bringDown at h
  split_ifs at h with hp
  · cases h
    rwa [hs]
  · obtain ⟨_, u, -, hw⟩ := exec_bind_eq_ok.1 h
    obtain ⟨v, -, -, rfl, hi⟩ := waitTerminated_eq_ok
      (r.watchesCluster_steps (rfl : Call.getCluster id = _) u) .refl hw
    obtain ⟨info, ho, hend⟩ := hi rfl
    rwa [Session.phase, r.lookAtCluster_cluster ho]

theorem explained_terminate : Halts (r.terminate id) s Halt.Explained := by
  refine (r.haltsAt_explained .delete).readSettled.bind fun info t hx => ?_
  obtain ⟨hc, hn⟩ := readSettled_eq_ok hx
  have ht : t.phase = info.phase := by rw [Session.phase, hc]; rfl
  refine Halts.bind ?_ fun there u hu => ?_
  · unfold bringDown
    split_ifs with hp
    · exact halts_pure true
    · have hwait : ∀ t, Halts (r.waitTerminated id) t Halt.Explained := fun t =>
        (r.haltsAt_explained .delete).waitTerminated
      refine (explained_mutate .delete _ ?_).bind fun _ t _ => hwait t
      rw [ht]
      cases hi : info.phase <;> simp_all [Phase.isTransitional, Phase.permits, Phase.legalActions]
  · cases there with
    | false => exact halts_pure ()
    | true =>
      refine explained_mutate .delete _ ?_
      rcases bringDown_eq_ok ht hu with hp | hp <;> rw [hp] <;> rfl

theorem explained_purge : Halts (r.purge id) s Halt.Explained := by
  refine explained_terminate.tryCatch fun h t he => ?_
  split_ifs
  · exact halts_pure ()
  · exact ensures_throw he

end Reconciler
end ClusterReconciliation
