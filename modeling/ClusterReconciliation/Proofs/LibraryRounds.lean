import ClusterReconciliation.Proofs.Differences
import ClusterReconciliation.Proofs.Steps

/-! The rounds that bring libraries to the desired ones, whatever a control plane answers. Each
round ends the run or leads over a wait to the next one. -/
namespace ClusterReconciliation
open Run
variable {σ : Type}

namespace Call

def isInstall : Call → Bool
  | installLibraries _ _ => true
  | _ => false

def isUninstall : Call → Bool
  | uninstallLibraries _ _ => true
  | _ => false

def submits (l : Library) : Call → Bool
  | installLibraries _ ls => ls.contains l
  | _ => false

end Call

def installs (es : List (Event σ)) : Nat := es.countP (·.call.isInstall)

def uninstalls (es : List (Event σ)) : Nat := es.countP (·.call.isUninstall)

/-- How often a library has been submitted. -/
def submissions (es : List (Event σ)) (l : Library) : Nat := es.countP (·.call.submits l)

theorem submissions_le_installs (es : List (Event σ)) (l : Library) :
    submissions es l ≤ installs es := by
  refine List.countP_mono_left fun e _ he => ?_
  rcases e with ⟨w, c, a⟩
  cases c <;> first | rfl | cases he

def reports (es : List (Event σ)) : List (List LibraryStatus) := es.filterMap Event.report

/-- The events by which one history goes beyond another, the last one first. -/
def Session.since (s t : Session σ) : List (Event σ) :=
  t.history.take (t.history.length - s.history.length)

theorem Session.since_eq {s t : Session σ} {es : List (Event σ)}
    (h : t.history = es ++ s.history) : s.since t = es := by simp [since, h]

/-- Calls of another kind do not count. -/
theorem Session.Grows.countP_eq {s t : Session σ} {P : Event σ → Prop} (h : s.Grows P t)
    {p : Call → Bool} (hP : ∀ e, P e → p e.call = false) :
    t.history.countP (p ·.call) = s.history.countP (p ·.call) := by
  obtain ⟨es, hes, hp⟩ := h
  have hz : es.countP (p ·.call) = 0 :=
    List.countP_eq_zero.2 fun e he => by simp [hP e (hp e he)]
  rw [hes, List.countP_append, hz, Nat.zero_add]

theorem Session.Grows.submissions_eq {s t : Session σ} {P : Event σ → Prop} (h : s.Grows P t)
    {l : Library} (hP : ∀ e, P e → e.call.submits l = false) :
    submissions t.history l = submissions s.history l := h.countP_eq hP

@[simp] theorem installs_append (es fs : List (Event σ)) :
    installs (es ++ fs) = installs es + installs fs := List.countP_append

@[simp] theorem uninstalls_append (es fs : List (Event σ)) :
    uninstalls (es ++ fs) = uninstalls es + uninstalls fs := List.countP_append

@[simp] theorem reports_append (es fs : List (Event σ)) :
    reports (es ++ fs) = reports es ++ reports fs := List.filterMap_append

/-- A wait that starts: where its round began, what was asked for in it, and the session then. -/
structure LibraryWait (σ : Type) where
  begun : Session σ
  progress : Progress
  diff : LibraryDiff
  session : Session σ

theorem exhaustedStatus_library (observed : List LibraryStatus) (l : Library) :
    (exhaustedStatus observed l).library = l := by
  unfold exhaustedStatus
  cases h : observed.find? (·.library == l) with
  | none => rfl
  | some s => simpa using List.find?_some h

/-- What has been asked for belongs to the progress from then on. -/
def Progress.after (p : Progress) (d : LibraryDiff) : Progress :=
  { p with removing := p.removing ++ d.uninstall, attempts := p.attempts.record d.install }

namespace Reconciler
variable (r : Reconciler σ) {id : String} {desired : List Library} {p : Progress} {d : LibraryDiff}
  {s t : Session σ}

/-- The events of a change by which libraries are submitted or removed. -/
theorem exec_mutate_events (action : Action) (stage : Stage) (c : Call) (s : Session σ)
    (hc : ∀ i, c ≠ .libraryStatuses i) :
    ∃ es, (exec (r.mutate action stage c) s).2.history = es ++ s.history ∧ reports es = [] ∧
      installs es ≤ c.isInstall.toNat ∧ uninstalls es ≤ c.isUninstall.toNat ∧
      ∀ u t, exec (r.mutate action stage c) s = (.ok u, t) →
        installs es = c.isInstall.toNat ∧ uninstalls es = c.isUninstall.toNat := by
  have hr : Event.report ⟨s.world, c, (r.perform c s).1⟩ = none := by
    cases c <;> first | rfl | exact absurd rfl (hc _)
  rcases r.exec_mutate_history action stage c s with hh | hh
  · refine ⟨[], by simpa using hh, rfl, by simp [installs], by simp [uninstalls], ?_⟩
    intro u t hx
    obtain ⟨-, -, -, rfl⟩ := r.mutate_eq_ok hx
    simp [hx] at hh
  · refine ⟨[⟨s.world, c, (r.perform c s).1⟩], by simpa using hh, by simp [reports, hr], ?_⟩
    cases hi : c.isInstall <;> cases hu : c.isUninstall <;>
      simp [installs, uninstalls, hi, hu]

/-- A change that is left out where there is nothing to change. -/
theorem exec_mutate_unless_events (skip : Bool) (action : Action) (stage : Stage) (c : Call)
    (p q : Progress) (s : Session σ) (hc : ∀ i, c ≠ .libraryStatuses i) {m : Run σ Progress}
    (hm : m = if skip then return p else do
      r.mutate action stage c
      return q) :
    ∃ es, (exec m s).2.history = es ++ s.history ∧ reports es = [] ∧
      installs es ≤ (!skip && c.isInstall).toNat ∧
      uninstalls es ≤ (!skip && c.isUninstall).toNat ∧
      ∀ p' t, exec m s = (.ok p', t) → p' = (if skip then p else q) ∧
        installs es = (!skip && c.isInstall).toNat ∧
        uninstalls es = (!skip && c.isUninstall).toNat := by
  subst hm
  cases skip with
  | true =>
    refine ⟨[], rfl, rfl, by simp [installs], by simp [uninstalls], fun p' t h => ?_⟩
    simp only [if_true, exec_pure, Prod.mk.injEq, Except.ok.injEq] at h
    simp [← h.1, installs, uninstalls]
  | false =>
    obtain ⟨es, hh, hr, hi, hu, hok⟩ := r.exec_mutate_events action stage c s hc
    simp only [Bool.false_eq_true, if_false, exec_bind]
    rcases hm : exec (r.mutate action stage c) s with ⟨h | u, t⟩ <;> rw [hm] at hh hok
    · exact ⟨es, hh, hr, by simpa using hi, by simpa using hu, by simp⟩
    · refine ⟨es, hh, hr, by simpa using hi, by simpa using hu, fun p' t' h => ?_⟩
      simp only [exec_pure, Prod.mk.injEq, Except.ok.injEq] at h
      exact ⟨h.1.symm, by simpa using hok u t rfl⟩

/-- The calls of a round: at most one of each kind, and both are recorded if they succeed. -/
theorem exec_submit_events (id : String) (p : Progress) (d : LibraryDiff) (s : Session σ) :
    ∃ es, (exec (r.submit id p d) s).2.history = es ++ s.history ∧ reports es = [] ∧
      installs es ≤ (!d.install.isEmpty).toNat ∧ uninstalls es ≤ (!d.uninstall.isEmpty).toNat ∧
      ∀ p' t, exec (r.submit id p d) s = (.ok p', t) → p' = p.after d ∧
        installs es = (!d.install.isEmpty).toNat ∧
        uninstalls es = (!d.uninstall.isEmpty).toNat := by
  obtain ⟨es, hh, hr, hi, hu, hok⟩ := r.exec_mutate_unless_events d.uninstall.isEmpty _ _
    (.uninstallLibraries id d.uninstall) p _ s (by simp) (m := r.submitRemovals id p d) rfl
  have hp : (if d.uninstall.isEmpty then p else { p with removing := p.removing ++ d.uninstall }) =
      { p with removing := p.removing ++ d.uninstall } := by
    split_ifs with hd <;> simp_all
  rw [hp] at hok
  simp only [Call.isInstall, Call.isUninstall, Bool.and_true, Bool.and_false, Bool.toNat_false,
    Nat.le_zero] at hi hu hok
  unfold submit
  rw [exec_bind]
  rcases hx : exec (r.submitRemovals id p d) s with ⟨h | p', t⟩ <;> rw [hx] at hh hok
  · exact ⟨es, hh, hr, by omega, hu, by simp⟩
  obtain ⟨rfl, -, hu'⟩ := hok p' t rfl
  obtain ⟨fs, hf, hr', hi', hu'', hok'⟩ := r.exec_mutate_unless_events d.install.isEmpty _ _
    (.installLibraries id d.install) { p with removing := p.removing ++ d.uninstall } _ t
    (by simp) (m := r.submitInstalls id _ d) rfl
  simp only [Call.isInstall, Call.isUninstall, Bool.and_true, Bool.and_false, Bool.toNat_false,
    Nat.le_zero] at hi' hu'' hok'
  refine ⟨fs ++ es, by rw [hf, hh, List.append_assoc], by simp [hr, hr'], by simp; omega,
    by simp; omega, fun q u hq => ?_⟩
  obtain ⟨rfl, hi'', -⟩ := hok' q u hq
  refine ⟨?_, by simp; omega, by simp; omega⟩
  split_ifs with hd
  · simp [Progress.after, List.isEmpty_iff.1 hd, InstallAttempts.record]
  · rfl

theorem exec_beginRound (id : String) (desired : List Library) (p : Progress) (s : Session σ) :
    exec (r.beginRound id desired p) s =
      match verdict desired p (p.diff desired) with
      | .converged => (.ok none, s)
      | .gaveUp failed => (.error (.failed ⟨.libraryInstall, .partialConvergence failed⟩), s)
      | .goOn =>
        match exec (r.submit id p (p.diff desired)) s with
        | (.ok p', t) => (.ok (some (p', p.diff desired)), t)
        | (.error h, t) => (.error h, t) := by
  cases hv : verdict desired p (p.diff desired) <;> simp only [beginRound, hv, exec_bind]
  · rfl
  · rfl
  · rcases exec (r.submit id p (p.diff desired)) s with ⟨h | p', t⟩ <;> rfl

/-- A round that comes to its wait has something to do, and has done it. -/
theorem beginRound_eq_some {x : Progress × LibraryDiff}
    (h : exec (r.beginRound id desired p) s = (.ok (some x), t)) :
    verdict desired p (p.diff desired) = .goOn ∧ x.2 = p.diff desired ∧
      exec (r.submit id p (p.diff desired)) s = (.ok x.1, t) := by
  rw [exec_beginRound] at h
  cases hv : verdict desired p (p.diff desired) with
  | converged => simp [hv] at h
  | gaveUp failed => simp [hv] at h
  | goOn =>
    rw [hv] at h
    rcases hs : exec (r.submit id p (p.diff desired)) s with ⟨e | p', u⟩ <;> simp [hs] at h
    obtain ⟨rfl, rfl⟩ := h
    exact ⟨rfl, rfl, rfl⟩

theorem exec_endRound (id : String) (desired : List Library) (p : Progress) (d : LibraryDiff)
    (s : Session σ) :
    exec (r.endRound id desired p d) s =
      match exec (r.await d.stage (r.watchLibraries id desired d.install p.removing)) s with
      | (.ok observed, t) => (.ok { p with observed := observed }, t)
      | (.error h, t) => (.error h, t) := by
  rw [endRound, exec_bind]
  rcases exec (r.await d.stage (r.watchLibraries id desired d.install p.removing)) s
    with ⟨h | observed, t⟩ <;> rfl

theorem decides_submit (id : String) (p : Progress) (d : LibraryDiff) :
    Decides (r.submit id p d) := by
  refine Decides.bind ?_ fun q => ?_
  · unfold submitRemovals
    split
    · exact decides_pure p
    · exact (r.decides_mutate _ _ _).bind fun _ => decides_pure _
  · unfold submitInstalls
    split
    · exact decides_pure q
    · exact (r.decides_mutate _ _ _).bind fun _ => decides_pure _

theorem decides_beginRound (id : String) (desired : List Library) (p : Progress) :
    Decides (r.beginRound id desired p) := by
  intro s
  have hs := r.decides_submit id p (p.diff desired) s
  rw [exec_beginRound]
  cases verdict desired p (p.diff desired)
  · simp
  · simp
  · rcases hx : exec (r.submit id p (p.diff desired)) s with ⟨h | p', t⟩
    · simpa [hx] using hs
    · simp

/-- A round up to its wait asks only for its difference, and for all of it if it comes to the wait. -/
theorem exec_beginRound_events (id : String) (desired : List Library) (p : Progress)
    (s : Session σ) :
    ∃ es, (exec (r.beginRound id desired p) s).2.history = es ++ s.history ∧ reports es = [] ∧
      installs es ≤ (!(p.diff desired).install.isEmpty).toNat ∧
      uninstalls es ≤ (!(p.diff desired).uninstall.isEmpty).toNat ∧
      ∀ p' d t, exec (r.beginRound id desired p) s = (.ok (some (p', d)), t) →
        verdict desired p (p.diff desired) = .goOn ∧ d = p.diff desired ∧ p' = p.after d ∧
          installs es = (!d.install.isEmpty).toNat ∧
          uninstalls es = (!d.uninstall.isEmpty).toNat := by
  obtain ⟨es, hh, hr, hi, hu, hok⟩ := r.exec_submit_events id p (p.diff desired) s
  have hb := r.exec_beginRound id desired p s
  cases hv : verdict desired p (p.diff desired) with
  | converged => exact ⟨[], by simp [hb, hv], rfl, by simp [installs], by simp [uninstalls],
      by simp [hb, hv]⟩
  | gaveUp failed => exact ⟨[], by simp [hb, hv], rfl, by simp [installs], by simp [uninstalls],
      by simp [hb, hv]⟩
  | goOn =>
    rcases hs : exec (r.submit id p (p.diff desired)) s with ⟨e | q, u⟩ <;>
      rw [hs] at hh hok <;> simp only [hv, hs] at hb <;> rw [hb]
    · exact ⟨es, hh, hr, hi, hu, by simp⟩
    · refine ⟨es, hh, hr, hi, hu, fun p' d t hx => ?_⟩
      simp only [Prod.mk.injEq, Except.ok.injEq, Option.some.injEq] at hx
      obtain ⟨⟨rfl, rfl⟩, rfl⟩ := hx
      exact ⟨rfl, rfl, hok _ _ rfl⟩

/-- The wait of a round asks for no change, and goes by the report with which it ends. -/
theorem exec_endRound_events (id : String) (desired : List Library) (p : Progress)
    (d : LibraryDiff) (s : Session σ) :
    ∃ es, (exec (r.endRound id desired p d) s).2.history = es ++ s.history ∧
      installs es = 0 ∧ uninstalls es = 0 ∧
      ∀ p' t, exec (r.endRound id desired p d) s = (.ok p', t) →
        ∃ o ∈ reports es, isSettled desired d.install p.removing o = true ∧
          p' = { p with observed := o } := by
  have hg := (r.madeOf_awaitLibraries d.stage desired d.install p.removing
    (rfl : Call.libraryStatuses id = _) s).grows
  have he := r.exec_endRound id desired p d s
  have hquiet : ∀ es : List (Event σ), (∀ e ∈ es, .libraryStatuses id = e.call) →
      installs es = 0 ∧ uninstalls es = 0 := fun es hes =>
    ⟨List.countP_eq_zero.2 fun e hm => by simp [← hes e hm, Call.isInstall],
      List.countP_eq_zero.2 fun e hm => by simp [← hes e hm, Call.isUninstall]⟩
  rcases hx : exec (r.await d.stage (r.watchLibraries id desired d.install p.removing)) s
    with ⟨h | o, t⟩ <;> rw [hx] at hg he <;> rw [he]
  · obtain ⟨es, hh, hes⟩ := hg
    exact ⟨es, hh, (hquiet es hes).1, (hquiet es hes).2, by simp⟩
  · obtain ⟨u, hu, -, ho, hs, rfl⟩ := awaitLibraries_eq_ok
      (r.watchesLibraries_steps (rfl : Call.libraryStatuses id = _) s) .refl hx
    obtain ⟨es, hh, hes⟩ := hu.grows
    have hq := hquiet (⟨u.world, .libraryStatuses id, .ok o⟩ :: es) (by simpa using hes)
    refine ⟨⟨u.world, .libraryStatuses id, .ok o⟩ :: es, ?_, hq.1, hq.2, fun p' t hp => ?_⟩
    · simp [lookAtLibraries_history, ho, hh]
    · simp only [Prod.mk.injEq, Except.ok.injEq] at hp
      exact ⟨o, by simp [reports, Event.report], hs, hp.1.symm⟩

/-- The waits that the rounds start, in order. -/
def libraryWaits (id : String) (desired : List Library) :
    Nat → Progress → Session σ → List (LibraryWait σ)
  | 0, _, _ => []
  | fuel + 1, p, s =>
    match exec (r.beginRound id desired p) s with
    | (.ok (some (p', d)), t) =>
      ⟨s, p', d, t⟩ ::
        match exec (r.endRound id desired p' d) t with
        | (.ok p'', u) => libraryWaits id desired fuel p'' u
        | (.error _, _) => []
    | _ => []

theorem exec_libraryRounds_succ (id : String) (desired : List Library) (fuel : Nat)
    (p : Progress) (s : Session σ) :
    exec (r.libraryRounds id desired (fuel + 1) p) s =
      match exec (r.beginRound id desired p) s with
      | (.ok none, t) => (.ok (), t)
      | (.ok (some (p', d)), t) =>
        (match exec (r.endRound id desired p' d) t with
        | (.ok p'', u) => exec (r.libraryRounds id desired fuel p'') u
        | (.error h, u) => (.error h, u))
      | (.error h, t) => (.error h, t) := by
  simp only [libraryRounds, libraryRound, exec_bind]
  rcases exec (r.beginRound id desired p) s with ⟨h | _ | ⟨p', d⟩, t⟩
  · rfl
  · rfl
  · simp only [exec_bind]
    rcases exec (r.endRound id desired p' d) t with ⟨h | p'', u⟩ <;> rfl

end Reconciler

/-- How the rounds from a progress go on, with their end and the waits that they start. -/
inductive Rounds (r : Reconciler σ) (id : String) (desired : List Library) :
    Nat → Progress → Session σ → Except Halt Unit × Session σ →
      List (LibraryWait σ) → Prop
  | spent (p : Progress) (s : Session σ) : Rounds r id desired 0 p s (.error .unfinished, s) []
  | converged (fuel : Nat) {p : Progress} {s t : Session σ}
    (hb : exec (r.beginRound id desired p) s = (.ok none, t)) :
    Rounds r id desired (fuel + 1) p s (.ok (), t) []
  | refused (fuel : Nat) {p : Progress} {s t : Session σ} {h : Halt}
    (hb : exec (r.beginRound id desired p) s = (.error h, t)) :
    Rounds r id desired (fuel + 1) p s (.error h, t) []
  | halted (fuel : Nat) {p p' : Progress} {d : LibraryDiff} {s t u : Session σ} {h : Halt}
    (hb : exec (r.beginRound id desired p) s = (.ok (some (p', d)), t))
    (he : exec (r.endRound id desired p' d) t = (.error h, u)) :
    Rounds r id desired (fuel + 1) p s (.error h, u) [⟨s, p', d, t⟩]
  | next {fuel : Nat} {p p' q : Progress} {d : LibraryDiff} {s t u : Session σ}
    {x : Except Halt Unit × Session σ} {ws : List (LibraryWait σ)}
    (hb : exec (r.beginRound id desired p) s = (.ok (some (p', d)), t))
    (he : exec (r.endRound id desired p' d) t = (.ok q, u)) (hr : Rounds r id desired fuel q u x ws) :
    Rounds r id desired (fuel + 1) p s x (⟨s, p', d, t⟩ :: ws)

namespace Reconciler

theorem rounds_libraryRounds (r : Reconciler σ) (id : String) (desired : List Library)
    (fuel : Nat) (p : Progress) (s : Session σ) :
    Rounds r id desired fuel p s (exec (r.libraryRounds id desired fuel p) s)
      (r.libraryWaits id desired fuel p s) := by
  induction fuel generalizing p s with
  | zero => exact .spent p s
  | succ fuel ih =>
    rw [exec_libraryRounds_succ, libraryWaits]
    rcases hb : exec (r.beginRound id desired p) s with ⟨h | _ | ⟨p', d⟩, t⟩
    · exact .refused fuel hb
    · exact .converged fuel hb
    · rcases he : exec (r.endRound id desired p' d) t with ⟨h | q, u⟩
      · simpa only [he] using .halted fuel hb he
      · simpa only [he] using .next hb he (ih q u)

end Reconciler
end ClusterReconciliation
