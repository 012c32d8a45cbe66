import ClusterReconciliation.Proofs.Endings

/-! Rest and success of libraries. Rest is told from the first entry for a library in a report, what
is left to submit from the last one, and success from any. Where the entries agree, libraries at rest
with nothing left to ask for are as desired. Where they disagree the rounds may go on at once and for
ever. Libraries that are as desired are at rest, but for those that came to be attached to all clusters
after their removal was asked for. -/
namespace ClusterReconciliation
open Run
variable {σ : Type}

section Reports
variable {desired submitted removing : List Library} {observed : List LibraryStatus}
  {attempts : InstallAttempts}

/-- A library that is neither submitted nor given up is not wanting. -/
theorem isWanting_of_asked (hi : (diffLibraries desired observed attempts).install = [])
    (he : (diffLibraries desired observed attempts).exhausted = []) :
    ∀ l ∈ desired, isWanting observed l = false := by
  intro l hl
  by_contra hw
  rw [Bool.not_eq_false] at hw
  cases ha : attempts.allows l with
  | true => simpa [hi] using mem_install.2 ⟨hl, hw, ha⟩
  | false => simpa [he] using mem_exhausted.2 ⟨hl, hw, ha⟩

/-- Libraries that are as desired are at rest, but for those whose removal was asked for and that are
attached to all clusters now. -/
theorem isSettled_iff_of_isConverged (once : ReportedOnce observed) (hsub : submitted ⊆ desired)
    (hdis : ∀ l ∈ removing, l ∉ desired) (hc : isConverged desired observed = true) :
    isSettled desired submitted removing observed = true ↔
      ∀ s ∈ observed, s.library ∈ removing → s.forAllClusters = true →
        s.status = .uninstallOnRestart := by
  obtain ⟨hall, hleft⟩ := isConverged_iff.1 hc
  have hinstalled : ∀ l ∈ desired, firstStatus observed l = some .installed := by
    intro l hl
    obtain ⟨s, hs, rfl, hst⟩ := hall l hl
    rw [once.firstStatus_eq hs, hst]
  rw [isSettled_iff]
  constructor
  · rintro ⟨-, -, hremoved⟩ s hs hm -
    exact hremoved _ hm _ (once.firstStatus_eq hs)
  · intro hwide
    refine ⟨fun l hl => ⟨_, hinstalled l (hsub hl), rfl⟩, fun l hl status hst => ?_,
      fun l hl status hst => ?_⟩
    · rw [hinstalled l hl] at hst
      cases hst
      rfl
    · obtain ⟨s, hs, rfl, rfl⟩ := exists_of_firstStatus hst
      cases hw : s.forAllClusters with
      | true => exact hwide s hs hl hw
      | false =>
        by_contra hne
        have hrem := isRemovable_eq_true.2 ⟨hdis _ hl, hw, hne⟩
        rw [hleft s hs] at hrem
        cases hrem

end Reports

namespace Watch
variable {τ β α ε : Type} {w : Watch τ β α ε} {clock : Clock τ} {s t : τ} {b : β} {v : α}

/-- A wait whose first look is decisive ends with it. -/
theorem run_of_look (hc : clock.isCancelled s = false) (hf : (w.fetch s).1 = .ok b)
    (hl : w.look s = (.ok (.done v), t)) (config : PollConfig) (fuel : Nat) :
    w.run clock config (fuel + 1) s = (.done v, t) := by
  have hw : w.weigh config.maxTransientErrors 0 (w.fetch s).1 (w.fetch s).2 =
      w.judge (w.fetch s).1 (w.fetch s).2 := by rw [hf]; rfl
  rw [judge_eq, hl] at hw
  simp only [run, loop, step, hc, Bool.false_eq_true, if_false, hw]

end Watch

namespace Reconciler
variable (r : Reconciler σ)

/-- In these states of a world nobody cancels, and every report is the same. -/
def Repeats (id : String) (observed : List LibraryStatus) (I : σ → Prop) : Prop :=
  ∀ w, I w → r.world.isCancelled w = false ∧
    (r.world.answer (.libraryStatuses id) w).1 = .ok observed ∧
    I (r.world.answer (.libraryStatuses id) w).2

section Rounds
variable {r} {id : String} {desired submitted removing : List Library}
  {observed : List LibraryStatus} {I : σ → Prop} {p : Progress} {s t : Session σ}

/-- A round that finds nothing to ask for, and no end either, comes to its wait as it began. -/
theorem exec_beginRound_idle (hd : (p.diff desired).isEmpty = true)
    (hx : (p.diff desired).exhausted = []) (hn : isConverged desired p.observed = false)
    (s : Session σ) :
    exec (r.beginRound id desired p) s = (.ok (some (p, p.diff desired)), s) := by
  have hv : verdict desired p (p.diff desired) = .goOn := by simp [verdict, hd, hn, hx]
  obtain ⟨hi, hu⟩ := LibraryDiff.isEmpty_iff.1 hd
  have hsubmit : exec (r.submit id p (p.diff desired)) s = (.ok p, s) := by
    simp [submit, submitRemovals, submitInstalls, hi, hu]
  rw [exec_beginRound, hv, hsubmit]

/-- The wait of a round ends at once where the libraries are at rest already. -/
theorem exec_endRound_settled (hfuel : 0 < r.fuel) (hr : r.Repeats id observed I) (hs : I s.world)
    {d : LibraryDiff} (hset : isSettled desired d.install p.removing observed = true) :
    exec (r.endRound id desired p d) s =
      (.ok { p with observed := observed }, r.lookAtLibraries id s) := by
  obtain ⟨hc, ho, -⟩ := hr s.world hs
  have hl : (r.watchLibraries id desired d.install p.removing).look s =
      (.ok (.done observed), r.lookAtLibraries id s) := by
    have hj : judgeLibraries desired d.install p.removing (r.perform (.libraryStatuses id) s).1 =
        .ok (.done observed) := by
      rw [show (r.perform (.libraryStatuses id) s).1 = .ok observed from ho, judgeLibraries,
        if_pos hset]
    exact Prod.ext hj rfl
  obtain ⟨fuel, hf⟩ := Nat.exists_eq_succ_of_ne_zero hfuel.ne'
  have hrun := Watch.run_of_look (show r.clock.isCancelled s = false from hc) ho hl r.options.poll fuel
  rw [exec_endRound, exec_await, hf, hrun]

/-- Rounds that find nothing to ask for and libraries at rest, but no success, go on as they are: they
look at the libraries over and over, and neither change anything nor sleep. -/
theorem exec_libraryRounds_idle (hfuel : 0 < r.fuel) (hr : r.Repeats id p.observed I)
    (hd : (p.diff desired).isEmpty = true) (hx : (p.diff desired).exhausted = [])
    (hset : isSettled desired [] p.removing p.observed = true)
    (hn : isConverged desired p.observed = false) (fuel : Nat) (hs : I s.world) :
    exec (r.libraryRounds id desired fuel p) s =
      (.error .unfinished, (r.lookAtLibraries id)^[fuel] s) := by
  induction fuel generalizing s with
  | zero => rfl
  | succ fuel ih =>
    have hinstall : (p.diff desired).install = [] := (LibraryDiff.isEmpty_iff.1 hd).1
    have hend := exec_endRound_settled hfuel hr hs (d := p.diff desired) (by rwa [hinstall])
    have hnext : I (r.lookAtLibraries id s).world := by
      rw [lookAtLibraries_world]
      exact (hr s.world hs).2.2
    rw [exec_libraryRounds_succ, exec_beginRound_idle hd hx hn]
    dsimp only
    rw [hend]
    exact ih hnext

/-- As long as a wait for libraries goes on, and if it halts, no report has shown them at rest. -/
theorem awaitLibraries_unsettled (stage : Stage) (s : Session σ) :
    Halts (r.await stage (r.watchLibraries id desired submitted removing)) s fun _ t =>
      s.Grows (fun e => ∀ o, e.report = some o →
        isSettled desired submitted removing o = false) t := by
  let I : Session σ → Prop := s.Grows fun e => ∀ o, e.report = some o →
    isSettled desired submitted removing o = false
  have hlook : ∀ u, I u → (∀ o, (r.perform (.libraryStatuses id) u).1 = .ok o →
      isSettled desired submitted removing o = false) → I (r.lookAtLibraries id u) := by
    refine fun u hu ho => hu.trans (.of_cons (r.lookAtLibraries_history id u) fun o he => ho o ?_)
    cases ha : (r.perform (.libraryStatuses id) u).1 with
    | ok o' =>
      rw [ha] at he
      exact congrArg Except.ok (Option.some.inj he)
    | error e =>
      rw [ha] at he
      cases he
  have herror : ∀ u e, I u → (r.perform (.libraryStatuses id) u).1 = .error e →
      I (r.lookAtLibraries id u) := by
    intro u e hu he
    refine hlook u hu fun o ho => ?_
    rw [he] at ho
    cases ho
  have hk : (r.watchLibraries id desired submitted removing).Keeps r.clock I := by
    refine ⟨fun d u hu => hu, fun e u hu _ he _ => ?_, fun u hu _ ha => hlook u hu fun o ho => ?_⟩
    · have hl := herror u e hu he
      rwa [lookAtLibraries, show (r.perform (.libraryStatuses id) u).1 = .error e from he] at hl
    · have hj : judgeLibraries desired submitted removing (r.perform (.libraryStatuses id) u).1 =
          .ok .again := ha
      rw [ho, judgeLibraries] at hj
      by_contra hset
      rw [Bool.not_eq_false] at hset
      simp [hset] at hj
  refine halts_await stage hk (.refl s) (fun u e t hu hl => ?_) (fun _ _ ht _ => ht) fun _ ht => ht
  obtain ⟨c, hc, -⟩ := judgeLibraries_eq_error (congrArg Prod.fst hl)
  rw [show t = r.lookAtLibraries id u from (congrArg Prod.snd hl).symm]
  exact herror u c hu hc

end Rounds

/-- Libraries at rest with nothing left to ask for are as desired exactly if each desired one that is
last reported in flight is also reported as installed, and no leftover is reported as still there. They
are if the entries for each library agree; and if they are not, the rounds go on with looks only. -/
theorem converged_at_rest {desired submitted removing : List Library}
    {observed : List LibraryStatus} {attempts : InstallAttempts}
    (hs : isSettled desired submitted removing observed = true)
    (hi : (diffLibraries desired observed attempts).install = [])
    (he : (diffLibraries desired observed attempts).exhausted = [])
    (hu : (diffLibraries desired observed attempts).uninstall ⊆ removing) :
    (isConverged desired observed = true ↔
      (∀ l ∈ desired, (∃ s, lastStatus observed l = some s ∧ s.isInFlight = true) →
        ∃ s ∈ observed, s.library = l ∧ s.status = .installed) ∧
      ∀ s ∈ observed, s.library ∈ removing → isRemovable desired s = false) ∧
    (Unanimous observed → isConverged desired observed = true) ∧
    (isConverged desired observed = false → ∀ {σ : Type} (r : Reconciler σ) (id : String)
      (I : σ → Prop), 0 < r.fuel → r.Repeats id observed I → ∀ fuel s, I s.world →
        exec (r.libraryRounds id desired fuel ⟨observed, attempts, removing⟩) s =
          (.error .unfinished, (r.lookAtLibraries id)^[fuel] s)) := by
  have hw := isWanting_of_asked hi he
  have hr : ∀ s ∈ observed, isRemovable desired s = true → s.library ∈ removing :=
    fun s hs hx => hu (mem_uninstall.2 ⟨s, hs, hx, rfl⟩)
  refine ⟨isConverged_iff_of_asked hw hr, fun hun => isConverged_of_isSettled hun hs hw hr, ?_⟩
  intro hn σ r id I hfuel hrep fuel s hI
  have hleft : (diffLibraries desired observed attempts).uninstall.filter
      (!removing.contains ·) = [] := by
    rw [List.filter_eq_nil_iff]
    exact fun l hl => by simp [hu hl]
  refine exec_libraryRounds_idle (p := ⟨observed, attempts, removing⟩) hfuel hrep ?_ he
    (isSettled_nil hs) hn fuel hI
  exact LibraryDiff.isEmpty_iff.2 ⟨hi, hleft⟩

/-- A control plane that reports the same whenever it is asked for libraries, and does nothing else. -/
def echoing (observed : List LibraryStatus) : World Unit where
  now _ := 0
  sleep _ w := w
  isCancelled _ := false
  answer
    | .libraryStatuses _, w => (.ok observed, w)
    | _, w => (.error (.notFound ""), w)

/-- A library that is reported twice, and last as on its way. -/
theorem converged_at_rest_twice :
    let a : Library := .jar "a.jar"
    let b : Library := .jar "b.jar"
    let observed : List LibraryStatus := [⟨a, .installed, [], false⟩, ⟨a, .pending, [], false⟩,
      ⟨b, .uninstallOnRestart, [], false⟩]
    let failing : List LibraryStatus := [⟨a, .failed, [], false⟩, ⟨a, .pending, [], false⟩]
    let r : Reconciler Unit := ⟨echoing failing, {}, 5⟩
    isConverged [a] observed = true ∧
      (exec (r.libraryRounds "c" [a] 100 ⟨failing, .ofBudget 3, []⟩) { world := () }).1 =
        .error .unfinished := by
  intro a b observed failing r
  obtain ⟨hiff, -, -⟩ := @converged_at_rest [a] [a] [b] observed (.ofBudget 3)
    (by decide) (by decide) (by decide) (by decide)
  obtain ⟨-, -, hspin⟩ := @converged_at_rest [a] [] [] failing (.ofBudget 3)
    (by decide) (by decide) (by decide) (by decide)
  refine ⟨hiff.2 (by decide), ?_⟩
  rw [hspin (by decide) r "c" (fun _ => True) (by decide) (fun w _ => ⟨rfl, rfl, trivial⟩) 100
    { world := () } trivial]

/-- A library that is first reported as failed and then as on its way is at rest and not to be
submitted, and not installed. -/
theorem not_converged_at_rest :
    let a : Library := .jar "a.jar"
    let observed : List LibraryStatus := [⟨a, .failed, [], false⟩, ⟨a, .pending, [], false⟩]
    isSettled [a] [] [] observed = true ∧
      diffLibraries [a] observed (.ofBudget 3) = ⟨[], [], []⟩ ∧
      isConverged [a] observed = false := by decide

/-- A report of libraries that are as desired, each listed once, is one of libraries at rest, exactly if
no library whose removal was asked for is attached to all clusters. A wait that halts has seen no other
report of libraries as desired than one with such a library. -/
theorem at_rest_when_converged {desired submitted removing : List Library}
    (hsub : submitted ⊆ desired) (hdis : ∀ l ∈ removing, l ∉ desired) :
    (∀ observed, ReportedOnce observed → isConverged desired observed = true →
      (isSettled desired submitted removing observed = true ↔
        ∀ s ∈ observed, s.library ∈ removing → s.forAllClusters = true →
          s.status = .uninstallOnRestart)) ∧
    ∀ {σ : Type} (r : Reconciler σ) (id : String) (stage : Stage) (s t : Session σ) (h : Halt),
      exec (r.await stage (r.watchLibraries id desired submitted removing)) s = (.error h, t) →
        ∀ e ∈ s.since t, ∀ o, e.report = some o → ReportedOnce o → isConverged desired o = true →
          ∃ x ∈ o, x.library ∈ removing ∧ x.forAllClusters = true ∧
            x.status ≠ .uninstallOnRestart := by
  refine ⟨fun observed once hc => isSettled_iff_of_isConverged once hsub hdis hc, ?_⟩
  intro σ r id stage s t h hx e he o ho once hc
  obtain ⟨es, hes, hunsettled⟩ := (awaitLibraries_unsettled stage s).halted h t hx
  rw [Session.since_eq hes] at he
  by_contra hnone
  have hset := (isSettled_iff_of_isConverged once hsub hdis hc).2 fun x hx hm hw => by
    by_contra hst
    exact hnone ⟨x, hx, hm, hw, hst⟩
  rw [hunsettled e he o ho] at hset
  cases hset

theorem at_rest_when_converged_wide :
    let a : Library := .jar "a.jar"
    let b : Library := .jar "b.jar"
    let observed : List LibraryStatus := [⟨a, .installed, [], false⟩,
      ⟨b, .uninstallOnRestart, [], true⟩]
    isConverged [a] observed = true ∧ isSettled [a] [a] [b] observed = true := by
  intro a b observed
  have hc : isConverged [a] observed = true := by decide
  obtain ⟨hiff, -⟩ := @at_rest_when_converged [a] [a] [b] (by decide) (by decide)
  exact ⟨hc, (hiff observed (by decide) hc).2 (by decide)⟩

/-- A leftover that has come to be attached to all clusters keeps a wait from its end. -/
theorem not_at_rest_when_converged :
    let b : Library := .jar "b.jar"
    let observed : List LibraryStatus := [⟨b, .installed, [], true⟩]
    ReportedOnce observed ∧ isConverged [] observed = true ∧
      isSettled [] [] [b] observed = false := by decide

end Reconciler
end ClusterReconciliation
