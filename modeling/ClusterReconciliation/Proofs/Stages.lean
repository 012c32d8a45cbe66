import ClusterReconciliation.Proofs.Endings

/-! The stages at which runs halt. A call, a wait and a refusal halt a run at their own stage; only
the rounds of the libraries halt it for libraries that have no attempts left. -/
namespace ClusterReconciliation
open Run
variable {σ α : Type}

/-- The run halts at this stage, if not for lack of fuel, and not for libraries that failed. -/
def Halt.Within (stage : Stage) : Halt → Prop
  | .failed ⟨_, .partialConvergence _⟩ => False
  | .failed f => f.stage = stage
  | .unfinished => True

namespace Halt
variable {stage stage' : Stage} {h : Halt} {error : ReconcileError}

theorem within_ofClient (e : ClientError) : Within stage (.failed ⟨stage, .ofClient e⟩) := by
  cases e <;> rfl

theorem Within.stage_eq (hw : h.Within stage) (he : h = .failed ⟨stage', error⟩) :
    stage' = stage := by
  subst he
  cases error <;> first | exact hw | exact hw.elim

/-- The run does not halt at this stage. -/
def Avoids (stage : Stage) (h : Halt) : Prop := ∀ error, h ≠ .failed ⟨stage, error⟩

theorem Within.avoids (hw : h.Within stage) (hne : stage ≠ stage') : h.Avoids stage' :=
  fun _ he => hne (hw.stage_eq he).symm

end Halt

namespace Reconciler
variable {r : Reconciler σ} {s : Session σ} {id : String}

/-- A call or a wait that halts does so at its stage, as does a change that is refused. -/
theorem haltsAt_within (r : Reconciler σ) (stage : Stage) :
    r.HaltsAt stage fun h _ => h.Within stage where
  cancelled _ _ := rfl
  answered _ e _ _ _ _ := Halt.within_ofClient e
  lost e _ _ := Halt.within_ofClient e
  timedOut _ _ _ := rfl
  clusterFailed _ _ _ _ := rfl
  unfinished _ := trivial

theorem within_mutate (stage : Stage) (action : Action) (c : Call) :
    Halts (r.mutate action stage c) s fun h _ => h.Within stage :=
  (r.haltsAt_within stage).mutate c fun _ => rfl

theorem within_changeAndWait (stage : Stage) (action : Action) (c : Call) :
    Halts (do
      r.mutate action stage c
      let _ ← r.waitRunning stage id) s fun h _ => h.Within stage :=
  (r.haltsAt_within stage).changeAndWait c fun _ => rfl

theorem within_validate {desired : Desired} :
    Halts (validate desired) s fun h _ => h.Within .validate := by
  unfold validate
  cases desired.validate with
  | ok u => exact halts_pure ()
  | error e => exact ensures_fail rfl

theorem within_refuseFailed {info : Cluster.Info} :
    Halts (refuseFailed id info) s fun h _ => h.Within .start := by
  unfold refuseFailed
  split_ifs
  · exact ensures_fail rfl
  · exact halts_pure ()

/-- An inspection halts a run where it reads, or as the cluster that it finds cannot be started. -/
theorem within_inspect :
    Halts (r.inspect id) s fun h _ => h.Within .read ∨ h.Within .start := by
  refine ((r.haltsAt_within .read).readStable.mono fun _ _ => .inl).bind fun info t _ => ?_
  refine (within_refuseFailed.mono fun _ _ => .inr).bind fun _ u _ => ?_
  refine Halts.bind ?_ fun _ _ _ => halts_pure _
  exact (r.haltsAt_within .read).fetchLibraries.mono fun _ _ => .inl

theorem within_startFor (needed : Bool) (phase : Phase) :
    Halts (r.startFor id needed phase) s fun h _ => h.Within .start := by
  unfold startFor
  split_ifs
  · exact within_changeAndWait .start .start _
  · exact halts_pure ()

theorem within_editTo (spec : Cluster.Spec) (needed : Bool) :
    Halts (r.editTo id spec needed) s fun h _ => h.Within .edit := by
  unfold editTo
  split_ifs
  · exact within_changeAndWait .edit .edit _
  · exact halts_pure ()

/-- A submission halts a run at the stage of the change that it comes to. -/
theorem within_submit (p : Progress) (d : LibraryDiff) : Halts (r.submit id p d) s
    fun h _ => h.Within .libraryUninstall ∨ h.Within .libraryInstall := by
  refine Halts.bind ?remove fun q t _ => ?install
  case remove =>
    unfold submitRemovals
    split_ifs
    · exact halts_pure p
    · refine Halts.bind ?_ fun _ _ _ => halts_pure _
      exact (within_mutate .libraryUninstall _ _).mono fun _ _ => .inl
  case install =>
    unfold submitInstalls
    split_ifs
    · exact halts_pure q
    · refine Halts.bind ?_ fun _ _ _ => halts_pure _
      exact (within_mutate .libraryInstall _ _).mono fun _ _ => .inr

end Reconciler
end ClusterReconciliation
