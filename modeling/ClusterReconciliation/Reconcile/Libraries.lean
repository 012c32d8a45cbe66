import ClusterReconciliation.Library.Diff
import ClusterReconciliation.Reconcile.Session

/-! Bringing the libraries of a running cluster to the desired ones, in rounds: ask for what is
missing and for the removal of what is not wanted, then wait until nothing moves. -/
namespace ClusterReconciliation

structure Progress where
  observed : List LibraryStatus
  attempts : InstallAttempts
  /-- Libraries whose removal has been asked for; it is not asked for twice. -/
  removing : List Library := []
  deriving DecidableEq, Repr

namespace Progress

def diff (p : Progress) (desired : List Library) : LibraryDiff :=
  let d := diffLibraries desired p.observed p.attempts
  { d with uninstall := d.uninstall.filter (!p.removing.contains ·) }

end Progress

/-- What the wait of a round is for. -/
def LibraryDiff.stage (d : LibraryDiff) : Stage :=
  if d.install.isEmpty && !d.uninstall.isEmpty then .libraryUninstall else .libraryInstall

/-- The entry for a library that has no attempts left. -/
def exhaustedStatus (observed : List LibraryStatus) (l : Library) : LibraryStatus :=
  (observed.find? (·.library == l)).getD
    { library := l, status := .failed, messages := ["not reported by the control plane"] }

namespace Reconciler
variable {σ : Type} (r : Reconciler σ)

def judgeLibraries (desired submitted removing : List Library) :
    Except ClientError (List LibraryStatus) →
      Except ReconcileError (Check (List LibraryStatus))
  | .ok observed =>
    .ok (if isSettled desired submitted removing observed then .done observed else .again)
  | .error e => .error (.ofClient e)

def watchLibraries (id : String) (desired submitted removing : List Library) :
    Watch (Session σ) (List LibraryStatus) (List LibraryStatus) ReconcileError where
  what := "libraries on cluster " ++ id
  fetch := r.perform (.libraryStatuses id)
  decide answer s := (judgeLibraries desired submitted removing answer, s.noteLibraries answer)

/-- What a round finds before it asks for anything. -/
inductive Verdict
  | converged
  | gaveUp (failed : List LibraryStatus)
  | goOn
  deriving DecidableEq, Repr

def verdict (desired : List Library) (p : Progress) (d : LibraryDiff) : Verdict :=
  if !d.isEmpty then .goOn
  else if isConverged desired p.observed then .converged
  else if !d.exhausted.isEmpty && isSettled desired [] p.removing p.observed then
    .gaveUp (d.exhausted.map (exhaustedStatus p.observed))
  else .goOn

/-- Asks for the removal of what is not wanted, and keeps in mind that it did. -/
def submitRemovals (id : String) (p : Progress) (d : LibraryDiff) : Run σ Progress :=
  if d.uninstall.isEmpty then return p
  else do
    r.mutate .uninstallLibraries .libraryUninstall (.uninstallLibraries id d.uninstall)
    return { p with removing := p.removing ++ d.uninstall }

/-- Submits what is missing, and counts the submissions. -/
def submitInstalls (id : String) (p : Progress) (d : LibraryDiff) : Run σ Progress :=
  if d.install.isEmpty then return p
  else do
    r.mutate .installLibraries .libraryInstall (.installLibraries id d.install)
    return { p with attempts := p.attempts.record d.install }

def submit (id : String) (p : Progress) (d : LibraryDiff) : Run σ Progress := do
  r.submitInstalls id (← r.submitRemovals id p d) d

/-- A round up to its wait: what has been asked for, and the difference it answers to. Nothing
remains to be done when there is no progress to go on from. -/
def beginRound (id : String) (desired : List Library) (p : Progress) :
    Run σ (Option (Progress × LibraryDiff)) := do
  let d := p.diff desired
  match verdict desired p d with
  | .converged => return none
  | .gaveUp failed => fail .libraryInstall (.partialConvergence failed)
  | .goOn => return some (← r.submit id p d, d)

/-- The wait of a round, after which everything has come to rest. -/
def endRound (id : String) (desired : List Library) (p : Progress) (d : LibraryDiff) :
    Run σ Progress := do
  let observed ← r.await d.stage (r.watchLibraries id desired d.install p.removing)
  return { p with observed := observed }

def libraryRound (id : String) (desired : List Library) (p : Progress) :
    Run σ (Option Progress) := do
  match ← r.beginRound id desired p with
  | none => return none
  | some (p, d) => return some (← r.endRound id desired p d)

def libraryRounds (id : String) (desired : List Library) : Nat → Progress → Run σ Unit
  | 0, _ => throw .unfinished
  | fuel + 1, p => do
    match ← r.libraryRound id desired p with
    | none => return ()
    | some p => libraryRounds id desired fuel p

def convergeLibraries (id : String) (desired : List Library) (observed : List LibraryStatus) :
    Run σ Unit :=
  r.libraryRounds id desired r.fuel ⟨observed, .ofBudget r.options.attemptBudget, []⟩

end Reconciler
end ClusterReconciliation
