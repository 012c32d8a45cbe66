import ClusterReconciliation.Library.Status

/-! What has to be installed and removed to bring observed libraries to desired ones. -/
namespace ClusterReconciliation

/-- The submissions made so far, one entry for each time a library was submitted, against a budget
for each library. -/
structure InstallAttempts where
  budget : Nat
  submitted : List Library
  deriving DecidableEq, Repr

namespace InstallAttempts

/-- A budget of nothing still allows the first submission. -/
def ofBudget (budget : Nat) : InstallAttempts := ⟨max budget 1, []⟩

def used (a : InstallAttempts) (l : Library) : Nat := a.submitted.count l

def allows (a : InstallAttempts) (l : Library) : Bool := a.used l < a.budget

def record (a : InstallAttempts) (ls : List Library) : InstallAttempts :=
  { a with submitted := a.submitted ++ ls }

theorem used_record (a : InstallAttempts) (ls : List Library) (l : Library) :
    (a.record ls).used l = a.used l + ls.count l := by simp [used, record]

theorem budget_pos (n : Nat) : 0 < (ofBudget n).budget :=
  Nat.lt_of_lt_of_le Nat.one_pos (Nat.le_max_right n 1)

end InstallAttempts

/-- Each element once, where it stands first. -/
def distinct {α : Type} [BEq α] (l : List α) : List α :=
  l.foldl (fun seen a => if seen.contains a then seen else seen ++ [a]) []

structure LibraryDiff where
  /-- To be submitted, in the order of declaration. -/
  install : List Library
  /-- To be removed, in the order of observation. -/
  uninstall : List Library
  /-- To be submitted, had they any attempts left. -/
  exhausted : List Library
  deriving DecidableEq, Repr

def LibraryDiff.isEmpty (d : LibraryDiff) : Bool := d.install.isEmpty && d.uninstall.isEmpty

def lastStatus (observed : List LibraryStatus) (l : Library) : Option InstallStatus :=
  (observed.findRev? (·.library == l)).map (·.status)

def firstStatus (observed : List LibraryStatus) (l : Library) : Option InstallStatus :=
  (observed.find? (·.library == l)).map (·.status)

def isWanting (observed : List LibraryStatus) (l : Library) : Bool :=
  match lastStatus observed l with
  | none => true
  | some s => s.needsInstall

/-- The entry concerns a library that nobody asked for and that can be removed. -/
def isRemovable (desired : List Library) (s : LibraryStatus) : Bool :=
  !desired.contains s.library && !s.forAllClusters && s.status != .uninstallOnRestart

def diffLibraries (desired : List Library) (observed : List LibraryStatus)
    (attempts : InstallAttempts) : LibraryDiff :=
  let wanting := (distinct desired).filter (isWanting observed)
  ⟨wanting.filter attempts.allows,
    distinct ((observed.filter (isRemovable desired)).map (·.library)),
    wanting.filter (!attempts.allows ·)⟩

/-- Every desired library is installed and every other one is gone or about to go. -/
def isConverged (desired : List Library) (observed : List LibraryStatus) : Bool :=
  desired.all (fun l => observed.any fun s => s.library == l && s.status == .installed) &&
    observed.all (!isRemovable desired ·)

/-- Nothing moves any more: submitted libraries are reported and at rest, desired ones at rest if
they are reported, and removed ones gone or about to go. -/
def isSettled (desired submitted removing : List Library) (observed : List LibraryStatus) : Bool :=
  submitted.all (fun l => (firstStatus observed l).any (!·.isInFlight)) &&
    desired.all (fun l => (firstStatus observed l).all (!·.isInFlight)) &&
    removing.all (fun l => (firstStatus observed l).all (· == .uninstallOnRestart))

end ClusterReconciliation
