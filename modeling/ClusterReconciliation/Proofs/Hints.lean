import ClusterReconciliation.Manifest.Lint
import ClusterReconciliation.Proofs.Partition

/-! What the hints about a manifest say of libraries that are listed more than once, and what their
verdict is worth. The hints and the comparison with an empty cluster each go through the list with
what they have seen of it. Both part its places into those where a library stands first and the
repetitions, so that what is submitted and what is called a duplicate make up the list. -/
namespace ClusterReconciliation

/-- A choice of places that goes by what stands before each does not depend on what follows. -/
theorem filter_zipIdx_append_singleton {α : Type} (p : α → List α → Bool) (l : List α) (a : α) :
    ((l ++ [a]).zipIdx.filter fun e => p e.1 ((l ++ [a]).take e.2)) =
      (l.zipIdx.filter fun e => p e.1 (l.take e.2)) ++ if p a l then [(a, l.length)] else [] := by
  have hbefore : (l.zipIdx.filter fun e => p e.1 ((l ++ [a]).take e.2)) =
      l.zipIdx.filter fun e => p e.1 (l.take e.2) := by
    refine List.filter_congr fun e he => ?_
    have hlt : e.2 < l.length := by simpa using List.snd_lt_of_mem_zipIdx he
    rw [List.take_append_of_le_length hlt.le]
  have hlast : ([a].zipIdx l.length).filter (fun e => p e.1 ((l ++ [a]).take e.2)) =
      if p a l then [(a, l.length)] else [] := by
    simp [List.filter_singleton]
  rw [List.zipIdx_append, List.filter_append, hbefore, Nat.zero_add, hlast]

section Places
variable {α : Type} [DecidableEq α]

/-- What stands at a place and at no earlier one. -/
def debuts (l : List α) : List (α × Nat) := l.zipIdx.filter fun e => e.1 ∉ l.take e.2

/-- What stands at a place and at an earlier one too. -/
def repetitions (l : List α) : List (α × Nat) := l.zipIdx.filter fun e => e.1 ∈ l.take e.2

theorem debuts_append_singleton (l : List α) (a : α) :
    debuts (l ++ [a]) = debuts l ++ if a ∈ l then [] else [(a, l.length)] := by
  rw [debuts, filter_zipIdx_append_singleton (fun a before => decide (a ∉ before)), debuts]
  by_cases ha : a ∈ l <;> simp [ha]

theorem repetitions_append_singleton (l : List α) (a : α) :
    repetitions (l ++ [a]) = repetitions l ++ if a ∈ l then [(a, l.length)] else [] := by
  rw [repetitions, repetitions,
    filter_zipIdx_append_singleton (fun a before => decide (a ∈ before))]
  by_cases ha : a ∈ l <;> simp [ha]

/-- Every place is of one of the two kinds. -/
theorem length_repetitions_add_debuts (l : List α) :
    (repetitions l).length + (debuts l).length = l.length := by
  have h := List.length_eq_length_filter_add (l := l.zipIdx) fun e => decide (e.1 ∈ l.take e.2)
  rw [List.length_zipIdx] at h
  rw [h, repetitions, debuts]
  simp

/-- Three of these five places repeat what stands before them. -/
example : repetitions ["a", "b", "a", "b", "a"] = [("a", 2), ("b", 3), ("a", 4)] := by decide

theorem distinct_eq_debuts (l : List α) : distinct l = (debuts l).map (·.1) := by
  induction l using List.reverseRecOn with
  | nil => rfl
  | append_singleton l a ih =>
    rw [distinct_append_singleton, debuts_append_singleton, List.map_append, ← ih]
    by_cases ha : a ∈ l <;> simp [ha]

end Places

/-- Against an empty cluster, and with no attempt made, each library is submitted once. -/
theorem install_fresh (desired : List Library) (budget : Nat) :
    (diffLibraries desired [] (.ofBudget budget)).install = (debuts desired).map (·.1) := by
  have hwanting : ∀ l, isWanting [] l = true := fun l => rfl
  have hallows : ∀ l, (InstallAttempts.ofBudget budget).allows l = true := fun l =>
    allows_iff.2 (InstallAttempts.budget_pos budget)
  simp [diffLibraries, hwanting, hallows, distinct_eq_debuts]

namespace Lint

/-- The message is about a library that is listed more than once. -/
def IsDuplicate (m : LintMessage) : Prop := m.code = "DUPLICATE_LIBRARY"

instance : DecidablePred IsDuplicate := fun _ => inferInstanceAs (Decidable (_ = _))

theorem isDuplicate_ofRepetition (l : Library) : IsDuplicate (ofRepetition l) := rfl

/-- The last library is judged with all the others. -/
theorem ofLibraries_append_singleton (seen l : List Library) (a : Library) :
    ofLibraries seen (l ++ [a]) =
      ofLibraries seen l ++
        ((if a ∈ seen ∨ a ∈ l then [ofRepetition a] else []) ++ ofLibrary a) := by
  induction l generalizing seen with
  | nil => simp [ofLibraries]
  | cons b l ih =>
    have hseen : a ∈ b :: seen ∨ a ∈ l ↔ a ∈ seen ∨ a ∈ b :: l := by
      simp only [List.mem_cons]
      tauto
    simp only [List.cons_append, ofLibraries, ih, hseen, List.append_assoc]

/-- No other hint passes for one about a duplicate. -/
theorem filter_ofLibrary (l : Library) : (ofLibrary l).filter (IsDuplicate ·) = [] := by
  cases l <;> simp only [ofLibrary] <;> try split_ifs
  all_goals rfl

theorem filter_ofLibraries (l : List Library) :
    (ofLibraries [] l).filter (IsDuplicate ·) = (repetitions l).map (ofRepetition ·.1) := by
  induction l using List.reverseRecOn with
  | nil => rfl
  | append_singleton l a ih =>
    rw [ofLibraries_append_singleton, List.filter_append, List.filter_append, filter_ofLibrary, ih,
      repetitions_append_singleton, List.map_append]
    by_cases ha : a ∈ l <;> simp [ha, isDuplicate_ofRepetition]

theorem filter_ofCluster (s : Cluster.Spec) :
    (ofName s ++ ofAutotermination s ++ ofSizing s.sizing ++ ofMachine s).filter
      (IsDuplicate ·) = [] := by
  have hname : (ofName s).filter (IsDuplicate ·) = [] := by
    unfold ofName
    split_ifs <;> rfl
  have htermination : (ofAutotermination s).filter (IsDuplicate ·) = [] := by
    unfold ofAutotermination
    split_ifs <;> rfl
  have hsizing : (ofSizing s.sizing).filter (IsDuplicate ·) = [] := by
    unfold ofSizing
    split <;> split_ifs <;> rfl
  have hmachine : (ofMachine s).filter (IsDuplicate ·) = [] := by
    unfold ofMachine
    split_ifs <;> rfl
  simp only [List.filter_append, hname, htermination, hsizing, hmachine, List.append_nil]

end Lint

namespace LintReport
variable {r : LintReport}

/-- The verdict is what the messages say. -/
def Exact (r : LintReport) : Prop := r.passed = true ↔ r.hasErrors = false

/-- A call that puts one more message into a report. -/
inductive Extension
  | add (m : LintMessage)
  | info (code message : String)
  | warning (code message : String) (suggestion : Option String)
  | error (code message : String) (suggestion : Option String)
  deriving DecidableEq, Repr

def extend (r : LintReport) : Extension → LintReport
  | .add m => r.add m
  | .info code message => r.info code message
  | .warning code message suggestion => r.warning code message suggestion
  | .error code message suggestion => r.error code message suggestion

theorem exact_empty : empty.Exact := by simp [Exact, empty, hasErrors]

theorem hasErrors_add (r : LintReport) (m : LintMessage) :
    (r.add m).hasErrors = (r.hasErrors || m.severity == .error) := by
  simp [hasErrors, add, List.any_append]

theorem Exact.add (h : r.Exact) (m : LintMessage) : (r.add m).Exact := by
  have hpassed : r.passed = true ↔ r.hasErrors = false := h
  rw [Exact, hasErrors_add, Bool.or_eq_false_iff, ← hpassed]
  simp [LintReport.add]

theorem Exact.extend (h : r.Exact) (x : Extension) : (r.extend x).Exact := by
  cases x with
  | add m => exact h.add m
  | info code message => exact h.add _
  | warning code message suggestion => exact h.add _
  | error code message suggestion => exact h.add _

theorem Exact.foldl_extend (h : r.Exact) (xs : List Extension) :
    (xs.foldl LintReport.extend r).Exact := by
  induction xs generalizing r with
  | nil => exact h
  | cons x xs ih => exact ih (h.extend x)

/-- A report of messages is made by adding them. -/
theorem ofMessages_eq_foldl_extend (ms : List LintMessage) :
    ofMessages ms = (ms.map .add).foldl extend empty := by
  rw [List.foldl_map]
  rfl

end LintReport

namespace Desired

theorem lint_messages (d : Desired) : d.lint.messages = Lint.messages d := by
  simp [lint, LintReport.ofMessages, LintReport.messages_foldl_add, LintReport.empty]

theorem lint_exact (d : Desired) : d.lint.Exact := by
  rw [lint, LintReport.ofMessages_eq_foldl_extend]
  exact LintReport.exact_empty.foldl_extend _

/-- The hints call a library a duplicate at each place where it is listed again, in the order of the
list, and at these places only; at all others, and only there, the comparison with an empty cluster
submits it, whatever the budget. So the hints are as many as the libraries that the comparison
leaves out. The verdict of the hints is that no message is an error, and so it is for each report
that is made from nothing, or from the hints, by calls of any kind. -/
theorem lint_repetitions (d : Desired) (budget : Nat) :
    let duplicates := d.lint.messages.filter (·.code = "DUPLICATE_LIBRARY")
    let submitted := (diffLibraries d.libraries [] (.ofBudget budget)).install
    duplicates = (repetitions d.libraries).map (Lint.ofRepetition ·.1) ∧
      submitted = (debuts d.libraries).map (·.1) ∧
      submitted.length ≤ d.libraries.length ∧
      duplicates.length = d.libraries.length - submitted.length ∧
      (d.lint.passed = true ↔ d.lint.hasErrors = false) ∧
      ∀ xs : List LintReport.Extension,
        (xs.foldl LintReport.extend .empty).Exact ∧ (xs.foldl LintReport.extend d.lint).Exact := by
  intro duplicates submitted
  have hduplicates : duplicates = (repetitions d.libraries).map (Lint.ofRepetition ·.1) := by
    calc duplicates = (Lint.messages d).filter (Lint.IsDuplicate ·) := by rw [← lint_messages]; rfl
      _ = (Lint.ofLibraries [] d.libraries).filter (Lint.IsDuplicate ·) := by
        rw [Lint.messages, List.filter_append, Lint.filter_ofCluster, List.nil_append]
      _ = _ := Lint.filter_ofLibraries d.libraries
  have hsubmitted : submitted = (debuts d.libraries).map (·.1) := install_fresh d.libraries budget
  have hplaces := length_repetitions_add_debuts d.libraries
  have hdl : duplicates.length = (repetitions d.libraries).length := by
    rw [hduplicates, List.length_map]
  have hsl : submitted.length = (debuts d.libraries).length := by rw [hsubmitted, List.length_map]
  refine ⟨hduplicates, hsubmitted, by omega, by omega, d.lint_exact, fun xs => ⟨?_, ?_⟩⟩
  · exact LintReport.exact_empty.foldl_extend xs
  · exact d.lint_exact.foldl_extend xs

end Desired

end ClusterReconciliation
