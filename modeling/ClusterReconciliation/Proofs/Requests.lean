import ClusterReconciliation.Proofs.Records
import Mathlib.Computability.Language

/-! The changes that runs ask for, in order. Each part of a run asks for a word of a language, and a
run for a word that is put together from those of its parts, whatever is answered. -/
namespace ClusterReconciliation
open Run
open scoped Computability
variable {σ α β : Type}

/-- The changes that calls have asked for, made or not. -/
def requests (es : List (Event σ)) : List Call := (es.map (·.call)).filter (·.isMutation)

@[simp] theorem requests_append (es fs : List (Event σ)) :
    requests (es ++ fs) = requests es ++ requests fs := by simp [requests]

theorem requests_eq_nil {es : List (Event σ)} :
    requests es = [] ↔ ∀ e ∈ es, e.call.isMutation = false := by simp [requests]

theorem Session.Grows.requests_eq {P : Event σ → Prop} {s t : Session σ} (h : s.Grows P t)
    (hP : ∀ e, P e → e.call.isMutation = false) : requests t.calls = requests s.calls := by
  obtain ⟨es, hes, hp⟩ := h
  have hquiet : requests es.reverse = [] :=
    requests_eq_nil.2 fun e he => hP e (hp e (List.mem_reverse.1 he))
  rw [calls_eq hes, requests_append, hquiet, List.append_nil]

namespace Call

/-- The words of one call of a kind, or of none. -/
def atMostOne (P : Call → Prop) : Language Call := {w | w = [] ∨ ∃ c, P c ∧ w = [c]}

/-- A turn of the libraries: they are removed, then submitted, each in one call. -/
def libraryTurn (id : String) : Language Call :=
  atMostOne (fun c => ∃ ls, c = .uninstallLibraries id ls) *
    atMostOne fun c => ∃ ls, c = .installLibraries id ls

/-- A start, then an edit, then turns of the libraries. -/
def updateOrder (id : String) (spec : Cluster.Spec) : Language Call :=
  atMostOne (· = .startCluster id) * (atMostOne (· = .editCluster id spec) * (libraryTurn id)∗)

/-- A termination, then a purge. -/
def deletionOrder (id : String) : Language Call :=
  atMostOne (· = .deleteCluster id) * atMostOne (· = .permanentDeleteCluster id)

theorem nil_mem_atMostOne (P : Call → Prop) : [] ∈ atMostOne P := .inl rfl

theorem nil_mem_mul {L M : Language Call} (hL : [] ∈ L) (hM : [] ∈ M) : [] ∈ L * M :=
  Language.append_mem_mul hL hM

theorem sublist_of_mem_deletionOrder {id : String} {w : List Call} (h : w ∈ deletionOrder id) :
    w.Sublist [.deleteCluster id, .permanentDeleteCluster id] := by
  obtain ⟨u, hu, v, hv, rfl⟩ := Language.mem_mul.1 h
  rcases hu with rfl | ⟨c, rfl, rfl⟩ <;> rcases hv with rfl | ⟨c, rfl, rfl⟩ <;> simp

theorem nil_mem_libraryTurn (id : String) : [] ∈ libraryTurn id :=
  nil_mem_mul (nil_mem_atMostOne _) (nil_mem_atMostOne _)

theorem nil_mem_updateOrder (id : String) (spec : Cluster.Spec) : [] ∈ updateOrder id spec :=
  nil_mem_mul (nil_mem_atMostOne _) (nil_mem_mul (nil_mem_atMostOne _) (Language.nil_mem_kstar _))

end Call

/-- Wherever a run starts and however it ends, the changes that it asks for are such a word. -/
def Run.Asks (m : Run σ α) (L : Language Call) : Prop :=
  ∀ s, ∃ w ∈ L, requests (exec m s).2.calls = requests s.calls ++ w

namespace Run
variable {r : Reconciler σ} {m : Run σ α} {f : α → Run σ β}
  {L M : Language Call}

theorem Asks.mono (h : Asks m L) (hLM : ∀ w ∈ L, w ∈ M) : Asks m M := by
  intro s
  obtain ⟨w, hw, hs⟩ := h s
  exact ⟨w, hLM w hw, hs⟩

/-- A run that leaves a session as it is asks for nothing. -/
theorem asks_of_exec (h : ∀ s, (exec m s).2 = s) (hL : [] ∈ L) : Asks m L := by
  intro s
  exact ⟨[], hL, by rw [h s, List.append_nil]⟩

theorem asks_pure (a : α) (hL : [] ∈ L) : Asks (pure a : Run σ α) L :=
  asks_of_exec (fun _ => rfl) hL

theorem asks_reads (hm : MadeOf r (fun c => c.isMutation = false) m) : Asks m 1 := by
  intro s
  have hquiet := (hm s).grows.requests_eq fun _ he => he
  exact ⟨[], Language.nil_mem_one, by rw [hquiet, List.append_nil]⟩

/-- What follows on a part may be missing, as that part may halt. -/
theorem Asks.bind (hm : Asks m L) (hf : ∀ a, Asks (f a) M) (hM : [] ∈ M) :
    Asks (m >>= f) (L * M) := by
  intro s
  obtain ⟨v, hv, hs⟩ := hm s
  rw [exec_bind]
  rcases hx : exec m s with ⟨e | a, t⟩ <;> rw [hx] at hs
  · have hword : v ++ [] ∈ L * M := Language.append_mem_mul hv hM
    rw [List.append_nil] at hword
    exact ⟨v, hword, hs⟩
  · obtain ⟨w, hw, ht⟩ := hf a t
    exact ⟨v ++ w, Language.append_mem_mul hv hw, by rw [ht, hs, List.append_assoc]⟩

theorem Asks.bind_reads (hm : Asks m L) (hf : ∀ a, Asks (f a) 1) : Asks (m >>= f) L := by
  have h := hm.bind hf Language.nil_mem_one
  rwa [mul_one] at h

theorem Asks.after_reads (hm : Asks m 1) (hf : ∀ a, Asks (f a) M) (hM : [] ∈ M) :
    Asks (m >>= f) M := by
  have h := hm.bind hf hM
  rwa [one_mul] at h

theorem Asks.ite {c : Prop} [Decidable c] {m' : Run σ α} (hm : Asks m L) (hm' : Asks m' L) :
    Asks (if c then m else m') L := by
  split
  · exact hm
  · exact hm'

/-- A handler that asks for nothing adds nothing. -/
theorem Asks.tryCatch {g : Halt → Run σ α} (hm : Asks m L) (hg : ∀ h, Asks (g h) 1) :
    Asks (tryCatch m g) L := by
  intro s
  obtain ⟨v, hv, hs⟩ := hm s
  rw [exec_tryCatch]
  rcases hx : exec m s with ⟨e | a, t⟩ <;> rw [hx] at hs
  · obtain ⟨w, hw, ht⟩ := hg e t
    rw [(Language.mem_one w).1 hw, List.append_nil] at ht
    exact ⟨v, hv, ht.trans hs⟩
  · exact ⟨v, hv, hs⟩

end Run

namespace Reconciler
variable (r : Reconciler σ) (id : String)

theorem asks_mutate (action : Action) (stage : Stage) {c : Call} (hc : c.isMutation = true)
    {P : Call → Prop} (hP : P c) : Asks (r.mutate action stage c) (Call.atMostOne P) := by
  intro s
  rcases r.exec_mutate_history action stage c s with hh | hh
  · exact ⟨[], Call.nil_mem_atMostOne P, by rw [Session.calls, hh, List.append_nil]; rfl⟩
  · have hone : requests [Event.mk s.world c (r.perform c s).1] = [c] := by simp [requests, hc]
    exact ⟨[c], .inr ⟨c, hP, rfl⟩, by rw [Session.calls_cons hh, requests_append, hone]⟩

section Libraries
variable (desired : List Library) (p : Progress) (d : LibraryDiff)

theorem asks_submit : Asks (r.submit id p d) (Call.libraryTurn id) := by
  have hremove : Asks (r.submitRemovals id p d)
      (Call.atMostOne fun c => ∃ ls, c = .uninstallLibraries id ls) := by
    refine .ite (asks_pure p (Call.nil_mem_atMostOne _)) ?_
    refine Asks.bind_reads ?_ fun _ => asks_pure _ Language.nil_mem_one
    exact r.asks_mutate _ _ rfl ⟨d.uninstall, rfl⟩
  have hinstall : ∀ q, Asks (r.submitInstalls id q d)
      (Call.atMostOne fun c => ∃ ls, c = .installLibraries id ls) := by
    intro q
    refine .ite (asks_pure q (Call.nil_mem_atMostOne _)) ?_
    refine Asks.bind_reads ?_ fun _ => asks_pure _ Language.nil_mem_one
    exact r.asks_mutate _ _ rfl ⟨d.install, rfl⟩
  exact hremove.bind hinstall (Call.nil_mem_atMostOne _)

theorem asks_libraryRound : Asks (r.libraryRound id desired p) (Call.libraryTurn id) := by
  have hbegin : Asks (r.beginRound id desired p) (Call.libraryTurn id) := by
    simp only [beginRound]
    cases verdict desired p (p.diff desired) with
    | converged => exact asks_pure none (Call.nil_mem_libraryTurn id)
    | gaveUp failed => exact asks_of_exec (fun _ => rfl) (Call.nil_mem_libraryTurn id)
    | goOn =>
      exact (r.asks_submit id p _).bind_reads fun _ => asks_pure _ Language.nil_mem_one
  refine hbegin.bind_reads fun x => ?_
  rcases x with _ | ⟨q, d⟩
  · exact asks_pure none Language.nil_mem_one
  · have hwait : Asks (r.endRound id desired q d) 1 := by
      refine Asks.bind_reads ?_ fun _ => asks_pure _ Language.nil_mem_one
      exact asks_reads (r.madeOf_awaitLibraries _ _ _ _ rfl)
    exact hwait.bind_reads fun _ => asks_pure _ Language.nil_mem_one

/-- The rounds ask for one turn after the other. -/
theorem asks_convergeLibraries (o : List LibraryStatus) :
    Asks (r.convergeLibraries id desired o) (Call.libraryTurn id)∗ := by
  have hrounds : ∀ fuel p, Asks (r.libraryRounds id desired fuel p) (Call.libraryTurn id)∗ := by
    intro fuel
    induction fuel with
    | zero => exact fun p => asks_of_exec (fun _ => rfl) (Language.nil_mem_kstar _)
    | succ fuel ih =>
      intro p
      have hnil := Language.nil_mem_kstar (Call.libraryTurn id)
      have hle : Call.libraryTurn id * (Call.libraryTurn id)∗ ≤ (Call.libraryTurn id)∗ :=
        mul_kstar_le_kstar
      refine ((r.asks_libraryRound id desired p).bind (fun x => ?_) hnil).mono fun w hw => hle hw
      cases x with
      | none => exact asks_pure () hnil
      | some q => exact ih q
  exact hrounds _ _

theorem asks_finishLibraries (o : List LibraryStatus) :
    Asks (r.finishLibraries id desired o) (Call.libraryTurn id)∗ := by
  have hnil := Language.nil_mem_kstar (Call.libraryTurn id)
  have hget : Asks (get : Run σ (Session σ)) 1 :=
    asks_of_exec (fun _ => rfl) Language.nil_mem_one
  have hcurrent : Asks (r.currentLibraries id o) 1 := by
    refine hget.bind_reads fun s => .ite (asks_pure o Language.nil_mem_one) ?_
    exact asks_reads (r.madeOf_fetchLibraries _ rfl)
  refine hget.after_reads (fun s => .ite ?_ (asks_pure () hnil)) hnil
  exact hcurrent.after_reads (r.asks_convergeLibraries id desired) hnil

end Libraries

variable (desired : Desired)

theorem asks_equip (libraries : List Library) :
    Asks (r.equip id libraries) (Call.libraryTurn id)∗ := by
  have hnil := Language.nil_mem_kstar (Call.libraryTurn id)
  have hwait : Asks (r.waitRunning .create id) 1 :=
    asks_reads (r.madeOf.waitRunning _ rfl)
  refine hwait.after_reads (fun _ => .ite ?_ (asks_pure () hnil)) hnil
  exact r.asks_convergeLibraries id libraries []

theorem asks_changeAndWait (action : Action) (stage : Stage) {c : Call} (hc : c.isMutation = true) :
    Asks (do
      r.mutate action stage c
      let _ ← r.waitRunning stage id) (Call.atMostOne (· = c)) := by
  have hwait : Asks (r.waitRunning stage id) 1 :=
    asks_reads (r.madeOf.waitRunning _ rfl)
  have hchange : Asks (r.mutate action stage c) (Call.atMostOne (· = c)) :=
    r.asks_mutate action stage hc rfl
  exact hchange.bind_reads fun _ => hwait.bind_reads fun _ => asks_pure () Language.nil_mem_one

theorem asks_adjust (o : Observed) :
    Asks (r.adjust id desired o) (Call.updateOrder id desired.cluster) := by
  have hlibs := Language.nil_mem_kstar (Call.libraryTurn id)
  have hedits := Call.nil_mem_mul
    (Call.nil_mem_atMostOne (· = .editCluster id desired.cluster)) hlibs
  refine Asks.bind ?start (fun _ => Asks.bind ?edit (fun _ => ?_) hlibs) hedits
  case start =>
    exact .ite (r.asks_changeAndWait id _ _ rfl) (asks_pure () (Call.nil_mem_atMostOne _))
  case edit =>
    exact .ite (r.asks_changeAndWait id _ _ rfl) (asks_pure () (Call.nil_mem_atMostOne _))
  exact r.asks_finishLibraries id desired.libraries o.libraries

theorem asks_update : Asks (r.update id desired) (Call.updateOrder id desired.cluster) := by
  have hnil := Call.nil_mem_updateOrder id desired.cluster
  have hvalidate : Asks (validate desired : Run σ Unit) 1 :=
    asks_reads (r.madeOf.validate desired)
  have hinspect : Asks (r.inspect id) 1 := asks_reads (r.madeOf.inspect id rfl rfl)
  refine hvalidate.after_reads (fun _ => ?_) hnil
  exact hinspect.after_reads (r.asks_adjust id desired) hnil

theorem asks_purge : Asks (r.purge id) (Call.deletionOrder id) := by
  have hpurge := Call.nil_mem_atMostOne (· = .permanentDeleteCluster id)
  have hread : Asks (r.readSettled id) 1 := asks_reads (r.madeOf.readSettled id rfl)
  have hdown : ∀ phase, Asks (r.bringDown id phase) (Call.atMostOne (· = .deleteCluster id)) := by
    intro phase
    refine .ite (asks_pure true (Call.nil_mem_atMostOne _)) ?_
    have hdelete : Asks (r.mutate .delete .delete (.deleteCluster id))
        (Call.atMostOne (· = .deleteCluster id)) := r.asks_mutate _ _ rfl rfl
    exact hdelete.bind_reads fun _ => asks_reads (r.madeOf_waitTerminated rfl)
  have hterminate : Asks (r.terminate id) (Call.deletionOrder id) := by
    refine hread.after_reads (fun info => ?_) (Call.nil_mem_mul (Call.nil_mem_atMostOne _) hpurge)
    refine (hdown info.phase).bind (fun there => ?_) hpurge
    cases there with
    | true =>
      exact r.asks_mutate .permanentDelete .delete (c := .permanentDeleteCluster id) rfl rfl
    | false => exact asks_pure () hpurge
  refine hterminate.tryCatch fun h => ?_
  split_ifs
  · exact asks_pure () Language.nil_mem_one
  · exact asks_of_exec (fun _ => rfl) Language.nil_mem_one

end Reconciler
end ClusterReconciliation
