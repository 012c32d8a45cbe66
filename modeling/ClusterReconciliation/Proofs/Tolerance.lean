import ClusterReconciliation.Proofs.Lockstep

/-! What a wait makes of a connection that fails. A failure is no answer: the decision is not asked
on it, and only a row of failures that is longer than the budget ends the wait. The log of a wait
says what was fetched, and what the decision was asked on and said. -/
namespace ClusterReconciliation

/-- Nothing was heard from the other side, or nothing that could be read. -/
def isLost {β : Type} : Except ClientError β → Bool
  | .error (.transport _) => true
  | .error (.parse _) => true
  | _ => false

theorem isLost_error {β : Type} (e : ClientError) :
    isLost (.error e : Except ClientError β) = e.isTransient := by
  cases e <;> rfl

section
variable {β : Type} {budget : Nat} {answers : List (Except ClientError β)} {e : ClientError}

/-- Every row of failures is within the budget. -/
def Within (budget : Nat) (answers : List (Except ClientError β)) : Prop :=
  ∀ row, row <:+: answers → (∀ a ∈ row, isLost a = true) → row.length ≤ budget

/-- The answers end with one more failure in a row than the budget has, and `e` is the last. -/
def Exceeds (budget : Nat) (answers : List (Except ClientError β)) (e : ClientError) : Prop :=
  ∃ before row, answers = before ++ row ++ [.error e] ∧ row.length = budget ∧
    ∀ a ∈ row ++ [.error e], isLost a = true

theorem Exceeds.not_within (h : Exceeds budget answers e) : ¬Within budget answers := by
  intro hwithin
  obtain ⟨before, row, rfl, hlen, hrow⟩ := h
  have hle := hwithin (row ++ [.error e]) ⟨before, [], by simp⟩ hrow
  rw [List.length_append, hlen] at hle
  exact absurd hle (Nat.not_succ_le_self budget)

theorem Exceeds.last_eq {e' : ClientError} (h : Exceeds budget answers e)
    (h' : Exceeds budget answers e') : e = e' := by
  obtain ⟨_, _, hlog, -, -⟩ := h
  obtain ⟨_, _, hlog', -, -⟩ := h'
  obtain ⟨-, hlast⟩ := List.append_inj' (hlog.symm.trans hlog') rfl
  cases hlast
  rfl

end

inductive Exchange (β α ε : Type)
  | fetched (answer : Except ClientError β)
  | asked (answer : Except ClientError β) (verdict : Except ε (Check α))

namespace Exchange
variable {β α ε : Type}

def answer? : Exchange β α ε → Option (Except ClientError β)
  | fetched answer => some answer
  | asked .. => none

def question? : Exchange β α ε → Option (Except ClientError β)
  | fetched _ => none
  | asked answer _ => some answer

/-- What was fetched. -/
def answers (log : List (Exchange β α ε)) : List (Except ClientError β) := log.filterMap answer?

/-- What the decision was asked on. -/
def questions (log : List (Exchange β α ε)) : List (Except ClientError β) :=
  log.filterMap question?

section
variable (log more : List (Exchange β α ε)) (answer : Except ClientError β)
  (verdict : Except ε (Check α))

@[simp] theorem answers_nil : answers ([] : List (Exchange β α ε)) = [] := rfl

@[simp] theorem answers_append : answers (log ++ more) = answers log ++ answers more :=
  List.filterMap_append

@[simp] theorem answers_fetched : answers [(fetched answer : Exchange β α ε)] = [answer] := rfl

@[simp] theorem answers_asked : answers [fetched answer, asked answer verdict] = [answer] := rfl

@[simp] theorem questions_nil : questions ([] : List (Exchange β α ε)) = [] := rfl

@[simp] theorem questions_append : questions (log ++ more) = questions log ++ questions more :=
  List.filterMap_append

@[simp] theorem questions_fetched : questions [(fetched answer : Exchange β α ε)] = [] := rfl

@[simp] theorem questions_asked : questions [fetched answer, asked answer verdict] = [answer] := rfl

end

/-- The log of a wait that goes on, with the failures in a row at its end. -/
inductive Endured (budget : Nat) : Nat → List (Exchange β α ε) → Prop
  | start : Endured budget 0 []
  | again {failures : Nat} {log : List (Exchange β α ε)} {answer : Except ClientError β}
    (h : Endured budget failures log) (ha : isLost answer = false) :
    Endured budget 0 (log ++ [fetched answer, asked answer (.ok .again)])
  | tolerated {failures : Nat} {log : List (Exchange β α ε)} {e : ClientError}
    (h : Endured budget failures log) (he : isLost (.error e : Except ClientError β) = true)
    (hle : failures + 1 ≤ budget) :
    Endured budget (failures + 1) (log ++ [fetched (.error e)])

namespace Endured
variable {budget failures : Nat} {log : List (Exchange β α ε)}

theorem failures_le (h : Endured budget failures log) : failures ≤ budget := by
  cases h with
  | start => exact Nat.zero_le _
  | again => exact Nat.zero_le _
  | tolerated _ _ hle => exact hle

/-- The decision is asked on all that is heard, in its order. -/
theorem questions_eq (h : Endured budget failures log) :
    questions log = (answers log).filter fun a => !isLost a := by
  induction h with
  | start => rfl
  | again _ ha ih => simp [ih, ha]
  | tolerated _ he _ ih => simp [ih, he]

/-- The failures at the end of the log. -/
theorem exists_row (h : Endured budget failures log) :
    ∃ before row, answers log = before ++ row ∧ row.length = failures ∧
      ∀ a ∈ row, isLost a = true := by
  induction h with
  | start => exact ⟨[], [], rfl, rfl, by simp⟩
  | @again _ log answer h ha ih => exact ⟨answers log ++ [answer], [], by simp, rfl, by simp⟩
  | @tolerated _ log e h he _ ih =>
    obtain ⟨before, row, hlog, hlen, hrow⟩ := ih
    refine ⟨before, row ++ [.error e], ?_, ?_, ?_⟩
    · simp [hlog]
    · simp [hlen]
    · intro a ha
      rcases List.mem_append.1 ha with ha | ha
      · exact hrow a ha
      · obtain rfl := List.mem_singleton.1 ha
        exact he

/-- There are no more failures at the end of the log. -/
theorem length_le_of_suffix (h : Endured budget failures log) {row : List (Except ClientError β)}
    (hrow : row <:+ answers log) (hlost : ∀ a ∈ row, isLost a = true) : row.length ≤ failures := by
  induction h generalizing row with
  | start =>
    rw [answers_nil, List.suffix_nil] at hrow
    simp [hrow]
  | @again _ log answer _ ha _ =>
    rw [answers_append, answers_asked, List.suffix_concat_iff] at hrow
    rcases hrow with rfl | ⟨row', rfl, -⟩
    · exact Nat.zero_le _
    · have hanswer := hlost answer (by simp)
      rw [ha] at hanswer
      cases hanswer
  | tolerated _ _ _ ih =>
    rw [answers_append, answers_fetched, List.suffix_concat_iff] at hrow
    rcases hrow with rfl | ⟨row', rfl, hrow'⟩
    · exact Nat.zero_le _
    · rw [List.length_append, List.length_singleton]
      exact Nat.succ_le_succ (ih hrow' fun a ha => hlost a (by simp [ha]))

theorem within (h : Endured budget failures log) : Within budget (answers log) := by
  induction h with
  | start =>
    intro row hrow _
    rw [answers_nil, List.infix_nil] at hrow
    simp [hrow]
  | @again _ log answer h ha ih =>
    intro row hrow hlost
    rw [answers_append, answers_asked, List.infix_concat_iff] at hrow
    rcases hrow with hrow | hrow
    · have hend : row <:+ answers (log ++ [fetched answer, asked answer (.ok .again)]) := by
        simpa using hrow
      exact ((h.again ha).length_le_of_suffix hend hlost).trans (Nat.zero_le _)
    · exact ih row hrow hlost
  | @tolerated _ log e h he hle ih =>
    intro row hrow hlost
    rw [answers_append, answers_fetched, List.infix_concat_iff] at hrow
    rcases hrow with hrow | hrow
    · have hend : row <:+ answers (log ++ [fetched (.error e)]) := by simpa using hrow
      exact ((h.tolerated he hle).length_le_of_suffix hend hlost).trans hle
    · exact ih row hrow hlost

/-- One more failure than the budget has. -/
theorem exceeds (h : Endured budget budget log) {e : ClientError}
    (he : isLost (.error e : Except ClientError β) = true) :
    Exceeds budget (answers log ++ [.error e]) e := by
  obtain ⟨before, row, hlog, hlen, hrow⟩ := h.exists_row
  refine ⟨before, row, by rw [hlog], hlen, fun a ha => ?_⟩
  rcases List.mem_append.1 ha with ha | ha
  · exact hrow a ha
  · obtain rfl := List.mem_singleton.1 ha
    exact he

end Endured

/-- What a fetch comes to after so many failures in a row, and what is logged of it. -/
inductive Heard (budget failures : Nat) : Ending α ε ⊕ Nat → List (Exchange β α ε) → Prop
  | done {answer : Except ClientError β} (ha : isLost answer = false) (a : α) :
    Heard budget failures (.inl (.done a)) [fetched answer, asked answer (.ok (.done a))]
  | rejected {answer : Except ClientError β} (ha : isLost answer = false) (e : ε) :
    Heard budget failures (.inl (.rejected e)) [fetched answer, asked answer (.error e)]
  | again {answer : Except ClientError β} (ha : isLost answer = false) :
    Heard budget failures (.inr 0) [fetched answer, asked answer (.ok .again)]
  | exhausted {e : ClientError} (he : isLost (.error e : Except ClientError β) = true)
    (hlt : budget < failures + 1) :
    Heard budget failures (.inl (.stopped (.client e))) [fetched (.error e)]
  | tolerated {e : ClientError} (he : isLost (.error e : Except ClientError β) = true)
    (hle : failures + 1 ≤ budget) :
    Heard budget failures (.inr (failures + 1)) [fetched (.error e)]

section
variable {σ : Type}

/-- How a wait ends and what its log is then. The fuel is the greatest number of fetches. -/
inductive Ends (clock : Clock σ) (config : PollConfig) (fuel : Nat) (start : σ) :
    Ending α ε → σ → List (Exchange β α ε) → Prop
  | done {failures : Nat} {s : σ} {log : List (Exchange β α ε)} {answer : Except ClientError β}
    (h : Endured config.maxTransientErrors failures log) (ha : isLost answer = false) (a : α) :
    Ends clock config fuel start (.done a) s
      (log ++ [fetched answer, asked answer (.ok (.done a))])
  | rejected {failures : Nat} {s : σ} {log : List (Exchange β α ε)}
    {answer : Except ClientError β} (h : Endured config.maxTransientErrors failures log)
    (ha : isLost answer = false) (e : ε) :
    Ends clock config fuel start (.rejected e) s (log ++ [fetched answer, asked answer (.error e)])
  | exhausted {s : σ} {log : List (Exchange β α ε)} {e : ClientError}
    (h : Endured config.maxTransientErrors config.maxTransientErrors log)
    (he : isLost (.error e : Except ClientError β) = true) :
    Ends clock config fuel start (.stopped (.client e)) s (log ++ [fetched (.error e)])
  | late {failures : Nat} {s : σ} {log : List (Exchange β α ε)} {deadline : Duration}
    (h : Endured config.maxTransientErrors failures log) (what : String) (elapsed : Duration)
    (hd : config.deadline (clock.now start) = some deadline) (hs : deadline ≤ clock.now s) :
    Ends clock config fuel start (.stopped (.timeout what elapsed)) s log
  | cancelled {failures : Nat} {s : σ} {log : List (Exchange β α ε)}
    (h : Endured config.maxTransientErrors failures log) (what : String)
    (hs : clock.isCancelled s = true) :
    Ends clock config fuel start (.stopped (.cancelled what)) s log
  | unfinished {failures : Nat} {s : σ} {log : List (Exchange β α ε)}
    (h : Endured config.maxTransientErrors failures log) (hlen : (answers log).length = fuel) :
    Ends clock config fuel start .unfinished s log

end

namespace Heard
variable {budget failures : Nat} {log seen : List (Exchange β α ε)}

theorem length_answers {x : Ending α ε ⊕ Nat} (h : Heard budget failures x seen) :
    (answers seen).length = 1 := by
  cases h <;> rfl

theorem endured {n : Nat} (h : Heard budget failures (.inr n) seen)
    (hlog : Endured budget failures log) : Endured budget n (log ++ seen) := by
  cases h with
  | again ha => exact hlog.again ha
  | tolerated he hle => exact hlog.tolerated he hle

theorem ends {σ : Type} {clock : Clock σ} {config : PollConfig} {start : σ} {ending : Ending α ε}
    (h : Heard config.maxTransientErrors failures (.inl ending) seen)
    (hlog : Endured config.maxTransientErrors failures log) (fuel : Nat) (s : σ) :
    Ends clock config fuel start ending s (log ++ seen) := by
  cases h with
  | done ha a => exact .done hlog ha a
  | rejected ha e => exact .rejected hlog ha e
  | exhausted he hlt =>
    obtain rfl := hlog.failures_le.antisymm (Nat.le_of_lt_succ hlt)
    exact .exhausted hlog he

end Heard

section
variable {σ : Type} {clock : Clock σ} {config : PollConfig} {fuel : Nat} {start s : σ}
  {ending : Ending α ε} {log : List (Exchange β α ε)}

/-- What a failing connection does to a wait. The decision is asked on all that is heard and on
nothing else. The wait ends for its failures exactly when there is one more of them in a row than
the budget has; while their rows are within the budget, it goes on unless something else ends it. -/
structure Tolerant (clock : Clock σ) (config : PollConfig) (fuel : Nat) (start : σ)
    (ending : Ending α ε) (s : σ) (log : List (Exchange β α ε)) : Prop where
  ends : Ends clock config fuel start ending s log
  questions : Exchange.questions log = (answers log).filter fun a => !isLost a
  exhausted : ∀ e, ending = .stopped (.client e) ↔
    Exceeds config.maxTransientErrors (answers log) e
  within : (∀ e, ending ≠ .stopped (.client e)) ↔ Within config.maxTransientErrors (answers log)
  goesOn : Within config.maxTransientErrors (answers log) →
    (∀ answer verdict, asked answer verdict ∈ log → verdict = .ok .again) →
    config.deadline (clock.now start) = none → (∀ u, clock.isCancelled u = false) →
      ending = .unfinished ∧ (answers log).length = fuel

namespace Ends

theorem questions_eq (h : Ends clock config fuel start ending s log) :
    questions log = (answers log).filter fun a => !isLost a := by
  cases h with
  | done h ha a => simp [h.questions_eq, ha]
  | rejected h ha e => simp [h.questions_eq, ha]
  | exhausted h he => simp [h.questions_eq, he]
  | late h => exact h.questions_eq
  | cancelled h => exact h.questions_eq
  | unfinished h => exact h.questions_eq

theorem within_or_exceeds (h : Ends clock config fuel start ending s log) :
    (∀ e, ending ≠ .stopped (.client e)) ∧ Within config.maxTransientErrors (answers log) ∨
      ∃ e, ending = .stopped (.client e) ∧ Exceeds config.maxTransientErrors (answers log) e := by
  cases h with
  | @done _ _ log answer h ha a =>
    -- What was heard last does not depend on what was made of it.
    have hwithin := (h.again ha).within
    rw [answers_append, answers_asked] at hwithin ⊢
    exact .inl ⟨by simp, hwithin⟩
  | @rejected _ _ log answer h ha e =>
    have hwithin := (h.again ha).within
    rw [answers_append, answers_asked] at hwithin ⊢
    exact .inl ⟨by simp, hwithin⟩
  | exhausted h he => exact .inr ⟨_, rfl, by simpa using h.exceeds he⟩
  | late h => exact .inl ⟨by simp, h.within⟩
  | cancelled h => exact .inl ⟨by simp, h.within⟩
  | unfinished h => exact .inl ⟨by simp, h.within⟩

theorem exhausted_iff (h : Ends clock config fuel start ending s log) (e : ClientError) :
    ending = .stopped (.client e) ↔ Exceeds config.maxTransientErrors (answers log) e := by
  rcases h.within_or_exceeds with ⟨hne, hwithin⟩ | ⟨e', rfl, hexceeds⟩
  · exact ⟨fun he => absurd he (hne e), fun he => absurd hwithin he.not_within⟩
  · constructor
    · intro he
      cases he
      exact hexceeds
    · intro he
      rw [hexceeds.last_eq he]

theorem within_iff (h : Ends clock config fuel start ending s log) :
    (∀ e, ending ≠ .stopped (.client e)) ↔ Within config.maxTransientErrors (answers log) := by
  rcases h.within_or_exceeds with ⟨hne, hwithin⟩ | ⟨e, rfl, hexceeds⟩
  · exact ⟨fun _ => hwithin, fun _ => hne⟩
  · exact ⟨fun hne => absurd rfl (hne e), fun hwithin => absurd hwithin hexceeds.not_within⟩

theorem goesOn (h : Ends clock config fuel start ending s log)
    (hwithin : Within config.maxTransientErrors (answers log))
    (hagain : ∀ answer verdict, asked answer verdict ∈ log → verdict = .ok .again)
    (hdeadline : config.deadline (clock.now start) = none)
    (hcancel : ∀ u, clock.isCancelled u = false) :
    ending = .unfinished ∧ (answers log).length = fuel := by
  have hne := h.within_iff.2 hwithin
  cases h with
  | @done _ _ _ answer _ _ a => cases hagain answer (.ok (.done a)) (by simp)
  | @rejected _ _ _ answer _ _ e => cases hagain answer (.error e) (by simp)
  | exhausted => exact absurd rfl (hne _)
  | late _ _ _ hd =>
    rw [hdeadline] at hd
    cases hd
  | cancelled _ _ hs =>
    rw [hcancel] at hs
    cases hs
  | unfinished _ hlen => exact ⟨rfl, hlen⟩

theorem tolerant (h : Ends clock config fuel start ending s log) :
    Tolerant clock config fuel start ending s log where
  ends := h
  questions := h.questions_eq
  exhausted := h.exhausted_iff
  within := h.within_iff
  goesOn := h.goesOn

end Ends

end

end Exchange

theorem PollConfig.pause_eq_none {c : PollConfig} {started now delay : Duration} :
    c.pause started now delay = none ↔ ∃ deadline, c.deadline started = some deadline ∧
      deadline ≤ now := by
  unfold pause
  cases c.deadline started <;> simp

open Exchange

/-- A clock beside which a log is kept. -/
def Clock.logged {σ β α ε : Type} (clock : Clock σ) : Clock (σ × List (Exchange β α ε)) where
  now x := clock.now x.1
  sleep d x := (clock.sleep d x.1, x.2)
  isCancelled x := clock.isCancelled x.1

namespace Watch
variable {σ β α ε : Type}

/-- A watch whose fetches and questions are logged. -/
def logged (w : Watch σ β α ε) : Watch (σ × List (Exchange β α ε)) β α ε where
  what := w.what
  fetch x := ((w.fetch x.1).1, (w.fetch x.1).2, x.2 ++ [.fetched (w.fetch x.1).1])
  decide answer x :=
    ((w.decide answer x.1).1, (w.decide answer x.1).2,
      x.2 ++ [.asked answer (w.decide answer x.1).1])

variable {w : Watch σ β α ε} {clock : Clock σ}

/-- It makes no difference to a wait that it is logged. -/
theorem run_eq_logged (w : Watch σ β α ε) (clock : Clock σ) (config : PollConfig) (fuel : Nat)
    (s : σ) (log : List (Exchange β α ε)) :
    w.run clock config fuel s =
      ((w.logged.run clock.logged config fuel (s, log)).1,
        (w.logged.run clock.logged config fuel (s, log)).2.1) :=
  w.runWith_recording clock (fun answer log => log ++ [fetched answer])
    (fun answer verdict log => log ++ [asked answer verdict]) (fun _ _ log => log) Duration.scale
    config fuel s log

/-- The decision is asked on what is heard. -/
theorem judge_logged {answer : Except ClientError β} (ha : isLost answer = false)
    (budget failures : Nat) (s : σ) (log : List (Exchange β α ε)) :
    ∃ x u seen, w.logged.judge answer (s, log ++ [.fetched answer]) = (x, u, log ++ seen) ∧
      Heard budget failures x seen := by
  simp only [Watch.judge, logged, List.append_assoc, List.singleton_append]
  match w.decide answer s with
  | (.ok (.done a), u) => exact ⟨_, u, _, rfl, .done ha a⟩
  | (.ok .again, u) => exact ⟨_, u, _, rfl, .again ha⟩
  | (.error e, u) => exact ⟨_, u, _, rfl, .rejected ha e⟩

theorem weigh_logged (w : Watch σ β α ε) (budget failures : Nat) (s : σ)
    (log : List (Exchange β α ε)) :
    ∃ x u seen, w.logged.weigh budget failures (w.logged.fetch (s, log)).1
        (w.logged.fetch (s, log)).2 = (x, u, log ++ seen) ∧ Heard budget failures x seen := by
  simp only [logged]
  cases hf : (w.fetch s).1 with
  | ok b => exact judge_logged rfl budget failures (w.fetch s).2 log
  | error e =>
    simp only [Watch.weigh]
    rw [← isLost_error]
    split_ifs with ht hlt
    · exact ⟨_, _, _, rfl, .exhausted ht hlt⟩
    · exact ⟨_, _, _, rfl, .tolerated ht (Nat.le_of_not_lt hlt)⟩
    · exact judge_logged (by simpa using ht) budget failures (w.fetch s).2 log

theorem loop_ends (w : Watch σ β α ε) (clock : Clock σ)
    (scale : Decimal.Double → Duration → Option Duration)
    (config : PollConfig) (start : σ) {total : Nat} (fuel : Nat) (delay : Duration)
    {failures : Nat} {s : σ} {log : List (Exchange β α ε)}
    (h : Endured config.maxTransientErrors failures log)
    (hlen : (answers log).length + fuel = total) :
    ∃ ending u more,
      w.logged.loop scale clock.logged config (clock.now start) fuel delay failures (s, log) =
        (ending, u, more) ∧ Ends clock config total start ending u more := by
  induction fuel generalizing delay failures s log with
  | zero => exact ⟨_, _, _, rfl, .unfinished h hlen⟩
  | succ fuel ih =>
    obtain ⟨x, u, seen, hx, hseen⟩ := weigh_logged w config.maxTransientErrors failures s log
    simp only [Watch.loop, Watch.step, Clock.logged, hx]
    cases hc : clock.isCancelled s with
    | true => exact ⟨_, _, _, rfl, .cancelled h _ hc⟩
    | false =>
      cases x with
      | inl ending => exact ⟨ending, u, _, rfl, hseen.ends h total u⟩
      | inr n =>
        have hmore := hseen.endured h
        simp only [Bool.false_eq_true, if_false]
        cases hp : config.pause (clock.now start) (clock.now u) delay with
        | none =>
          obtain ⟨deadline, hd, hs⟩ := PollConfig.pause_eq_none.1 hp
          exact ⟨_, u, _, rfl, .late hmore _ _ hd hs⟩
        | some d =>
          refine ih _ hmore ?_
          rw [answers_append, List.length_append, hseen.length_answers]
          omega

/-- Failures of the connection are tolerated in rows within the budget, and only in those. -/
theorem run_tolerant (w : Watch σ β α ε) (clock : Clock σ) (config : PollConfig) (fuel : Nat)
    (s : σ) :
    ∃ ending u log, w.logged.run clock.logged config fuel (s, []) = (ending, u, log) ∧
      w.run clock config fuel s = (ending, u) ∧ Tolerant clock config fuel s ending u log := by
  obtain ⟨ending, u, log, hrun, hends⟩ :=
    loop_ends w clock Duration.scale config s fuel config.firstDelay .start
      (Nat.zero_add fuel)
  change w.logged.run clock.logged config fuel (s, []) = _ at hrun
  refine ⟨ending, u, log, hrun, ?_, hends.tolerant⟩
  rw [run_eq_logged w clock config fuel s [], hrun]

end Watch
end ClusterReconciliation
