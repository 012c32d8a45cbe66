import ClusterReconciliation.Dict
import ClusterReconciliation.Simulation.Scene

/-! Answers from scripts: one cue after the other, and the last one over and over. -/
namespace ClusterReconciliation

structure Cue (α : Type) where
  content : α
  takes : Duration := 0
  /-- The cue cancels what it is a part of. -/
  cancels : Bool := false

namespace Cue
variable {α τ : Type}

def next : List (Cue α) → Option (Cue α × List (Cue α))
  | [] => none
  | [c] => some (c, [c])
  | c :: rest => some (c, rest)

def play (c : Cue α) (s : Scene τ) : Scene τ :=
  let s := if c.takes = 0 then s else s.pass c.takes
  if c.cancels then s.cancel else s

end Cue

structure Script where
  /-- The cues by method; those that were played are gone, but for a last one. -/
  cues : Dict (List (Cue ((c : Call) → Except ClientError c.Reply))) := ∅
  /-- How many more calls are answered from the script. -/
  callsLeft : Nat

namespace Script

def unscripted (method : String) : ClientError := .api 500 "UNSCRIPTED" method

def exhausted : ClientError := .auth 599 "call limit reached"

def answer (c : Call) (s : Scene Script) : Except ClientError c.Reply × Scene Script :=
  match s.state.callsLeft with
  | 0 => (.error exhausted, s)
  | n + 1 =>
    let script := { s.state with callsLeft := n }
    match Cue.next ((script.cues.get? c.method).getD []) with
    | none => (.error (unscripted c.method), { s with state := script })
    | some (cue, rest) =>
      let script := { script with cues := script.cues.insert c.method rest }
      (cue.content c, cue.play { s with state := script })

def world : World (Scene Script) := ⟨Scene.clock, answer⟩

end Script

/-- A wait whose fetches come from a script: each fails, or says what is to be decided. -/
structure Rehearsal (α : Type) where
  cues : List (Cue (Except ClientError (Except String (Check α))))
  /-- The instants at which fetches began. -/
  fetches : List Duration := []
  /-- The number of fetches at each decision. -/
  decisions : List Nat := []

namespace Rehearsal
variable {α : Type}

def fetch (s : Scene (Rehearsal α)) :
    Except ClientError (Except String (Check α)) × Scene (Rehearsal α) :=
  let r := { s.state with fetches := s.state.fetches ++ [s.now] }
  match Cue.next r.cues with
  | none => (.error (.transport "the script is empty"), { s with state := r })
  | some (cue, rest) => (cue.content, cue.play { s with state := { r with cues := rest } })

/-- A failure that reaches the decision rejects, and so does a great number of fetches. -/
def decide (limit : Nat) (answer : Except ClientError (Except String (Check α)))
    (s : Scene (Rehearsal α)) : Except String (Check α) × Scene (Rehearsal α) :=
  let n := s.state.fetches.length
  (if limit ≤ n then .error "attempt limit reached"
    else match answer with
      | .error e => .error e.message
      | .ok verdict => verdict,
    { s with state := { s.state with decisions := s.state.decisions ++ [n] } })

def watch (what : String) (limit : Nat) :
    Watch (Scene (Rehearsal α)) (Except String (Check α)) α String :=
  ⟨what, fetch, decide limit⟩

end Rehearsal
end ClusterReconciliation
