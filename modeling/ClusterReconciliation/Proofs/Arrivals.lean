import ClusterReconciliation.Proofs.Transitions

/-! Whatever a simulation has set in motion comes to rest. Each time it is looked at it has one look
less to wait for, and no change, whatever it interrupts, makes it wait for more looks than a
transition takes. -/
namespace ClusterReconciliation

namespace SimulatedLibrary
variable {l : SimulatedLibrary} {polls : Nat}

/-- How many looks there are before it is at rest. -/
def remaining (l : SimulatedLibrary) : Nat := if l.IsAtRest then 0 else l.pollsLeft + 1

theorem remaining_eq_zero : l.remaining = 0 ↔ l.IsAtRest := by
  unfold remaining
  split_ifs with h <;> simp [h]

theorem remaining_observe (l : SimulatedLibrary) : l.observe.remaining = l.remaining - 1 := by
  by_cases h : l.IsAtRest
  · rw [h.observe_eq, remaining_eq_zero.2 h]
  · have hs : ¬l.reported.status = l.goal := h
    rw [remaining, remaining, if_neg h, Nat.add_sub_cancel]
    by_cases hz : l.pollsLeft = 0
    · have hr : l.observe.IsAtRest := by simp [observe, settled, IsAtRest, hs, hz]
      rw [if_pos hr, hz]
    · have ho : l.observe = { l with pollsLeft := l.pollsLeft - 1 } := by simp [observe, hs, hz]
      have hn : ¬l.observe.IsAtRest := by rwa [ho]
      rw [if_neg hn, ho]
      exact Nat.sub_add_cancel (Nat.pos_of_ne_zero hz)

/-- It is at rest after so many looks at most, as an installation that works or fails. -/
structure Timely (polls : Nat) (l : SimulatedLibrary) : Prop where
  remaining : l.remaining ≤ polls
  goal : ¬l.IsAtRest → l.goal = .installed ∨ l.goal = .failed

theorem IsAtRest.timely (h : l.IsAtRest) (polls : Nat) : l.Timely polls :=
  ⟨(remaining_eq_zero.2 h).trans_le polls.zero_le, fun hn => (hn h).elim⟩

theorem Timely.observe (h : l.Timely polls) : l.observe.Timely polls where
  remaining := (remaining_observe _).trans_le ((Nat.sub_le _ _).trans h.remaining)
  goal hn := by
    rw [observe_goal]
    exact h.goal fun hr => hn (hr.observe_eq.symm ▸ hr)

theorem submitted_timely (k : Library) {goal : InstallStatus}
    (hg : goal = .installed ∨ goal = .failed) (polls : Nat) :
    (submitted k goal polls).Timely polls where
  remaining := by
    unfold SimulatedLibrary.remaining
    split_ifs with hr
    · exact polls.zero_le
    · have hz : polls ≠ 0 := fun hz => hr (by simp [submitted, IsAtRest, hz])
      exact (Nat.sub_add_cancel (Nat.pos_of_ne_zero hz)).le
  goal _ := hg

end SimulatedLibrary

namespace SimulatedCluster
variable {c : SimulatedCluster} {polls : Nat}

/-- How many looks there are before it has arrived. -/
def remaining (c : SimulatedCluster) : Nat := if c.info.phase = c.goal then 0 else c.pollsLeft + 1

theorem remaining_eq_zero : c.remaining = 0 ↔ c.info.phase = c.goal := by
  unfold remaining
  split_ifs with h <;> simp [h]

@[simp] theorem observe_goal (c : SimulatedCluster) : c.observe.goal = c.goal := by
  unfold observe
  split_ifs <;> rfl

@[simp] theorem observe_libraries (c : SimulatedCluster) : c.observe.libraries = c.libraries := by
  unfold observe
  split_ifs <;> rfl

theorem remaining_observe (c : SimulatedCluster) : c.observe.remaining = c.remaining - 1 := by
  by_cases h : c.info.phase = c.goal
  · have ho : c.observe = c := if_pos h
    rw [ho, remaining_eq_zero.2 h]
  · by_cases hz : c.pollsLeft = 0
    · simp [remaining, observe, h, hz]
    · simp only [remaining, observe, h, hz, if_false]
      omega

theorem remaining_depart_le (c : SimulatedCluster) (via goal : Phase) (polls : Nat) :
    (c.depart via goal polls).remaining ≤ polls := by
  unfold remaining
  split_ifs with h
  · exact polls.zero_le
  · have hz : polls ≠ 0 := fun hz => h (by simp [depart, hz])
    exact (Nat.sub_add_cancel (Nat.pos_of_ne_zero hz)).le

/-- The cluster and its libraries are at rest after so many looks at most. -/
structure Timely (polls : Nat) (c : SimulatedCluster) : Prop where
  remaining : c.remaining ≤ polls
  libraries : ∀ l ∈ c.libraries, l.Timely polls

theorem Timely.atRest (polls : Nat) (info : Cluster.Info) (libraries : List LibraryStatus) :
    (SimulatedCluster.atRest info libraries).Timely polls where
  remaining := (remaining_eq_zero.2 rfl).trans_le polls.zero_le
  libraries l hl := by
    obtain ⟨s, -, rfl⟩ := List.mem_map.1 hl
    exact (show (SimulatedLibrary.atRest s).IsAtRest from rfl).timely polls

theorem Timely.rest (h : c.Timely polls) (phase : Phase) : (c.rest phase).Timely polls where
  remaining := (remaining_eq_zero.2 rfl).trans_le polls.zero_le
  libraries := h.libraries

theorem Timely.observe (h : c.Timely polls) : c.observe.Timely polls where
  remaining := (remaining_observe _).trans_le ((Nat.sub_le _ _).trans h.remaining)
  libraries := by simpa using h.libraries

/-- A departure does not depend on what it interrupts. -/
theorem depart_timely (h : ∀ l ∈ c.libraries, l.Timely polls) (via goal : Phase) :
    (c.depart via goal polls).Timely polls := ⟨c.remaining_depart_le via goal polls, h⟩

theorem Timely.mapLibraries (h : c.Timely polls) {f : SimulatedLibrary → SimulatedLibrary}
    (hf : ∀ l, l.Timely polls → (f l).Timely polls) :
    Timely polls { c with libraries := c.libraries.map f } where
  remaining := h.remaining
  libraries l hl := by
    obtain ⟨m, hm, rfl⟩ := List.mem_map.1 hl
    exact hf m (h.libraries m hm)

theorem Timely.remove (h : c.Timely polls) (ls : List Library) : (c.remove ls).Timely polls := by
  refine h.mapLibraries fun l hl => ?_
  split_ifs
  · exact (show l.remove.IsAtRest from rfl).timely polls
  · exact hl

end SimulatedCluster

theorem View.submitAll_timely {v : View} (h : ∀ l ∈ v.cluster.libraries, l.Timely v.polls)
    (ls : List Library) : ∀ l ∈ (v.submitAll ls).cluster.libraries, l.Timely v.polls := by
  induction ls generalizing v with
  | nil => exact h
  | cons k ls ih =>
    refine ih (v := v.submit k) fun l hl => ?_
    rcases List.mem_append.1 hl with hl | hl
    · exact h l (List.mem_filter.1 hl).1
    · rw [List.mem_singleton.1 hl]
      refine SimulatedLibrary.submitted_timely k ?_ v.polls
      split_ifs
      · exact .inl rfl
      · exact .inr rfl

theorem Call.Makes.timely {polls : Nat} {id : String} {c : Call} {x : Option SimulatedCluster}
    {d : SimulatedCluster} (h : c.Makes polls id x (some d))
    (hx : ∀ b, x = some b → b.Timely polls) : d.Timely polls := by
  cases h with
  | created spec => exact SimulatedCluster.depart_timely (by simp) ..
  | seen b => exact (hx b rfl).observe
  | started b => exact SimulatedCluster.depart_timely (hx b rfl).libraries ..
  | edited b spec =>
    have hl := (hx b rfl).libraries
    exact SimulatedCluster.depart_timely
      (c := { b with info := SimulatedCluster.reshape b.info spec }) hl ..
  | down => exact hx d rfl
  | broughtDown b => exact SimulatedCluster.depart_timely (hx b rfl).libraries ..
  | listed b => exact (hx b rfl).mapLibraries fun _ hl => hl.observe
  | installed b ls failing =>
    have hl := View.submitAll_timely (v := ⟨polls, failing, b⟩) (hx b rfl).libraries ls
    obtain ⟨libraries, he⟩ := View.submitAll_cluster ⟨polls, failing, b⟩ ls
    rw [he] at hl ⊢
    exact ⟨(hx b rfl).remaining, hl⟩
  | removed b ls => exact (hx b rfl).remove ls

theorem Call.Makes.listed_le_one {polls : Nat} {id : String} {c : Call} {l : Library}
    {x : Option SimulatedCluster} {d : SimulatedCluster} (h : c.Makes polls id x (some d))
    (hx : ∀ b, x = some b → b.listed l ≤ 1) : d.listed l ≤ 1 := by
  cases h with
  | created spec => exact Nat.zero_le 1
  | seen b => simpa [SimulatedCluster.listed] using hx b rfl
  | started b => exact hx b rfl
  | edited b => exact hx b rfl
  | down => exact hx d rfl
  | broughtDown b => exact hx b rfl
  | listed b =>
    exact (SimulatedCluster.listed_map (fun m => m.observe_library) l).trans_le (hx b rfl)
  | installed b ls failing =>
    rw [View.listed_submitAll]
    split_ifs
    · exact le_rfl
    · exact hx b rfl
  | removed b ls =>
    refine (SimulatedCluster.listed_map (fun m => ?_) l).trans_le (hx b rfl)
    split_ifs <;> rfl

namespace Simulation

namespace Input

/-- The input brings the cluster that it goes to to rest, sends it elsewhere or removes it. -/
def redirects : Input → Bool
  | insert .. => true
  | setPhase .. => true
  | call (.createCluster _) => true
  | call (.startCluster _) => true
  | call (.editCluster ..) => true
  | call (.deleteCluster _) => true
  | call (.permanentDeleteCluster _) => true
  | _ => false

/-- The input submits or removes the library, or replaces or removes the cluster that it goes to. -/
def handles (l : Library) : Input → Bool
  | insert .. => true
  | call (.createCluster _) => true
  | call (.permanentDeleteCluster _) => true
  | call (.installLibraries _ ls) => l ∈ ls
  | call (.uninstallLibraries _ ls) => l ∈ ls
  | _ => false

/-- The input puts the cluster there with the library listed more than once. -/
def repeats (id : String) (l : Library) : Input → Bool
  | insert info libraries => info.id = id ∧ 1 < libraries.countP (·.library == l)
  | _ => false

variable {i : Input} {polls : Nat} {id : String} {x : Option SimulatedCluster}
  {d : SimulatedCluster} {l : Library}

theorem Makes.timely (h : i.Makes polls id x (some d)) (hx : ∀ b, x = some b → b.Timely polls) :
    d.Timely polls :=
  h.keeps hx (fun _ _ _ _ => .atRest polls _ _) (fun _ phase hb => hb.rest phase) fun hm =>
    hm.timely hx

/-- No input but one that puts it there so makes a library stand in the list more than once. -/
theorem Makes.listed_le_one (h : i.Makes polls id x (some d)) (hi : i.repeats id l = false)
    (hx : ∀ b, x = some b → b.listed l ≤ 1) : d.listed l ≤ 1 := by
  refine h.keeps hx (fun info libraries he hid => ?_) (fun _ _ hb => hb) fun hm =>
    hm.listed_le_one hx
  subst he
  have hcount : ¬1 < libraries.countP (·.library == l) := by simpa [repeats, hid] using hi
  simpa [SimulatedCluster.listed, SimulatedCluster.atRest, List.countP_map, Function.comp_def,
    SimulatedLibrary.atRest] using hcount

end Input

variable {s : Simulation} {id : String} {k : Nat} {c : Call} {x : SimulatedCluster}

/-- Inputs one after another. -/
def afterAll (s : Simulation) (is : List Input) : Simulation := is.foldl after s

/-- The inputs, each with the state that it meets. -/
def course (s : Simulation) : List Input → List (Simulation × Input)
  | [] => []
  | i :: is => (s, i) :: (s.after i).course is

/-- No input of a kind goes to the cluster. -/
def Spares (s : Simulation) (id : String) (kind : Input → Bool) (is : List Input) : Prop :=
  ∀ e ∈ s.course is, e.1.target e.2 = some id → kind e.2 = false

instance (s : Simulation) (id : String) (kind : Input → Bool) (is : List Input) :
    Decidable (s.Spares id kind is) := inferInstanceAs (Decidable (∀ e ∈ s.course is, _))

/-- The input is the call, and it is answered. -/
def answers (s : Simulation) (c : Call) (i : Input) : Bool := i = .call c && (s.answer c).1.isOk

/-- How often the call is answered. -/
def answered (s : Simulation) (c : Call) (is : List Input) : Nat :=
  (s.course is).countP fun e => e.1.answers c e.2

theorem target_call (hid : ∀ r, c.subject r = id) :
    s.target (.call c) = some id ↔ (s.answer c).1.isOk = true := by
  rw [target]
  cases (s.answer c).1 with
  | error e => simp [Except.toOption, Except.isOk, Except.toBool]
  | ok r => simp [Except.toOption, Except.isOk, Except.toBool, hid r]

/-- `Q k` tells that `k` more answers to the call will do. Of inputs to the cluster that are not of
the kind, the call itself takes one from them, and the others leave them as they are. -/
def CountsDown (id : String) (c : Call) (kind : Input → Bool)
    (Q : Nat → SimulatedCluster → Prop) : Prop :=
  ∀ polls i k x y, i.Makes polls id (some x) y → kind i = false → Q k x →
    ∃ z, y = some z ∧ Q (if i = .call c then k - 1 else k) z

section
variable {kind : Input → Bool} {Q : Nat → SimulatedCluster → Prop}

theorem CountsDown.after (h : CountsDown id c kind Q) (hid : ∀ r, c.subject r = id) {i : Input}
    (hi : s.target i = some id → kind i = false) (hx : s.clusters.get? id = some x) (hq : Q k x) :
    ∃ y, (s.after i).clusters.get? id = some y ∧ Q (if s.answers c i then k - 1 else k) y := by
  rcases s.after_cases i id with ⟨ht, hm⟩ | ⟨ht, he⟩
  · rw [hx] at hm
    obtain ⟨z, hz, hqz⟩ := h _ i k x _ hm (hi ht) hq
    refine ⟨z, hz, ?_⟩
    have ha : s.answers c i = true ↔ i = .call c := by
      by_cases hc : i = .call c
      · subst hc
        simp [answers, (target_call hid).1 ht]
      · simp [answers, hc]
    simpa [ha] using hqz
  · refine ⟨x, he.trans hx, ?_⟩
    have ha : ¬s.answers c i = true := by
      intro ha
      obtain ⟨rfl, hok⟩ := by simpa [answers] using ha
      exact ht ((target_call hid).2 hok)
    rwa [if_neg ha]

/-- After a run that spares the cluster, as many answers are to come as were, less those given. -/
theorem CountsDown.afterAll (h : CountsDown id c kind Q) (hid : ∀ r, c.subject r = id)
    {is : List Input} (hi : s.Spares id kind is) (hx : s.clusters.get? id = some x) (hq : Q k x) :
    ∃ y, (s.afterAll is).clusters.get? id = some y ∧ Q (k - s.answered c is) y := by
  induction is generalizing s k x with
  | nil => exact ⟨x, hx, hq⟩
  | cons i is ih =>
    obtain ⟨hfirst, hrest⟩ := List.forall_mem_cons.1 hi
    obtain ⟨y, hy, hqy⟩ := h.after hid hfirst hx hq
    obtain ⟨z, hz, hqz⟩ := ih hrest hy hqy
    refine ⟨z, hz, ?_⟩
    have hk : (if s.answers c i then k - 1 else k) - (s.after i).answered c is =
        k - s.answered c (i :: is) := by
      rw [answered, answered, course, List.countP_cons]
      split_ifs <;> omega
    rwa [hk] at hqz

end

/-- A look at a cluster on its way brings it closer by one look, and nothing keeps it from its way
but what sends it elsewhere. -/
theorem countsDown_arrival (id : String) (goal : Phase) :
    CountsDown id (.getCluster id) Input.redirects fun k c => c.goal = goal ∧ c.remaining ≤ k := by
  rintro polls i k x y hm hi ⟨hg, hk⟩
  cases hm with
  | inserted => cases hi
  | set => cases hi
  | answered hm =>
    cases hm with
    | seen =>
      refine ⟨_, rfl, x.observe_goal.trans hg, ?_⟩
      rw [if_pos rfl, x.remaining_observe]
      exact Nat.sub_le_sub_right hk 1
    | listed => exact ⟨_, rfl, hg, hk⟩
    | installed _ ls failing =>
      obtain ⟨libraries, he⟩ := View.submitAll_cluster ⟨polls, failing, x⟩ ls
      rw [he]
      exact ⟨_, rfl, hg, hk⟩
    | removed => exact ⟨_, rfl, hg, hk⟩
    | _ => cases hi

/-- The same of a library that stands in the list once. -/
theorem countsDown_settlement (id : String) (l : Library) (goal : InstallStatus) :
    CountsDown id (.libraryStatuses id) (Input.handles l) fun k c =>
      ∃ m, c.entries l = [m] ∧ m.goal = goal ∧ m.remaining ≤ k := by
  rintro polls i k x y hm hi ⟨m, hm1, hg, hk⟩
  cases hm with
  | inserted => cases hi
  | set phase => exact ⟨_, rfl, m, hm1, hg, hk⟩
  | answered hm =>
    cases hm with
    | created => cases hi
    | purged => cases hi
    | seen => exact ⟨_, rfl, m, by simpa [SimulatedCluster.entries] using hm1, hg, hk⟩
    | listed =>
      refine ⟨_, rfl, m.observe, ?_, m.observe_goal.trans hg, ?_⟩
      · refine (SimulatedCluster.entries_map (fun n => n.observe_library) l).trans ?_
        rw [hm1, List.map_singleton]
      · rw [if_pos rfl, m.remaining_observe]
        exact Nat.sub_le_sub_right hk 1
    | installed _ ls =>
      have hl : l ∉ ls := by simpa [Input.handles] using hi
      exact ⟨_, rfl, m, (View.entries_submitAll hl _).trans hm1, hg, hk⟩
    | removed _ ls =>
      have hl : l ∉ ls := by simpa [Input.handles] using hi
      have hlib : m.reported.library = l := by
        have hmem : m ∈ x.entries l := by simp [hm1]
        simpa using (List.mem_filter.1 hmem).2
      refine ⟨_, rfl, m, ?_, hg, hk⟩
      refine (SimulatedCluster.entries_map (fun n => ?_) l).trans ?_
      · split_ifs <;> rfl
      · simp [hm1, hlib, hl]
    | _ => exact ⟨_, rfl, m, hm1, hg, hk⟩

/-- Every cluster is at rest after the looks that a transition is seen in. -/
def Timely (s : Simulation) : Prop :=
  ∀ k c, s.clusters.get? k = some c → c.Timely s.transitionPolls

theorem Timely.after (h : s.Timely) (i : Input) : (s.after i).Timely := by
  unfold Timely
  rw [s.after_transitionPolls i]
  exact every_after i (fun hm => hm.timely) h

theorem Reachable.timely (h : s.Reachable) : s.Timely :=
  h.invariant (fun _ _ _ hc => by cases hc) fun _ i ht => ht.after i

theorem listed_after_le_one {l : Library} {i : Input} (hi : i.repeats id l = false)
    (hs : ∀ d, s.clusters.get? id = some d → d.listed l ≤ 1) :
    ∀ d, (s.after i).clusters.get? id = some d → d.listed l ≤ 1 := by
  intro d hd
  rcases s.after_cases i id with ⟨-, hm⟩ | ⟨-, he⟩
  · rw [hd] at hm
    exact hm.listed_le_one hi hs
  · exact hs d (he ▸ hd)

theorem listed_afterAll_le_one {l : Library} {is : List Input}
    (hi : ∀ i ∈ is, i.repeats id l = false)
    (hs : ∀ d, s.clusters.get? id = some d → d.listed l ≤ 1) :
    ∀ d, (s.afterAll is).clusters.get? id = some d → d.listed l ≤ 1 := by
  induction is generalizing s with
  | nil => exact hs
  | cons i is ih =>
    obtain ⟨hfirst, hrest⟩ := List.forall_mem_cons.1 hi
    exact ih hrest (listed_after_le_one hfirst hs)

/-- What is in transition at a cluster is on its way to where such a transition goes. It is there
once the looks that a transition is seen in have been answered, unless an input sends it elsewhere.
Only a failure that waits for a look keeps it from being answered. -/
structure Underway (s : Simulation) (id : String) (c : SimulatedCluster) : Prop where
  phase : c.info.phase ≠ c.goal → (c.info.phase = .pending ∧ c.goal = .running) ∨
    (c.info.phase = .terminating ∧ c.goal = .terminated)
  arrives : ∀ is, s.Spares id Input.redirects is →
    s.transitionPolls ≤ s.answered (.getCluster id) is →
      ∃ d, (s.afterAll is).clusters.get? id = some d ∧ d.info.phase = c.goal ∧ d.goal = c.goal
  status : ∀ l ∈ c.libraries, l.reported.status ≠ l.goal →
    l.reported.status = .pending ∧ (l.goal = .installed ∨ l.goal = .failed)
  settles : ∀ l ∈ c.libraries, l.reported.status ≠ l.goal → ∀ is,
    s.Spares id (Input.handles l.reported.library) is →
      s.transitionPolls ≤ s.answered (.libraryStatuses id) is →
        ∃ d m, (s.afterAll is).clusters.get? id = some d ∧ d.entries l.reported.library = [m] ∧
          m.reported.status = l.goal ∧ m.goal = l.goal
  heard : ∀ e, (s.answer (.getCluster id)).1 = .error e → (s.enter (.getCluster id)).1 = some e
  heardLibraries : ∀ e, (s.answer (.libraryStatuses id)).1 = .error e →
    (s.enter (.libraryStatuses id)).1 = some e

/-- The libraries of an installation stand in the list once when it is answered, and not more often
afterwards unless the cluster is put there anew with one of them repeated. An installation that is
rejected changes no cluster. -/
structure Submits (s : Simulation) (id : String) (ls : List Library) : Prop where
  once : (s.answer (.installLibraries id ls)).1 = .ok () →
    ∃ c, (s.answer (.installLibraries id ls)).2.clusters.get? id = some c ∧
      ∀ l ∈ ls, c.listed l = 1
  later : (s.answer (.installLibraries id ls)).1 = .ok () → ∀ l ∈ ls, ∀ is,
    (∀ i ∈ is, i.repeats id l = false) → ∀ c,
      ((s.answer (.installLibraries id ls)).2.afterAll is).clusters.get? id = some c →
        c.listed l ≤ 1
  rejected : ∀ e, (s.answer (.installLibraries id ls)).1 = .error e →
    (s.answer (.installLibraries id ls)).2.clusters = s.clusters

theorem look_ok {α : Type} (hx : s.clusters.get? id = some x) (f : SimulatedCluster → α)
    (after : SimulatedCluster → SimulatedCluster) : (s.look id f after).1 = .ok (f x) := by
  rw [look, hx]

/-- A call that is served well for such clusters fails only by what waits for it. -/
theorem enter_of_answer_error {r : c.Reply} {e : ClientError}
    (hs : ∀ t : Simulation, t.clusters = s.clusters → (t.serve c).1 = .ok r)
    (h : (s.answer c).1 = .error e) : (s.enter c).1 = some e := by
  have hclusters := s.enter_clusters c
  unfold answer at h
  rcases hc : s.enter c with ⟨_ | e', t⟩ <;> rw [hc] at h hclusters
  · cases (hs t hclusters).symm.trans h
  · cases h
    rfl

theorem underway_of_timely (hs : x.Sound id) (ht : x.Timely s.transitionPolls)
    (hx : s.clusters.get? id = some x) : s.Underway id x where
  phase := hs.phase
  arrives is hspared hlooks := by
    obtain ⟨d, hd, hg, hk⟩ := (countsDown_arrival id x.goal).afterAll (fun _ => rfl) hspared hx
      ⟨rfl, ht.remaining⟩
    rw [Nat.sub_eq_zero_of_le hlooks, Nat.le_zero, SimulatedCluster.remaining_eq_zero] at hk
    exact ⟨d, hd, hk.trans hg, hg⟩
  status l hl hn := ⟨(hs.libraries l hl hn).1, (ht.libraries l hl).goal hn⟩
  settles l hl hn is hspared hlooks := by
    obtain ⟨-, -, honce⟩ := hs.libraries l hl hn
    have hentries := SimulatedCluster.entries_eq_of_listed hl honce
    obtain ⟨d, hd, m, hm, hg, hk⟩ := (countsDown_settlement id l.reported.library l.goal).afterAll
      (fun _ => rfl) hspared hx ⟨l, hentries, rfl, (ht.libraries l hl).remaining⟩
    rw [Nat.sub_eq_zero_of_le hlooks, Nat.le_zero, SimulatedLibrary.remaining_eq_zero] at hk
    exact ⟨d, m, hd, hm, hk.trans hg, hg⟩
  heard e he := enter_of_answer_error (fun t ht => look_ok (ht ▸ hx) ..) he
  heardLibraries e he := enter_of_answer_error (fun t ht => look_ok (ht ▸ hx) ..) he

theorem submits (s : Simulation) (id : String) (ls : List Library) : s.Submits id ls := by
  have hserved := s.answer_served (.installLibraries id ls)
  have honce : (s.answer (.installLibraries id ls)).1 = .ok () →
      ∃ c, (s.answer (.installLibraries id ls)).2.clusters.get? id = some c ∧
        ∀ l ∈ ls, c.listed l = 1 := by
    intro h
    rw [h] at hserved
    cases hserved with
    | done _ hm =>
      simp only [Call.subject] at hm
      generalize s.clusters.get? id = x,
        (s.answer (.installLibraries id ls)).2.clusters.get? id = y at hm
      cases hm with
      | installed b _ failing =>
        exact ⟨_, rfl, fun l hl => (View.listed_submitAll _ ls l).trans (if_pos hl)⟩
  refine ⟨honce, fun h l hl is hi => ?_, fun e he => ?_⟩
  · obtain ⟨c, hc, hlisted⟩ := honce h
    refine listed_afterAll_le_one hi fun d hd => ?_
    rw [hc] at hd
    exact (Option.some.inj hd ▸ hlisted l hl).le
  · rw [he] at hserved
    cases hserved with
    | failed _ hc => exact hc

/-- However a simulation has come about, what is in transition is on its way to where it belongs and
comes to rest in time, and an installation leaves each of its libraries in the list once. -/
theorem Reachable.comesToRest (h : s.Reachable) :
    (∀ id c, s.clusters.get? id = some c → s.Underway id c) ∧
    (∀ id ls, s.Submits id ls) ∧
    ∀ id l, (∀ c, s.clusters.get? id = some c → c.listed l ≤ 1) → ∀ is,
      (∀ i ∈ is, i.repeats id l = false) → ∀ c,
        (s.afterAll is).clusters.get? id = some c → c.listed l ≤ 1 :=
  ⟨fun id c hc => underway_of_timely (h.sound id c hc) (h.timely id c hc) hc, s.submits,
    fun _ _ hs _ hi => listed_afterAll_le_one hi hs⟩

theorem Reachable.afterAll (h : s.Reachable) (is : List Input) : (s.afterAll is).Reachable := by
  induction is generalizing s with
  | nil => exact h
  | cons i is ih => exact ih (h.after i)

/-- A cluster that has just come up, with one library listed twice. -/
def broughtUp : Simulation :=
  afterAll { transitionPolls := 2 }
    [.insert { id := "c", phase := .terminated }
      [⟨.jar "a.jar", .installed, [], false⟩, ⟨.jar "a.jar", .failed, [], false⟩],
    .failInstall (.jar "a.jar") 1,
    .call (.startCluster "c"), .call (.getCluster "c"),
    .enqueue "get_cluster" (some (.transport "reset")), .call (.getCluster "c"),
    .call (.getCluster "c")]

/-- A deletion interrupts an edit that has interrupted an installation. -/
def interruption : List Input :=
  [.call (.libraryStatuses "c"), .call (.editCluster "c" sample.cluster), .call (.getCluster "c"),
    .call (.deleteCluster "c")]

def interrupted : Simulation :=
  (broughtUp.answer (.installLibraries "c" [.jar "a.jar", .jar "b.jar"])).2.afterAll interruption

/-- Looks between which others fail and another cluster is made. -/
def looks : List Input :=
  [.enqueue "get_cluster" (some (.transport "reset")), .call (.getCluster "c"),
    .call (.libraryStatuses "c"), .call (.getCluster "c"), .call (.createCluster sample.cluster),
    .call (.installLibraries "c" [.jar "a.jar"]), .call (.getCluster "c"),
    .call (.libraryStatuses "c")]

theorem Reachable.comesToRest_interrupted :
    (∃ c ∈ broughtUp.clusters.get? "c", c.listed (.jar "a.jar") = 2) ∧
    (∃ c ∈ interrupted.clusters.get? "c", c.info.phase = .terminating ∧
      c.listed (.jar "a.jar") ≤ 1) ∧
    (∃ d, (interrupted.afterAll looks).clusters.get? "c" = some d ∧ d.info.phase = .terminated) ∧
    ∃ d m, (interrupted.afterAll looks).clusters.get? "c" = some d ∧
      d.entries (.jar "a.jar") = [m] ∧ m.reported.status = .failed := by
  have hup : broughtUp.Reachable := (Reachable.start 2).afterAll _
  have hin : interrupted.Reachable := (hup.answer _).afterAll interruption
  obtain ⟨-, hsubmits, -⟩ := Reachable.comesToRest hup
  obtain ⟨hunderway, -, -⟩ := Reachable.comesToRest hin
  have hinstalled := (hsubmits "c" [.jar "a.jar", .jar "b.jar"]).later (by decide +kernel)
  obtain ⟨c, hc, hphase, hgoal, l, hl, hlib, hmoves, hfails⟩ :
      ∃ c ∈ interrupted.clusters.get? "c", c.info.phase = .terminating ∧ c.goal = .terminated ∧
        ∃ l ∈ c.libraries, l.reported.library = .jar "a.jar" ∧ l.reported.status ≠ l.goal ∧
          l.goal = .failed := by decide +kernel
  have hway := hunderway "c" c hc
  have harrives := hway.arrives looks (by decide +kernel) (by decide +kernel)
  have hsettles := hway.settles l hl hmoves looks (by rw [hlib]; decide +kernel) (by decide +kernel)
  rw [hgoal] at harrives
  rw [hlib, hfails] at hsettles
  refine ⟨by decide +kernel, ⟨c, hc, hphase, ?_⟩, ?_, ?_⟩
  · exact hinstalled (.jar "a.jar") (by simp) interruption (by decide +kernel) c hc
  · obtain ⟨d, hd, hp, -⟩ := harrives
    exact ⟨d, hd, hp⟩
  · obtain ⟨d, m, hd, hm, hs, -⟩ := hsettles
    exact ⟨d, m, hd, hm, hs⟩

end Simulation
end ClusterReconciliation
