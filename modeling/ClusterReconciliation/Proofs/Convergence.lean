import ClusterReconciliation.Proofs.Attempts
import ClusterReconciliation.Proofs.Idempotence

/-! Reconciliations with a simulation that are given the time they need. They submit every library
that is wanted until it is installed or its attempts are used up, and succeed exactly if the
attempts are enough for all of them. -/
namespace ClusterReconciliation
open Run

/-- How attempts against so many failures end: what is wanted is submitted until it is installed or
the budget is used up, and that it is used up for no library means success. -/
structure Settles (wanted : List Library) (failures : Library → Nat) (budget : Nat)
    (x : Except Halt Unit × Session (Scene Simulation)) : Prop where
  submissions : ∀ l, submissions x.2.history l =
    if l ∈ wanted then min (failures l + 1) budget else 0
  success : (∀ l ∈ wanted, failures l < budget) → x.1 = .ok ()
  failure : ¬(∀ l ∈ wanted, failures l < budget) → ∃ failed,
    x.1 = .error (.failed ⟨.libraryInstall, .partialConvergence failed⟩) ∧
      failed.map (·.library) = wanted.filter (budget ≤ failures ·)
  once : ReportedOnce x.2.libraries

variable {options : Options} {fuel : Nat} {s t : Session (Scene Simulation)} {id : String}
  {v w : View}

namespace Reconciler
variable {desired wanted : List Library} {failures : Library → Nat} {i : Nat} {p : Progress}

theorem submitRemovals_ok (hs : s.Shows id v) (hp : v.cluster.info.phase = .running)
    (hsp : s.phase = .running) (p : Progress) (d : LibraryDiff) :
    ∃ q t, exec ((simulated options fuel).submitRemovals id p d) s = (.ok q, t) ∧
      t.cluster = s.cluster ∧ ∀ l, submissions t.history l = submissions s.history l := by
  unfold submitRemovals
  split_ifs with hd
  · exact ⟨p, s, rfl, rfl, fun _ => rfl⟩
  · have ho : ((simulated options fuel).perform (.uninstallLibraries id d.uninstall) s).1 = .ok () := by
      rw [simulated_perform]
      exact hs.state.answer_uninstallLibraries hp _
    have hperm : s.phase.permits .uninstallLibraries = true := by rw [hsp]; rfl
    have hm := (simulated options fuel).exec_mutate_of_ok .libraryUninstall hperm
      (hs.isCancelled options fuel) ho
    exact ⟨_, _, exec_bind_of_ok hm, rfl, fun l => by simp [submissions, Call.submits]⟩

theorem submitInstalls_ok (hs : s.Shows id v) (hp : v.cluster.info.phase = .running)
    (hsp : s.phase = .running) (p : Progress) (d : LibraryDiff) :
    ∃ q t, exec ((simulated options fuel).submitInstalls id p d) s = (.ok q, t) ∧
      ∀ l, submissions t.history l =
        submissions s.history l + if l ∈ d.install then 1 else 0 := by
  unfold submitInstalls
  split_ifs with hd
  · exact ⟨p, s, rfl, fun l => by simp [List.isEmpty_iff.1 hd]⟩
  · have ho : ((simulated options fuel).perform (.installLibraries id d.install) s).1 = .ok () := by
      rw [simulated_perform]
      exact hs.state.answer_installLibraries hp _
    have hperm : s.phase.permits .installLibraries = true := by rw [hsp]; rfl
    have hm := (simulated options fuel).exec_mutate_of_ok .libraryInstall hperm
      (hs.isCancelled options fuel) ho
    exact ⟨_, _, exec_bind_of_ok hm, fun l => by
      simp [submissions, Call.submits, List.countP_cons]⟩

theorem submit_ok (hs : s.Shows id v) (hp : v.cluster.info.phase = .running)
    (hsp : s.phase = .running) (p : Progress) (d : LibraryDiff) :
    ∃ q t, exec ((simulated options fuel).submit id p d) s = (.ok q, t) ∧
      ∀ l, submissions t.history l =
        submissions s.history l + if l ∈ d.install then 1 else 0 := by
  obtain ⟨q, u, hu, hc, hsame⟩ := submitRemovals_ok hs hp hsp p d
  have hup : u.phase = .running := by rw [Session.phase, hc, ← hsp, Session.phase]
  obtain ⟨q', t, ht, hn⟩ := submitInstalls_ok (submitRemovals_shows hs hp hu) hp hup q d
  refine ⟨q', t, ?_, fun l => by rw [hn, hsame]⟩
  rw [submit, exec_bind_of_ok hu, ht]

/-- What was submitted in a round has come to rest when its wait is over. -/
theorem rest_of_isSettled {d : LibraryDiff} {removing : List Library}
    (hv : ∀ l ∈ v.cluster.libraries, l.IsAtRest) (ha : (v.asked d).Alike w)
    (hw : w.cluster.Sound id)
    (hset : isSettled desired d.install removing w.cluster.statuses = true) :
    ∀ l ∈ w.cluster.libraries, l.IsAtRest := by
  intro m hm
  by_contra hn
  obtain ⟨k, hk, hlib, hkn⟩ := ha.moves _ ⟨m, hm, rfl, hn⟩
  have hin := View.moves_asked hv d k hk hkn
  obtain ⟨status, hfirst, hstill⟩ := (isSettled_iff.1 hset).1 _ (hlib ▸ hin)
  obtain ⟨x, hx, hxl, rfl⟩ := exists_of_firstStatus hfirst
  obtain ⟨y, hy, rfl⟩ := List.mem_map.1 hx
  obtain ⟨hpending, -, once⟩ := hw.libraries m hm hn
  rw [SimulatedCluster.eq_of_listed hy hm hxl once, hpending] at hstill
  cases hstill

/-- A round that has something to ask for comes to its end, and the attempts go on from there. -/
theorem libraryRound_ok (h : Attempting desired wanted failures i p v) (hs : s.Fresh id v)
    (hp : v.cluster.info.phase = .running) (hsp : s.phase = .running)
    (hc : ∀ l, submissions s.history l = p.attempts.used l)
    (ht : options.poll.Allows v.polls) (hf : v.polls < fuel)
    (hd : (p.diff desired).isEmpty = false) :
    ∃ q t w, exec ((simulated options fuel).libraryRound id desired p) s = (.ok (some q), t) ∧
      t.Fresh id w ∧ w.cluster.info = v.cluster.info ∧ w.polls = v.polls ∧ t.phase = .running ∧
      Attempting desired wanted failures (i + 1) q w ∧
      q.attempts.budget = p.attempts.budget ∧
      ∀ l, submissions t.history l = q.attempts.used l := by
  have hshows := hs.shows_of_rest h.rest
  obtain ⟨q, u, hu, hn⟩ := submit_ok hshows hp hsp p (p.diff desired)
  have hbegin : exec ((simulated options fuel).beginRound id desired p) s =
      (.ok (some (q, p.diff desired)), u) := by
    have hgo : verdict desired p (p.diff desired) = .goOn := by simp [verdict, hd]
    rw [exec_beginRound, hgo]
    dsimp only
    rw [hu]
  obtain ⟨hus, -, rfl⟩ := beginRound_shows hshows hp hbegin
  have htimely := View.timely_asked h.rest (p.diff desired)
  obtain ⟨q, t, he⟩ := endRound_ok hus (fun m hm => (htimely m hm).remaining) h.isSettled_next ht hf
  obtain ⟨w, hw, ha, rfl, hset⟩ := endRound_fresh hus (View.asked_sound hs.sound _) he
  have hround : exec ((simulated options fuel).libraryRound id desired p) s =
      (.ok (some { p.after (p.diff desired) with observed := w.cluster.statuses }), t) := by
    rw [libraryRound, exec_bind_of_ok hbegin]
    exact exec_bind_of_ok he
  have hmade := (simulated options fuel).madeOf.libraryRound id (fun _ h => h) desired p
  have hcluster := (hmade s).cluster_eq (fun _ h => h) fun _ h => h
  rw [hround] at hcluster
  refine ⟨_, t, w, hround, hw, ha.info.trans (View.asked_info v _).1,
    ha.polls.trans (View.polls_submitAll _ _), ?_,
    h.next ha (rest_of_isSettled h.rest ha hw.sound hset), rfl, fun l => ?_⟩
  · rw [Session.phase, hcluster, ← hsp, Session.phase]
  · obtain ⟨es, hes, hinstalls, -⟩ := (simulated options fuel).exec_endRound_events id desired
      (p.after (p.diff desired)) (p.diff desired) u
    have hwait : submissions t.history l = submissions u.history l := by
      have hz := submissions_le_installs es l
      rw [he] at hes
      rw [submissions, hes, List.countP_append]
      change submissions es l + submissions u.history l = _
      omega
    rw [hwait, hn, hc]
    change _ = (p.attempts.record _).used l
    rw [InstallAttempts.used_record, h.count_install]
    simp only [h.mem_install]

/-- The rounds go on until nothing is left to ask for. -/
theorem libraryRounds_settles {P : Library → Bool} (hwanted : wanted = (distinct desired).filter P)
    {looks : Nat} (h : Attempting desired wanted failures i p v) (hs : s.Fresh id v)
    (hp : v.cluster.info.phase = .running) (hsp : s.phase = .running)
    (hc : ∀ l, submissions s.history l = p.attempts.used l)
    (ht : options.poll.Allows v.polls) (hf : v.polls < fuel)
    (hi : i ≤ p.attempts.budget) (hl : p.attempts.budget < i + looks) :
    Settles wanted failures p.attempts.budget
      (exec ((simulated options fuel).libraryRounds id desired looks p) s) := by
  -- A round that asks for something is one of the first ones that the budget allows, so there are
  -- looks left after it.
  induction looks generalizing i p v s with
  | zero => omega
  | succ looks ih =>
    cases hd : (p.diff desired).isEmpty with
    | false =>
      obtain ⟨q, t, w, hround, hw, hinfo, hpolls, htp, hnext, hb, hn⟩ :=
        libraryRound_ok h hs hp hsp hc ht hf hd
      rw [libraryRounds, exec_bind_of_ok hround, ← hb]
      have hlt := h.lt_of_not_isEmpty hd
      exact ih hnext hw (hinfo ▸ hp) htp hn (hpolls ▸ ht) (hpolls ▸ hf) (by omega) (by omega)
    | true =>
      have hused : ∀ l, submissions s.history l =
          if l ∈ wanted then min (failures l + 1) p.attempts.budget else 0 := fun l => by
        rw [hc, h.used_of_isEmpty hd]
      have honce : ReportedOnce s.libraries := by
        have ho := h.once
        rwa [h.finals_eq, reportedOnce_bare, h.observed, ← hs.libraries] at ho
      have hv := h.verdict_of_isEmpty hd
      rw [exec_libraryRounds_succ, exec_beginRound, hv]
      split_ifs with hb
      · exact ⟨hused, fun _ => rfl, fun hn => absurd hb hn, honce⟩
      · refine ⟨hused, fun hn => absurd hn hb, fun _ => ⟨_, rfl, ?_⟩, honce⟩
        have hlib : (·.library) ∘ exhaustedStatus p.observed = fun l => l :=
          funext fun l => exhaustedStatus_library _ l
        rw [List.map_map, ← h.exhausted_eq hd hwanted, hlib, List.map_id']

end Reconciler

/-- The libraries are at rest, each of them is listed once, and none that is desired is on its way
for ever. -/
structure SimulatedCluster.Settled (c : SimulatedCluster) (desired : List Library) : Prop where
  rest : ∀ l ∈ c.libraries, l.IsAtRest
  once : ReportedOnce c.statuses
  still : ∀ x ∈ c.statuses, x.library ∈ desired → x.status.isInFlight = false

/-- The libraries that have to be submitted, in the order in which they are desired. -/
def wantedOf (desired : List Library) (observed : List LibraryStatus) : List Library :=
  (distinct desired).filter (isWanting observed)

theorem SimulatedCluster.Settled.attempting {desired : List Library}
    (h : v.cluster.Settled desired) (n : Nat) :
    Attempting desired (wantedOf desired v.cluster.statuses) v.failing 0
      ⟨v.cluster.statuses, .ofBudget n, []⟩ v where
  rest := h.rest
  once := by
    rw [SimulatedCluster.finals_eq h.rest, reportedOnce_bare]
    exact h.once
  observed := rfl
  budget := InstallAttempts.budget_pos n
  subset l hl := mem_distinct.1 (List.mem_filter.1 hl).1
  used l := by simp [InstallAttempts.used, InstallAttempts.ofBudget]
  failing l := by simp [InstallAttempts.used, InstallAttempts.ofBudget]
  wanting l hl := by
    rw [SimulatedCluster.finals_eq h.rest, isWanting_bare]
    simp [wantedOf, hl, InstallAttempts.used, InstallAttempts.ofBudget]
  still x hx hd := by
    rw [SimulatedCluster.finals_eq h.rest] at hx
    obtain ⟨y, hy, rfl⟩ := List.mem_map.1 hx
    exact h.still y hy hd
  removing x _ hr := by cases hr
  others l hl := by cases hl
  gone hi := absurd hi (Nat.lt_irrefl 0)

/-- Two views with the same libraries and the same failures to come. -/
structure View.Keeps (v w : View) : Prop where
  polls : w.polls = v.polls
  failing : w.failing = v.failing
  libraries : w.cluster.libraries = v.cluster.libraries

namespace View.Keeps

theorem refl (v : View) : v.Keeps v := ⟨rfl, rfl, rfl⟩

theorem of_like (h : v.Like w) : v.Keeps w := ⟨h.polls, h.failing, h.libraries⟩

theorem trans {u : View} (h : u.Keeps v) (h' : v.Keeps w) : u.Keeps w :=
  ⟨h'.polls.trans h.polls, h'.failing.trans h.failing, h'.libraries.trans h.libraries⟩

theorem statuses (h : v.Keeps w) : w.cluster.statuses = v.cluster.statuses := by
  rw [SimulatedCluster.statuses, h.libraries, SimulatedCluster.statuses]

theorem settled {desired : List Library} (h : v.Keeps w) (hv : v.cluster.Settled desired) :
    w.cluster.Settled desired where
  rest := h.libraries ▸ hv.rest
  once := h.statuses ▸ hv.once
  still := h.statuses ▸ hv.still

end View.Keeps

namespace Reconciler
variable {desired : List Library} {o : List LibraryStatus}

theorem convergeLibraries_settles (hs : s.Fresh id v) (hv : v.cluster.Settled desired)
    (hp : v.cluster.info.phase = .running) (hsp : s.phase = .running)
    (hz : ∀ l, submissions s.history l = 0) (ht : options.poll.Allows v.polls)
    (hf : v.polls < fuel) (hb : max options.attemptBudget 1 < fuel) :
    Settles (wantedOf desired v.cluster.statuses) v.failing (max options.attemptBudget 1)
      (exec ((simulated options fuel).convergeLibraries id desired v.cluster.statuses) s) := by
  refine libraryRounds_settles rfl (hv.attempting options.attemptBudget) hs hp hsp (fun l => ?_) ht hf
    (Nat.zero_le _) ?_
  · rw [hz]
    simp [InstallAttempts.used, InstallAttempts.ofBudget]
  · rw [Nat.zero_add]
    exact hb

/-- The rounds of a cluster that was just made to run, or found running with nothing changed. -/
theorem finishLibraries_settles
    (hs : s.Notes id w ∧ s.actions ≠ [] ∨ s.Knows id w ∧ s.actions = [])
    (hk : v.Keeps w) (hv : v.cluster.Settled desired) (hp : w.cluster.info.phase = .running)
    (hz : ∀ l, submissions s.history l = 0) (ht : options.poll.Allows v.polls)
    (hf : v.polls < fuel) (hb : max options.attemptBudget 1 < fuel) :
    Settles (wantedOf desired v.cluster.statuses) v.failing (max options.attemptBudget 1)
      (exec ((simulated options fuel).finishLibraries id desired v.cluster.statuses) s) := by
  have hphase : s.phase = .running := by
    rcases hs with ⟨hn, -⟩ | ⟨hn, -⟩ <;> rw [hn.phase, hp]
  obtain ⟨t, hcur, ht', htp, htz⟩ : ∃ t,
      exec ((simulated options fuel).currentLibraries id v.cluster.statuses) s =
        (.ok w.cluster.statuses, t) ∧ t.Fresh id w ∧ t.phase = .running ∧
      ∀ l, submissions t.history l = 0 := by
    rw [currentLibraries, exec_bind_of_ok (exec_get s)]
    rcases hs with ⟨hn, ha⟩ | ⟨hn, ha⟩
    · rw [if_neg (by simpa using ha), exec_fetchLibraries_of_shows hn.shows]
      refine ⟨_, rfl, lookAtLibraries_fresh hn.shows hn.sound, ?_, fun l => ?_⟩
      · rw [Session.phase, lookAtLibraries_cluster, ← hphase, Session.phase]
      · rw [lookAtLibraries_history, submissions, List.countP_cons_of_neg (by simp [Call.submits])]
        exact hz l
    · rw [if_pos (by simpa using ha), ← hk.statuses]
      exact ⟨s, rfl, hn.fresh, hphase, hz⟩
  have hend := convergeLibraries_settles ht' (hk.settled hv) hp htp htz (hk.polls ▸ ht)
    (hk.polls ▸ hf) hb
  rw [hk.statuses, hk.failing] at hend
  rw [finishLibraries, exec_bind_of_ok (exec_get s), if_pos hphase, exec_bind_of_ok hcur,
    hk.statuses]
  exact hend

end Reconciler

theorem View.arrives_depart (v : View) (c : SimulatedCluster) (polls : Nat) :
    (v.withCluster (c.depart .pending .running polls)).Arrives polls where
  goal := rfl
  phase := by
    by_cases hp : polls = 0
    · simp [View.withCluster, SimulatedCluster.depart, hp]
    · refine .inr ⟨by simp [View.withCluster, SimulatedCluster.depart, hp], ?_⟩
      change polls - 1 < polls
      omega

theorem View.arrives_created (polls : Nat) (failing : Library → Nat) (id : String)
    (spec : Cluster.Spec) : (View.created polls failing id spec).Arrives polls :=
  (View.created polls failing id spec).arrives_depart _ polls

namespace Reconciler
variable {desired : Desired}

/-- A change that is permitted and accepted is followed by a wait that ends well. -/
theorem changeAndWait_ok {action : Action} {c : Call} {reply : c.Reply} {n : Nat}
    (hs : s.Shows id v) (hc : c.Concerns id) (ha : c.action? = some action)
    (hn : ∀ l, c.submits l = false) (hp : s.phase.permits action = true)
    (ho : ((simulated options fuel).perform c s).1 = .ok reply) (harr : (v.next c).Arrives n)
    (ht : options.poll.Allows n) (hf : n < fuel) (stage : Stage) :
    ∃ t, exec (do
      (simulated options fuel).mutate action stage c
      let _ ← (simulated options fuel).waitRunning stage id) s = (.ok (), t) ∧
      ∀ l, submissions t.history l = submissions s.history l := by
  have hm := (simulated options fuel).exec_mutate_of_ok stage hp (hs.isCancelled options fuel) ho
  obtain ⟨info, t, hw⟩ := waitRunning_ok (mutate_shows hs hc hm).1 harr ht hf stage
  have hx : exec (do
      (simulated options fuel).mutate action stage c
      let _ ← (simulated options fuel).waitRunning stage id) s = (.ok (), t) := by
    rw [exec_bind_of_ok hm, exec_bind_of_ok hw, exec_pure]
  refine ⟨t, hx, fun l => ?_⟩
  have hmade := (simulated options fuel).madeOf.changeAndWait id stage
    (K := fun c => c.submits l = false) (hn l) ha rfl s
  rw [hx] at hmade
  exact hmade.grows.submissions_eq fun _ h => h

theorem startFor_ok (hs : s.Knows id v) (hrest : ∀ l ∈ v.cluster.libraries, l.IsAtRest)
    (hp : v.cluster.info.phase = .terminated) (ht : options.poll.Allows v.polls)
    (hf : v.polls < fuel) :
    ∃ t w, exec ((simulated options fuel).startFor id true v.cluster.info.phase) s = (.ok (), t) ∧
      t.Notes id w ∧ w.cluster.info.phase = .running ∧ t.actions ≠ [] ∧ v.Keeps w ∧
      ∀ l, submissions t.history l = submissions s.history l := by
  have hshows := hs.fresh.shows_of_rest hrest
  have harr : (v.next (.startCluster id)).Arrives v.polls := by
    rw [View.next, View.change_of_phase hp]
    exact v.arrives_depart _ _
  have ho : ((simulated options fuel).perform (.startCluster id) s).1 = .ok () := by
    rw [simulated_perform]
    exact hshows.state.answer_startCluster hp
  obtain ⟨t, hx, hn⟩ := changeAndWait_ok hshows (c := .startCluster id) rfl rfl (fun _ => rfl)
    (by rw [hs.phase, hp]; rfl) ho harr ht hf .start
  have hstart : exec ((simulated options fuel).startFor id true v.cluster.info.phase) s =
      (.ok (), t) := by
    rw [startFor, hp]
    exact hx
  have hw := startFor_notes hs hstart
  rw [if_pos (by simp [hp]), SimulatedCluster.observeLibraries_eq hrest] at hw
  obtain ⟨w, hw, hrun, ha, hl⟩ := hw
  exact ⟨t, w, hstart, hw, hrun, ha, .of_like hl, hn⟩

/-- A cluster runs when it has to, whether it was running before or is started. -/
theorem startFor_running (hs : s.Knows id v) (hrest : ∀ l ∈ v.cluster.libraries, l.IsAtRest)
    (hp : v.cluster.info.phase = .running ∨ v.cluster.info.phase = .terminated)
    (ht : options.poll.Allows v.polls) (hf : v.polls < fuel) :
    ∃ t w, exec ((simulated options fuel).startFor id true v.cluster.info.phase) s = (.ok (), t) ∧
      t.Shows id w ∧ w.cluster.Sound id ∧ w.cluster.info.phase = .running ∧ t.phase = .running ∧
      v.Keeps w ∧ ∀ l, submissions t.history l = submissions s.history l := by
  rcases hp with hp | hp
  · refine ⟨s, v, ?_, hs.fresh.shows_of_rest hrest, hs.fresh.sound, hp, by rw [hs.phase, hp], .refl v, fun _ => rfl⟩
    rw [startFor, hp]
    rfl
  · obtain ⟨t, w, h, hw, hrun, -, hk, hn⟩ := startFor_ok hs hrest hp ht hf
    exact ⟨t, w, h, hw.shows, hw.sound, hrun, by rw [hw.phase, hrun], hk, hn⟩

theorem editTo_ok (spec : Cluster.Spec) (hs : s.Shows id v) (hv : v.cluster.Sound id)
    (hp : v.cluster.info.phase = .running) (hsp : s.phase = .running)
    (ht : options.poll.Allows v.polls) (hf : v.polls < fuel) :
    ∃ t w, exec ((simulated options fuel).editTo id spec true) s = (.ok (), t) ∧
      t.Notes id w ∧ w.cluster.info.phase = .running ∧ t.actions ≠ [] ∧ v.Keeps w ∧
      ∀ l, submissions t.history l = submissions s.history l := by
  have harr : (v.next (.editCluster id spec)).Arrives v.polls := by
    rw [View.next, View.change_of_phase hp]
    exact v.arrives_depart _ _
  have ho : ((simulated options fuel).perform (.editCluster id spec) s).1 = .ok () := by
    rw [simulated_perform]
    exact hs.state.answer_editCluster hp spec
  obtain ⟨t, hx, hn⟩ := changeAndWait_ok hs (c := .editCluster id spec) rfl rfl (fun _ => rfl)
    (by rw [hsp]; rfl) ho harr ht hf .edit
  have hedit : exec ((simulated options fuel).editTo id spec true) s = (.ok (), t) := by
    rw [editTo, if_pos rfl]
    exact hx
  obtain ⟨w, hw, hrun, ha, hl⟩ := editTo_notes hs hv hp hedit
  exact ⟨t, w, hedit, hw, hrun, ha, ⟨hl.polls, hl.failing, hl.libraries⟩, hn⟩

/-- A cluster that is at rest is brought to the desired shape, and its libraries as far as the
attempts go. -/
theorem adjust_settles (hs : s.Knows id v) (ha : s.actions = [])
    (hv : v.cluster.Settled desired.libraries)
    (hp : v.cluster.info.phase = .running ∨ v.cluster.info.phase = .terminated)
    (hz : ∀ l, submissions s.history l = 0) (ht : options.poll.Allows v.polls)
    (hf : v.polls < fuel) (hb : max options.attemptBudget 1 < fuel) :
    Settles (wantedOf desired.libraries v.cluster.statuses) v.failing (max options.attemptBudget 1)
      (exec ((simulated options fuel).adjust id desired ⟨v.cluster.info, v.cluster.statuses⟩) s) := by
  have finish : ∀ {u w}, (u.Notes id w ∧ u.actions ≠ [] ∨ u.Knows id w ∧ u.actions = []) →
      v.Keeps w → w.cluster.info.phase = .running → (∀ l, submissions u.history l = 0) →
      Settles (wantedOf desired.libraries v.cluster.statuses) v.failing
        (max options.attemptBudget 1) (exec ((simulated options fuel).finishLibraries id
          desired.libraries v.cluster.statuses) u) :=
    fun hu hk hr hz => finishLibraries_settles hu hk hv hr hz ht hf hb
  unfold adjust
  dsimp only
  cases hshape : desired.cluster.shapeDiff v.cluster.info with
  | cons field fields =>
    simp only [List.isEmpty_cons, Bool.not_false, Bool.true_or]
    obtain ⟨s₁, x, h₁, hx, hsound, hrun, hphase, hk₁, hn⟩ := startFor_running hs hv.rest hp ht hf
    obtain ⟨s₂, y, h₂, hy, hrun', hact, hk₂, hz₂⟩ := editTo_ok desired.cluster hx hsound hrun hphase
      (hk₁.polls ▸ ht) (hk₁.polls ▸ hf)
    rw [exec_bind_of_ok h₁, exec_bind_of_ok h₂]
    exact finish (.inl ⟨hy, hact⟩) (hk₁.trans hk₂) hrun' fun l => (hz₂ l).trans ((hn l).trans (hz l))
  | nil =>
    simp only [List.isEmpty_nil, Bool.not_true, Bool.false_or, simulated_options]
    have h₂ : ∀ u, exec ((simulated options fuel).editTo id desired.cluster false) u =
        (.ok (), u) := fun u => rfl
    rcases hp with hp | hp
    · have h₁ : ∀ b, exec ((simulated options fuel).startFor id b v.cluster.info.phase) s =
          (.ok (), s) := fun b => by
        rw [startFor, hp, if_neg (by simp)]
        rfl
      rw [exec_bind_of_ok (h₁ _), exec_bind_of_ok (h₂ s)]
      exact finish (.inr ⟨hs, ha⟩) (.refl v) hp hz
    · cases hd : (diffLibraries desired.libraries v.cluster.statuses
        (.ofBudget options.attemptBudget)).isEmpty with
      | false =>
        obtain ⟨t, w, h, hw, hrun, hact, hk, hn⟩ := startFor_ok hs hv.rest hp ht hf
        rw [Bool.not_false, exec_bind_of_ok h, exec_bind_of_ok (h₂ t)]
        exact finish (.inl ⟨hw, hact⟩) hk hrun fun l => (hn l).trans (hz l)
      | true =>
        have hw : wantedOf desired.libraries v.cluster.statuses = [] := by
          refine List.filter_eq_nil_iff.2 fun l hl => ?_
          rw [(diffLibraries_isEmpty.1 hd).1 l (mem_distinct.1 hl)]
          simp
        have h₁ : exec ((simulated options fuel).startFor id (!true) v.cluster.info.phase) s =
            (.ok (), s) := rfl
        have h₃ : exec ((simulated options fuel).finishLibraries id desired.libraries
            v.cluster.statuses) s = (.ok (), s) := by
          rw [finishLibraries, exec_bind_of_ok (exec_get s), if_neg (by rw [hs.phase, hp]; simp),
            exec_pure]
        rw [exec_bind_of_ok h₁, exec_bind_of_ok (h₂ s), h₃, hw]
        refine ⟨by simpa using hz, fun _ => rfl, fun hn => absurd (by simp) hn, ?_⟩
        rw [hs.fresh.libraries]
        exact hv.once

theorem update_settles (hs : s.Shows id v) (hsound : v.cluster.Sound id) (ha : s.actions = [])
    (hvalid : desired.validate = .ok ()) (hv : v.cluster.Settled desired.libraries)
    (hp : v.cluster.info.phase = .running ∨ v.cluster.info.phase = .terminated)
    (hz : s.history = []) (ht : options.poll.Allows v.polls)
    (hf : v.polls < fuel) (hb : max options.attemptBudget 1 < fuel) :
    Settles (wantedOf desired.libraries v.cluster.statuses) v.failing (max options.attemptBudget 1)
      (exec ((simulated options fuel).update id desired) s) := by
  have hval : exec (validate desired : Run (Scene Simulation) Unit) s = (.ok (), s) := by
    rw [validate, hvalid]
    rfl
  have hinspect : exec ((simulated options fuel).inspect id) s = _ := inspect_settled hs hsound hp
  obtain ⟨w, hk, hl, hw, hact, hpw⟩ := inspect_knows hs hsound hinspect
  have hkeeps := View.Keeps.of_like hl
  have hnone : ∀ l, submissions ((simulated options fuel).lookAtLibraries id
      ((simulated options fuel).lookAtCluster id s)).history l = 0 := fun l => by
    simp [submissions, Call.submits, hz]
  have hend := adjust_settles hk (hact.trans ha) (hkeeps.settled hv) hpw hnone
    (hkeeps.polls ▸ ht) (hkeeps.polls ▸ hf) hb
  rw [update, exec_bind_of_ok hval, exec_bind_of_ok hinspect, hw]
  rw [hkeeps.statuses, hkeeps.failing] at hend
  rw [hkeeps.statuses]
  exact hend

theorem launch_ok (hw : s.world.Still) (hc : s.world.state.Clear) (spec : Cluster.Spec) :
    ∃ i t, exec ((simulated options fuel).launch spec) s = (.ok i, t) := by
  have hcancel : (simulated options fuel).world.isCancelled s.world = false := hw.cancelled
  rw [exec_launch, simulated_perform, Simulation.answer_of_clear hc]
  simp only [hcancel, Bool.false_eq_true, if_false]
  exact ⟨_, _, rfl⟩

theorem create_settles (hw : s.world.Still) (hc : s.world.state.Clear) (hl : s.libraries = [])
    (hz : s.history = []) (hvalid : desired.validate = .ok ())
    (ht : options.poll.Allows s.world.state.transitionPolls)
    (hf : s.world.state.transitionPolls < fuel) (hb : max options.attemptBudget 1 < fuel) :
    Settles (wantedOf desired.libraries []) s.world.state.failuresLeft
      (max options.attemptBudget 1) (exec ((simulated options fuel).create desired) s) := by
  have hval : exec (validate desired : Run (Scene Simulation) Unit) s = (.ok (), s) := by
    rw [validate, hvalid]
    rfl
  obtain ⟨i, t, h₁⟩ : ∃ i t, exec ((simulated options fuel).launch desired.cluster) s = (.ok i, t) :=
    launch_ok hw hc desired.cluster
  obtain ⟨hs₁, hl₁, -⟩ := launch_shows hw hc h₁
  obtain ⟨info, u, h₂⟩ := waitRunning_ok hs₁ (View.arrives_created _ _ _ _) ht hf .create
  obtain ⟨x, hx, hlike, hp⟩ := waitRunning_notes hs₁ (View.created_sound _ _ _) h₂
  have hxl : x.cluster.libraries = [] := hlike.libraries
  have hstatuses : x.cluster.statuses = [] := by rw [SimulatedCluster.statuses, hxl, List.map_nil]
  have hk := fresh_of_libraries_eq_nil hx hxl ((waitRunning_cluster h₂).2.2.trans (hl₁.trans hl))
  have hnone : ∀ l, submissions u.history l = 0 := fun l => by
    have hmake : (Call.createCluster desired.cluster).submits l = false := rfl
    have hlook : (Call.getCluster i).submits l = false := rfl
    have hlaunch := (simulated options fuel).madeOf_launch (K := (·.submits l = false)) hmake s
    have hwait := ((simulated options fuel).madeOf (K := (·.submits l = false))).waitRunning
      .create hlook t
    rw [h₁] at hlaunch
    rw [h₂] at hwait
    rw [hwait.grows.submissions_eq fun _ h => h, hlaunch.grows.submissions_eq fun _ h => h, hz]
    rfl
  rw [create, exec_bind_of_ok hval, exec_bind_of_ok h₁, exec_bind_of_ok h₂]
  split_ifs with he
  · have hv : x.cluster.Settled desired.libraries :=
      ⟨by simp [hxl], by simp [hstatuses, ReportedOnce], by simp [hstatuses]⟩
    have hend := convergeLibraries_settles hk.fresh hv hp (by rw [hk.phase, hp]) hnone
      (hlike.polls ▸ ht) (hlike.polls ▸ hf) hb
    rw [hstatuses, hlike.failing] at hend
    exact hend
  · have hd : desired.libraries = [] := by simpa using he
    refine ⟨by simpa [wantedOf, hd, distinct] using hnone, fun _ => rfl,
      fun hn => absurd (by simp [wantedOf, hd, distinct]) hn, ?_⟩
    change ReportedOnce u.libraries
    rw [hk.fresh.libraries, hstatuses]
    exact List.nodup_nil

end Reconciler

/-- A cluster that rests, running or terminated, with its libraries. -/
structure SimulatedCluster.Rests (c : SimulatedCluster) (id : String) (desired : List Library) :
    Prop where
  id : c.info.id = id
  phase : c.info.phase = .running ∨ c.info.phase = .terminated
  goal : c.goal = c.info.phase
  settled : c.Settled desired

theorem SimulatedCluster.Rests.sound {c : SimulatedCluster} {desired : List Library}
    (h : c.Rests id desired) : c.Sound id where
  id := h.id
  phase hn := absurd h.goal.symm hn
  libraries l hl hn := absurd (h.settled.rest l hl) hn

/-- How the libraries of a cluster are listed, if there is one. -/
def Simulation.listing (s : Simulation) (existing : Option String) : List LibraryStatus :=
  ((existing.bind s.clusters.get?).map (·.statuses)).getD []

/-- With nothing missing and nothing to remove, libraries at rest are as desired. -/
theorem SimulatedCluster.Settled.isConverged {c : SimulatedCluster} {desired : List Library}
    (h : c.Settled desired) {n : Nat}
    (he : (diffLibraries desired c.statuses (.ofBudget n)).isEmpty = true) :
    isConverged desired c.statuses = true := by
  obtain ⟨hw, hr⟩ := diffLibraries_isEmpty.1 he
  have hset : isSettled desired [] [] c.statuses = true := by
    refine isSettled_iff.2 ⟨by simp, fun l hl status hf => ?_, by simp⟩
    obtain ⟨x, hx, rfl, rfl⟩ := exists_of_firstStatus hf
    exact h.still x hx hl
  refine isConverged_of_isSettled h.once.unanimous hset hw fun s hs hx => ?_
  rw [hr s hs] at hx
  cases hx

namespace Reconciler
variable {desired : Desired}

theorem reconcile_settles {existing : Option String} {x : Scene Simulation} (hw : x.Still)
    (hc : x.state.Clear) (hvalid : desired.validate = .ok ())
    (hex : ∀ i, existing = some i → ∃ k, x.state.clusters.get? i = some k ∧
      k.Rests i desired.libraries)
    (ht : options.poll.Allows x.state.transitionPolls)
    (hf : x.state.transitionPolls < fuel) (hb : max options.attemptBudget 1 < fuel) :
    Settles (wantedOf desired.libraries (x.state.listing existing)) x.state.failuresLeft
      (max options.attemptBudget 1)
      (((simulated options fuel).reconcile desired existing x).outcome,
        ((simulated options fuel).reconcile desired existing x).session) := by
  cases existing with
  | none => exact create_settles (s := { world := x }) hw hc rfl rfl hvalid ht hf hb
  | some i =>
    obtain ⟨k, hk, hrests⟩ := hex i rfl
    have hs : Session.Shows { world := x } i ⟨x.state.transitionPolls, x.state.failuresLeft, k⟩ :=
      ⟨hw, hc, rfl, rfl, hk⟩
    have hl : x.state.listing (some i) = k.statuses := by simp [Simulation.listing, hk]
    rw [hl]
    exact update_settles hs hrests.sound rfl hvalid hrests.settled hrests.phase rfl ht hf hb

/-- A reconciliation that has the time and the fuel it needs, with nothing else going on. It submits
each library that is wanted until it is installed or has no attempts left, and no other one. It
succeeds exactly if the attempts are enough for all of them, and then leaves a cluster of the desired
shape with the desired libraries; otherwise it names those for which they were not enough. -/
theorem reconcile_converges (options : Options) (fuel : Nat) (desired : Desired)
    (existing : Option String) (w : Scene Simulation) (hw : w.Still) (hc : w.state.Clear)
    (hvalid : desired.validate = .ok ())
    (hex : ∀ i, existing = some i → ∃ k, w.state.clusters.get? i = some k ∧
      k.Rests i desired.libraries)
    (ht : options.poll.Allows w.state.transitionPolls)
    (hf : max w.state.transitionPolls (max options.attemptBudget 1) < fuel) :
    let x := (simulated options fuel).reconcile desired existing w
    let budget := max options.attemptBudget 1
    let wanted := wantedOf desired.libraries (w.state.listing existing)
    let failures := w.state.failuresLeft
    (x.outcome = .ok () ↔ ∀ l ∈ wanted, failures l < budget) ∧
      (x.outcome ≠ .ok () → ∃ failed,
        x.outcome = .error (.failed ⟨.libraryInstall, .partialConvergence failed⟩) ∧
          failed.map (·.library) = wanted.filter (budget ≤ failures ·)) ∧
      (∀ l, submissions x.session.calls l =
        if l ∈ wanted then min (failures l + 1) budget else 0) ∧
      (x.outcome = .ok () → ∃ i c, x.session.cluster.map (·.id) = some i ∧
        x.session.world.state.clusters.get? i = some c ∧ (∀ j, existing = some j → j = i) ∧
        desired.cluster.shapeDiff c.info = [] ∧ ReportedOnce c.statuses ∧
        (∀ l ∈ desired.libraries, ∃ s ∈ c.statuses, s.library = l ∧ s.status = .installed) ∧
        ∀ s ∈ c.statuses, s.library ∉ desired.libraries → s.forAllClusters = false →
          s.status = .uninstallOnRestart) := by
  intro x budget wanted failures
  have hend : Settles wanted failures budget (x.outcome, x.session) :=
    reconcile_settles hw hc hvalid hex ht (by omega) (by omega)
  have hiff : x.outcome = .ok () ↔ ∀ l ∈ wanted, failures l < budget := by
    refine ⟨fun hok => ?_, hend.success⟩
    by_contra hn
    obtain ⟨failed, he, -⟩ := hend.failure hn
    have hbad : x.outcome = .error _ := he
    rw [hok] at hbad
    cases hbad
  refine ⟨hiff, fun hn => hend.failure fun h => hn (hiff.2 h), fun l => ?_, fun hok => ?_⟩
  · rw [Session.calls, submissions, List.countP_reverse]
    exact hend.submissions l
  · have hsound : ∀ i k, existing = some i → w.state.clusters.get? i = some k → k.Sound i := by
      intro i k hi hk
      obtain ⟨k', hk', hrests⟩ := hex i hi
      obtain rfl := Option.some.inj (hk.symm.trans hk')
      exact hrests.sound
    obtain ⟨-, i, v, hk, hi, hshape, hv⟩ := reconcile_knows hw hc hsound hok
    change x.session.Knows i v at hk
    -- A cluster that was left terminated has its libraries as they were.
    have hdone : (∀ l ∈ v.cluster.libraries, l.IsAtRest) ∧
        isConverged desired.libraries v.cluster.statuses = true := by
      rcases hv with ⟨-, hd, -⟩ | ⟨-, he, hexists, k, hk', hl⟩
      · exact ⟨hd.atRest, hd.converged⟩
      · obtain ⟨k', hget, hrests⟩ := hex i hexists
        obtain rfl := Option.some.inj (hk'.symm.trans hget)
        have hsame : v.cluster.statuses = k.statuses := by
          rw [SimulatedCluster.statuses, hl, SimulatedCluster.statuses]
        rw [hsame] at he ⊢
        exact ⟨hl ▸ hrests.settled.rest, hrests.settled.isConverged he⟩
    have hget := (hk.fresh.shows_of_rest hdone.1).state.cluster
    obtain ⟨hinstalled, hothers⟩ := isConverged_iff.1 hdone.2
    refine ⟨i, v.cluster, ?_, hget, hi, hshape, ?_, hinstalled, fun s hs hd hall => ?_⟩
    · rw [hk.cluster, Option.map_some, hk.fresh.sound.id]
    · rw [← hk.fresh.libraries]
      exact hend.once
    · by_contra hn
      have hr := hothers s hs
      rw [isRemovable_eq_true.2 ⟨hd, hall, hn⟩] at hr
      cases hr

def failingOnce : Scene Simulation where
  state := (sampleWorld .terminated).state.failInstall (.jar "a.jar") 1

theorem failingOnce_rests (i : String) (hi : some "c" = some i) :
    ∃ k, failingOnce.state.clusters.get? i = some k ∧ k.Rests i sample.libraries := by
  obtain rfl := Option.some.inj hi
  refine ⟨.atRest (SimulatedCluster.reshape { id := "c", phase := .terminated } sample.cluster) [],
    by decide +kernel, rfl, .inr rfl, rfl, ?_⟩
  exact ⟨by simp [SimulatedCluster.atRest], List.nodup_nil, fun x hx => by cases hx⟩

theorem reconcile_converges_failingOnce :
    let x := (simulated {} 9).reconcile sample (some "c") failingOnce
    x.outcome = .ok () ∧ submissions x.session.calls (.jar "a.jar") = 2 := by
  obtain ⟨hiff, -, hn, -⟩ := reconcile_converges {} 9 sample (some "c") failingOnce ⟨rfl, rfl, rfl⟩
    (fun _ => rfl) (by decide +kernel) failingOnce_rests (PollConfig.allows_one (by decide))
    (by decide)
  exact ⟨hiff.2 (by decide +kernel), (hn _).trans (by decide +kernel)⟩

end Reconciler
end ClusterReconciliation
