import ClusterReconciliation.Proofs.Doubles
import ClusterReconciliation.Proofs.Polling
import ClusterReconciliation.Reconcile.Options

/-! How a wait slows down. However it is set up, its factor is at least one and its bound is no less
than its interval, so that no delay is shorter than the one before it. The delays are those of an
exact product; it may be too long for a length of time. -/
namespace ClusterReconciliation
open Decimal

namespace Decimal.Double

theorem roundDiv_bounds (num : ℕ) {den : ℕ} (hd : 0 < den) :
    2 * num ≤ (2 * roundDiv num den + 1) * den ∧
      2 * roundDiv num den * den ≤ 2 * num + den := by
  have hn := Nat.div_add_mod num den
  have hr := Nat.mod_lt num hd
  rw [roundDiv]
  generalize num / den = q at *
  generalize num % den = r at *
  subst hn
  split_ifs with hlow hhigh
  · constructor <;> nlinarith
  · constructor <;> nlinarith
  · have hhalf : 2 * r = den := by omega
    rcases Nat.mod_two_eq_zero_or_one q with heven | hodd
    · rw [heven]
      constructor <;> nlinarith
    · rw [hodd]
      constructor <;> nlinarith

/-- A quotient is no further than a half from what it is rounded to. -/
theorem roundDiv_near (num : ℕ) {den : ℕ} (hd : 0 < den) :
    |(roundDiv num den : ℚ) - num / den| ≤ 1 / 2 := by
  have hdq : (0 : ℚ) < den := by exact_mod_cast hd
  obtain ⟨hlow, hhigh⟩ := roundDiv_bounds num hd
  have hlow' : (2 * num : ℚ) ≤ (2 * roundDiv num den + 1) * den := by exact_mod_cast hlow
  have hhigh' : (2 * roundDiv num den * den : ℚ) ≤ 2 * num + den := by exact_mod_cast hhigh
  rw [abs_le]
  constructor
  · rw [neg_le_sub_iff_le_add, div_le_iff₀ hdq]
    linarith
  · rw [sub_le_iff_le_add', ← sub_le_iff_le_add, le_div_iff₀ hdq]
    linarith

/-- A number that is no less than one. It may be infinite. -/
structure AtLeastOne (x : Double) : Prop where
  isNaN : x.isNaN = false
  isNegative : x.isNegative = false
  le_value : x.isFinite → 1 ≤ x.value

theorem key_one : (ofNat 1).key = (1023 * fractionWeight : ℕ) := by decide +kernel

theorem one_le_value {x : Double} (h : 1023 * fractionWeight ≤ x.magnitude) : 1 ≤ x.value := by
  have hm := x.significand_lt
  have hge := x.exponent_ge
  rw [magnitude_eq, fractionWeight] at h
  have he : -52 ≤ x.exponent := by omega
  have hnormal : (2 ^ 52 : ℚ) ≤ x.significand := by
    exact_mod_cast x.le_significand (by omega)
  calc (1 : ℚ) = 2 ^ 52 * 2 ^ (-52 : ℤ) := by norm_num
    _ ≤ x.significand * 2 ^ x.exponent :=
      mul_le_mul hnormal (zpow_le_zpow_right₀ (by norm_num) he) (two_zpow_pos _).le
        (Nat.cast_nonneg _)

theorem atLeastOne_of_key {x : Double} (hx : x.isNaN = false) (h : (ofNat 1).key ≤ x.key) :
    x.AtLeastOne := by
  have hweight : 0 < 1023 * fractionWeight := by decide
  have hkey : x.key = if x.isNegative then -(x.magnitude : ℤ) else x.magnitude := rfl
  rw [key_one, hkey] at h
  cases hs : x.isNegative with
  | true =>
    rw [hs, if_pos rfl] at h
    omega
  | false =>
    rw [hs, if_neg (by decide)] at h
    exact ⟨hx, hs, fun _ => one_le_value (by exact_mod_cast h)⟩

theorem atLeastOne_one : (ofNat 1).AtLeastOne := atLeastOne_of_key (by decide +kernel) le_rfl

theorem atLeastOne_of_lt {x : Double} (h : (ofNat 1).lt x = true) : x.AtLeastOne := by
  simp only [lt, Bool.and_eq_true, Bool.not_eq_true', decide_eq_true_eq] at h
  exact atLeastOne_of_key h.1.2 h.2.le

end Decimal.Double

namespace Duration

/-- The product to the nearest nanosecond, if that is a length of time. -/
def scaleExactly (factor : Double) (d : Duration) : Option Duration :=
  if !factor.isFinite || factor.lt .zero then none
  else
    let product := Double.roundDiv (factor.ratio.1 * d) factor.ratio.2
    if product < UInt64.size * 1000000000 then some product else none

variable {factor : Double} {d e : Duration}

theorem scaleExactly_near (h : scaleExactly factor d = some e) :
    |(e : ℚ) - factor.value * d| ≤ 1 / 2 := by
  obtain ⟨D, hD, hnum, hden⟩ := Double.scaled_spec factor.significand 1 factor.exponent
  have hpos : 0 < factor.ratio.2 := by
    have : (0 : ℚ) < factor.ratio.2 := by
      rw [Double.ratio, hden]
      simpa using hD
    exact_mod_cast this
  have hratio : ((factor.ratio.1 * d : ℕ) : ℚ) / factor.ratio.2 = factor.value * d := by
    rw [Nat.cast_mul, Double.ratio, hnum, hden, Double.value]
    field_simp
    simp
  simp only [scaleExactly, Option.ite_none_left_eq_some, Option.ite_none_right_eq_some,
    Option.some.injEq] at h
  rw [← h.2.2, ← hratio]
  exact Double.roundDiv_near _ hpos

theorem isFinite_of_scaleExactly (h : scaleExactly factor d = some e) : factor.isFinite := by
  by_contra hinfinite
  simp [scaleExactly, hinfinite] at h

/-- Not even the rounding makes a delay shorter. -/
theorem le_of_scaleExactly (hf : factor.AtLeastOne) (h : scaleExactly factor d = some e) :
    d ≤ e := by
  have hvalue := hf.le_value (isFinite_of_scaleExactly h)
  have hnear := (abs_le.1 (scaleExactly_near h)).1
  have hprod : (d : ℚ) ≤ factor.value * d := le_mul_of_one_le_left (Nat.cast_nonneg d) hvalue
  have hlt : (d : ℚ) < e + 1 := by linarith
  exact Nat.le_of_lt_succ (by exact_mod_cast hlt)

end Duration

/-- A first delay within the bound, and a factor that does not shrink it. -/
structure PollConfig.Widens (c : PollConfig) : Prop where
  interval_le : c.interval ≤ c.maxInterval
  multiplier : c.multiplier.AtLeastOne

namespace PollConfig.Widens
variable {c : PollConfig}

theorem default : ({} : PollConfig).Widens where
  interval_le := by decide
  multiplier := Double.atLeastOne_of_lt (by decide +kernel)

theorem fixed (timeout interval : Duration) : (PollConfig.fixed timeout interval).Widens where
  interval_le := Nat.le_refl interval
  multiplier := Double.atLeastOne_one

/-- Whatever the factor is. One that is no number counts as one. -/
theorem withBackoff (c : PollConfig) (multiplier : Double) (maxInterval : Duration) :
    (c.withBackoff multiplier maxInterval).Widens where
  interval_le := Nat.le_max_right maxInterval c.interval
  multiplier := by
    unfold PollConfig.withBackoff
    split_ifs with h
    · exact Double.atLeastOne_of_lt h
    · exact Double.atLeastOne_one

theorem withPollInterval {o : Options} (h : o.poll.Widens) (d : Duration) :
    (o.withPollInterval d).poll.Widens where
  interval_le := Nat.le_max_right o.poll.maxInterval d
  multiplier := h.multiplier

end PollConfig.Widens

mutual

/-- Made from the defaults by the functions that are there for it. -/
inductive PollConfig.Built : PollConfig → Prop
  | default : PollConfig.Built {}
  | fixed (timeout interval : Duration) : PollConfig.Built (.fixed timeout interval)
  | withBackoff {c : PollConfig} (h : PollConfig.Built c) (multiplier : Double)
    (maxInterval : Duration) : PollConfig.Built (c.withBackoff multiplier maxInterval)
  | withTransientBudget {c : PollConfig} (h : PollConfig.Built c) (n : Nat) :
    PollConfig.Built (c.withTransientBudget n)
  | poll {o : Options} (h : Options.Built o) : PollConfig.Built o.poll

inductive Options.Built : Options → Prop
  | default : Options.Built {}
  | withAttemptBudget {o : Options} (h : Options.Built o) (n : Nat) :
    Options.Built (o.withAttemptBudget n)
  | withPoll {o : Options} {c : PollConfig} (h : Options.Built o) (hc : PollConfig.Built c) :
    Options.Built (o.withPoll c)
  | withPollTimeout {o : Options} (h : Options.Built o) (d : Duration) :
    Options.Built (o.withPollTimeout d)
  | withPollInterval {o : Options} (h : Options.Built o) (d : Duration) :
    Options.Built (o.withPollInterval d)

end

mutual

theorem PollConfig.Built.widens {c : PollConfig} : c.Built → c.Widens
  | .default => .default
  | .fixed timeout interval => .fixed timeout interval
  | .withBackoff (c := c) _ multiplier maxInterval => .withBackoff c multiplier maxInterval
  | .withTransientBudget h _ => ⟨h.widens.interval_le, h.widens.multiplier⟩
  | .poll h => h.widens

theorem Options.Built.widens {o : Options} : o.Built → o.poll.Widens
  | .default => .default
  | .withAttemptBudget h _ => h.widens
  | .withPoll _ hc => hc.widens
  | .withPollTimeout h _ => ⟨h.widens.interval_le, h.widens.multiplier⟩
  | .withPollInterval h d => h.widens.withPollInterval d

end

namespace PollConfig

/-- The delay after each fetch, by a given way of scaling. -/
def delay (scale : Double → Duration → Option Duration) (c : PollConfig) : ℕ → Duration
  | 0 => c.firstDelay
  | i + 1 => c.nextDelay scale (c.delay scale i)

variable {scale : Double → Duration → Option Duration} {c : PollConfig} {d : Duration}

theorem nextDelay_le (scale : Double → Duration → Option Duration) (c : PollConfig)
    (d : Duration) : c.nextDelay scale d ≤ max c.maxInterval minPollInterval := by
  unfold nextDelay
  cases scale c.multiplier d with
  | none => exact le_rfl
  | some e => exact max_le_max_right _ (Nat.min_le_right e c.maxInterval)

/-- A product that is too long counts as the bound, and is no exception. -/
theorem le_nextDelay (hbound : d ≤ max c.maxInterval minPollInterval)
    (hscale : ∀ e, scale c.multiplier d = some e → d ≤ e) : d ≤ c.nextDelay scale d := by
  unfold nextDelay
  cases hd : scale c.multiplier d with
  | none => exact hbound
  | some e =>
    have hle := hscale e hd
    rcases le_max_iff.1 hbound with hmax | hmin
    · exact le_max_of_le_left (le_min hle hmax)
    · exact le_max_of_le_right hmin

theorem Widens.delay_le (h : c.Widens) (scale : Double → Duration → Option Duration) (i : ℕ) :
    c.delay scale i ≤ max c.maxInterval minPollInterval := by
  cases i with
  | zero => exact max_le_max_right _ h.interval_le
  | succ i => exact nextDelay_le scale c (c.delay scale i)

/-- A sleep is as long as the delay, or it is shorter and ends with the deadline. -/
theorem pause_eq_some {started now delay : Duration} (h : c.pause started now delay = some d) :
    d = delay ∨ d < delay ∧ c.deadline started = some (now + d) := by
  unfold pause at h
  cases hdeadline : c.deadline started with
  | none =>
    rw [hdeadline] at h
    exact .inl (Option.some.inj h).symm
  | some deadline =>
    simp only [hdeadline, Option.ite_none_left_eq_some, not_le, Option.some.injEq] at h
    obtain ⟨hnow, rfl⟩ := h
    rcases Nat.lt_or_ge (deadline - now) delay with hlt | hge
    · rw [Nat.min_eq_right hlt.le, Nat.add_sub_cancel' hnow.le]
      exact .inr ⟨hlt, rfl⟩
    · exact .inl (Nat.min_eq_left hge)

/-- How the delays of a wait grow. -/
structure BacksOff (c : PollConfig) (delays : ℕ → Duration) : Prop where
  first : delays 0 = max c.interval minPollInterval
  monotone : Monotone delays
  le_bound : ∀ i, delays i ≤ max c.maxInterval minPollInterval

theorem Widens.backsOff (h : c.Widens) : c.BacksOff (c.delay Duration.scaleExactly) where
  first := rfl
  monotone := by
    apply monotone_nat_of_le_succ
    intro i
    have hbound := h.delay_le Duration.scaleExactly i
    exact le_nextDelay hbound fun e he => Duration.le_of_scaleExactly h.multiplier he
  le_bound := h.delay_le _

end PollConfig

namespace Note
variable {β α ε : Type}

def nap? : Note β α ε → Option (Duration × Duration)
  | slept now d => some (now, d)
  | _ => none

/-- The sleeps that are noted, each with the time it is asked for at. -/
def naps (notes : List (Note β α ε)) : List (Duration × Duration) := notes.filterMap nap?

section
variable (ns : List (Note β α ε)) (answer : Except ClientError β) (verdict : Except ε (Check α))
  (now d : Duration)

@[simp] theorem naps_fetched : naps (ns ++ [fetched answer]) = naps ns := by simp [naps, nap?]

@[simp] theorem naps_decided : naps (ns ++ [decided verdict]) = naps ns := by simp [naps, nap?]

@[simp] theorem naps_slept : naps (ns ++ [slept now d]) = naps ns ++ [(now, d)] := by
  simp [naps, nap?]

end

end Note

open Note

section
variable {β α ε : Type} {config : PollConfig} {started now d : Duration} {delays : ℕ → Duration}
  {ns ms : List (Note β α ε)}

/-- Each sleep is as long as the delay of its number, unless the deadline cuts it short. -/
def PollConfig.Paces (config : PollConfig) (started : Duration) (delays : ℕ → Duration)
    (ns : List (Note β α ε)) : Prop :=
  ∀ i now d, (naps ns)[i]? = some (now, d) →
    d = delays i ∨ d < delays i ∧ config.deadline started = some (now + d)

theorem PollConfig.Paces.congr (h : config.Paces started delays ns) (hm : naps ms = naps ns) :
    config.Paces started delays ms := by
  intro i now d hi
  rw [hm] at hi
  exact h i now d hi

theorem PollConfig.Paces.nap (h : config.Paces started delays ns)
    (hm : naps ms = naps ns ++ [(now, d)])
    (hp : config.pause started now (delays (naps ns).length) = some d) :
    config.Paces started delays ms := by
  intro i now' d' hi
  rw [hm] at hi
  rcases lt_trichotomy i (naps ns).length with hlt | rfl | hgt
  · rw [List.getElem?_append_left hlt] at hi
    exact h i now' d' hi
  · rw [List.getElem?_concat_length] at hi
    cases hi
    exact PollConfig.pause_eq_some hp
  · rw [List.getElem?_eq_none (by simpa using hgt)] at hi
    cases hi

end

namespace Watch
variable {σ β α ε : Type} (w : Watch σ β α ε) (scale : Double → Duration → Option Duration)
  (clock : Clock σ) (config : PollConfig)

theorem judge_naps (answer : Except ClientError β) (s : σ) (ns : List (Note β α ε)) :
    naps (w.noted.judge answer (s, ns)).2.2 = naps ns := by
  simp only [Watch.judge, noted]
  cases (w.decide answer s).1 with
  | error e => exact naps_decided ns _
  | ok check => cases check <;> exact naps_decided ns _

/-- Nobody sleeps over a fetch, nor over the decision on it. -/
theorem weigh_naps (budget failures : Nat) (s : σ) (ns : List (Note β α ε)) :
    naps (w.noted.weigh budget failures (w.noted.fetch (s, ns)).1 (w.noted.fetch (s, ns)).2).2.2 =
      naps ns := by
  have hfetch : naps (w.noted.fetch (s, ns)).2.2 = naps ns := naps_fetched ns _
  cases (w.noted.fetch (s, ns)).1 with
  | ok b => exact (judge_naps w _ _ _).trans hfetch
  | error e =>
    simp only [Watch.weigh]
    split_ifs
    · exact hfetch
    · exact hfetch
    · exact (judge_naps w _ _ _).trans hfetch

/-- What a step adds to the sleeps: none if it ends the wait, and one if it does not. -/
inductive Napped (scale : Double → Duration → Option Duration) (config : PollConfig)
    (started delay : Duration) (ns : List (Note β α ε)) :
    (Ending α ε ⊕ Duration × Nat) × σ × List (Note β α ε) → Prop
  | ends {ending : Ending α ε} {u : σ} {ms : List (Note β α ε)} (h : naps ms = naps ns) :
    Napped scale config started delay ns (.inl ending, u, ms)
  | sleeps {failures : Nat} {u : σ} {ms : List (Note β α ε)} {now d : Duration}
    (h : naps ms = naps ns ++ [(now, d)]) (hp : config.pause started now delay = some d) :
    Napped scale config started delay ns (.inr (config.nextDelay scale delay, failures), u, ms)

theorem step_naps (started delay : Duration) (failures : Nat) (s : σ) (ns : List (Note β α ε)) :
    Napped scale config started delay ns
      (w.noted.step scale clock.noted config started delay failures (s, ns)) := by
  have hweigh := weigh_naps w config.maxTransientErrors failures s ns
  unfold Watch.step
  change Napped scale config started delay ns (if clock.isCancelled s then _ else _)
  cases clock.isCancelled s with
  | true => exact .ends rfl
  | false =>
    simp only [Bool.false_eq_true, if_false]
    generalize w.noted.weigh config.maxTransientErrors failures (w.noted.fetch (s, ns)).1
      (w.noted.fetch (s, ns)).2 = x at hweigh ⊢
    obtain ⟨ending | n, u, ms⟩ := x
    · exact .ends hweigh
    · simp only [Clock.noted]
      cases hp : config.pause started (clock.now u) delay with
      | none => exact .ends hweigh
      | some d => exact .sleeps (by rw [naps_slept, hweigh]) hp

/-- As many sleeps as there have been, as often the delay has grown. -/
theorem loop_paces (fuel : Nat) (started : Duration) (failures : Nat) (s : σ)
    (ns : List (Note β α ε)) (h : config.Paces started (config.delay scale) ns) :
    config.Paces started (config.delay scale)
      (w.noted.loop scale clock.noted config started fuel
        (config.delay scale (naps ns).length) failures (s, ns)).2.2 := by
  induction fuel generalizing failures s ns with
  | zero => exact h
  | succ fuel ih =>
    have hstep := step_naps w scale clock config started (config.delay scale (naps ns).length)
      failures s ns
    simp only [Watch.loop]
    generalize w.noted.step scale clock.noted config started
      (config.delay scale (naps ns).length) failures (s, ns) = x at hstep ⊢
    cases hstep with
    | ends hm => exact h.congr hm
    | @sleeps n u ms now d hm hp =>
      -- One more sleep, and so the next delay is that of the next number.
      have hnext : config.nextDelay scale (config.delay scale (naps ns).length) =
          config.delay scale (naps ms).length := by
        rw [hm, List.length_append]
        rfl
      simp only [hnext]
      exact ih n u ms (h.nap hm hp)

theorem runWith_paces (fuel : Nat) (s : σ) :
    config.Paces (clock.now s) (config.delay scale)
      (w.noted.runWith scale clock.noted config fuel (s, [])).2.2 :=
  loop_paces w scale clock config fuel (clock.now s) 0 s [] fun i now d hi => by simp [naps] at hi

end Watch

/-- However a configuration was made, waits under it slow down. The sleeps of a wait are its delays,
cut short by the deadline alone. -/
theorem Watch.runWith_backsOff {σ β α ε : Type} (w : Watch σ β α ε) (clock : Clock σ)
    {config : PollConfig} (hc : config.Built) (fuel : Nat) (s : σ) :
    config.Widens ∧ config.BacksOff (config.delay Duration.scaleExactly) ∧
      ∃ ending u notes,
        w.noted.runWith Duration.scaleExactly clock.noted config fuel (s, []) =
          (ending, u, notes) ∧
        w.runWith Duration.scaleExactly clock config fuel s = (ending, u) ∧
        config.Paces (clock.now s) (config.delay Duration.scaleExactly) notes := by
  have hpaces := runWith_paces w Duration.scaleExactly clock config fuel s
  have hplain := runWith_eq_noted w Duration.scaleExactly clock config fuel s []
  generalize w.noted.runWith Duration.scaleExactly clock.noted config fuel (s, []) = x at *
  obtain ⟨ending, u, notes⟩ := x
  exact ⟨hc.widens, hc.widens.backsOff, ending, u, notes, rfl, hplain, hpaces⟩

/-- A product with its factor is no length of time. -/
def PollConfig.steep : PollConfig :=
  ((({} : Options).withPoll ((PollConfig.fixed (.ofSeconds 60) (.ofSeconds 10)).withBackoff
    (.ofNat (2 ^ 100)) (.ofSeconds 25))).withPollInterval (.ofSeconds 20)).poll

/-- The last sleep ends with the deadline. -/
theorem Watch.runWith_backsOff_steep :
    PollConfig.steep.Built ∧ PollConfig.steep.Widens ∧
      PollConfig.steep.BacksOff (PollConfig.steep.delay Duration.scaleExactly) ∧
      Duration.scaleExactly PollConfig.steep.multiplier PollConfig.steep.firstDelay = none ∧
      Watch.idle.runWith Duration.scaleExactly Clock.ideal .steep 4 (0 : Duration) =
        (.stopped (.timeout "nothing" (.ofSeconds 60)), .ofSeconds 60) ∧
      ∃ notes : List (Note Unit Unit Unit),
        PollConfig.steep.Paces 0 (PollConfig.steep.delay Duration.scaleExactly) notes ∧
        naps notes = [(0, .ofSeconds 20), (.ofSeconds 20, .ofSeconds 25),
          (.ofSeconds 45, .ofSeconds 15)] := by
  have hbuilt : PollConfig.steep.Built :=
    .poll (.withPollInterval (.withPoll .default (.withBackoff (.fixed _ _) _ _)) _)
  have hlong : Duration.scaleExactly PollConfig.steep.multiplier PollConfig.steep.firstDelay =
      none := by
    decide +kernel
  have hrun : Watch.idle.runWith Duration.scaleExactly Clock.ideal .steep 4 (0 : Duration) =
      (.stopped (.timeout "nothing" (.ofSeconds 60)), .ofSeconds 60) := by
    decide +kernel
  have hnaps : naps (Watch.idle.noted.runWith Duration.scaleExactly Clock.ideal.noted .steep 4
      ((0 : Duration), [])).2.2 = [(0, .ofSeconds 20), (.ofSeconds 20, .ofSeconds 25),
        (.ofSeconds 45, .ofSeconds 15)] := by
    decide +kernel
  obtain ⟨hwidens, hback, _, _, notes, hnoted, -, hpaces⟩ :=
    Watch.runWith_backsOff Watch.idle Clock.ideal hbuilt 4 (0 : Duration)
  rw [hnoted] at hnaps
  exact ⟨hbuilt, hwidens, hback, hlong, hrun, notes, hpaces, hnaps⟩

end ClusterReconciliation
