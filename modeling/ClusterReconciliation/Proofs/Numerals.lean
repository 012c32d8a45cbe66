import ClusterReconciliation.Json.Reader
import ClusterReconciliation.Json.Writer
import Mathlib.Tactic

/-! Numerals as texts. A numeral is read back from its spelling, whatever follows that is no part of
a numeral, and every number is written as the spelling of a numeral of the same value. -/
namespace ClusterReconciliation
open Decimal

namespace Json

/-- What comes next does not go on with a numeral. -/
def EndsNumeral (rest : List Char) : Prop :=
  ∀ c ∈ rest.head?, isDigit c = false ∧ c ≠ '.' ∧ c ≠ 'e' ∧ c ≠ 'E'

theorem takeWhile_digits {ds rest : List Char} (hds : ∀ c ∈ ds, isDigit c = true)
    (hrest : ∀ c ∈ rest.head?, isDigit c = false) :
    (ds ++ rest).takeWhile isDigit = ds ∧ (ds ++ rest).dropWhile isDigit = rest := by
  have hnone : rest.takeWhile isDigit = [] ∧ rest.dropWhile isDigit = rest := by
    cases rest with
    | nil => simp
    | cons c cs => simp [hrest c rfl]
  rw [List.takeWhile_append_of_pos hds, List.dropWhile_append_of_pos hds, hnone.1, hnone.2]
  simp

theorem digitsValue_eq (cs : List Char) : digitsValue cs = Nat.ofDigitChars 10 cs 0 := by
  rw [digitsValue, Nat.ofDigitChars_eq_foldl]
  congr 1
  funext n c
  rw [Nat.mul_comm]

theorem digitsValue_toDigits (n : Nat) : digitsValue (Nat.toDigits 10 n) = n := by
  rw [digitsValue_eq, Nat.ofDigitChars_ten_toDigits]

theorem digitsValue_append_zeros (cs : List Char) (k : Nat) :
    digitsValue (cs ++ List.replicate k '0') = digitsValue cs * 10 ^ k := by
  rw [digitsValue_eq, digitsValue_eq, Nat.ofDigitChars_append, Nat.ofDigitChars_replicate_zero,
    Nat.mul_comm]

theorem digitsValue_zeros_append (cs : List Char) (k : Nat) :
    digitsValue (List.replicate k '0' ++ cs) = digitsValue cs := by
  rw [digitsValue_eq, digitsValue_eq, Nat.ofDigitChars_append, Nat.ofDigitChars_replicate_zero,
    Nat.mul_zero]

theorem isDigit_of_mem_toDigits {n : Nat} {c : Char} (h : c ∈ Nat.toDigits 10 n) :
    isDigit c = true := by
  have hc := Nat.isDigit_of_mem_toDigits (by decide) (by decide) h
  simpa [isDigit, Char.isDigit, Char.le_def] using hc

theorem isDigit_of_mem_zeros {k : Nat} {c : Char} (h : c ∈ List.replicate k '0') :
    isDigit c = true := by
  rw [List.eq_of_mem_replicate h]
  decide

theorem head?_toDigits {n : Nat} (hn : n ≠ 0) : (Nat.toDigits 10 n).head? ≠ some '0' := by
  induction n using Nat.strongRecOn with
  | ind n ih =>
    by_cases h : n < 10
    · rw [Nat.toDigits_of_lt_base h]
      simp [hn]
    · rw [Nat.toDigits_of_base_le (by decide) (by omega),
        List.head?_append_of_ne_nil _ Nat.toDigits_ne_nil]
      exact ih (n / 10) (by omega) (by omega)

def exponentChars (e : Int) : List Char := (NumberStyle.signed.exponentText e).toList

theorem exponentChars_eq (e : Int) : ∃ ds : List Char, ds ≠ [] ∧ (∀ c ∈ ds, isDigit c = true) ∧
    digitsValue ds = e.natAbs ∧ exponentChars e = 'e' :: (if e < 0 then '-' else '+') :: ds := by
  have hdigits : (toString e.natAbs).toList = Nat.toDigits 10 e.natAbs := Nat.toList_repr
  refine ⟨List.replicate (2 - (toString e.natAbs).length) '0' ++ Nat.toDigits 10 e.natAbs,
    by simp, fun c hc => ?_, ?_, ?_⟩
  · exact (List.mem_append.1 hc).elim isDigit_of_mem_zeros isDigit_of_mem_toDigits
  · rw [digitsValue_zeros_append, digitsValue_toDigits]
  · by_cases he : e < 0 <;>
      simp [exponentChars, NumberStyle.exponentText, NumberStyle.signed, zeros, he]

/-- The exponent is read back, and what is none ends the numeral. -/
theorem readExponent_exponentChars (e : Int) {rest : List Char} (hrest : EndsNumeral rest) :
    readExponent (exponentChars e ++ rest) = some (some e, rest) := by
  obtain ⟨ds, hne, hds, hvalue, heq⟩ := exponentChars_eq e
  obtain ⟨htake, hdrop⟩ := takeWhile_digits hds fun c hc => (hrest c hc).1
  rw [heq]
  by_cases he : e < 0
  · simp [readExponent, he, htake, hdrop, hne, hvalue, abs_of_neg he]
  · simp [readExponent, he, htake, hdrop, hne, hvalue, abs_of_nonneg (not_lt.1 he)]

theorem readExponent_of_ends {rest : List Char} (hrest : EndsNumeral rest) :
    readExponent rest = some (none, rest) := by
  cases rest with
  | nil => rfl
  | cons c cs =>
    obtain ⟨-, -, he, hE⟩ := hrest c rfl
    simp [readExponent, he, hE]

/-- Well formed: all parts are digits, and the whole part has no zero too many. -/
structure Numeral.Sound (n : Numeral) : Prop where
  whole : ∀ c ∈ n.whole, isDigit c = true
  whole_ne : n.whole ≠ []
  leading : n.whole.head? = some '0' → n.whole.length = 1
  fraction : ∀ f, n.fraction = some f → f ≠ [] ∧ ∀ c ∈ f, isDigit c = true

namespace Numeral

/-- What follows the whole part of a numeral in its spelling. -/
def ending (n : Numeral) : List Char :=
  (n.fraction.elim [] fun f => '.' :: f) ++ n.exponent.elim [] exponentChars

def spell (n : Numeral) : List Char := (if n.negative then ['-'] else []) ++ n.whole ++ n.ending

end Numeral

theorem endsNumeral_exponent {e : Option Int} {rest : List Char} (hrest : EndsNumeral rest) :
    ∀ c ∈ (e.elim [] exponentChars ++ rest).head?, isDigit c = false ∧ c ≠ '.' := by
  cases e with
  | none => exact fun c hc => ⟨(hrest c hc).1, (hrest c hc).2.1⟩
  | some e =>
    obtain ⟨ds, -, -, -, heq⟩ := exponentChars_eq e
    intro c hc
    obtain rfl : c = 'e' := by simpa [heq] using hc.symm
    decide

theorem readMagnitude_spell {n : Numeral} (h : n.Sound) {rest : List Char}
    (hrest : EndsNumeral rest) :
    readMagnitude n.negative (n.whole ++ (n.ending ++ rest)) = some (n, rest) := by
  obtain ⟨negative, whole, fraction, exponent⟩ := n
  have hexp : readExponent (exponent.elim [] exponentChars ++ rest) = some (exponent, rest) := by
    cases exponent with
    | none => exact readExponent_of_ends hrest
    | some e => exact readExponent_exponentChars e hrest
  have hends := endsNumeral_exponent (e := exponent) hrest
  have hlead : (whole.isEmpty || (whole.head? == some '0' && 1 < whole.length)) = false := by
    have hne : whole ≠ [] := h.whole_ne
    have hzero : whole.head? = some '0' → whole.length = 1 := h.leading
    by_cases hhead : whole.head? = some '0'
    · simp [hne, hzero hhead]
    · simp [hne, hhead]
  cases fraction with
  | none =>
    obtain ⟨htake, hdrop⟩ := takeWhile_digits h.whole fun c hc => (hends c hc).1
    simp only [readMagnitude, Numeral.ending, Option.elim_none, List.nil_append, htake, hdrop, hlead,
      Bool.false_eq_true, if_false]
    split
    · rename_i r hr
      exact absurd rfl (hends '.' (by rw [hr]; rfl)).2
    · rw [hexp]
      rfl
  | some f =>
    obtain ⟨hne, hf⟩ := h.fraction f rfl
    obtain ⟨htakeFraction, hdropFraction⟩ := takeWhile_digits hf fun c hc => (hends c hc).1
    have hpoint : ∀ c ∈ ('.' :: (f ++ (exponent.elim [] exponentChars ++ rest))).head?,
        isDigit c = false := by
      intro c hc
      obtain rfl := Option.some.inj hc
      decide
    obtain ⟨htake, hdrop⟩ := takeWhile_digits h.whole hpoint
    simp [readMagnitude, Numeral.ending, htake, hdrop, hlead, hexp, htakeFraction, hdropFraction,
      hne]

theorem readNumeral_spell {n : Numeral} (h : n.Sound) {rest : List Char}
    (hrest : EndsNumeral rest) : readNumeral (n.spell ++ rest) = some (n, rest) := by
  have hread := readMagnitude_spell h hrest
  rw [Numeral.spell]
  cases hn : n.negative with
  | true =>
    rw [hn] at hread
    simpa [readNumeral] using hread
  | false =>
    rw [hn] at hread
    obtain ⟨c, cs, hwhole⟩ := List.exists_cons_of_ne_nil h.whole_ne
    have hc : c ≠ '-' := by
      rintro rfl
      exact absurd (h.whole '-' (by simp [hwhole])) (by decide)
    simp only [hwhole, Bool.false_eq_true, if_false, List.nil_append, List.cons_append,
      List.append_assoc] at hread ⊢
    rw [readNumeral]
    · exact hread
    · exact fun r hr => hc (List.cons.inj hr).1

namespace Numeral

/-- All digits of the numeral, and the power of ten that they count. -/
def digits (n : Numeral) : Nat := digitsValue (n.whole ++ n.fraction.getD [])

def power (n : Numeral) : Int := n.exponent.getD 0 - (n.fraction.getD []).length

/-- The numeral writes the value of a decimal, and not as an integer. -/
structure Writes (n : Numeral) (d : Scaled) : Prop where
  sound : n.Sound
  marked : n.fraction.isSome ∨ n.exponent.isSome
  value : ∃ k : Nat, n.digits = d.digits * 10 ^ k ∧ (d.digits = 0 ∨ n.power = d.exponent - k)

end Numeral

theorem isDigit_zero : ∀ c ∈ ['0'], isDigit c = true := List.forall_mem_singleton.2 rfl

section Writes
variable (negative : Bool) {digits : Nat} {exponent : Int}

theorem writes_zero (e : Int) :
    Numeral.Writes ⟨negative, ['0'], some ['0'], none⟩ ⟨0, e⟩ where
  sound := ⟨isDigit_zero, by simp, by simp, fun f hf => by cases hf; exact ⟨by simp, isDigit_zero⟩⟩
  marked := by simp
  value := ⟨0, by simp [Numeral.digits, digitsValue], .inl rfl⟩

variable (h0 : digits ≠ 0)
include h0

theorem writes_whole (he : 0 ≤ exponent) :
    Numeral.Writes ⟨negative, Nat.toDigits 10 digits ++ List.replicate exponent.toNat '0',
      some ['0'], none⟩ ⟨digits, exponent⟩ where
  sound := {
    whole := fun c hc => (List.mem_append.1 hc).elim isDigit_of_mem_toDigits isDigit_of_mem_zeros
    whole_ne := by simp
    leading := fun hhead => by
      rw [List.head?_append_of_ne_nil _ Nat.toDigits_ne_nil] at hhead
      exact absurd hhead (head?_toDigits h0)
    fraction := fun f hf => by cases hf; exact ⟨by simp, isDigit_zero⟩ }
  marked := by simp
  value := by
    have hzeros : Nat.toDigits 10 digits ++ List.replicate exponent.toNat '0' ++ ['0'] =
        Nat.toDigits 10 digits ++ List.replicate (exponent.toNat + 1) '0' := by
      rw [List.append_assoc, ← List.replicate_succ']
    refine ⟨exponent.toNat + 1, ?_, .inr ?_⟩
    · simp [Numeral.digits, hzeros, digitsValue_append_zeros, digitsValue_toDigits]
    · simp [Numeral.power]
      omega

theorem writes_cut (k : Nat) (e : Option Int) (hk : k + 1 < (Nat.toDigits 10 digits).length)
    (he : e.getD 0 - ((Nat.toDigits 10 digits).length - (k + 1) : Nat) = exponent) :
    Numeral.Writes ⟨negative, (Nat.toDigits 10 digits).take (k + 1),
      some ((Nat.toDigits 10 digits).drop (k + 1)), e⟩ ⟨digits, exponent⟩ where
  sound := {
    whole := fun c hc => isDigit_of_mem_toDigits (List.mem_of_mem_take hc)
    whole_ne := by simp
    leading := fun hhead => absurd (by simpa [List.head?_take] using hhead) (head?_toDigits h0)
    fraction := fun f hf => by
      cases hf
      exact ⟨by simpa using hk, fun c hc => isDigit_of_mem_toDigits (List.mem_of_mem_drop hc)⟩ }
  marked := by simp
  value := ⟨0, by simp [Numeral.digits, digitsValue_toDigits],
    .inr (by simpa [Numeral.power] using he)⟩

omit h0

theorem writes_fraction (k : Nat)
    (hk : exponent = -(k + (Nat.toDigits 10 digits).length : Nat)) :
    Numeral.Writes ⟨negative, ['0'], some (List.replicate k '0' ++ Nat.toDigits 10 digits), none⟩
      ⟨digits, exponent⟩ where
  sound := {
    whole := isDigit_zero
    whole_ne := by simp
    leading := by simp
    fraction := fun f hf => by
      cases hf
      exact ⟨by simp, fun c hc =>
        (List.mem_append.1 hc).elim isDigit_of_mem_zeros isDigit_of_mem_toDigits⟩ }
  marked := by simp
  value := by
    have hzeros : ['0'] ++ (List.replicate k '0' ++ Nat.toDigits 10 digits) =
        List.replicate (k + 1) '0' ++ Nat.toDigits 10 digits := by
      rw [← List.append_assoc, List.replicate_succ, List.cons_append, List.nil_append]
    refine ⟨0, ?_, .inr ?_⟩
    · simp only [Numeral.digits, Option.getD_some, hzeros, digitsValue_zeros_append,
        digitsValue_toDigits, pow_zero, mul_one]
    · simp [Numeral.power, hk]

theorem writes_single (h1 : (Nat.toDigits 10 digits).length = 1) :
    Numeral.Writes ⟨negative, Nat.toDigits 10 digits, none, some exponent⟩ ⟨digits, exponent⟩ where
  sound := ⟨fun _ => isDigit_of_mem_toDigits, Nat.toDigits_ne_nil, fun _ => h1, by simp⟩
  marked := by simp
  value := ⟨0, by simp [Numeral.digits, digitsValue_toDigits], .inr (by simp [Numeral.power])⟩

end Writes

/-- The text of a number is the spelling of a numeral for its digits. -/
theorem magnitude_writes (negative : Bool) (d : Scaled) : ∃ n : Numeral, n.Writes d ∧
    n.negative = negative ∧ (NumberStyle.signed.magnitude d).toList = n.whole ++ n.ending := by
  obtain ⟨digits, exponent⟩ := d
  have hlen : (toString digits).length = (Nat.toDigits 10 digits).length := by
    rw [← String.length_toList]
    exact congrArg List.length Nat.toList_repr
  have hpos : 0 < (Nat.toDigits 10 digits).length := Nat.length_toDigits_pos
  simp only [NumberStyle.magnitude, hlen]
  split_ifs with h0 hlarge hmiddle hsmall hone
  · subst h0
    exact ⟨_, writes_zero negative exponent, rfl, rfl⟩
  · simp only [Bool.and_eq_true, decide_eq_true_eq] at hlarge
    exact ⟨_, writes_whole negative h0 hlarge.1, rfl, by simp [Numeral.ending, zeros]⟩
  · simp only [Bool.and_eq_true, decide_eq_true_eq] at hlarge hmiddle
    refine ⟨_, writes_cut negative h0 (exponent + (Nat.toDigits 10 digits).length - 1).toNat none
      (by omega) ?_, rfl, by simp [Numeral.ending]⟩
    simp only [Option.getD_none]
    omega
  · simp only [Bool.and_eq_true, decide_eq_true_eq] at hlarge hmiddle hsmall
    exact ⟨_, writes_fraction negative
      (-(exponent + (Nat.toDigits 10 digits).length - 1) - 1).toNat (by omega), rfl,
      by simp [Numeral.ending, zeros]⟩
  · exact ⟨_, writes_single negative hone, rfl, by simp [Numeral.ending, exponentChars, hone]⟩
  · refine ⟨_, writes_cut negative h0 0 (some (exponent + (Nat.toDigits 10 digits).length - 1))
      (by omega) ?_, rfl, by simp [Numeral.ending, exponentChars]⟩
    simp only [Option.getD_some]
    omega

theorem writeFloat_spells {x : Double} (h : x.isFinite) : ∃ n : Numeral,
    n.Writes x.shortest ∧ n.negative = x.isNegative ∧ writeFloat x = n.spell := by
  obtain ⟨n, hw, hn, htext⟩ := magnitude_writes x.isNegative x.shortest
  refine ⟨n, hw, hn, ?_⟩
  rw [writeFloat, if_pos h, NumberStyle.render, String.toList_append, htext, Numeral.spell, hn]
  cases x.isNegative <;> simp

def integerNumeral (i : Int) : Numeral := ⟨i < 0, Nat.toDigits 10 i.natAbs, none, none⟩

theorem integerNumeral_sound (i : Int) : (integerNumeral i).Sound where
  whole := fun _ => isDigit_of_mem_toDigits
  whole_ne := Nat.toDigits_ne_nil
  leading := fun h => by
    by_cases h0 : i.natAbs = 0
    · rw [integerNumeral, h0]
      rfl
    · exact absurd h (head?_toDigits h0)
  fraction := fun f hf => by cases hf

theorem integerNumeral_spell (i : Int) : (toString i).toList = (integerNumeral i).spell := by
  rw [Int.toString_eq_repr, Int.repr_eq_if]
  by_cases h : i < 0
  · have htoNat : (-i).toNat = i.natAbs := by omega
    simp [h, not_le.2 h, Numeral.spell, integerNumeral, Numeral.ending, htoNat]
  · have htoNat : i.toNat = i.natAbs := by omega
    simp [h, not_lt.1 h, Numeral.spell, integerNumeral, Numeral.ending, htoNat]

/-- The integers of 64 bits stay integers. -/
theorem integerNumeral_datum {i : Int} (hlow : -0x8000000000000000 ≤ i)
    (hhigh : i < 0x10000000000000000) : (integerNumeral i).datum = .integer i := by
  have hsize : i.natAbs < UInt64.size := by
    have : UInt64.size = 0x10000000000000000 := rfl
    omega
  rw [Numeral.datum]
  simp only [integerNumeral, digitsValue_toDigits, Option.isNone_none, hsize]
  by_cases h : i < 0
  · have hle : i.natAbs ≤ 0x8000000000000000 := by omega
    simp [h, h.ne, hle, abs_of_neg h]
  · simp [h, abs_of_nonneg (not_lt.1 h)]

end Json
end ClusterReconciliation
