import ClusterReconciliation.Held
import Mathlib.Data.Option.Basic
import Mathlib.Tactic

/-! Data that show a value. Held data are the value itself; where nothing but texts was written, data
that are not held yet show the same, for their scalars are texts by their spelling. -/
namespace ClusterReconciliation
open Decimal

mutual
/-- Data that show a value: the value itself, but texts may stand as scalars that are texts by their
spelling. -/
inductive Datum.Shows : Datum → Json → Prop
  | null : Shows .null .null
  | bool (b : Bool) : Shows (.bool b) (.bool b)
  | integer (n : Int) : Shows (.integer n) (.integer n)
  | float (x : Double) : Shows (.float x) (.float x)
  | text (s : String) : Shows (.text s) (.text s)
  | scalar {s : Yaml.Scalar} {t : String} (h : s.held = .ok (.text t)) : Shows (.scalar s) (.text t)
  | list {ds : List Datum} {vs : List Json} (h : ShowsItems ds vs) : Shows (.list ds) (.array vs)
  | table {es : List (Datum × Datum)} {fs : List (String × Json)} (h : ShowsFields es fs) :
    Shows (.table es) (.object fs)

inductive Datum.ShowsItems : List Datum → List Json → Prop
  | nil : ShowsItems [] []
  | cons {d : Datum} {v : Json} {ds : List Datum} {vs : List Json} (hd : Shows d v)
    (h : ShowsItems ds vs) : ShowsItems (d :: ds) (v :: vs)

inductive Datum.ShowsFields : List (Datum × Datum) → List (String × Json) → Prop
  | nil : ShowsFields [] []
  | cons {k d : Datum} {name : String} {v : Json} {es : List (Datum × Datum)}
    {fs : List (String × Json)} (hk : Shows k (.text name)) (hd : Shows d v)
    (h : ShowsFields es fs) : ShowsFields ((k, d) :: es) ((name, v) :: fs)
end

namespace Json
open Datum

mutual
theorem shows_toDatum : (v : Json) → v.toDatum.Shows v
  | null => .null
  | bool b => .bool b
  | integer n => .integer n
  | float x => .float x
  | text s => .text s
  | array items => .list (shows_itemsToData items)
  | object fields => .table (shows_fieldsToData fields)

theorem shows_itemsToData : (l : List Json) → ShowsItems (itemsToData l) l
  | [] => .nil
  | v :: rest => .cons v.shows_toDatum (shows_itemsToData rest)

theorem shows_fieldsToData : (l : List (String × Json)) → ShowsFields (fieldsToData l) l
  | [] => .nil
  | (k, v) :: rest => .cons (.text k) v.shows_toDatum (shows_fieldsToData rest)
end

end Json

namespace Yaml.Scalar

theorem orWrong_eq_ok {o : Option Datum} {d : Datum} : orWrong o = .ok d ↔ o = some d := by
  cases o <;> simp [orWrong]

/-- A plain spelling that stands for a text is not one of null. -/
theorem of_spelled_text {text t : String} (h : spelled text = .ok (.text t)) :
    text = t ∧ Decoder.isNullScalar ⟨text, .plain, none⟩ = .ok false := by
  rw [spelled] at h
  have hplain : Plain.ofText text = some .text := by
    split at h <;> simp_all
  rw [hplain] at h
  refine ⟨Datum.text.inj (Except.ok.inj h), ?_⟩
  rw [Plain.ofText] at hplain
  split at hplain
  · cases hplain
  · rename_i hne
    simp only [Bool.or_eq_true, not_or, Bool.not_eq_true] at hne
    simp [Decoder.isNullScalar, isVoid, hne.1, hne.2]

/-- A scalar that is held as a text is that text, and it is not null. -/
theorem of_held_text {s : Scalar} {t : String} (h : s.held = .ok (.text t)) :
    s.text = t ∧ Decoder.isNullScalar s = .ok false := by
  obtain ⟨text, style, tag⟩ := s
  rw [held] at h
  cases tag with
  | some tag =>
    cases tag with
    | application => cases h
    | other =>
      refine ⟨Datum.text.inj (Except.ok.inj h), ?_⟩
      rw [Decoder.isNullScalar]
      split <;> rfl
    | null =>
      obtain ⟨-, hd⟩ := Option.ite_some_none_eq_some.1 (orWrong_eq_ok.1 h)
      cases hd
    | bool =>
      obtain ⟨b, -, hd⟩ := Option.map_eq_some_iff.1 (orWrong_eq_ok.1 h)
      cases hd
    | integer =>
      obtain ⟨n, -, hd⟩ := Option.bind_eq_some_iff.1 (orWrong_eq_ok.1 h)
      obtain ⟨-, hd⟩ := Option.ite_some_none_eq_some.1 hd
      cases hd
    | float =>
      obtain ⟨x, -, hd⟩ := Option.map_eq_some_iff.1 (orWrong_eq_ok.1 h)
      cases hd
  | none =>
    by_cases hs : style = .plain
    · subst hs
      exact of_spelled_text h
    · simp only [if_neg hs] at h
      refine ⟨Datum.text.inj (Except.ok.inj h), ?_⟩
      simp [Decoder.isNullScalar, hs]

/-- What a scalar is held as is never a collection. -/
theorem held_cases {s : Scalar} {d : Datum} (h : s.held = .ok d) :
    d = .null ∨ (∃ b, d = .bool b) ∨ (∃ n, d = .integer n) ∨ (∃ x, d = .float x) ∨
      ∃ t, d = .text t := by
  rw [held] at h
  split at h
  · cases h
  · obtain ⟨b, -, rfl⟩ := Option.map_eq_some_iff.1 (orWrong_eq_ok.1 h)
    exact .inr (.inl ⟨b, rfl⟩)
  · obtain ⟨n, -, hn⟩ := Option.bind_eq_some_iff.1 (orWrong_eq_ok.1 h)
    split at hn
    · exact .inr (.inr (.inl ⟨n.1, (Option.some.inj hn).symm⟩))
    · cases hn
  · obtain ⟨x, -, rfl⟩ := Option.map_eq_some_iff.1 (orWrong_eq_ok.1 h)
    exact .inr (.inr (.inr (.inl ⟨x, rfl⟩)))
  · have h := orWrong_eq_ok.1 h
    split at h
    · exact .inl (Option.some.inj h).symm
    · cases h
  · exact .inr (.inr (.inr (.inr ⟨_, (Except.ok.inj h).symm⟩)))
  · split at h
    · rw [spelled] at h
      split at h
      · exact .inl (Except.ok.inj h).symm
      · exact .inr (.inl ⟨_, (Except.ok.inj h).symm⟩)
      · exact .inr (.inr (.inl ⟨_, (Except.ok.inj h).symm⟩))
      · exact .inr (.inr (.inr (.inl ⟨_, (Except.ok.inj h).symm⟩)))
      · exact .inr (.inr (.inr (.inr ⟨_, (Except.ok.inj h).symm⟩)))
      · cases h
    · exact .inr (.inr (.inr (.inr ⟨_, (Except.ok.inj h).symm⟩)))

end Yaml.Scalar

namespace Json

mutual
/-- Nothing but texts stands in the value. -/
def isTextual : Json → Bool
  | text _ => true
  | array items => areTextual items
  | object fields => haveTextual fields
  | _ => false

def areTextual : List Json → Bool
  | [] => true
  | v :: rest => v.isTextual && areTextual rest

def haveTextual : List (String × Json) → Bool
  | [] => true
  | (_, v) :: rest => v.isTextual && haveTextual rest
end

@[simp] theorem areTextual_eq (l : List Json) : areTextual l = l.all isTextual := by
  induction l with
  | nil => rfl
  | cons v rest ih => rw [areTextual, ih, List.all_cons]

@[simp] theorem haveTextual_eq (l : List (String × Json)) :
    haveTextual l = l.all (·.2.isTextual) := by
  induction l with
  | nil => rfl
  | cons f rest ih => rw [haveTextual, ih, List.all_cons]

end Json

namespace Decoder
variable {α β : Type} {x : Except DecodeError α} {b : β}

theorem bind_eq_ok {f : α → Except DecodeError β} :
    x >>= f = .ok b ↔ ∃ a, x = .ok a ∧ f a = .ok b := by
  cases x <;> simp [bind, Except.bind]

theorem map_eq_ok {f : α → β} : f <$> x = .ok b ↔ ∃ a, x = .ok a ∧ b = f a := by
  cases x <;> simp [Functor.map, Except.map, eq_comm]

end Decoder

namespace Datum
open Decoder

theorem hold_list {ds : List Datum} {n : Nat} {x : Datum} (h : (list ds).hold n = .ok x) :
    ∃ m held, n = m + 1 ∧ holdItems m ds = .ok held ∧ x = .list held := by
  cases n with
  | zero => cases h
  | succ n =>
    rw [hold] at h
    obtain ⟨held, hds, hx⟩ := map_eq_ok.1 h
    exact ⟨n, held, rfl, hds, hx⟩

theorem hold_table {es : List (Datum × Datum)} {n : Nat} {x : Datum}
    (h : (table es).hold n = .ok x) :
    ∃ m held, n = m + 1 ∧ holdEntries m es = .ok held ∧ x = .table held := by
  cases n with
  | zero => cases h
  | succ n =>
    rw [hold] at h
    obtain ⟨held, hes, hx⟩ := map_eq_ok.1 h
    exact ⟨n, held, rfl, hes, hx⟩

theorem holdItems_cons {d : Datum} {ds xs : List Datum} {n : Nat}
    (h : holdItems n (d :: ds) = .ok xs) :
    ∃ x rest, d.hold n = .ok x ∧ holdItems n ds = .ok rest ∧ xs = x :: rest := by
  rw [holdItems] at h
  obtain ⟨x, hd, h⟩ := bind_eq_ok.1 h
  obtain ⟨rest, hds, h⟩ := bind_eq_ok.1 h
  exact ⟨x, rest, hd, hds, (Except.ok.inj h).symm⟩

theorem holdEntries_cons {k d : Datum} {es xs : List (Datum × Datum)} {n : Nat}
    (h : holdEntries n ((k, d) :: es) = .ok xs) :
    ∃ key x rest, k.hold n = .ok key ∧ d.hold n = .ok x ∧ holdEntries n es = .ok rest ∧
      xs = (key, x) :: rest := by
  rw [holdEntries] at h
  obtain ⟨key, hk, h⟩ := bind_eq_ok.1 h
  obtain ⟨x, hd, h⟩ := bind_eq_ok.1 h
  obtain ⟨rest, hes, h⟩ := bind_eq_ok.1 h
  exact ⟨key, x, rest, hk, hd, hes, (Except.ok.inj h).symm⟩

mutual
/-- Data that are held as texts alone show those texts as they stand. -/
theorem shows_of_hold : (d : Datum) → {n : Nat} → {v : Json} → v.isTextual →
    d.hold n = .ok v.toDatum → d.Shows v
  | scalar s, n, v, ht, h => by
    rw [hold] at h
    cases v with
    | text t => exact .scalar h
    | array vs => simpa [Json.toDatum] using Yaml.Scalar.held_cases h
    | object fs => simpa [Json.toDatum] using Yaml.Scalar.held_cases h
    | _ => cases ht
  | list ds, n, v, ht, h => by
    obtain ⟨m, held, -, hds, hv⟩ := hold_list h
    cases v with
    | array vs =>
      obtain rfl : Json.itemsToData vs = held := list.inj hv
      exact .list (showsItems_of_hold ds ht hds)
    | _ => cases hv
  | table es, n, v, ht, h => by
    obtain ⟨m, held, -, hes, hv⟩ := hold_table h
    cases v with
    | object fs =>
      obtain rfl : Json.fieldsToData fs = held := table.inj hv
      exact .table (showsFields_of_hold es ht hes)
    | _ => cases hv
  | text s, n, v, ht, h => by
    cases v with
    | text t =>
      obtain rfl : s = t := text.inj (Except.ok.inj h)
      exact .text s
    | _ => cases h
  | null, n, v, ht, h => by cases v <;> first | (cases ht; done) | cases h
  | bool b, n, v, ht, h => by cases v <;> first | (cases ht; done) | cases h
  | integer i, n, v, ht, h => by cases v <;> first | (cases ht; done) | cases h
  | float x, n, v, ht, h => by cases v <;> first | (cases ht; done) | cases h
  | tagged d, n, v, ht, h => by cases h
  | unusable, n, v, ht, h => by cases h
  | fault, n, v, ht, h => by cases h

theorem showsItems_of_hold : (ds : List Datum) → {n : Nat} → {vs : List Json} →
    Json.areTextual vs → holdItems n ds = .ok (Json.itemsToData vs) → ShowsItems ds vs
  | [], n, vs, ht, h => by
    cases vs with
    | nil => exact .nil
    | cons v vs => cases h
  | d :: ds, n, vs, ht, h => by
    obtain ⟨x, rest, hd, hds, hvs⟩ := holdItems_cons h
    cases vs with
    | nil => cases hvs
    | cons v vs =>
      obtain ⟨rfl, rfl⟩ := List.cons.inj hvs
      rw [Json.areTextual, Bool.and_eq_true] at ht
      exact .cons (shows_of_hold d ht.1 hd) (showsItems_of_hold ds ht.2 hds)

theorem showsFields_of_hold : (es : List (Datum × Datum)) → {n : Nat} →
    {fs : List (String × Json)} → Json.haveTextual fs →
    holdEntries n es = .ok (Json.fieldsToData fs) → ShowsFields es fs
  | [], n, fs, ht, h => by
    cases fs with
    | nil => exact .nil
    | cons f fs => cases h
  | (k, d) :: es, n, fs, ht, h => by
    obtain ⟨key, x, rest, hk, hd, hes, hfs⟩ := holdEntries_cons h
    cases fs with
    | nil => cases hfs
    | cons f fs =>
      obtain ⟨hf, rfl⟩ := List.cons.inj hfs
      obtain ⟨rfl, rfl⟩ := Prod.mk.inj hf
      rw [Json.haveTextual, Bool.and_eq_true] at ht
      exact .cons (shows_of_hold k rfl hk) (shows_of_hold d ht.1 hd)
        (showsFields_of_hold es ht.2 hes)
end

end Datum
end ClusterReconciliation
