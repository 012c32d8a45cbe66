import ClusterReconciliation.Json.Canonical
import ClusterReconciliation.Proofs.Carried

/-! Values in their canonical form: the fields of an object in the order of their names, each with its last
value. -/
namespace ClusterReconciliation
open Decimal

namespace Dict
variable {β γ : Type}

theorem ofList_concat (l : List (String × β)) (e : String × β) :
    ofList (l ++ [e]) = (ofList l).insert e.1 e.2 := by
  rw [ofList, List.foldl_append]
  rfl

/-- Of values with one key the last counts. -/
theorem get?_ofList (l : List (String × β)) (k : String) :
    (ofList l).get? k = l.reverse.lookup k := by
  induction l using List.reverseRecOn with
  | nil => rfl
  | append_singleton l e ih =>
    rw [ofList_concat, List.reverse_concat]
    by_cases h : k = e.1
    · rw [h, get?_insert_self, List.lookup_cons_self]
    · rw [get?_insert_of_ne _ h, ih, lookup_cons_of_ne h]

theorem mem_of_mem_ofList {l : List (String × β)} {e : String × β}
    (h : e ∈ (ofList l).entries) : e ∈ l := by
  induction l using List.reverseRecOn with
  | nil => cases h
  | append_singleton l f ih =>
    rw [ofList_concat] at h
    rw [List.mem_append, List.mem_singleton]
    exact (mem_insertEntry h).elim .inr fun h => .inl (ih h)

theorem lookup_of_mem {l : List (String × β)} (hn : (l.map (·.1)).Nodup) {e : String × β}
    (he : e ∈ l) : l.lookup e.1 = some e.2 := by
  induction l with
  | nil => cases he
  | cons a l ih =>
    rw [List.map_cons, List.nodup_cons] at hn
    rcases List.mem_cons.1 he with rfl | he
    · exact List.lookup_cons_self
    · have hne : e.1 ≠ a.1 := fun h => hn.1 (List.mem_map.2 ⟨e, he, h⟩)
      rw [lookup_cons_of_ne hne, ih hn.2 he]

theorem lookup_map (f : β → γ) (l : List (String × β)) (k : String) :
    (l.map fun e => (e.1, f e.2)).lookup k = (l.lookup k).map f := by
  induction l with
  | nil => rfl
  | cons e l ih =>
    obtain ⟨j, v⟩ := e
    simp only [List.map_cons, List.lookup_cons, ih]
    split <;> rfl

theorem insertEntry_map (f : β → γ) (k : String) (v : β) (l : List (String × β)) :
    insertEntry k (f v) (l.map fun e => (e.1, f e.2)) =
      (insertEntry k v l).map fun e => (e.1, f e.2) := by
  induction l with
  | nil => rfl
  | cons e l ih =>
    simp only [List.map_cons, insertEntry, ih]
    split_ifs <;> rfl

theorem entries_ofList_map (f : β → γ) (l : List (String × β)) :
    (ofList (l.map fun e => (e.1, f e.2))).entries =
      (ofList l).entries.map fun e => (e.1, f e.2) := by
  induction l using List.reverseRecOn with
  | nil => rfl
  | append_singleton l e ih =>
    rw [List.map_append, List.map_singleton, ofList_concat, ofList_concat]
    simp only [insert, ih, insertEntry_map]

theorem nodup_keys (d : Dict β) : (d.entries.map (·.1)).Nodup :=
  (List.pairwise_map.2 d.sorted).imp fun h => Std.ne_of_lt h

end Dict

namespace Json
variable {number : Numeral → Datum}

theorem canonicalItems_eq (l : List Json) : canonicalItems l = l.map canonical := by
  induction l with
  | nil => rfl
  | cons v l ih => rw [canonicalItems, ih, List.map_cons]

theorem length_itemsToData (l : List Json) : (itemsToData l).length = l.length := by
  induction l with
  | nil => rfl
  | cons v l ih => rw [itemsToData, List.length_cons, ih, List.length_cons]

theorem canonicalFields_eq (l : List (String × Json)) :
    canonicalFields l = l.map fun f => (f.1, f.2.canonical) := by
  induction l with
  | nil => rfl
  | cons f l ih => obtain ⟨k, v⟩ := f; rw [canonicalFields, ih, List.map_cons]

/-- The fields of an object in its canonical form. -/
def arranged (fs : List (String × Json)) : List (String × Json) :=
  (Dict.ofList (canonicalFields fs)).entries

theorem canonical_object (fs : List (String × Json)) :
    (object fs).canonical = object (arranged fs) := by rw [canonical, arranged]

theorem mem_arranged {fs : List (String × Json)} {f : String × Json} (h : f ∈ arranged fs) :
    ∃ v, (f.1, v) ∈ fs ∧ f.2 = v.canonical := by
  have hmem := Dict.mem_of_mem_ofList h
  rw [canonicalFields_eq] at hmem
  obtain ⟨⟨k, v⟩, hv, rfl⟩ := List.mem_map.1 hmem
  exact ⟨v, hv, rfl⟩

theorem lookup_arranged (fs : List (String × Json)) (name : String) :
    (arranged fs).lookup name = (fs.reverse.lookup name).map canonical := by
  rw [← Dict.lookup_map, List.map_reverse, ← canonicalFields_eq]
  exact Dict.get?_ofList _ name

theorem lookup_reverse_arranged (fs : List (String × Json)) (name : String) :
    (arranged fs).reverse.lookup name = (fs.reverse.lookup name).map canonical := by
  rw [← lookup_arranged, lookup_perm (List.reverse_perm (arranged fs)).symm (Dict.nodup_keys _)]

theorem get?_canonical {fs : List (String × Json)} {name : String} {v : Json}
    (h : (object fs).get? name = some v) :
    (object fs).canonical.get? name = some v.canonical := by
  rw [canonical_object, get?, lookup_reverse_arranged]
  exact congrArg (Option.map canonical) h

/-- A number that is carried has a value. -/
theorem canonical_float {x : Double} (h : (float x).Carried number) :
    (float x).canonical = float x := by
  rw [canonical, ofDouble, if_pos]
  obtain ⟨n, hn, hspell, -⟩ := h
  obtain ⟨c, t, hhead, hc⟩ := spell_head hn
  by_contra hx
  rw [writeFloat, if_neg hx, hhead] at hspell
  exact ne_of_numeral_head hc (by decide) (List.cons.inj hspell).1.symm

mutual
theorem carried_canonical : (v : Json) → v.Carried number → v.canonical.Carried number
  | null, _ => trivial
  | bool _, _ => trivial
  | integer _, h => h
  | float _, h => by rwa [canonical_float h]
  | text _, _ => trivial
  | array items, h => by
    rw [canonical]
    exact carried_canonicalItems items h
  | object fields, h => by
    rw [canonical]
    have hfields := (carriedFields_iff number).1 (carried_canonicalFields fields h)
    exact (carriedFields_iff number).2 fun f hf => hfields f (Dict.mem_of_mem_ofList hf)

theorem carried_canonicalItems : (l : List Json) → CarriedItems number l →
    CarriedItems number (canonicalItems l)
  | [], _ => trivial
  | v :: rest, h => ⟨carried_canonical v h.1, carried_canonicalItems rest h.2⟩

theorem carried_canonicalFields : (l : List (String × Json)) → CarriedFields number l →
    CarriedFields number (canonicalFields l)
  | [], _ => trivial
  | (_, v) :: rest, h => ⟨carried_canonical v h.1, carried_canonicalFields rest h.2⟩
end

end Json

end ClusterReconciliation
