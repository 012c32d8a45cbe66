/-! Finite maps from text, kept in the order of their keys. Equal maps have equal entries. -/
namespace ClusterReconciliation

structure Dict (β : Type) where
  entries : List (String × β)
  sorted : entries.Pairwise (·.1 < ·.1)
  deriving DecidableEq, Repr

namespace Dict
variable {β : Type}

def empty : Dict β := ⟨[], List.Pairwise.nil⟩

instance : EmptyCollection (Dict β) := ⟨empty⟩
instance : Inhabited (Dict β) := ⟨empty⟩

def isEmpty (d : Dict β) : Bool := d.entries.isEmpty

def keys (d : Dict β) : List String := d.entries.map (·.1)

def values (d : Dict β) : List β := d.entries.map (·.2)

def get? (d : Dict β) (k : String) : Option β := d.entries.lookup k

def contains (d : Dict β) (k : String) : Bool := (d.get? k).isSome

/-- Puts `k` at its place among sorted entries; an entry of the same key gives way. -/
def insertEntry (k : String) (v : β) : List (String × β) → List (String × β)
  | [] => [(k, v)]
  | (k', v') :: rest =>
    if k < k' then (k, v) :: (k', v') :: rest
    else if k = k' then (k, v) :: rest
    else (k', v') :: insertEntry k v rest

theorem mem_insertEntry {k : String} {v : β} {l : List (String × β)} {e : String × β}
    (h : e ∈ insertEntry k v l) : e = (k, v) ∨ e ∈ l := by
  induction l with
  | nil => simpa [insertEntry] using h
  | cons a rest ih =>
    obtain ⟨k', v'⟩ := a
    simp only [insertEntry] at h
    split at h
    · simpa using h
    · split at h <;> simp only [List.mem_cons] at h ⊢
      · rcases h with h | h <;> simp [h]
      · rcases h with h | h
        · simp [h]
        · rcases ih h with h | h <;> simp [h]

theorem sorted_insertEntry (k : String) (v : β) {l : List (String × β)}
    (h : l.Pairwise (·.1 < ·.1)) : (insertEntry k v l).Pairwise (·.1 < ·.1) := by
  induction l with
  | nil => simp [insertEntry]
  | cons a rest ih =>
    obtain ⟨k', v'⟩ := a
    rw [List.pairwise_cons] at h
    simp only [insertEntry]
    split
    · rename_i hlt
      refine List.pairwise_cons.2 ⟨fun e he => ?_, List.pairwise_cons.2 h⟩
      rcases List.mem_cons.1 he with rfl | he
      · exact hlt
      · exact String.lt_trans hlt (h.1 e he)
    · rename_i hlt
      split
      · rename_i heq
        exact List.pairwise_cons.2 ⟨fun e he => heq ▸ h.1 e he, h.2⟩
      · rename_i hne
        refine List.pairwise_cons.2 ⟨fun e he => ?_, ih h.2⟩
        rcases mem_insertEntry he with rfl | he
        · exact Std.lt_of_le_of_ne (String.not_lt.1 hlt) (Ne.symm hne)
        · exact h.1 e he

def insert (d : Dict β) (k : String) (v : β) : Dict β :=
  ⟨insertEntry k v d.entries, sorted_insertEntry k v d.sorted⟩

def erase (d : Dict β) (k : String) : Dict β :=
  ⟨d.entries.filter (·.1 != k), d.sorted.filter _⟩

/-- Of entries with one key the last stays. -/
def ofList (l : List (String × β)) : Dict β := l.foldl (fun d e => d.insert e.1 e.2) ∅

theorem insertEntry_of_lt {k : String} {v : β} {l : List (String × β)}
    (h : ∀ e ∈ l, e.1 < k) : insertEntry k v l = l ++ [(k, v)] := by
  induction l with
  | nil => rfl
  | cons a rest ih =>
    have ha := h a (by simp)
    have hne : k ≠ a.1 := fun e => String.lt_irrefl _ (e ▸ ha)
    rw [insertEntry, if_neg (String.lt_asymm ha), if_neg hne,
      ih fun e he => h e (by simp [he])]
    rfl

theorem foldl_insert_entries (l : List (String × β)) (d : Dict β)
    (hl : (d.entries ++ l).Pairwise (·.1 < ·.1)) :
    (l.foldl (fun d e => d.insert e.1 e.2) d).entries = d.entries ++ l := by
  induction l generalizing d with
  | nil => simp
  | cons e rest ih =>
    have he : (d.insert e.1 e.2).entries = d.entries ++ [e] :=
      insertEntry_of_lt fun a ha => (List.pairwise_append.1 hl).2.2 a ha e (by simp)
    rw [List.foldl_cons, ih _ (by rw [he, List.append_assoc]; exact hl), he, List.append_assoc]
    rfl

theorem ext {a b : Dict β} (h : a.entries = b.entries) : a = b := by
  cases a; cases b; cases h; rfl

/-- Writing a map out and reading it back gives the map. -/
theorem ofList_entries (d : Dict β) : ofList d.entries = d := by
  have h := foldl_insert_entries d.entries empty (by simpa [empty] using d.sorted)
  exact ext (by simpa [ofList, empty, EmptyCollection.emptyCollection] using h)

theorem lookup_cons_of_ne {k : String} {e : String × β} (h : k ≠ e.1) (l : List (String × β)) :
    (e :: l).lookup k = l.lookup k := by
  obtain ⟨k', v⟩ := e
  simp [List.lookup_cons, beq_eq_false_iff_ne.2 h]

theorem mem_of_lookup {k : String} {v : β} {l : List (String × β)} (h : l.lookup k = some v) :
    (k, v) ∈ l := by
  obtain ⟨l₁, l₂, rfl, -⟩ := List.lookup_eq_some_iff.1 h
  simp

theorem lookup_insertEntry_self (k : String) (v : β) (l : List (String × β)) :
    (insertEntry k v l).lookup k = some v := by
  induction l with
  | nil => simp [insertEntry]
  | cons a rest ih =>
    simp only [insertEntry]
    split
    · simp
    · split
      · simp
      · rename_i hne
        rw [lookup_cons_of_ne hne, ih]

theorem lookup_insertEntry_of_ne {j k : String} (h : j ≠ k) (v : β) (l : List (String × β)) :
    (insertEntry k v l).lookup j = l.lookup j := by
  induction l with
  | nil => exact lookup_cons_of_ne h []
  | cons a rest ih =>
    obtain ⟨k', v'⟩ := a
    simp only [insertEntry]
    split
    · exact lookup_cons_of_ne h _
    · split
      · rename_i heq
        rw [lookup_cons_of_ne h, lookup_cons_of_ne (heq ▸ h)]
      · simp only [List.lookup_cons, ih]

theorem insertEntry_lookup {k : String} {v : β} {l : List (String × β)}
    (hl : l.Pairwise (·.1 < ·.1)) (h : l.lookup k = some v) : insertEntry k v l = l := by
  induction l with
  | nil => simp at h
  | cons a rest ih =>
    obtain ⟨k', v'⟩ := a
    rw [List.pairwise_cons] at hl
    by_cases hk : k = k'
    · subst hk
      have hv : v' = v := by simpa using h
      simp [insertEntry, hv]
    · rw [lookup_cons_of_ne hk] at h
      have hlt : k' < k := hl.1 _ (mem_of_lookup h)
      simp [insertEntry, String.lt_asymm hlt, hk, ih hl.2 h]

@[simp] theorem get?_insert_self (d : Dict β) (k : String) (v : β) :
    (d.insert k v).get? k = some v := lookup_insertEntry_self k v d.entries

theorem get?_insert_of_ne (d : Dict β) {j k : String} (h : j ≠ k) (v : β) :
    (d.insert k v).get? j = d.get? j := lookup_insertEntry_of_ne h v d.entries

/-- Putting in what is there already changes nothing. -/
theorem insert_get? {d : Dict β} {k : String} {v : β} (h : d.get? k = some v) :
    d.insert k v = d := ext (insertEntry_lookup d.sorted h)

theorem lookup_filter {p : String → Bool} {k : String} (h : p k = true)
    (l : List (String × β)) : (l.filter fun e => p e.1).lookup k = l.lookup k := by
  induction l with
  | nil => rfl
  | cons e l ih =>
    rw [List.filter_cons]
    by_cases hk : k = e.1
    · obtain ⟨j, v⟩ := e
      obtain rfl : k = j := hk
      simp [h]
    · split <;> simp only [lookup_cons_of_ne hk, ih]

theorem lookup_filter_of_ne {j k : String} (h : j ≠ k) (l : List (String × β)) :
    (l.filter (·.1 != k)).lookup j = l.lookup j :=
  lookup_filter (p := (· != k)) (bne_iff_ne.2 h) l

theorem get?_erase_of_ne (d : Dict β) {j k : String} (h : j ≠ k) : (d.erase k).get? j = d.get? j :=
  lookup_filter_of_ne h d.entries

@[simp] theorem get?_erase_self (d : Dict β) (k : String) : (d.erase k).get? k = none := by
  rw [Option.eq_none_iff_forall_ne_some]
  intro v hv
  have hmem : (k, v) ∈ d.entries.filter (·.1 != k) := mem_of_lookup hv
  simp at hmem

end Dict
end ClusterReconciliation
