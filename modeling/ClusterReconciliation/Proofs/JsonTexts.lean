import ClusterReconciliation.Proofs.Numerals

/-! Texts that were written are read back as the data that were written, in one line or in many. Only
numbers depend on who reads them. -/
namespace ClusterReconciliation.Json
open Decimal

section Spaces
variable {sp cs : List Char}

theorem skipSpace_append (hsp : ∀ c ∈ sp, isSpace c = true) :
    skipSpace (sp ++ cs) = skipSpace cs := List.dropWhile_append_of_pos hsp

theorem skipSpace_cons {c : Char} (hc : isSpace c = false) : skipSpace (c :: cs) = c :: cs :=
  List.dropWhile_cons_of_neg (by simp [hc])

end Spaces

section Texts

theorem hexValue_hexDigit : ∀ n < 16, hexValue (hexDigit n) = some n := by decide

theorem readEscape_unit {n : Nat} (hn : n < 0x20) (rest : List Char) :
    readEscape ('u' :: '0' :: '0' :: hexDigit (n / 16) :: hexDigit (n % 16) :: rest) =
      some (some (Char.ofNat n), rest) := by
  have hzero : hexValue '0' = some 0 := by decide
  have hsum : n / 16 * 16 + n % 16 = n := by omega
  have hlow : ¬ (0xDC00 ≤ n ∧ n ≤ 0xDFFF) := by omega
  have hhigh : ¬ (0xD800 ≤ n ∧ n < 0xDC00) := by omega
  simp [readEscape, readUnit, hzero, hexValue_hexDigit (n / 16) (by omega),
    hexValue_hexDigit (n % 16) (by omega), hsum, hlow, hhigh]

theorem readChars_escape (c : Char) (fuel : Nat) (rest found : List Char) (whole : Bool) :
    readChars (fuel + 1) (escape c ++ rest) found whole = readChars fuel rest (c :: found) whole := by
  unfold escape
  split
  case h_8 hquote hslash _ _ _ _ _ =>
    split
    · rename_i hc
      simp [readChars, readEscape_unit hc, Char.ofNat_toNat]
    · rename_i hc
      have hquote : c ≠ '"' := hquote
      have hslash : c ≠ '\\' := hslash
      simp [readChars, hquote, hslash, hc]
  all_goals simp [readChars, readEscape]

theorem readChars_escaped (cs : List Char) {fuel : Nat} (hf : cs.length < fuel)
    (rest found : List Char) : readChars fuel (cs.flatMap escape ++ '"' :: rest) found true =
      some (some (String.ofList (found.reverse ++ cs)), rest) := by
  induction cs generalizing fuel found with
  | nil =>
    obtain ⟨fuel, rfl⟩ := Nat.exists_eq_add_of_lt hf
    simp [readChars]
  | cons c cs ih =>
    obtain ⟨fuel, rfl⟩ := Nat.exists_eq_add_of_lt (Nat.zero_lt_of_lt hf)
    simp only [Nat.zero_add] at hf ⊢
    rw [List.flatMap_cons, List.append_assoc, readChars_escape, ih (by simpa using hf)]
    simp

theorem length_le_flatMap_escape (cs : List Char) : cs.length ≤ (cs.flatMap escape).length := by
  induction cs with
  | nil => simp
  | cons c cs ih =>
    have hc : 1 ≤ (escape c).length := by
      unfold escape
      split <;> (try split) <;> simp
    simp only [List.flatMap_cons, List.length_append, List.length_cons]
    omega

theorem readText_escaped (s : String) (rest : List Char) :
    readText (s.toList.flatMap escape ++ '"' :: rest) = some (some s, rest) := by
  have hlen : s.toList.length < (s.toList.flatMap escape ++ '"' :: rest).length + 1 := by
    have := length_le_flatMap_escape s.toList
    rw [List.length_append]
    omega
  rw [readText, readChars_escaped _ hlen]
  simp

end Texts

/-- Nothing but spaces is put between the parts of a text. -/
structure Style.Spaced (style : Style) : Prop where
  lineBreak : ∀ depth, ∀ c ∈ style.lineBreak depth, isSpace c = true
  colon : ∃ sp, style.colon = ':' :: sp ∧ ∀ c ∈ sp, isSpace c = true

theorem Style.compact_spaced : Style.compact.Spaced where
  lineBreak := by simp [compact]
  colon := ⟨[], rfl, by simp⟩

theorem Style.indented_spaced : Style.indented.Spaced where
  lineBreak := fun depth c hc => by
    rcases List.mem_cons.1 hc with rfl | hc
    · decide
    · rw [List.eq_of_mem_replicate hc]
      decide
  colon := ⟨[' '], rfl, by simp; decide⟩

section Reading
variable (number : Numeral → Datum) (style : Style)

mutual
/-- A reader of numbers takes the numbers of the value for what they are. -/
def Carried : Json → Prop
  | integer i => number (integerNumeral i) = .integer i
  | float x => ∃ n : Numeral, n.Sound ∧ writeFloat x = n.spell ∧ number n = .float x
  | array items => CarriedItems items
  | object fields => CarriedFields fields
  | _ => True

def CarriedItems : List Json → Prop
  | [] => True
  | v :: rest => v.Carried ∧ CarriedItems rest

def CarriedFields : List (String × Json) → Prop
  | [] => True
  | (_, v) :: rest => v.Carried ∧ CarriedFields rest
end

theorem carriedItems_iff {l : List Json} :
    CarriedItems number l ↔ ∀ v ∈ l, v.Carried number := by
  induction l with
  | nil => simp [CarriedItems]
  | cons v rest ih => simp [CarriedItems, ih]

theorem carriedFields_iff {l : List (String × Json)} :
    CarriedFields number l ↔ ∀ f ∈ l, f.2.Carried number := by
  induction l with
  | nil => simp [CarriedFields]
  | cons f rest ih => simp [CarriedFields, ih]

/-- Wherever the value is written, reading gives its data and stops behind it. -/
def ReadsBack (v : Json) : Prop :=
  ∀ depth fuel rest, (write style depth v).length ≤ fuel → EndsNumeral rest →
    readValue number fuel (write style depth v ++ rest) = (v.toDatum, some rest)

theorem readValue_spaces {sp : List Char} (hsp : ∀ c ∈ sp, isSpace c = true) (fuel : Nat)
    (cs : List Char) : readValue number fuel (sp ++ cs) = readValue number fuel cs := by
  cases fuel with
  | zero => rfl
  | succ fuel => rw [readValue, readValue, skipSpace_append hsp]

theorem spell_head {n : Numeral} (h : n.Sound) :
    ∃ c t, n.spell = c :: t ∧ (c = '-' ∨ isDigit c = true) := by
  rw [Numeral.spell]
  cases n.negative with
  | true => exact ⟨'-', n.whole ++ n.ending, by simp, .inl rfl⟩
  | false =>
    obtain ⟨c, cs, hwhole⟩ := List.exists_cons_of_ne_nil h.whole_ne
    exact ⟨c, cs ++ n.ending, by simp [hwhole], .inr (h.whole c (by simp [hwhole]))⟩

theorem ne_of_numeral_head {c : Char} (h : c = '-' ∨ isDigit c = true) {d : Char}
    (hd : ¬ (d = '-' ∨ isDigit d = true)) : c ≠ d := fun he => hd (he ▸ h)

theorem isSpace_of_numeral_head {c : Char} (h : c = '-' ∨ isDigit c = true) :
    isSpace c = false := by
  simp only [isSpace, Bool.or_eq_false_iff, beq_eq_false_iff_ne]
  exact ⟨⟨⟨ne_of_numeral_head h (by decide), ne_of_numeral_head h (by decide)⟩,
    ne_of_numeral_head h (by decide)⟩, ne_of_numeral_head h (by decide)⟩

theorem readValue_numeral {n : Numeral} (h : n.Sound) {fuel : Nat} (hf : 0 < fuel)
    {rest : List Char} (hrest : EndsNumeral rest) :
    readValue number fuel (n.spell ++ rest) = (number n, some rest) := by
  obtain ⟨fuel, rfl⟩ := Nat.exists_eq_add_of_lt hf
  obtain ⟨c, t, hspell, hc⟩ := spell_head h
  have hskip : skipSpace (n.spell ++ rest) = n.spell ++ rest := by
    rw [hspell]
    exact skipSpace_cons (isSpace_of_numeral_head hc)
  have hhead {d : Char} (hd : ¬ (d = '-' ∨ isDigit d = true)) (r : List Char) :
      n.spell ++ rest ≠ d :: r := by
    rw [hspell]
    exact fun he => ne_of_numeral_head hc hd (List.cons.inj he).1
  rw [Nat.zero_add, readValue, hskip]
  split
  · exact absurd ‹_› (hhead (by decide) _)
  · exact absurd ‹_› (hhead (by decide) _)
  · exact absurd ‹_› (hhead (by decide) _)
  · exact absurd ‹_› (hhead (by decide) _)
  · exact absurd ‹_› (hhead (by decide) _)
  · exact absurd ‹_› (hhead (by decide) _)
  · rw [readNumeral_spell h hrest]

theorem endsNumeral_nil : EndsNumeral [] := fun c hc => by cases hc

theorem endsNumeral_cons {c : Char} (h : isDigit c = false ∧ c ≠ '.' ∧ c ≠ 'e' ∧ c ≠ 'E')
    (cs : List Char) : EndsNumeral (c :: cs) := fun d hd => by
  obtain rfl := Option.some.inj hd
  exact h

theorem endsNumeral_spaces {sp cs : List Char} (hsp : ∀ c ∈ sp, isSpace c = true)
    (h : EndsNumeral cs) : EndsNumeral (sp ++ cs) := by
  cases sp with
  | nil => exact h
  | cons c sp =>
    have hc := hsp c (by simp)
    simp only [isSpace, Bool.or_eq_true, beq_iff_eq] at hc
    rcases hc with ((rfl | rfl) | rfl) | rfl <;> exact endsNumeral_cons (by decide) _

theorem write_head (depth : Nat) {v : Json} (h : v.Carried number) :
    ∃ c t, write style depth v = c :: t ∧ isSpace c = false ∧ c ≠ ']' := by
  have hnumeral {n : Numeral} (hn : n.Sound) :
      ∃ c t, n.spell = c :: t ∧ isSpace c = false ∧ c ≠ ']' := by
    obtain ⟨c, t, hspell, hc⟩ := spell_head hn
    exact ⟨c, t, hspell, isSpace_of_numeral_head hc, ne_of_numeral_head hc (by decide)⟩
  cases v with
  | null => exact ⟨'n', ['u', 'l', 'l'], by simp [write], by decide, by decide⟩
  | bool b =>
    cases b with
    | true => exact ⟨'t', ['r', 'u', 'e'], by simp [write], by decide, by decide⟩
    | false => exact ⟨'f', ['a', 'l', 's', 'e'], by simp [write], by decide, by decide⟩
  | integer i =>
    rw [write, integerNumeral_spell]
    exact hnumeral (integerNumeral_sound i)
  | float x =>
    obtain ⟨n, hn, hspell, -⟩ := h
    rw [write, hspell]
    exact hnumeral hn
  | text s => exact ⟨'"', _, by rw [write, writeText]; rfl, by decide, by decide⟩
  | array items =>
    refine ⟨'[', (write style depth (.array items)).tail, ?_, by decide, by decide⟩
    cases items <;> simp [write]
  | object fields =>
    refine ⟨'\x7b', (write style depth (.object fields)).tail, ?_, by decide, by decide⟩
    cases fields <;> simp [write]

theorem readValue_text (s : String) {fuel : Nat} (hf : 0 < fuel) (rest : List Char) :
    readValue number fuel (writeText s ++ rest) = (.text s, some rest) := by
  obtain ⟨fuel, rfl⟩ := Nat.exists_eq_add_of_lt hf
  have htext : writeText s ++ rest = '"' :: (s.toList.flatMap escape ++ '"' :: rest) := by
    simp [writeText]
  rw [htext, Nat.zero_add, readValue, skipSpace_cons (by decide)]
  simp only [readText_escaped]

variable {number style}

theorem endsNumeral_writeItems (depth : Nat) (vs : List Json) {cs : List Char}
    (h : EndsNumeral cs) : EndsNumeral (writeItems style depth vs ++ cs) := by
  cases vs with
  | nil => exact h
  | cons v vs => exact endsNumeral_cons (by decide) _

theorem readItems_spaces {sp : List Char} (hsp : ∀ c ∈ sp, isSpace c = true) (fuel : Nat)
    (cs : List Char) : readItems number fuel (sp ++ cs) = readItems number fuel cs := by
  cases fuel with
  | zero => rfl
  | succ fuel => rw [readItems, readItems, readValue_spaces number hsp]

theorem readItems_write (hs : style.Spaced) {depth : Nat} {sp : List Char}
    (hsp : ∀ c ∈ sp, isSpace c = true) {v : Json} (hv : v.ReadsBack number style) {vs : List Json}
    (hvs : ∀ w ∈ vs, w.ReadsBack number style) {fuel : Nat}
    (hf : (write style depth v).length + (writeItems style depth vs).length < fuel)
    (rest : List Char) :
    readItems number fuel
      (write style depth v ++ (writeItems style depth vs ++ (sp ++ ']' :: rest))) =
        (v.toDatum :: itemsToData vs, some rest) := by
  have hclose : EndsNumeral (sp ++ ']' :: rest) :=
    endsNumeral_spaces hsp (endsNumeral_cons (by decide) _)
  induction vs generalizing v fuel with
  | nil =>
    obtain ⟨fuel, rfl⟩ := Nat.exists_eq_add_of_lt (Nat.zero_lt_of_lt hf)
    rw [writeItems, List.nil_append, Nat.zero_add, readItems]
    rw [hv depth fuel _ (by simp [writeItems] at hf; omega) hclose]
    simp only [skipSpace_append hsp, skipSpace_cons (by decide : isSpace ']' = false)]
    rfl
  | cons w ws ih =>
    obtain ⟨fuel, rfl⟩ := Nat.exists_eq_add_of_lt (Nat.zero_lt_of_lt hf)
    have hlength : (writeItems style depth (w :: ws)).length =
        1 + (style.lineBreak depth).length + (write style depth w).length +
          (writeItems style depth ws).length := by
      simp [writeItems]
      omega
    have hnext := ih (hvs w (by simp)) (fun u hu => hvs u (by simp [hu]))
      (by omega : (write style depth w).length + (writeItems style depth ws).length < fuel)
    rw [Nat.zero_add, readItems, hv depth fuel _ (by omega) (endsNumeral_writeItems depth _ hclose),
      writeItems]
    simp only [List.cons_append, List.append_assoc, skipSpace_cons (by decide : isSpace ',' = false)]
    rw [readItems_spaces (hs.lineBreak depth), hnext]
    rfl

theorem readEntries_spaces {sp : List Char} (hsp : ∀ c ∈ sp, isSpace c = true) (fuel : Nat)
    (cs : List Char) : readEntries number fuel (sp ++ cs) = readEntries number fuel cs := by
  cases fuel with
  | zero => rfl
  | succ fuel => rw [readEntries, readEntries, skipSpace_append hsp]

theorem endsNumeral_writeFields (depth : Nat) (fs : List (String × Json)) {cs : List Char}
    (h : EndsNumeral cs) : EndsNumeral (writeFields style depth fs ++ cs) := by
  cases fs with
  | nil => exact h
  | cons f fs => exact endsNumeral_cons (by decide) _

theorem writeText_append (s : String) (cs : List Char) :
    writeText s ++ cs = '"' :: (s.toList.flatMap escape ++ '"' :: cs) := by
  simp [writeText]

theorem readEntries_write (hs : style.Spaced) {depth : Nat} {sp : List Char}
    (hsp : ∀ c ∈ sp, isSpace c = true) (k : String) {v : Json} (hv : v.ReadsBack number style)
    {fs : List (String × Json)} (hfs : ∀ f ∈ fs, f.2.ReadsBack number style) {fuel : Nat}
    (hf : (write style depth v).length + (writeFields style depth fs).length < fuel)
    (rest : List Char) :
    readEntries number fuel
      (writeText k ++ (style.colon ++ (write style depth v ++
        (writeFields style depth fs ++ (sp ++ '\x7d' :: rest))))) =
        ((.text k, v.toDatum) :: fieldsToData fs, some rest) := by
  have hclose : EndsNumeral (sp ++ '\x7d' :: rest) :=
    endsNumeral_spaces hsp (endsNumeral_cons (by decide) _)
  obtain ⟨colon, hcolon, hspaces⟩ := hs.colon
  have hquote : isSpace '"' = false := by decide
  have hpoints : isSpace ':' = false := by decide
  induction fs generalizing k v fuel with
  | nil =>
    obtain ⟨fuel, rfl⟩ := Nat.exists_eq_add_of_lt (Nat.zero_lt_of_lt hf)
    have hfuel : (write style depth v).length ≤ fuel := by omega
    rw [writeText_append, Nat.zero_add, readEntries, skipSpace_cons hquote]
    simp only [readText_escaped, hcolon, List.cons_append, skipSpace_cons hpoints,
      readValue_spaces number hspaces]
    rw [writeFields, List.nil_append, hv depth fuel _ hfuel hclose]
    simp only [skipSpace_append hsp, skipSpace_cons (by decide : isSpace '\x7d' = false)]
    rfl
  | cons g gs ih =>
    obtain ⟨fuel, rfl⟩ := Nat.exists_eq_add_of_lt (Nat.zero_lt_of_lt hf)
    have hlength : (write style depth g.2).length + (writeFields style depth gs).length <
        (writeFields style depth (g :: gs)).length := by
      simp [writeFields]
      omega
    have hfuel : (write style depth v).length ≤ fuel := by omega
    have hnext := ih g.1 (hfs g (by simp)) (fun h hh => hfs h (by simp [hh]))
      (by omega : (write style depth g.2).length + (writeFields style depth gs).length < fuel)
    rw [writeText_append, Nat.zero_add, readEntries, skipSpace_cons hquote]
    simp only [readText_escaped, hcolon, List.cons_append, skipSpace_cons hpoints,
      readValue_spaces number hspaces]
    rw [hv depth fuel _ hfuel (endsNumeral_writeFields depth _ hclose), writeFields]
    simp only [List.cons_append, List.append_assoc, skipSpace_cons (by decide : isSpace ',' = false)]
    rw [readEntries_spaces (hs.lineBreak depth), hnext]
    rfl

theorem readsBack_array (hs : style.Spaced) {items : List Json}
    (hc : ∀ v ∈ items, v.Carried number) (h : ∀ v ∈ items, v.ReadsBack number style) :
    (array items).ReadsBack number style := by
  intro depth fuel rest hf hrest
  cases items with
  | nil =>
    rw [write] at hf ⊢
    obtain ⟨fuel, rfl⟩ := Nat.exists_eq_add_of_lt (Nat.lt_of_lt_of_le (Nat.succ_pos _) hf)
    rfl
  | cons v vs =>
    have hlength : (write style depth (array (v :: vs))).length =
        2 + (style.lineBreak (depth + 1)).length + (write style (depth + 1) v).length +
          (writeItems style (depth + 1) vs).length + (style.lineBreak depth).length := by
      simp [write]
      omega
    obtain ⟨fuel, rfl⟩ := Nat.exists_eq_add_of_lt (by omega : 0 < fuel)
    obtain ⟨c, t, hhead, hc, hclose⟩ := write_head number style (depth + 1) (hc v (by simp))
    have hitems := readItems_write hs (hs.lineBreak depth) (h v (by simp))
      (fun w hw => h w (by simp [hw])) (by omega : (write style (depth + 1) v).length +
        (writeItems style (depth + 1) vs).length < fuel) rest
    have hskip (cs : List Char) : skipSpace (style.lineBreak (depth + 1) ++
        (write style (depth + 1) v ++ cs)) = write style (depth + 1) v ++ cs := by
      rw [skipSpace_append (hs.lineBreak _), hhead, List.cons_append, skipSpace_cons hc]
    rw [write, Nat.zero_add]
    simp only [List.cons_append, List.append_assoc, List.nil_append]
    rw [readValue, skipSpace_cons (by decide)]
    simp only [hskip]
    split
    · -- No value starts with the bracket that ends an empty array.
      rename_i r hr
      rw [hhead, List.cons_append] at hr
      exact absurd (List.cons.inj hr).1 hclose
    · rw [hitems]
      rfl

theorem readsBack_object (hs : style.Spaced) {fields : List (String × Json)}
    (h : ∀ f ∈ fields, f.2.ReadsBack number style) : (object fields).ReadsBack number style := by
  intro depth fuel rest hf hrest
  cases fields with
  | nil =>
    rw [write] at hf ⊢
    obtain ⟨fuel, rfl⟩ := Nat.exists_eq_add_of_lt (Nat.lt_of_lt_of_le (Nat.succ_pos _) hf)
    rfl
  | cons f fs =>
    obtain ⟨k, v⟩ := f
    have hlength : 2 + (write style (depth + 1) v).length +
        (writeFields style (depth + 1) fs).length ≤
          (write style depth (object ((k, v) :: fs))).length := by
      simp [write]
      omega
    obtain ⟨fuel, rfl⟩ := Nat.exists_eq_add_of_lt (by omega : 0 < fuel)
    have hvalue : v.ReadsBack number style := h (k, v) (by simp)
    have hfields : ∀ f ∈ fs, f.2.ReadsBack number style := fun f hf => h f (by simp [hf])
    have hentries := readEntries_write hs (hs.lineBreak depth) k hvalue hfields
      (by omega : (write style (depth + 1) v).length +
        (writeFields style (depth + 1) fs).length < fuel) rest
    have hskip (cs : List Char) : skipSpace (style.lineBreak (depth + 1) ++
        (writeText k ++ cs)) = writeText k ++ cs := by
      rw [skipSpace_append (hs.lineBreak _), writeText_append, skipSpace_cons (by decide)]
    rw [write, Nat.zero_add]
    simp only [List.cons_append, List.append_assoc, List.nil_append]
    rw [readValue, skipSpace_cons (by decide)]
    simp only [hskip]
    split
    · -- A key starts with a quote.
      rename_i r hr
      rw [writeText_append] at hr
      exact absurd (List.cons.inj hr).1 (by decide)
    · rw [hentries]
      rfl

theorem readsBack_word {v : Json} {c : Char} {word : List Char}
    (hw : ∀ depth, write style depth v = c :: word)
    (hread : ∀ fuel rest, readValue number (fuel + 1) (c :: (word ++ rest)) =
      (v.toDatum, some rest)) : v.ReadsBack number style := by
  intro depth fuel rest hf hrest
  rw [hw] at hf ⊢
  obtain ⟨fuel, rfl⟩ := Nat.exists_eq_add_of_lt (Nat.lt_of_lt_of_le (Nat.succ_pos _) hf)
  exact hread _ rest

theorem readsBack_numeral {v : Json} {n : Numeral} (hn : n.Sound)
    (hw : ∀ depth, write style depth v = n.spell) (hread : number n = v.toDatum) :
    v.ReadsBack number style := by
  intro depth fuel rest hf hrest
  obtain ⟨c, t, hspell, -⟩ := spell_head hn
  have hpos : 0 < n.spell.length := by simp [hspell]
  rw [hw] at hf ⊢
  rw [readValue_numeral number hn (Nat.lt_of_lt_of_le hpos hf) hrest, hread]

mutual
theorem readsBack (hs : style.Spaced) : (v : Json) → v.Carried number → v.ReadsBack number style
  | null, _ => readsBack_word (fun _ => by rw [write]; rfl) fun _ _ => rfl
  | bool true, _ => readsBack_word (fun _ => by rw [write]; rfl) fun _ _ => rfl
  | bool false, _ => readsBack_word (fun _ => by rw [write]; rfl) fun _ _ => rfl
  | integer i, h => readsBack_numeral (integerNumeral_sound i)
    (fun _ => by rw [write, integerNumeral_spell]) h
  | float x, ⟨_, hn, hspell, hx⟩ => readsBack_numeral hn (fun _ => by rw [write, hspell]) hx
  | text s, _ => fun depth fuel rest hf _ => by
    rw [write] at hf ⊢
    exact readValue_text number s (Nat.lt_of_lt_of_le (by simp [writeText]) hf) rest
  | array items, h =>
    readsBack_array hs ((carriedItems_iff number).1 h) (readsBack_items hs items h)
  | object fields, h => readsBack_object hs (readsBack_fields hs fields h)

theorem readsBack_items (hs : style.Spaced) : (l : List Json) → CarriedItems number l →
    ∀ v ∈ l, v.ReadsBack number style
  | [], _ => fun _ h => by cases h
  | v :: rest, h => List.forall_mem_cons.2 ⟨readsBack hs v h.1, readsBack_items hs rest h.2⟩

theorem readsBack_fields (hs : style.Spaced) : (l : List (String × Json)) →
    CarriedFields number l → ∀ f ∈ l, f.2.ReadsBack number style
  | [], _ => fun _ h => by cases h
  | (_, v) :: rest, h =>
    List.forall_mem_cons.2 ⟨readsBack hs v h.1, readsBack_fields hs rest h.2⟩
end

/-- A text that was written is read back to its end as what was written. -/
theorem readWith_write (hs : style.Spaced) {v : Json} (h : v.Carried number) (depth : Nat) :
    readWith number (String.ofList (write style depth v)) = ⟨.json, v.toDatum, true⟩ := by
  have hread := readsBack hs v h depth ((write style depth v).length + 1) [] (Nat.le_succ _)
    endsNumeral_nil
  rw [List.append_nil] at hread
  rw [readWith]
  simp only [String.toList_ofList, hread]
  rfl

end Reading

/-- The text of a number is decoded as that number, to the last bit. -/
def CarriedByText (x : Double) : Prop :=
  x.isFinite = true ∧ (read (render (.float x))).decode Decoder.double = .ok x

theorem datum_of_marked {n : Numeral} (h : n.fraction.isSome ∨ n.exponent.isSome) :
    (∃ x, n.datum = .float x) ∨ n.datum = .unusable := by
  have hmarked : (n.fraction.isNone && n.exponent.isNone) = false := by
    cases hf : n.fraction <;> cases he : n.exponent <;> simp_all
  simp only [Numeral.datum, hmarked, Bool.false_and, Bool.false_eq_true, if_false]
  cases n.double with
  | some x => exact .inl ⟨x, rfl⟩
  | none => exact .inr rfl

theorem CarriedByText.carried {x : Double} (h : CarriedByText x) :
    (Json.float x).Carried Numeral.datum := by
  obtain ⟨n, hw, -, hspell⟩ := writeFloat_spells h.1
  refine ⟨n, hw.sound, hspell, ?_⟩
  have hread : readValue Numeral.datum (n.spell.length + 1) n.spell = (n.datum, some []) := by
    simpa using readValue_numeral Numeral.datum hw.sound (Nat.succ_pos n.spell.length)
      endsNumeral_nil
  have htext := h.2
  rw [read, readWith, render, write, hspell] at htext
  simp only [String.toList_ofList, hread] at htext
  rcases datum_of_marked hw.marked with ⟨y, hy⟩ | hy
  · rw [hy] at htext ⊢
    exact congrArg Datum.float (Except.ok.inj htext)
  · rw [hy] at htext
    cases htext

end ClusterReconciliation.Json
