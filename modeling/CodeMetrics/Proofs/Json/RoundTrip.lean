import CodeMetrics.Proofs.Json.Number
import CodeMetrics.Proofs.Json.Plain
import CodeMetrics.Proofs.Json.Text
import CodeMetrics.Proofs.Value.Entries

/-!
# What is written as JSON is read back

Some values have no JSON form of their own: floating-point numbers are left out here, tuples turn
into lists, and of two entries with one key only one survives.  All others are `isExact`.  The
reader takes exactly such a value off the front of its written form (`readValue_text`), and so reads
a document back as the value that was written, with white space around it or without
(`read_text`).
-/

namespace CodeMetrics

namespace Json

/-! ## Exact values -/

mutual

/-- The value is one of JSON without floating-point numbers: its whole numbers are short enough to
be written, and no dictionary in it has two entries with one key. -/
def isExact : Value → Bool
  | .null => true
  | .bool _ => true
  | .int n => decide (n.natAbs < Value.unwritable)
  | .text _ => true
  | .list items => isExactOf items
  | .dict entries => decide (entries.map Prod.fst).Nodup && isExactIn entries
  | .float _ | .tuple _ | .set _ | .bytes _ | .moment _ | .other .. => false

def isExactOf : List Value → Bool
  | [] => true
  | v :: rest => isExact v && isExactOf rest

def isExactIn : List (String × Value) → Bool
  | [] => true
  | (_, v) :: rest => isExact v && isExactIn rest

end

theorem isExactOf_iff {items : List Value} : isExactOf items ↔ ∀ v ∈ items, isExact v := by
  induction items with
  | nil => exact ⟨fun _ => nofun, fun _ => rfl⟩
  | cons v rest ih => rw [isExactOf, Bool.and_eq_true, ih, List.forall_mem_cons]

theorem isExactIn_iff {entries : List (String × Value)} :
    isExactIn entries ↔ ∀ e ∈ entries, isExact e.2 := by
  induction entries with
  | nil => exact ⟨fun _ => nofun, fun _ => rfl⟩
  | cons e rest ih => rw [isExactIn, Bool.and_eq_true, ih, List.forall_mem_cons]

/-- Exact values can be written. -/
theorem unwritable?_of_isExact : ∀ v : Value, isExact v → unwritable? v = none
  | .null | .bool _ | .text _ => fun _ => rfl
  | .int n => fun h => by
    rw [isExact, decide_eq_true_eq] at h
    rw [unwritable?, if_pos h]
  | .list items => fun h => by
    refine unwritableOf?_eq_none_iff.2 fun v hv => ?_
    exact unwritable?_of_isExact v (isExactOf_iff.1 h v hv)
  | .dict entries => fun h => by
    rw [isExact, Bool.and_eq_true] at h
    refine unwritableIn?_eq_none_iff.2 fun (key, v) he => ?_
    have := Value.sizeOf_lt_of_mem_entries he
    exact unwritable?_of_isExact v (isExactIn_iff.1 h.2 (key, v) he)
  | .float _ | .tuple _ | .set _ | .bytes _ | .moment _ | .other .. => nofun

/-- Exact values can be copied. -/
theorem copiable_of_isExact : ∀ v : Value, isExact v → v.copiable
  | .null | .bool _ | .text _ | .int _ => fun _ => rfl
  | .list items => fun h => by
    refine Value.copiableAll_iff.2 fun v hv => ?_
    exact copiable_of_isExact v (isExactOf_iff.1 h v hv)
  | .dict entries => fun h => by
    rw [isExact, Bool.and_eq_true] at h
    refine Value.copiableEntries_iff.2 fun (key, v) he => ?_
    have := Value.sizeOf_lt_of_mem_entries he
    exact copiable_of_isExact v (isExactIn_iff.1 h.2 (key, v) he)
  | .float _ | .tuple _ | .set _ | .bytes _ | .moment _ | .other .. => nofun

/-! ## The front of a written value -/

/-- The character begins a value: it is no white space and does not close a list. -/
def BeginsValue (c : Char) : Prop := isGap c = false ∧ c ≠ ']'

theorem beginsValue_of_isDigit {c : Char} (h : c.isDigit) : BeginsValue c := by
  have hne (d : Char) (hd : d.isDigit = false) : c ≠ d := ne_of_isDigit h hd
  refine ⟨?_, hne ']' rfl⟩
  simp [isGap, hne ' ' rfl, hne '\t' rfl, hne '\n' rfl, hne '\r' rfl]

/-- A whole number begins with a hyphen before a digit, or with a digit. -/
theorem exists_toString_int_cons (n : Int) :
    ∃ d digits, d.isDigit ∧
      ((toString n).toList = '-' :: d :: digits ∨ (toString n).toList = d :: digits) := by
  obtain ⟨d, digits, hdigits, hd⟩ := exists_toDigits_cons n.natAbs
  refine ⟨d, digits, hd, ?_⟩
  rw [toList_toString_int, hdigits]
  split
  · exact .inl rfl
  · exact .inr rfl

theorem exists_text_cons {v : Value} (h : isExact v) :
    ∃ c s, text v = c :: s ∧ BeginsValue c := by
  cases v with
  | null => exact ⟨'n', _, rfl, by decide, by decide⟩
  | bool b => cases b <;> exact ⟨_, _, rfl, by decide, by decide⟩
  | int n =>
    obtain ⟨d, digits, hd, htext | htext⟩ := exists_toString_int_cons n
    · exact ⟨'-', d :: digits, htext, by decide, by decide⟩
    · exact ⟨d, digits, htext, beginsValue_of_isDigit hd⟩
  | text s => exact ⟨'"', _, rfl, by decide, by decide⟩
  | list items => exact ⟨'[', _, rfl, by decide, by decide⟩
  | dict entries => exact ⟨'\x7b', _, rfl, by decide, by decide⟩
  | _ => cases h

theorem skipGap_cons {c : Char} (h : isGap c = false) (s : List Char) :
    skipGap (c :: s) = c :: s := by
  refine List.dropWhile_cons_of_neg ?_
  rw [h]
  exact Bool.false_ne_true

/-! ## Scalars -/

/-- A number begins like none of the words. -/
theorem findSome?_words_toString (n : Int) (rest : List Char) :
    words.findSome? (fun (word, v) =>
      (afterWord? word ((toString n).toList ++ rest)).map fun rest => (v, rest)) = none := by
  obtain ⟨d, digits, hd, htext⟩ := exists_toString_int_cons n
  have hne (c : Char) (hc : c.isDigit = false) : c ≠ d := (ne_of_isDigit hd hc).symm
  have hnull := hne 'n' rfl
  have ht := hne 't' rfl
  have hf := hne 'f' rfl
  have hN := hne 'N' rfl
  have hI := hne 'I' rfl
  have hminus := hne '-' rfl
  rcases htext with htext | htext <;> rw [htext] <;>
    simp [words, afterWord?, hnull, ht, hf, hN, hI, hminus]

theorem readScalar_toString {n : Int} (hn : n.natAbs < Value.unwritable) {rest : List Char}
    (h : EndsNumber rest) : readScalar ((toString n).toList ++ rest) = .ok (.int n, rest) := by
  unfold readScalar
  rw [findSome?_words_toString]
  exact readNumber_toString hn h

theorem readValue_of_front {c : Char} (h : c ≠ '"' ∧ c ≠ '[' ∧ c ≠ '\x7b') (depth : Nat)
    (s : List Char) : readValue (depth + 1) (c :: s) = readScalar (c :: s) := by
  simp [readValue, h]

theorem readValue_toString {n : Int} (hn : n.natAbs < Value.unwritable) {rest : List Char}
    (h : EndsNumber rest) (depth : Nat) :
    readValue (depth + 1) ((toString n).toList ++ rest) = .ok (.int n, rest) := by
  rw [← readScalar_toString hn h]
  obtain ⟨d, digits, hd, htext | htext⟩ := exists_toString_int_cons n
  · rw [htext]
    exact readValue_of_front (by decide) depth _
  · rw [htext]
    have hfront := (⟨ne_of_isDigit hd rfl, ne_of_isDigit hd rfl, ne_of_isDigit hd rfl⟩ :
      d ≠ '"' ∧ d ≠ '[' ∧ d ≠ '\x7b')
    exact readValue_of_front hfront depth _

/-! ## Values -/

theorem itemsText_cons (v : Value) {rest : List Value} (h : rest ≠ []) :
    itemsText (v :: rest) = text v ++ ',' :: ' ' :: itemsText rest := by
  cases rest with
  | nil => exact absurd rfl h
  | cons w rest =>
    rw [itemsText]
    exact List.cons_ne_nil w rest

theorem entriesText_cons (k : String) (v : Value) {rest : List (String × Value)} (h : rest ≠ []) :
    entriesText ((k, v) :: rest) =
      quote k.toList ++ ':' :: ' ' :: text v ++ ',' :: ' ' :: entriesText rest := by
  cases rest with
  | nil => exact absurd rfl h
  | cons e rest =>
    rw [entriesText]
    exact List.cons_ne_nil e rest

theorem exists_itemsText_cons {v : Value} {rest : List Value} (h : isExactOf (v :: rest)) :
    ∃ c s, itemsText (v :: rest) = c :: s ∧ BeginsValue c := by
  rw [isExactOf, Bool.and_eq_true] at h
  obtain ⟨c, s, htext, hc⟩ := exists_text_cons h.1
  by_cases hrest : rest = []
  · rw [hrest, itemsText]
    exact ⟨c, s, htext, hc⟩
  · rw [itemsText_cons v hrest, htext]
    exact ⟨c, _, rfl, hc⟩

theorem exists_entriesText_cons (k : String) (v : Value) (rest : List (String × Value)) :
    ∃ s, entriesText ((k, v) :: rest) = '"' :: s := by
  by_cases hrest : rest = []
  · rw [hrest, entriesText]
    exact ⟨_, rfl⟩
  · rw [entriesText_cons k v hrest]
    exact ⟨_, rfl⟩

theorem length_text_pos {v : Value} (h : isExact v) : 0 < (text v).length := by
  obtain ⟨c, s, htext, -⟩ := exists_text_cons h
  rw [htext]
  exact Nat.succ_pos _

theorem endsNumber_comma (s : List Char) : EndsNumber (',' :: s) := endsNumber_cons (by decide)

theorem endsNumber_bracket (s : List Char) : EndsNumber (']' :: s) := endsNumber_cons (by decide)

theorem endsNumber_brace (s : List Char) : EndsNumber ('\x7d' :: s) := endsNumber_cons (by decide)

/-! One step of the reader at each place where it can stand. -/

theorem readValue_bracket {c : Char} (h : BeginsValue c) (depth : Nat) (s : List Char) :
    readValue (depth + 1) ('[' :: c :: s) =
      (fun (vs, rest) => (.list vs, rest)) <$> readItems depth (c :: s) := by
  have hclose := h.2
  simp only [readValue, skipGap_cons h.1]
  split
  · next heq => exact absurd (List.cons.inj heq).1 hclose
  · rfl

theorem readValue_brace (depth : Nat) (s : List Char) :
    readValue (depth + 1) ('\x7b' :: '"' :: s) =
      (fun (es, rest) => (.dict (Value.overlay [] es), rest)) <$> readEntries depth ('"' :: s) := rfl

theorem readItems_last {depth : Nat} {v : Value} {s rest : List Char}
    (hv : readValue depth s = .ok (v, ']' :: rest)) :
    readItems (depth + 1) s = .ok ([v], rest) := by
  rw [readItems, hv]
  rfl

theorem readItems_comma {depth : Nat} {v : Value} {vs : List Value} {c : Char}
    {s t rest : List Char} (hv : readValue depth s = .ok (v, ',' :: ' ' :: c :: t))
    (hc : BeginsValue c) (hvs : readItems depth (c :: t) = .ok (vs, rest)) :
    readItems (depth + 1) s = .ok (v :: vs, rest) := by
  have hgap : skipGap (' ' :: c :: t) = c :: t := skipGap_cons hc.1 t
  rw [readItems, hv]
  change readItems depth (skipGap (' ' :: c :: t)) >>= _ = _
  rw [hgap, hvs]
  rfl

/-- What the reader of entries does after a key, when a value follows. -/
theorem readEntries_key {depth : Nat} {key : String} {v : Value} {c : Char} {s t after : List Char}
    (hkey : readText s = .ok (key, ':' :: ' ' :: c :: t)) (hc : BeginsValue c)
    (hv : readValue depth (c :: t) = .ok (v, after)) :
    readEntries (depth + 1) ('"' :: s) =
      match skipGap after with
      | '\x7d' :: rest => .ok ([(key, v)], rest)
      | ',' :: rest => do
        let (es, rest) ← readEntries depth (skipGap rest)
        .ok ((key, v) :: es, rest)
      | rest => .error ⟨.expectedComma, rest.length⟩ := by
  have hgap : skipGap (' ' :: c :: t) = c :: t := skipGap_cons hc.1 t
  rw [readEntries, hkey]
  change readValue depth (skipGap (' ' :: c :: t)) >>= _ = _
  rw [hgap, hv]
  rfl

mutual

/-- An exact value is taken off the front of a text that begins with its written form.  The depth
that the reader needs is bounded by the length of that form. -/
theorem readValue_text : ∀ (v : Value) (depth : Nat) (rest : List Char), isExact v →
    (text v).length ≤ depth → EndsNumber rest → readValue depth (text v ++ rest) = .ok (v, rest)
  | v, 0, rest => fun h hdepth _ => by
    have := length_text_pos h
    omega
  | .null, depth + 1, rest => fun _ _ _ => rfl
  | .bool true, depth + 1, rest => fun _ _ _ => rfl
  | .bool false, depth + 1, rest => fun _ _ _ => rfl
  | .int n, depth + 1, rest => fun h _ hrest => by
    rw [isExact, decide_eq_true_eq] at h
    exact readValue_toString h hrest depth
  | .text s, depth + 1, rest => fun _ _ _ => by
    have hquote : text (.text s) ++ rest = '"' :: (s.toList.flatMap escapeChar ++ '"' :: rest) := by
      simp [text, quote]
    rw [hquote, readValue, readText_quote]
    rfl
  | .list [], depth + 1, rest => fun _ _ _ => rfl
  | .list (v :: others), depth + 1, rest => fun h hdepth _ => by
    have hlist : text (.list (v :: others)) ++ rest =
        '[' :: (itemsText (v :: others) ++ ']' :: rest) := by
      simp [text]
    have hlength : (itemsText (v :: others)).length < depth := by
      simp only [text, List.length_append, List.length_cons, List.length_nil] at hdepth
      omega
    have hread := readItems_text (v :: others) depth rest h nofun hlength
    obtain ⟨c, s, htext, hc⟩ := exists_itemsText_cons h
    rw [htext, List.cons_append] at hread
    rw [hlist, htext, List.cons_append, readValue_bracket hc, hread]
    rfl
  | .dict [], depth + 1, rest => fun _ _ _ => rfl
  | .dict ((k, v) :: others), depth + 1, rest => fun h hdepth _ => by
    rw [isExact, Bool.and_eq_true, decide_eq_true_eq] at h
    have hdict : text (.dict ((k, v) :: others)) ++ rest =
        '\x7b' :: (entriesText ((k, v) :: others) ++ '\x7d' :: rest) := by
      simp [text]
    have hlength : (entriesText ((k, v) :: others)).length < depth := by
      simp only [text, List.length_append, List.length_cons, List.length_nil] at hdepth
      omega
    have hread := readEntries_text ((k, v) :: others) depth rest h.2 nofun hlength
    obtain ⟨s, htext⟩ := exists_entriesText_cons k v others
    rw [htext, List.cons_append] at hread
    rw [hdict, htext, List.cons_append, readValue_brace, hread]
    show Except.ok (Value.dict (Value.overlay [] ((k, v) :: others)), rest) = _
    rw [Value.overlay_of_nodup h.1]
    rfl
  | .float _, _ + 1, _ | .tuple _, _ + 1, _ | .set _, _ + 1, _ | .bytes _, _ + 1, _
  | .moment _, _ + 1, _ | .other .., _ + 1, _ => nofun

theorem readItems_text : ∀ (items : List Value) (depth : Nat) (rest : List Char),
    isExactOf items → items ≠ [] → (itemsText items).length < depth →
      readItems depth (itemsText items ++ ']' :: rest) = .ok (items, rest)
  | [], _, _ => fun _ h => absurd rfl h
  | _, 0, _ => nofun
  | [v], depth + 1, rest => fun h _ hdepth => by
    rw [isExactOf, Bool.and_eq_true] at h
    rw [itemsText] at hdepth ⊢
    exact readItems_last
      (readValue_text v depth (']' :: rest) h.1 (by omega) (endsNumber_bracket rest))
  | v :: w :: others, depth + 1, rest => fun h _ hdepth => by
    have hne : w :: others ≠ [] := nofun
    rw [isExactOf, Bool.and_eq_true] at h
    rw [itemsText_cons v hne] at hdepth ⊢
    simp only [List.length_append, List.length_cons] at hdepth
    have hrest := readItems_text (w :: others) depth rest h.2 hne (by omega)
    obtain ⟨c, s, htext, hc⟩ := exists_itemsText_cons h.2
    rw [htext, List.cons_append] at hrest
    have hv := readValue_text v depth (',' :: ' ' :: c :: (s ++ ']' :: rest)) h.1 (by omega)
      (endsNumber_comma _)
    rw [htext, List.append_assoc]
    exact readItems_comma hv hc hrest

theorem readEntries_text : ∀ (entries : List (String × Value)) (depth : Nat) (rest : List Char),
    isExactIn entries → entries ≠ [] → (entriesText entries).length < depth →
      readEntries depth (entriesText entries ++ '\x7d' :: rest) = .ok (entries, rest)
  | [], _, _ => fun _ h => absurd rfl h
  | _, 0, _ => nofun
  | [(k, v)], depth + 1, rest => fun h _ hdepth => by
    rw [isExactIn, Bool.and_eq_true] at h
    obtain ⟨c, s, htext, hc⟩ := exists_text_cons h.1
    simp only [entriesText, List.length_append, List.length_cons] at hdepth
    have hv := readValue_text v depth ('\x7d' :: rest) h.1 (by omega) (endsNumber_brace rest)
    rw [htext, List.cons_append] at hv
    have hkey := readText_quote k (':' :: ' ' :: c :: (s ++ '\x7d' :: rest))
    have hentry : entriesText [(k, v)] ++ '\x7d' :: rest =
        '"' :: (k.toList.flatMap escapeChar ++ '"' :: ':' :: ' ' :: c :: (s ++ '\x7d' :: rest)) := by
      simp [entriesText, quote, htext]
    rw [hentry, readEntries_key hkey hc hv]
    rfl
  | (k, v) :: e :: others, depth + 1, rest => fun h _ hdepth => by
    rw [isExactIn, Bool.and_eq_true] at h
    obtain ⟨c, s, htext, hc⟩ := exists_text_cons h.1
    obtain ⟨t, hothers⟩ := exists_entriesText_cons e.1 e.2 others
    have hne : e :: others ≠ [] := nofun
    rw [entriesText_cons k v hne] at hdepth ⊢
    simp only [List.length_append, List.length_cons] at hdepth
    have hrest := readEntries_text (e :: others) depth rest h.2 hne (by omega)
    have hv := readValue_text v depth
      (',' :: ' ' :: (entriesText (e :: others) ++ '\x7d' :: rest)) h.1 (by omega)
      (endsNumber_comma _)
    rw [htext, List.cons_append] at hv
    have hkey := readText_quote k
      (':' :: ' ' :: c :: (s ++ ',' :: ' ' :: (entriesText (e :: others) ++ '\x7d' :: rest)))
    have hentry : quote k.toList ++ ':' :: ' ' :: text v ++ ',' :: ' ' :: entriesText (e :: others) ++
        '\x7d' :: rest =
        '"' :: (k.toList.flatMap escapeChar ++ '"' :: ':' :: ' ' :: c ::
          (s ++ ',' :: ' ' :: (entriesText (e :: others) ++ '\x7d' :: rest))) := by
      simp [quote, htext]
    rw [hentry, readEntries_key hkey hc hv]
    rw [hothers, List.cons_append] at hrest ⊢
    show (do
      let (es, rest) ← readEntries depth ('"' :: (t ++ '\x7d' :: rest))
      .ok ((k, v) :: es, rest) : Except Stop (List (String × Value) × List Char)) = _
    rw [hrest]
    rfl

end

/-! ## Documents -/

/-- A document that holds an exact value is read back, whatever white space follows it. -/
theorem read_text_append {v : Value} (h : isExact v) {gap : List Char} (hgap : ∀ c ∈ gap, isGap c) :
    read (text v ++ gap) = .ok v := by
  obtain ⟨c, s, htext, hc⟩ := exists_text_cons h
  have hends : EndsNumber gap := by
    intro c hc
    have hmem := hgap c (List.mem_of_mem_head? hc)
    unfold isGap at hmem
    simp only [Bool.or_eq_true, decide_eq_true_eq] at hmem
    obtain ((rfl | rfl) | rfl) | rfl := hmem <;> decide
  have hskip : skipGap gap = [] := List.dropWhile_eq_nil_iff.2 hgap
  have hvalue : readFront (text v ++ gap) = .ok (v, gap) := by
    refine readValue_text v _ gap h ?_ hends
    rw [List.length_append]
    omega
  have hmark : (text v ++ gap).head? ≠ some '\ufeff' := by
    have hplain := plain_text v c (by
      rw [htext]
      exact List.mem_cons_self ..)
    rw [htext]
    rintro ⟨⟩
    exact absurd hplain.2 (by decide)
  have hfront : skipGap (text v ++ gap) = text v ++ gap := by
    rw [htext]
    exact skipGap_cons hc.1 _
  have hall : readAll (text v ++ gap) = .ok v := by
    unfold readAll
    rw [if_neg hmark, hfront, hvalue]
    simp only [bind, Except.bind, hskip]
  unfold read
  rw [hall]
  rfl

theorem read_text {v : Value} (h : isExact v) : read (text v) = .ok v := by
  have hread : read (text v ++ []) = .ok v := read_text_append h nofun
  rwa [List.append_nil] at hread

end Json

end CodeMetrics
