import CodeMetrics.Proofs.Except
import CodeMetrics.Proofs.Json.Number

/-!
# Whole numbers that are too long

The reader works through a text from the front: what it leaves is a suffix of what it was given.
So when it complains about a whole number of too many digits, such a number stands in the text, and
just at the place that the fault names (`isLong_of_read`).  An array of one such number is a
document that is refused for it (`read_ones`).
-/

namespace CodeMetrics

namespace Json

/-- A whole number of too many digits stands at the front, with a sign or without. -/
def IsLong (s : List Char) : Prop :=
  ∃ digits rest, (s = digits ++ rest ∨ s = '-' :: (digits ++ rest)) ∧
    (∀ c ∈ digits, c.isDigit) ∧ digitLimit < digits.length

/-! ## Rules for readers -/

/-- What a reader makes of a text lies in the text: what it leaves is a suffix, and a whole number
that it calls too long stands where it stops. -/
def StaysIn {α : Type} (s : List Char) : Except Stop (α × List Char) → Prop
  | .ok (_, rest) => rest <:+ s
  | .error stop =>
    stop.complaint = .longNumber → ∃ t, t <:+ s ∧ t.length = stop.remaining ∧ IsLong t

variable {α β : Type} {s t : List Char}

theorem staysIn_ok {a : α} (h : t <:+ s) : StaysIn s (.ok (a, t)) := h

theorem staysIn_error {stop : Stop} (h : stop.complaint ≠ .longNumber) :
    StaysIn s (.error stop : Except Stop (α × List Char)) :=
  fun hc => absurd hc h

theorem StaysIn.mono {x : Except Stop (α × List Char)} (h : StaysIn t x) (hs : t <:+ s) :
    StaysIn s x := by
  rcases x with stop | ⟨a, rest⟩
  · intro hc
    obtain ⟨u, hu, hlength, hlong⟩ := h hc
    exact ⟨u, hu.trans hs, hlength, hlong⟩
  · exact List.IsSuffix.trans h hs

theorem StaysIn.map {x : Except Stop (α × List Char)} (h : StaysIn s x) (f : α → β) :
    StaysIn s ((fun (a, rest) => (f a, rest)) <$> x) := by
  rcases x with stop | ⟨a, rest⟩ <;> exact h

/-- A reader may go on with what another one leaves. -/
theorem StaysIn.bind {x : Except Stop (α × List Char)}
    {f : α × List Char → Except Stop (β × List Char)} (h : StaysIn s x)
    (hf : ∀ a rest, StaysIn rest (f (a, rest))) : StaysIn s (x >>= f) := by
  rcases x with stop | ⟨a, rest⟩
  · exact h
  · exact (hf a rest).mono h

theorem skipGap_suffix (s : List Char) : skipGap s <:+ s := List.dropWhile_suffix isGap

theorem suffix_of_skipGap {c : Char} (h : skipGap s = c :: t) : t <:+ s :=
  (List.suffix_cons c t).trans (h ▸ skipGap_suffix s)

/-! ## Texts -/

/-- The reader goes on behind a character or behind an escape, so the induction is on the length. -/
theorem staysIn_readUnits (start : Nat) (s : List Char) : StaysIn s (readUnits start s) := by
  induction hlength : s.length using Nat.strongRecOn generalizing s with
  | ind n ih =>
    have shorter {t : List Char} (h : t.length < s.length) : StaysIn t (readUnits start t) :=
      ih t.length (hlength ▸ h) t rfl
    cases s with
    | nil => exact staysIn_error nofun
    | cons c rest =>
      unfold readUnits
      split
      · exact staysIn_ok (List.suffix_cons c rest)
      split
      · cases rest with
        | nil => exact staysIn_error nofun
        | cons e after =>
          dsimp only
          split
          · split
            · next w x y z next rest =>
              have h := shorter (t := next :: rest) (by simp only [List.length_cons]; omega)
              split
              · exact (h.map _).mono ⟨[c, e, w, x, y, z], rfl⟩
              · exact staysIn_error nofun
            · exact staysIn_error nofun
          · have h := shorter (t := after) (by simp only [List.length_cons]; omega)
            split
            · exact (h.map _).mono ⟨[c, e], rfl⟩
            · exact staysIn_error nofun
      split
      · exact staysIn_error nofun
      · exact ((shorter (Nat.lt_succ_self _)).map _).mono (List.suffix_cons c rest)

theorem staysIn_readText (s : List Char) : StaysIn s (readText s) := by
  unfold readText
  exact (staysIn_readUnits _ s).map fun us => String.ofList (unitsToText us)

/-! ## Numbers -/

theorem append_of_spanDigits {digits rest : List Char} (h : spanDigits s = (digits, rest)) :
    s = digits ++ rest := by
  rw [spanDigits, List.span_eq_takeWhile_dropWhile] at h
  obtain ⟨rfl, rfl⟩ := Prod.mk.inj h
  exact (List.takeWhile_append_dropWhile).symm

theorem append_of_readWhole? {digits rest : List Char} (h : readWhole? s = some (digits, rest)) :
    s = digits ++ rest := by
  unfold readWhole? at h
  split at h
  · obtain ⟨rfl, rfl⟩ := Prod.mk.inj (Option.some.inj h)
    rfl
  · split at h
    · exact append_of_spanDigits (Option.some.inj h)
    · cases h
  · cases h

theorem suffix_of_readFraction {digits rest : List Char} (h : readFraction s = (digits, rest)) :
    rest <:+ s := by
  unfold readFraction at h
  split at h
  · split at h
    · obtain ⟨-, rfl⟩ := Prod.mk.inj h
      exact List.suffix_refl _
    · next hspan =>
      obtain ⟨rfl, rfl⟩ := Prod.mk.inj h
      rw [append_of_spanDigits hspan]
      exact (List.suffix_append _ _).trans (List.suffix_cons _ _)
  · obtain ⟨-, rfl⟩ := Prod.mk.inj h
    exact List.suffix_refl _

theorem suffix_of_readExponent? {n : Int} {rest : List Char}
    (h : readExponent? s = some (n, rest)) : rest <:+ s := by
  unfold readExponent? at h
  split at h
  · next e after =>
    split at h
    · dsimp only at h
      split at h
      · cases h
      · next hspan =>
        obtain ⟨-, rfl⟩ := Prod.mk.inj (Option.some.inj h)
        refine List.IsSuffix.trans ?_ (List.suffix_cons e after)
        have happend := append_of_spanDigits hspan
        split at happend
        · exact List.IsSuffix.trans ⟨_, happend.symm⟩ (List.suffix_cons _ _)
        · exact List.IsSuffix.trans ⟨_, happend.symm⟩ (List.suffix_cons _ _)
        · exact ⟨_, happend.symm⟩
    · cases h
  · cases h

theorem suffix_of_getD_readExponent? (s : List Char) : ((readExponent? s).getD (0, s)).2 <:+ s := by
  cases h : readExponent? s with
  | none => exact List.suffix_refl s
  | some found => exact suffix_of_readExponent? h

theorem staysIn_readNumber (s : List Char) : StaysIn s (readNumber s) := by
  unfold readNumber
  dsimp only
  split
  · exact staysIn_error nofun
  · next whole rest hwhole =>
    have hs : s = whole ++ rest ∨ s = '-' :: (whole ++ rest) := by
      rw [← append_of_readWhole? hwhole]
      split
      · exact .inr rfl
      · exact .inl rfl
    have hrest : rest <:+ s := by
      rcases hs with rfl | rfl
      · exact List.suffix_append _ _
      · exact (List.suffix_append _ _).trans (List.suffix_cons _ _)
    have hfraction : (readFraction rest).2 <:+ s := (suffix_of_readFraction rfl).trans hrest
    split
    · split
      · next hlimit =>
        exact fun _ =>
          ⟨s, List.suffix_refl s, rfl, whole, rest, hs, isDigit_of_readWhole? hwhole, hlimit⟩
      · exact staysIn_ok hfraction
    · exact staysIn_ok ((suffix_of_getD_readExponent? _).trans hfraction)

/-! ## Values -/

theorem staysIn_readScalar (s : List Char) : StaysIn s (readScalar s) := by
  unfold readScalar
  split
  · next found hfound =>
    obtain ⟨⟨word, v⟩, -, hmap⟩ := List.exists_of_findSome?_eq_some hfound
    obtain ⟨rest, hrest, rfl⟩ := Option.map_eq_some_iff.1 hmap
    unfold afterWord? at hrest
    split at hrest
    · obtain rfl := Option.some.inj hrest
      exact staysIn_ok (List.drop_suffix _ _)
    · cases hrest
  · exact staysIn_readNumber s

/-- At some depth, the readers of values, of items and of entries stay in their text. -/
def AllStayIn (depth : Nat) : Prop :=
  (∀ s, StaysIn s (readValue depth s)) ∧ (∀ s, StaysIn s (readItems depth s)) ∧
    ∀ s, StaysIn s (readEntries depth s)

variable {depth : Nat}

theorem staysIn_readValue (ih : AllStayIn depth) (s : List Char) :
    StaysIn s (readValue (depth + 1) s) := by
  obtain ⟨-, items, entries⟩ := ih
  unfold readValue
  split
  · exact ((staysIn_readText _).map _).mono (List.suffix_cons _ _)
  · split
    · next hgap => exact staysIn_ok ((suffix_of_skipGap hgap).trans (List.suffix_cons _ _))
    · refine StaysIn.mono ?_ ((skipGap_suffix _).trans (List.suffix_cons _ _))
      exact (items _).map Value.list
  · split
    · next hgap => exact staysIn_ok ((suffix_of_skipGap hgap).trans (List.suffix_cons _ _))
    · refine StaysIn.mono ?_ ((skipGap_suffix _).trans (List.suffix_cons _ _))
      exact (entries _).map fun es => Value.dict (Value.overlay [] es)
  · exact staysIn_readScalar _

theorem staysIn_readItems (ih : AllStayIn depth) (s : List Char) :
    StaysIn s (readItems (depth + 1) s) := by
  obtain ⟨values, items, -⟩ := ih
  unfold readItems
  refine (values s).bind fun v rest => ?_
  dsimp only
  split
  · next hgap => exact staysIn_ok (suffix_of_skipGap hgap)
  · next hgap =>
    refine StaysIn.mono ?_ ((skipGap_suffix _).trans (suffix_of_skipGap hgap))
    exact (items _).bind fun vs rest => staysIn_ok (List.suffix_refl rest)
  · exact staysIn_error nofun

theorem staysIn_readEntries (ih : AllStayIn depth) (s : List Char) :
    StaysIn s (readEntries (depth + 1) s) := by
  obtain ⟨values, -, entries⟩ := ih
  unfold readEntries
  split
  · refine StaysIn.mono ?_ (List.suffix_cons _ _)
    refine (staysIn_readText _).bind fun key rest => ?_
    dsimp only
    split
    · next hcolon =>
      refine StaysIn.mono ?_ ((skipGap_suffix _).trans (suffix_of_skipGap hcolon))
      refine (values _).bind fun v rest => ?_
      dsimp only
      split
      · next hgap => exact staysIn_ok (suffix_of_skipGap hgap)
      · next hgap =>
        refine StaysIn.mono ?_ ((skipGap_suffix _).trans (suffix_of_skipGap hgap))
        exact (entries _).bind fun es rest => staysIn_ok (List.suffix_refl rest)
      · exact staysIn_error nofun
    · exact staysIn_error nofun
  · exact staysIn_error nofun

/-- The three readers call each other one level deeper, so the induction is on the depth. -/
theorem allStayIn (depth : Nat) : AllStayIn depth := by
  induction depth with
  | zero =>
    exact ⟨fun _ => staysIn_error nofun, fun _ => staysIn_error nofun,
      fun _ => staysIn_error nofun⟩
  | succ depth ih => exact ⟨staysIn_readValue ih, staysIn_readItems ih, staysIn_readEntries ih⟩

/-! ## Documents -/

theorem exists_isLong_of_readAll {stop : Stop} (h : readAll s = .error stop)
    (hstop : stop.complaint = .longNumber) :
    ∃ t, t <:+ s ∧ t.length = stop.remaining ∧ IsLong t := by
  unfold readAll at h
  dsimp only at h
  split at h
  · obtain rfl := Except.error.inj h
    cases hstop
  · have hfront : StaysIn s (readFront (skipGap s)) :=
      ((allStayIn _).1 _).mono (skipGap_suffix s)
    cases hvalue : readFront (skipGap s) with
    | error other =>
      rw [hvalue] at h hfront
      obtain rfl := Except.error.inj h
      exact hfront hstop
    | ok found =>
      rw [hvalue] at h
      dsimp only [bind, Except.bind] at h
      split at h
      · cases h
      · obtain rfl := Except.error.inj h
        cases hstop

/-- A number that is called too long stands in the document behind the text before the fault. -/
theorem isLong_of_read {f : Fault} (h : read s = .error f) (hf : f.complaint = .longNumber) :
    ∃ t, s = f.before ++ t ∧ IsLong t := by
  unfold read at h
  cases hall : readAll s with
  | ok v =>
    rw [hall] at h
    cases h
  | error stop =>
    rw [hall] at h
    obtain rfl := Except.error.inj h
    obtain ⟨t, ⟨before, rfl⟩, hlength, hlong⟩ := exists_isLong_of_readAll hall hf
    refine ⟨t, ?_, hlong⟩
    dsimp only
    rw [← hlength, List.length_append, Nat.add_sub_cancel, List.take_left]

/-! ## An array of ones -/

/-- Digits that are too many for a whole number, and no more than those of one, are refused. -/
theorem readNumber_long {c : Char} {digits rest : List Char} (hc : c.isDigit ∧ c ≠ '0')
    (hdigits : ∀ d ∈ digits, d.isDigit) (hlong : digitLimit < (c :: digits).length)
    (h : EndsNumber rest) :
    readNumber (c :: digits ++ rest) = .error ⟨.longNumber, (c :: digits ++ rest).length⟩ := by
  have hwhole : readWhole? (c :: digits ++ rest) = some (c :: digits, rest) := by
    have hspan := spanDigits_append (List.forall_mem_cons.2 ⟨hc.1, hdigits⟩) fun d hd => (h d hd).1
    rw [List.cons_append] at hspan ⊢
    unfold readWhole?
    split
    · next heq => exact absurd (List.cons.inj heq).1 hc.2
    · next heq =>
      obtain ⟨rfl, -⟩ := List.cons.inj heq
      rw [if_pos hc.1, hspan]
    · next heq => cases heq
  have hminus : c ≠ '-' := ne_of_isDigit hc.1 rfl
  rw [List.cons_append] at hwhole ⊢
  simpa [readNumber, hminus, hwhole, h.readFraction, h.readExponent?] using hlong

/-- A whole number of `n + 1` ones in an array, after the opening bracket. -/
def onesItem (n : Nat) : List Char := '1' :: (List.replicate n '1' ++ [']'])

theorem readItems_onesItem {n : Nat} (hn : digitLimit ≤ n) (depth : Nat) :
    readItems (depth + 2) (onesItem n) = .error ⟨.longNumber, (onesItem n).length⟩ := by
  have hnumber : readNumber (onesItem n) = .error ⟨.longNumber, (onesItem n).length⟩ := by
    refine readNumber_long (by decide) (fun d hd => ?_) ?_ (endsNumber_cons (by decide))
    · rw [List.eq_of_mem_replicate hd]
      rfl
    · rw [List.length_cons, List.length_replicate]
      omega
  have hvalue : readValue (depth + 1) (onesItem n) = .error ⟨.longNumber, (onesItem n).length⟩ := by
    rw [← hnumber, onesItem, readValue]
    · rfl
    all_goals simp
  rw [readItems, hvalue]
  rfl

/-- An array of one whole number with too many ones is refused for that. -/
theorem read_ones {n : Nat} (hn : digitLimit ≤ n) :
    ∃ f, read ('[' :: onesItem n) = .error f ∧ f.complaint = .longNumber := by
  have hgap : skipGap (onesItem n) = onesItem n := rfl
  have hfront (depth : Nat) : readValue (depth + 3) ('[' :: onesItem n) =
      .error ⟨.longNumber, (onesItem n).length⟩ := by
    rw [readValue, hgap]
    change Prod.map Value.list id <$> readItems (depth + 2) (onesItem n) = _
    rw [readItems_onesItem hn]
    rfl
  have hall : readAll ('[' :: onesItem n) = .error ⟨.longNumber, (onesItem n).length⟩ := by
    have hdepth : 2 * ('[' :: onesItem n).length + 1 = (2 * (onesItem n).length) + 3 := by
      rw [List.length_cons]
      omega
    have hread : readFront (skipGap ('[' :: onesItem n)) =
        .error ⟨.longNumber, (onesItem n).length⟩ := by
      rw [show skipGap ('[' :: onesItem n) = '[' :: onesItem n from rfl, readFront, hdepth, hfront]
    unfold readAll
    rw [hread]
    rfl
  rw [read, hall]
  exact ⟨_, rfl, rfl⟩

end Json

end CodeMetrics
