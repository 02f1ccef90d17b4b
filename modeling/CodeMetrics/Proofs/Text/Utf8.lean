import CodeMetrics.Proofs.Except
import CodeMetrics.Proofs.Json.Plain
import CodeMetrics.Text.Lines
import CodeMetrics.Text.Utf8

/-!
# Reading a text from octets

The reader of octets reads exactly what is the encoding of a text (`decodeUtf8_eq_ok_iff`).  It
works octet by octet, so the octets that complete a pending character come first.  A text without
returns has nothing that unifying its line ends could change, and in any case there are no more
characters than octets.
-/

namespace CodeMetrics

/-! ## Octets that complete a character -/

/-- The octets that complete a pending character, and the number of that character. -/
inductive PartialChar.Completes : PartialChar → List UInt8 → Nat → Prop
  | last {p : PartialChar} {b : UInt8} (inRange : p.low ≤ b ∧ b ≤ p.high) (done : p.missing ≤ 1) :
      Completes p [b] (p.bits * 0x40 + b.toNat % 0x40)
  | more {p : PartialChar} {b : UInt8} {tail : List UInt8} {n : Nat}
      (inRange : p.low ≤ b ∧ b ≤ p.high) (pending : ¬ p.missing ≤ 1)
      (later : Completes ⟨p.position, p.lead, p.seen + 1, p.missing - 1,
        p.bits * 0x40 + b.toNat % 0x40, 0x80, 0xbf⟩ tail n) :
      Completes p (b :: tail) n

/-- A pending character is read to its end before the next one. -/
theorem decodeUtf8From_some_iff {position : Nat} {p : PartialChar} {octets : List UInt8}
    {s : List Char} :
    decodeUtf8From position (some p) octets = .ok s ↔ ∃ tail n left t, p.Completes tail n ∧
      octets = tail ++ left ∧ s = Char.ofNat n :: t ∧
      decodeUtf8From (position + tail.length) none left = .ok t := by
  induction octets generalizing position p with
  | nil =>
    constructor
    · nofun
    · rintro ⟨tail, n, left, t, hc, htail, -, -⟩
      obtain ⟨rfl, -⟩ := List.append_eq_nil_iff.1 htail.symm
      cases hc
  | cons b rest ih =>
    rw [decodeUtf8From]
    dsimp only
    constructor
    · intro h
      split at h
      · next hrange =>
        split at h
        · next hdone =>
          obtain ⟨t, ht, rfl⟩ := map_eq_ok_iff.1 h
          exact ⟨_, _, rest, t, .last hrange hdone, rfl, rfl, ht⟩
        · next hpending =>
          obtain ⟨tail, n, left, t, hc, rfl, rfl, ht⟩ := ih.1 h
          refine ⟨_, n, left, t, .more hrange hpending hc, rfl, rfl, ?_⟩
          rwa [List.length_cons, Nat.add_comm tail.length, ← Nat.add_assoc]
      · cases h
    · rintro ⟨_, n, left, t, hc, hsplit, rfl, ht⟩
      cases hc with
      | last hrange hdone =>
        obtain ⟨rfl, rfl⟩ := List.cons.inj hsplit
        rw [if_pos hrange, if_pos hdone]
        exact map_eq_ok_iff.2 ⟨t, ht, rfl⟩
      | @more _ _ tail _ hrange hpending hc =>
        obtain ⟨rfl, rfl⟩ := List.cons.inj hsplit
        rw [if_pos hrange, if_neg hpending]
        refine ih.2 ⟨tail, n, left, t, hc, rfl, rfl, ?_⟩
        rwa [List.length_cons, Nat.add_comm tail.length, ← Nat.add_assoc] at ht

/-! ## Characters of several octets -/

/-- An octet that goes on with a character. -/
abbrev IsTail (b : UInt8) : Prop := 0x80 ≤ b.toNat ∧ b.toNat ≤ 0xbf

/-- The octets of a character beyond ASCII, and its number.  The second octet is bounded further
where the character would be one of fewer octets, a surrogate or beyond the last character. -/
inductive IsLongChar : List UInt8 → Nat → Prop
  | two {a b : UInt8} {n : Nat} (first : 0xc2 ≤ a.toNat ∧ a.toNat < 0xe0) (second : IsTail b)
      (number : n = a.toNat % 0x20 * 0x40 + b.toNat % 0x40) : IsLongChar [a, b] n
  | three {a b c : UInt8} {n : Nat} (first : 0xe0 ≤ a.toNat ∧ a.toNat < 0xf0) (second : IsTail b)
      (third : IsTail c) (low : a.toNat = 0xe0 → 0xa0 ≤ b.toNat)
      (high : a.toNat = 0xed → b.toNat ≤ 0x9f)
      (number : n = (a.toNat % 0x10 * 0x40 + b.toNat % 0x40) * 0x40 + c.toNat % 0x40) :
      IsLongChar [a, b, c] n
  | four {a b c d : UInt8} {n : Nat} (first : 0xf0 ≤ a.toNat ∧ a.toNat < 0xf5) (second : IsTail b)
      (third : IsTail c) (fourth : IsTail d) (low : a.toNat = 0xf0 → 0x90 ≤ b.toNat)
      (high : a.toNat = 0xf4 → b.toNat ≤ 0x8f)
      (number : n = ((a.toNat % 0x08 * 0x40 + b.toNat % 0x40) * 0x40 + c.toNat % 0x40) * 0x40 +
        d.toNat % 0x40) :
      IsLongChar [a, b, c, d] n

theorem toNat_ofNat_of_isValidChar {n : Nat} (h : n.isValidChar) : (Char.ofNat n).toNat = n := by
  rw [Char.ofNat, dif_pos h]
  exact UInt32.toNat_ofNatLT ..

theorem utf8EncodeChar_of_isLongChar {octets : List UInt8} {n : Nat} (h : IsLongChar octets n) :
    String.utf8EncodeChar (Char.ofNat n) = octets := by
  have valid : n.isValidChar := by
    unfold Nat.isValidChar
    cases h <;> omega
  rw [String.utf8EncodeChar.eq_1, Char.toNat_val, toNat_ofNat_of_isValidChar valid]
  cases h with
  | two first second =>
    rw [if_neg (by omega), if_pos (by omega)]
    simp only [List.cons.injEq, and_true, ← UInt8.toNat_inj, UInt8.toNat_ofNat']
    omega
  | three first second third low =>
    rw [if_neg (by omega), if_neg (by omega), if_pos (by omega)]
    simp only [List.cons.injEq, and_true, ← UInt8.toNat_inj, UInt8.toNat_ofNat']
    omega
  | four first second third fourth low =>
    rw [if_neg (by omega), if_neg (by omega), if_neg (by omega)]
    simp only [List.cons.injEq, and_true, ← UInt8.toNat_inj, UInt8.toNat_ofNat']
    omega

theorem isLongChar_utf8EncodeChar {c : Char} (h : 0x80 ≤ c.toNat) :
    IsLongChar (String.utf8EncodeChar c) c.toNat := by
  have octet {m : Nat} (hm : m < 0x100) : (UInt8.ofNat m).toNat = m := by
    rw [UInt8.toNat_ofNat']
    omega
  have valid : c.toNat < 0xd800 ∨ 0xdfff < c.toNat ∧ c.toNat < 0x110000 := c.valid
  have last := octet (m := c.toNat % 64 + 128) (by omega)
  have third := octet (m := c.toNat / 64 % 64 + 128) (by omega)
  have second := octet (m := c.toNat / 4096 % 64 + 128) (by omega)
  rw [String.utf8EncodeChar.eq_1, Char.toNat_val, if_neg (by omega)]
  split
  · have first := octet (m := c.toNat / 64 % 32 + 192) (by omega)
    apply IsLongChar.two <;> omega
  split
  · have first := octet (m := c.toNat / 4096 % 16 + 224) (by omega)
    apply IsLongChar.three <;> omega
  · have first := octet (m := c.toNat / 262144 % 8 + 240) (by omega)
    apply IsLongChar.four <;> omega

theorem IsLongChar.le_first {a : UInt8} {tail : List UInt8} {n : Nat}
    (h : IsLongChar (a :: tail) n) : 0x80 ≤ a := by
  rw [UInt8.le_iff_toNat_le, show (0x80 : UInt8).toNat = 0x80 from rfl]
  cases h <;> omega

/-! ## What begins a character -/

theorem low_le_iff {a b x low : UInt8} (hlow : 0x80 ≤ low) :
    (if a = x then low else 0x80) ≤ b ↔
      0x80 ≤ b.toNat ∧ (a.toNat = x.toNat → low.toNat ≤ b.toNat) := by
  have h80 : 0x80 ≤ low.toNat := hlow
  rw [UInt8.toNat_inj]
  by_cases h : a = x
  · rw [if_pos h, UInt8.le_iff_toNat_le]
    exact ⟨fun hb => ⟨Nat.le_trans h80 hb, fun _ => hb⟩, fun hb => hb.2 h⟩
  · rw [if_neg h, UInt8.le_iff_toNat_le]
    exact ⟨fun hb => ⟨hb, fun e => absurd e h⟩, fun hb => hb.1⟩

theorem le_high_iff {a b x high : UInt8} (hhigh : high ≤ 0xbf) :
    (b ≤ if a = x then high else 0xbf) ↔
      b.toNat ≤ 0xbf ∧ (a.toNat = x.toNat → b.toNat ≤ high.toNat) := by
  have hbf : high.toNat ≤ 0xbf := hhigh
  rw [UInt8.toNat_inj]
  by_cases h : a = x
  · rw [if_pos h, UInt8.le_iff_toNat_le]
    exact ⟨fun hb => ⟨Nat.le_trans hb hbf, fun _ => hb⟩, fun hb => hb.2 h⟩
  · rw [if_neg h, UInt8.le_iff_toNat_le]
    exact ⟨fun hb => ⟨hb, fun e => absurd e h⟩, fun hb => hb.1⟩

namespace PartialChar

variable {p : PartialChar} {position : Nat} {a : UInt8} {tail : List UInt8} {n : Nat}

theorem completes_iff_of_done (done : p.missing ≤ 1) :
    p.Completes tail n ↔ ∃ b, tail = [b] ∧ (p.low ≤ b ∧ b ≤ p.high) ∧
      n = p.bits * 0x40 + b.toNat % 0x40 := by
  constructor
  · intro h
    cases h with
    | last inRange _ => exact ⟨_, rfl, inRange, rfl⟩
    | more _ pending _ => exact absurd done pending
  · rintro ⟨b, rfl, inRange, rfl⟩
    exact .last inRange done

theorem completes_iff_of_pending (pending : ¬ p.missing ≤ 1) :
    p.Completes tail n ↔ ∃ b rest, tail = b :: rest ∧ (p.low ≤ b ∧ b ≤ p.high) ∧
      Completes ⟨p.position, p.lead, p.seen + 1, p.missing - 1,
        p.bits * 0x40 + b.toNat % 0x40, 0x80, 0xbf⟩ rest n := by
  constructor
  · intro h
    cases h with
    | last _ done => exact absurd done pending
    | more inRange _ later => exact ⟨_, _, rfl, inRange, later⟩
  · rintro ⟨b, rest, rfl, inRange, later⟩
    exact .more inRange pending later

theorem isLongChar_of_completes (hp : begin? position a = some p) (h : p.Completes tail n) :
    IsLongChar (a :: tail) n := by
  unfold begin? at hp
  dsimp only at hp
  split at hp
  · cases hp
  next hc2 =>
  split at hp
  · next he0 =>
    obtain rfl := Option.some.inj hp
    obtain ⟨b, rfl, hb, rfl⟩ := (completes_iff_of_done (Nat.le_refl 1)).1 h
    exact IsLongChar.two ⟨UInt8.not_lt.1 hc2, he0⟩ hb rfl
  next he0 =>
  split at hp
  · next hf0 =>
    obtain rfl := Option.some.inj hp
    obtain ⟨b, _, rfl, hb, h⟩ := (completes_iff_of_pending (by simp)).1 h
    obtain ⟨c, rfl, hc, rfl⟩ := (completes_iff_of_done (Nat.le_refl 1)).1 h
    have hlow := (low_le_iff (by decide)).1 hb.1
    have hhigh := (le_high_iff (by decide)).1 hb.2
    exact .three ⟨UInt8.not_lt.1 he0, hf0⟩ ⟨hlow.1, hhigh.1⟩ hc hlow.2 hhigh.2 rfl
  next hf0 =>
  split at hp
  · next hf5 =>
    obtain rfl := Option.some.inj hp
    obtain ⟨b, _, rfl, hb, h⟩ := (completes_iff_of_pending (by simp)).1 h
    obtain ⟨c, _, rfl, hc, h⟩ := (completes_iff_of_pending (by simp)).1 h
    obtain ⟨d, rfl, hd, rfl⟩ := (completes_iff_of_done (Nat.le_refl 1)).1 h
    have hlow := (low_le_iff (by decide)).1 hb.1
    have hhigh := (le_high_iff (by decide)).1 hb.2
    exact .four ⟨UInt8.not_lt.1 hf0, hf5⟩ ⟨hlow.1, hhigh.1⟩ hc hd hlow.2 hhigh.2 rfl
  · cases hp

theorem begin?_two (h : 0xc2 ≤ a.toNat ∧ a.toNat < 0xe0) :
    begin? position a = some ⟨position, a, 1, 1, a.toNat % 0x20, 0x80, 0xbf⟩ := by
  unfold begin?
  rw [if_neg (UInt8.not_lt.2 h.1), if_pos (UInt8.lt_iff_toNat_lt.2 h.2)]

theorem begin?_three (h : 0xe0 ≤ a.toNat ∧ a.toNat < 0xf0) :
    begin? position a = some ⟨position, a, 1, 2, a.toNat % 0x10,
      if a = 0xe0 then 0xa0 else 0x80, if a = 0xed then 0x9f else 0xbf⟩ := by
  have hc2 : (0xc2 : UInt8) ≤ a := Nat.le_trans (by decide) h.1
  unfold begin?
  rw [if_neg (UInt8.not_lt.2 hc2), if_neg (UInt8.not_lt.2 h.1),
    if_pos (UInt8.lt_iff_toNat_lt.2 h.2)]

theorem begin?_four (h : 0xf0 ≤ a.toNat ∧ a.toNat < 0xf5) :
    begin? position a = some ⟨position, a, 1, 3, a.toNat % 0x08,
      if a = 0xf0 then 0x90 else 0x80, if a = 0xf4 then 0x8f else 0xbf⟩ := by
  have he0 : (0xe0 : UInt8) ≤ a := Nat.le_trans (by decide) h.1
  have hc2 : (0xc2 : UInt8) ≤ a := Nat.le_trans (by decide) h.1
  unfold begin?
  rw [if_neg (UInt8.not_lt.2 hc2), if_neg (UInt8.not_lt.2 he0), if_neg (UInt8.not_lt.2 h.1),
    if_pos (UInt8.lt_iff_toNat_lt.2 h.2)]

theorem exists_completes (position : Nat) (h : IsLongChar (a :: tail) n) :
    ∃ p, begin? position a = some p ∧ p.Completes tail n := by
  cases h with
  | two first second number =>
    rw [number]
    exact ⟨_, begin?_two first, .last second (Nat.le_refl 1)⟩
  | @three _ b _ _ first second third low high number =>
    have range : (if a = 0xe0 then 0xa0 else 0x80) ≤ b ∧ b ≤ if a = 0xed then 0x9f else 0xbf :=
      ⟨(low_le_iff (by decide)).2 ⟨second.1, low⟩, (le_high_iff (by decide)).2 ⟨second.2, high⟩⟩
    rw [number]
    exact ⟨_, begin?_three first, .more range (by simp) (.last third (Nat.le_refl 1))⟩
  | @four _ b _ _ _ first second third fourth low high number =>
    have range : (if a = 0xf0 then 0x90 else 0x80) ≤ b ∧ b ≤ if a = 0xf4 then 0x8f else 0xbf :=
      ⟨(low_le_iff (by decide)).2 ⟨second.1, low⟩, (le_high_iff (by decide)).2 ⟨second.2, high⟩⟩
    rw [number]
    exact ⟨_, begin?_four first, .more range (by simp)
      (.more third (by simp) (.last fourth (Nat.le_refl 1)))⟩

/-- What begins a character and what completes it are its octets. -/
theorem begin?_completes_iff : (∃ p, begin? position a = some p ∧ p.Completes tail n) ↔
    IsLongChar (a :: tail) n :=
  ⟨fun ⟨_, hp, h⟩ => isLongChar_of_completes hp h, exists_completes position⟩

end PartialChar

/-! ## Reading -/

theorem utf8EncodeChar_of_ascii {c : Char} (h : c.toNat < 0x80) :
    String.utf8EncodeChar c = [UInt8.ofNat c.toNat] := by
  have hone : c.toNat ≤ 127 := by omega
  rw [String.utf8EncodeChar.eq_1]
  simp [hone]

theorem decodeUtf8From_ascii {c : Char} (h : c.toNat < 0x80) (position : Nat)
    (octets : List UInt8) :
    decodeUtf8From position none (UInt8.ofNat c.toNat :: octets) =
      (c :: ·) <$> decodeUtf8From (position + 1) none octets := by
  have hnat : (UInt8.ofNat c.toNat).toNat = c.toNat := by
    rw [UInt8.toNat_ofNat']
    omega
  have hlow : UInt8.ofNat c.toNat < 0x80 := by
    rw [UInt8.lt_iff_toNat_lt, hnat]
    exact h
  rw [decodeUtf8From, if_pos hlow, hnat, Char.ofNat_toNat]

/-- Reading takes the octets of a character off the front. -/
theorem decodeUtf8From_cons_iff {position : Nat} {b : UInt8} {rest : List UInt8} {s : List Char} :
    decodeUtf8From position none (b :: rest) = .ok s ↔ ∃ c tail left t,
      String.utf8EncodeChar c = b :: tail ∧ rest = tail ++ left ∧ s = c :: t ∧
      decodeUtf8From (position + 1 + tail.length) none left = .ok t := by
  constructor
  · intro h
    rw [decodeUtf8From] at h
    split at h
    · next hlow =>
      have hnat : (Char.ofNat b.toNat).toNat = b.toNat :=
        toNat_ofNat_of_isValidChar (.inl (Nat.lt_trans hlow (by decide)))
      have hascii : (Char.ofNat b.toNat).toNat < 0x80 := by
        rw [hnat]
        exact hlow
      obtain ⟨t, ht, rfl⟩ := map_eq_ok_iff.1 h
      refine ⟨_, [], rest, t, ?_, rfl, rfl, ht⟩
      rw [utf8EncodeChar_of_ascii hascii, hnat, UInt8.ofNat_toNat]
    · split at h
      · cases h
      · next p hp =>
        obtain ⟨tail, n, left, t, hc, rfl, rfl, ht⟩ := decodeUtf8From_some_iff.1 h
        have hchar := PartialChar.begin?_completes_iff.1 ⟨p, hp, hc⟩
        exact ⟨_, tail, left, t, utf8EncodeChar_of_isLongChar hchar, rfl, rfl, ht⟩
  · rintro ⟨c, tail, left, t, hencode, rfl, rfl, ht⟩
    rcases Nat.lt_or_ge c.toNat 0x80 with hascii | hlong
    · rw [utf8EncodeChar_of_ascii hascii] at hencode
      obtain ⟨rfl, rfl⟩ := List.cons.inj hencode
      rw [List.nil_append, decodeUtf8From_ascii hascii]
      exact map_eq_ok_iff.2 ⟨t, ht, rfl⟩
    · have hchar := isLongChar_utf8EncodeChar hlong
      rw [hencode] at hchar
      obtain ⟨p, hp, hc⟩ := PartialChar.begin?_completes_iff.2 hchar
      rw [decodeUtf8From, if_neg (UInt8.not_lt.2 hchar.le_first), hp]
      refine decodeUtf8From_some_iff.2 ⟨tail, _, left, t, hc, rfl, ?_, ht⟩
      rw [Char.ofNat_toNat]

theorem decodeUtf8From_eq_ok_iff {position : Nat} {octets : List UInt8} {s : List Char} :
    decodeUtf8From position none octets = .ok s ↔ octets = s.flatMap String.utf8EncodeChar := by
  induction s generalizing position octets with
  | nil =>
    cases octets with
    | nil => exact ⟨fun _ => rfl, fun _ => rfl⟩
    | cons b rest =>
      refine ⟨fun h => ?_, nofun⟩
      obtain ⟨_, _, _, _, -, -, hs, -⟩ := decodeUtf8From_cons_iff.1 h
      cases hs
  | cons c t ih =>
    rw [List.flatMap_cons]
    constructor
    · intro h
      cases octets with
      | nil => cases h
      | cons b rest =>
        obtain ⟨_, tail, left, _, hencode, rfl, hs, ht⟩ := decodeUtf8From_cons_iff.1 h
        obtain ⟨rfl, rfl⟩ := List.cons.inj hs
        rw [hencode, ← ih.1 ht, List.cons_append]
    · rintro rfl
      obtain ⟨b, tail, hencode⟩ :=
        List.exists_cons_of_ne_nil (String.utf8EncodeChar_ne_nil (c := c))
      rw [hencode, List.cons_append]
      exact decodeUtf8From_cons_iff.2 ⟨c, tail, _, t, hencode, rfl, rfl, ih.2 rfl⟩

/-- Octets are read as a text exactly if they are its encoding. -/
theorem decodeUtf8_eq_ok_iff {octets : List UInt8} {s : List Char} :
    decodeUtf8 octets = .ok s ↔ octets = s.flatMap String.utf8EncodeChar :=
  decodeUtf8From_eq_ok_iff

/-- The octets of a text are read back as the text. -/
theorem decodeUtf8_toUTF8 (s : List Char) :
    decodeUtf8 (String.ofList s).toUTF8.data.toList = .ok s := by
  rw [decodeUtf8_eq_ok_iff]
  simp [String.toUTF8_eq_toByteArray, List.utf8Encode]

/-! ## Line ends -/

theorem unifyLineEnds_of_notMem {s : List Char} (h : '\r' ∉ s) : unifyLineEnds s = s := by
  induction s with
  | nil => rfl
  | cons c rest ih =>
    rw [List.mem_cons, not_or] at h
    have hc : c ≠ '\r' := fun e => h.1 e.symm
    rw [unifyLineEnds, ih h.2]
    · exact fun _ e _ => hc e
    · exact fun e => hc e

/-- Visible characters of ASCII and blanks come back from their octets as they were, whatever is
done to line ends. -/
theorem decodeUtf8_plain {s : List Char} (h : Json.Plain s) :
    decodeUtf8 (String.ofList s).toUTF8.data.toList = .ok s ∧ unifyLineEnds s = s := by
  refine ⟨decodeUtf8_toUTF8 s, unifyLineEnds_of_notMem fun hc => ?_⟩
  exact absurd (h _ hc).1 (by decide)

/-! ## Lengths -/

/-- Each character has at least one octet. -/
theorem length_le_of_decodeUtf8 {octets : List UInt8} {s : List Char}
    (h : decodeUtf8 octets = .ok s) : s.length ≤ octets.length := by
  obtain rfl := decodeUtf8_eq_ok_iff.1 h
  clear h
  induction s with
  | nil => exact Nat.le_refl 0
  | cons c t ih =>
    have hc := List.length_pos_iff.2 (String.utf8EncodeChar_ne_nil (c := c))
    rw [List.flatMap_cons, List.length_append, List.length_cons]
    omega

theorem length_unifyLineEnds_le (s : List Char) : (unifyLineEnds s).length ≤ s.length := by
  fun_induction unifyLineEnds s <;> grind

end CodeMetrics
