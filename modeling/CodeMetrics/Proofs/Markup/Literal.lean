import CodeMetrics.Markup.Render
import CodeMetrics.Proofs.Except
import CodeMetrics.Proofs.Text.Lines
import Mathlib.Data.List.Infix

/-!
# Texts that render as themselves

A message is markup, so a text that becomes part of one may be taken for tags and names of emoji.
`Literal` says of a text that nothing in it is, and then it is shown as it is (`render_of_literal`).
The line of an error shows what the text of the error renders as (`render_error`).
-/

namespace CodeMetrics

namespace Markup

/-! ## Literal texts -/

/-- The name at the front of a text, between two colons. -/
def nameAt? (s : List Char) : Option (List Char) :=
  match s with
  | ':' :: rest =>
    match rest.dropWhile fun c => c ≠ ':' && !isBlank c with
    | ':' :: _ => some (rest.takeWhile fun c => c ≠ ':' && !isBlank c)
    | _ => none
  | _ => none

/-- No tag begins anywhere in the text. -/
def NoTag (s : List Char) : Prop := ∀ t ∈ s.tails, tagAt? t = none

/-- No backslash stands before an opening bracket. -/
def NoEscape (s : List Char) : Prop := ∀ t ∈ s.tails, t.take 2 ≠ ['\\', '[']

/-- What stands between two colons is no name of an emoji. -/
def NoEmoji (s : List Char) : Prop := ∀ t ∈ s.tails, ∀ name ∈ nameAt? t, emojiOf? name = none

instance (s : List Char) : Decidable (NoTag s) := List.decidableBAll _ s.tails

instance (s : List Char) : Decidable (NoEscape s) := List.decidableBAll _ s.tails

instance (s : List Char) : Decidable (NoEmoji s) := List.decidableBAll _ s.tails

/-- Nothing in the text means anything but itself. -/
structure Literal (s : List Char) : Prop where
  tags : NoTag s
  escapes : NoEscape s
  emoji : NoEmoji s
  steering : ∀ c ∈ s, isSteering c = false

instance (s : List Char) : Decidable (Literal s) :=
  decidable_of_iff (NoTag s ∧ NoEscape s ∧ NoEmoji s ∧ s.all fun c => !isSteering c)
    ⟨fun ⟨tags, escapes, emoji, steering⟩ =>
      ⟨tags, escapes, emoji, fun c hc => by simpa using List.all_eq_true.1 steering c hc⟩,
    fun ⟨tags, escapes, emoji, steering⟩ =>
      ⟨tags, escapes, emoji, List.all_eq_true.2 fun c hc => by simpa using steering c hc⟩⟩

/-- What the rules for styles and parameters leave open plays no role in a tag: it has no colour made
of channels, over which a terminal fails when they are no numbers, and behind an at sign it has no
parameters with a name of a character in them, or with anything but printable ASCII characters. -/
structure SettledTag (tag : List Char) : Prop where
  channels : ¬ "rgb(".toList <:+: (lowerCase (String.ofList tag)).toList
  parameters : tag.head? = some '@' →
    let parameters := (tag.dropWhile (· ≠ '=')).tail
    (∀ c ∈ parameters, ' ' ≤ c ∧ c ≤ '~') ∧ ¬ ['\\', 'N'] <:+: parameters

/-- All tags in the text are settled. -/
def Settled (s : List Char) : Prop := ∀ tag, Piece.tag tag ∈ pieces s → SettledTag tag

variable {s t : List Char}

/-- A blank in front means nothing. -/
theorem Literal.cons_blank (h : Literal s) : Literal (' ' :: s) := by
  obtain ⟨tags, escapes, emoji, steering⟩ := h
  refine ⟨?_, ?_, ?_, List.forall_mem_cons.2 ⟨rfl, steering⟩⟩
  · exact List.forall_mem_cons.2 ⟨rfl, tags⟩
  · exact List.forall_mem_cons.2 ⟨by simp, escapes⟩
  · exact List.forall_mem_cons.2 ⟨nofun, emoji⟩

theorem mem_tails_self (s : List Char) : s ∈ s.tails :=
  (List.mem_tails s s).2 (List.suffix_refl s)

theorem tails_subset_of_suffix (h : t <:+ s) : t.tails ⊆ s.tails :=
  fun u hu => (List.mem_tails u s).2 (((List.mem_tails u t).1 hu).trans h)

theorem NoTag.suffix (h : NoTag s) (ht : t <:+ s) : NoTag t :=
  fun u hu => h u (tails_subset_of_suffix ht hu)

theorem NoEscape.suffix (h : NoEscape s) (ht : t <:+ s) : NoEscape t :=
  fun u hu => h u (tails_subset_of_suffix ht hu)

theorem NoEmoji.suffix (h : NoEmoji s) (ht : t <:+ s) : NoEmoji t :=
  fun u hu => h u (tails_subset_of_suffix ht hu)

/-! ## Plain text -/

theorem unescape_eq_self (h : NoEscape s) : unescape s = s := by
  fun_induction unescape s with
  | case1 rest ih => exact absurd rfl (h _ (mem_tails_self _))
  | case2 c rest hc ih => rw [ih (h.suffix (List.suffix_cons c rest))]
  | case3 => rfl

theorem nameAt?_of_name {name : List Char} (h : ∀ c ∈ name, c ≠ ':' ∧ isBlank c = false)
    (rest : List Char) : nameAt? (':' :: name ++ ':' :: rest) = some name := by
  have hname : ∀ c ∈ name, (c ≠ ':' && !isBlank c) = true := by
    intro c hc
    obtain ⟨hcolon, hblank⟩ := h c hc
    simp [hcolon, hblank]
  rw [List.cons_append]
  simp only [nameAt?]
  rw [List.dropWhile_append_of_pos hname, List.takeWhile_append_of_pos hname]
  simp

/-- What was read of a text since a colon. -/
def pending : Option (List Char) → List Char
  | none => []
  | some name => ':' :: name

/-- The state holds what was read since a colon, so the text stays whole while no name ends. -/
theorem replaceEmojiFrom_eq_self {name? : Option (List Char)}
    (hname : ∀ name ∈ name?, ∀ c ∈ name, c ≠ ':' ∧ isBlank c = false)
    (h : NoEmoji (pending name? ++ s)) : replaceEmojiFrom name? s = pending name? ++ s := by
  fun_induction replaceEmojiFrom name? s with
  | case1 => rfl
  | case2 name => exact (List.append_nil _).symm
  | case3 rest ih => exact ih (by simp) h
  | case4 c rest hc ih => rw [ih nofun (h.suffix (List.suffix_cons c rest))]; rfl
  | case5 name rest ih =>
    have hrest : NoEmoji rest := h.suffix ⟨':' :: name ++ [':'], by simp [pending]⟩
    -- Here a name ends, and it is that of no emoji.
    have hnone : emojiOf? name = none :=
      h _ (mem_tails_self _) name (nameAt?_of_name (hname name rfl) rest)
    rw [ih nofun hrest, hnone]
    simp [pending]
  | case6 name c rest hc hblank ih =>
    have hrest : NoEmoji rest := h.suffix ⟨':' :: name ++ [c], by simp [pending]⟩
    rw [ih nofun hrest]
    rfl
  | case7 name c rest hc hblank ih =>
    have happend : pending (some (name ++ [c])) ++ rest = pending (some name) ++ c :: rest := by
      simp [pending]
    rw [← happend] at h ⊢
    refine ih (fun _ e => ?_) h
    obtain rfl := Option.some.inj e
    refine List.forall_mem_append.2 ⟨hname name rfl, List.forall_mem_singleton.2 ⟨hc, ?_⟩⟩
    exact Bool.eq_false_iff.2 hblank

theorem replaceEmoji_eq_self (h : NoEmoji s) : replaceEmoji s = s :=
  replaceEmojiFrom_eq_self nofun h

theorem plainText_of_literal (h : Literal s) : plainText s = s := by
  rw [plainText, unescape_eq_self h.escapes, replaceEmoji_eq_self h.emoji,
    dropSteering_eq_self h.steering]

/-! ## Pieces -/

theorem length_of_tagAt? {tag after : List Char} (h : tagAt? s = some (tag, after)) :
    after.length < s.length := by
  unfold tagAt? at h
  split at h
  · next c rest =>
    split at h
    · split at h
      · next hdrop =>
        obtain ⟨-, rfl⟩ := Prod.mk.inj (Option.some.inj h)
        have hsuffix := List.dropWhile_suffix (l := rest) fun d => d ≠ ']' && d ≠ '['
        have hlength := hsuffix.length_le
        rw [hdrop, List.length_cons] at hlength
        rw [List.length_cons, List.length_cons]
        omega
      · cases h
    · cases h
  · cases h

theorem length_dropWhile_le (p : Char → Bool) (s : List Char) :
    (s.dropWhile p).length ≤ s.length := (List.dropWhile_suffix p).length_le

/-- Each step uses up a character, so more steps than that change nothing. -/
theorem piecesFrom_congr {m n : Nat} (hm : s.length < m) (hn : s.length < n) (before : List Char) :
    piecesFrom m before s = piecesFrom n before s := by
  induction m generalizing n before s with
  | zero => cases hm
  | succ m ih =>
    obtain ⟨n, rfl⟩ : ∃ k, n = k + 1 := ⟨n - 1, by omega⟩
    cases s with
    | nil => rfl
    | cons c rest =>
      rw [List.length_cons] at hm hn
      simp only [piecesFrom]
      cases htag : tagAt? ((c :: rest).dropWhile (· = '\\')) with
      | some found =>
        obtain ⟨tag, after⟩ := found
        have hafter := (length_of_tagAt? htag).trans_le (length_dropWhile_le _ _)
        rw [List.length_cons] at hafter
        dsimp only
        rw [ih (n := n) (by omega) (by omega) []]
      | none =>
        dsimp only
        split
        · exact ih (by omega) (by omega) _
        · next hbackslash =>
          -- A backslash is dropped here, so less is left to the other steps.
          have hrest : ((c :: rest).dropWhile (· = '\\')).length ≤ rest.length := by
            by_cases hc : c = '\\'
            · rw [List.dropWhile_cons_of_pos (by simpa using hc)]
              exact length_dropWhile_le _ rest
            · rw [List.takeWhile_cons_of_neg (by simpa using hc)] at hbackslash
              exact absurd rfl hbackslash
          exact ih (by omega) (by omega) _

/-- A text without tags is one piece. -/
theorem piecesFrom_of_noTag (h : NoTag s) (steps : Nat) (before : List Char) :
    piecesFrom steps before s = addPlain (before ++ s) [] := by
  induction steps generalizing before s with
  | zero => rfl
  | succ steps ih =>
    cases s with
    | nil => rw [List.append_nil]; rfl
    | cons c rest =>
      have hnone : tagAt? ((c :: rest).dropWhile (· = '\\')) = none :=
        h _ ((List.mem_tails _ _).2 (List.dropWhile_suffix _))
      simp only [piecesFrom, hnone]
      split
      · rw [ih (h.suffix (List.suffix_cons c rest)), List.append_assoc]
        rfl
      · rw [ih (h.suffix (List.dropWhile_suffix _)), List.append_assoc,
          List.takeWhile_append_dropWhile]

theorem piecesFrom_plain {c : Char} (hc : c ≠ '[' ∧ c ≠ '\\') (steps : Nat)
    (before rest : List Char) :
    piecesFrom (steps + 1) before (c :: rest) = piecesFrom steps (before ++ [c]) rest := by
  have hdrop : (c :: rest).dropWhile (· = '\\') = c :: rest :=
    List.dropWhile_cons_of_neg (by simpa using hc.2)
  have htake : (c :: rest).takeWhile (· = '\\') = [] :=
    List.takeWhile_cons_of_neg (by simpa using hc.2)
  have hnone : tagAt? (c :: rest) = none := by
    unfold tagAt?
    split
    · next heq => exact absurd (List.cons.inj heq).1 hc.1
    · rfl
  simp only [piecesFrom, hdrop, htake, hnone, List.isEmpty_nil, if_true]

theorem piecesFrom_tag {tag after : List Char} (h : tagAt? s = some (tag, after)) (steps : Nat)
    (before : List Char) :
    piecesFrom (steps + 1) before s = addPlain before (.tag tag :: piecesFrom steps [] after) := by
  obtain ⟨rest, rfl⟩ : ∃ rest, s = '[' :: rest := by
    unfold tagAt? at h
    split at h
    · exact ⟨_, rfl⟩
    · cases h
  have hdrop : ('[' :: rest).dropWhile (· = '\\') = '[' :: rest := rfl
  have htake : ('[' :: rest).takeWhile (· = '\\') = [] := rfl
  simp only [piecesFrom, hdrop, htake, h]
  rfl

/-- The label of an error in front of a message. -/
theorem pieces_error (message : List Char) :
    pieces ("[red]Error:[/red] ".toList ++ message) =
      .tag "red".toList :: .plain "Error:".toList :: .tag "/red".toList ::
        pieces (' ' :: message) := by
  have hlabel : "[red]Error:[/red] ".toList = ['[', 'r', 'e', 'd', ']',
      'E', 'r', 'r', 'o', 'r', ':', '[', '/', 'r', 'e', 'd', ']', ' '] := by
    decide
  have hopen : tagAt? ("[red]Error:[/red] ".toList ++ message) =
      some ("red".toList,
        ['E', 'r', 'r', 'o', 'r', ':', '[', '/', 'r', 'e', 'd', ']', ' '] ++ message) := by
    rw [hlabel]
    rfl
  have hclose : tagAt? (['[', '/', 'r', 'e', 'd', ']', ' '] ++ message) =
      some ("/red".toList, ' ' :: message) := rfl
  have hsteps : ("[red]Error:[/red] ".toList ++ message).length + 1 = message.length + 11 + 8 := by
    rw [hlabel, List.length_append, List.length_cons]
    simp
    omega
  have hrest : piecesFrom (message.length + 11) [] (' ' :: message) = pieces (' ' :: message) :=
    piecesFrom_congr (by simp) (by simp) []
  unfold pieces
  rw [hsteps, piecesFrom_tag hopen]
  simp only [List.cons_append, List.nil_append] at hclose ⊢
  iterate 6 rw [piecesFrom_plain (by decide)]
  rw [piecesFrom_tag hclose, hrest]
  rfl

/-- The line of an error shows its label and what its text renders as. -/
theorem render_error (message : List Char) :
    render ("[red]Error:[/red] ".toList ++ message) =
      ("Error:".toList ++ ·) <$> render (' ' :: message) := by
  have hopen : applyTag [] "red".toList = .ok [⟨"red", []⟩] :=
    toOption_eq_some_iff.1 (by decide +kernel)
  have hclose : applyTag [⟨"red", []⟩] "/red".toList = .ok [] :=
    toOption_eq_some_iff.1 (by decide +kernel)
  have hplain : plainText "Error:".toList = "Error:".toList := by decide +kernel
  unfold render
  simp only [pieces_error, renderPieces, hopen, hplain, hclose, bind, Except.bind]

theorem render_of_literal (h : Literal s) : render s = .ok s := by
  unfold render pieces
  rw [piecesFrom_of_noTag h.tags, List.nil_append, addPlain]
  split
  · next hempty =>
    rw [List.isEmpty_iff.1 hempty]
    rfl
  · simp only [renderPieces, plainText_of_literal h]
    show Except.ok (s ++ []) = _
    rw [List.append_nil]

end Markup

end CodeMetrics
