import CodeMetrics.Journal.Tree
import Mathlib.Data.List.Infix

/-!
# What hangs below the root

A source below the root whose first part is not empty is in the tree, whichever other sources are
known (`inTree_of_isPlaced`), and a source in the tree has the root in front of its name
(`isBelow_of_inTree`).  In between lie the names with an empty part behind the root: where these
hang depends on the sources that are known.
-/

namespace CodeMetrics

/-- The source is the root or has a name below it. -/
def IsBelow (source : String) : Prop :=
  source = rootSource ∨ source.startsWith (rootSource ++ ".")

instance (source : String) : Decidable (IsBelow source) := inferInstanceAs (Decidable (_ ∨ _))

/-- The source is the root, or has a name below it whose first part is not empty. -/
def IsPlaced (source : String) : Prop :=
  source = rootSource ∨
    source.startsWith (rootSource ++ ".") ∧ ¬ source.startsWith (rootSource ++ "..")

instance (source : String) : Decidable (IsPlaced source) := inferInstanceAs (Decidable (_ ∨ _))

variable {known : List String} {source s : String}

theorem IsPlaced.isBelow (h : IsPlaced source) : IsBelow source := h.imp_right And.left

/-! ## The characters of a name -/

theorem startsWith_rootPoint_iff :
    source.startsWith (rootSource ++ ".") ↔
      ∃ part, source.toList = rootSource.toList ++ '.' :: part := by
  have point : (rootSource ++ ".").toList = rootSource.toList ++ ['.'] := String.toList_append
  rw [String.startsWith_string_iff, point]
  simp only [List.IsPrefix, List.append_assoc, List.singleton_append, eq_comm]

theorem startsWith_rootPoints_iff {part : List Char}
    (h : source.toList = rootSource.toList ++ '.' :: part) :
    source.startsWith (rootSource ++ "..") ↔ part.head? = some '.' := by
  have points : (rootSource ++ "..").toList = rootSource.toList ++ ['.', '.'] :=
    String.toList_append
  rw [String.startsWith_string_iff, points, h, List.prefix_append_right_inj, List.cons_prefix_cons]
  cases part <;> simp [List.cons_prefix_cons, eq_comm]

theorem isPlaced_iff :
    IsPlaced source ↔ source = rootSource ∨
      ∃ part, source.toList = rootSource.toList ++ '.' :: part ∧ part.head? ≠ some '.' := by
  unfold IsPlaced
  rw [startsWith_rootPoint_iff]
  refine or_congr Iff.rfl ⟨?_, ?_⟩
  · rintro ⟨⟨part, hpart⟩, hempty⟩
    exact ⟨part, hpart, mt (startsWith_rootPoints_iff hpart).2 hempty⟩
  · rintro ⟨part, hpart, hempty⟩
    exact ⟨⟨part, hpart⟩, mt (startsWith_rootPoints_iff hpart).1 hempty⟩

/-! ## The search -/

theorem exists_of_mem_frontsBackwards {name front : List Char} (h : front ∈ frontsBackwards name) :
    ∃ part, name = part ++ '.' :: front := by
  fun_induction frontsBackwards name with
  | case1 => cases h
  | case2 => cases h
  | case3 c rest ih =>
    obtain rfl | h := List.mem_cons.1 h
    · exact ⟨[], rfl⟩
    · obtain ⟨part, rfl⟩ := ih h
      exact ⟨'.' :: c :: part, rfl⟩
  | case4 c rest _ _ ih =>
    obtain ⟨part, rfl⟩ := ih h
    exact ⟨c :: part, rfl⟩

/-- The search looks at a point that no other point follows. -/
theorem mem_frontsBackwards {part front : List Char} (hpart : part.getLast? ≠ some '.')
    (hfront : front ≠ []) : front ∈ frontsBackwards (part ++ '.' :: front) := by
  fun_induction frontsBackwards part with
  | case1 =>
    obtain ⟨c, rest, rfl⟩ := List.exists_cons_of_ne_nil hfront
    exact List.mem_cons_self
  | case2 => exact absurd rfl hpart
  | case3 c rest ih =>
    refine List.mem_cons_of_mem _ (ih fun hlast => hpart ?_)
    rw [List.getLast?_cons, List.getLast?_cons, hlast]
    rfl
  | case4 c rest hpoint hpoints ih =>
    have next : frontsBackwards (c :: (rest ++ '.' :: front)) =
        frontsBackwards (rest ++ '.' :: front) := by
      rw [frontsBackwards]
      · intro hc hnil
        cases rest <;> cases hnil
      · intro d rest' hc hcons
        obtain rfl := hc
        cases rest with
        | nil => exact hpart rfl
        | cons d rest => exact hpoints d rest rfl rfl
    rw [List.cons_append, next]
    refine ih fun hlast => hpart ?_
    rw [List.getLast?_cons, hlast]
    rfl

theorem exists_of_mem_namesAbove (h : s ∈ namesAbove source) :
    ∃ part, source.toList = s.toList ++ '.' :: part := by
  obtain ⟨front, hfront, rfl⟩ := List.mem_map.1 h
  obtain ⟨part, hpart⟩ := exists_of_mem_frontsBackwards hfront
  refine ⟨part.reverse, ?_⟩
  rw [← List.reverse_reverse source.toList, hpart, String.toList_ofList]
  simp

theorem root_mem_namesAbove {part : List Char}
    (h : source.toList = rootSource.toList ++ '.' :: part) (hpart : part.head? ≠ some '.') :
    rootSource ∈ namesAbove source := by
  refine List.mem_map.2 ⟨rootSource.toList.reverse, ?_, by simp⟩
  rw [h, List.reverse_append, List.reverse_cons, List.append_assoc, List.singleton_append]
  exact mem_frontsBackwards (by rwa [List.getLast?_reverse]) (by decide)

theorem mem_of_parent (h : parent? known source = some s) :
    s ∈ namesAbove source ∧ (s = rootSource ∨ s ∈ known) := by
  refine ⟨List.mem_of_find?_eq_some h, ?_⟩
  simpa using List.find?_some h

theorem point_not_mem_rootSource : '.' ∉ rootSource.toList := by decide

/-- A source whose first part is not empty hangs below such sources only. -/
theorem isPlaced_of_mem_namesAbove (h : IsPlaced source) (hs : s ∈ namesAbove source) :
    IsPlaced s := by
  obtain ⟨tail, htail⟩ := exists_of_mem_namesAbove hs
  rw [isPlaced_iff] at h ⊢
  obtain rfl | ⟨part, hpart, hempty⟩ := h
  · exact absurd (htail ▸ by simp) point_not_mem_rootSource
  · obtain ⟨more, hroot, hmore⟩ | ⟨more, hsource, hmore⟩ :=
      List.append_eq_append_iff.1 (hpart.symm.trans htail)
    · cases more with
      | nil => exact .inl (String.toList_injective (by rw [hroot, List.append_nil]))
      | cons c inner =>
        obtain ⟨rfl, hpart⟩ := List.cons.inj hmore
        refine .inr ⟨inner, hroot, ?_⟩
        rw [hpart] at hempty
        cases inner with
        | nil => exact absurd rfl hempty
        | cons d inner => exact hempty
    · cases more with
      | nil => exact .inl (String.toList_injective (by rw [hsource, List.append_nil]))
      | cons c inner =>
        obtain ⟨rfl, -⟩ := List.cons.inj hmore
        exact absurd (hsource ▸ by simp) point_not_mem_rootSource

/-! ## The tree -/

/-- A source in the tree is the root or has the root in front of its name. -/
theorem isBelow_of_inTree (h : inTree known source) : IsBelow source := by
  fun_induction inTree known source with
  | case1 => exact .inl rfl
  | case2 => cases h
  | case3 source _ s hparent ih =>
    right
    obtain ⟨tail, htail⟩ := exists_of_mem_namesAbove (mem_of_parent hparent).1
    rw [startsWith_rootPoint_iff]
    obtain rfl | hs := ih h
    · exact ⟨tail, htail⟩
    · obtain ⟨part, hpart⟩ := startsWith_rootPoint_iff.1 hs
      exact ⟨part ++ '.' :: tail, by rw [htail, hpart]; simp⟩

/-- The root and each source whose first part is not empty are in the tree, whatever is known. -/
theorem inTree_of_isPlaced (known : List String) (h : IsPlaced source) : inTree known source := by
  fun_induction inTree known source with
  | case1 => rfl
  | case2 source hne hparent =>
    obtain ⟨part, hpart, hempty⟩ := (isPlaced_iff.1 h).resolve_left hne
    have := List.find?_eq_none.1 hparent rootSource (root_mem_namesAbove hpart hempty)
    simp at this
  | case3 source _ s hparent ih =>
    exact ih (isPlaced_of_mem_namesAbove h (mem_of_parent hparent).1)

/-! ## The sources of names -/

/-- The name begins like the root, although it is neither the root nor a name below it. -/
def OnlyBeginsLikeRoot (name : String) : Prop :=
  name.startsWith rootSource ∧ name ≠ rootSource ∧ ¬ name.startsWith (rootSource ++ ".")

instance (name : String) : Decidable (OnlyBeginsLikeRoot name) :=
  inferInstanceAs (Decidable (_ ∧ _ ∧ _))

/-- A name is given whose first part is not empty, or none at all. -/
def HasPlace : Option String → Prop
  | none => True
  | some name => if name.startsWith rootSource then IsPlaced name else ¬ name.startsWith "."

instance : DecidablePred HasPlace
  | none => isTrue trivial
  | some name => inferInstanceAs
      (Decidable (if name.startsWith rootSource then IsPlaced name else ¬ name.startsWith "."))

theorem toList_sourceOf (part : String) :
    (sourceOf part).toList = rootSource.toList ++ '.' :: part.toList := by
  rw [sourceOf, String.toList_append, String.toList_append, List.append_assoc]
  rfl

theorem startsWith_sourceNamed (name? : Option String) :
    (sourceNamed name?).startsWith rootSource := by
  cases name? with
  | none => exact String.startsWith_string_iff.2 (List.prefix_refl _)
  | some name =>
    by_cases h : name.startsWith rootSource
    · rwa [sourceNamed, if_pos h]
    · rw [sourceNamed, if_neg h, String.startsWith_string_iff, toList_sourceOf]
      exact List.prefix_append _ _

/-- A source stands for itself. -/
theorem sourceNamed_sourceNamed (name? : Option String) :
    sourceNamed (some (sourceNamed name?)) = sourceNamed name? :=
  if_pos (startsWith_sourceNamed name?)

/-- A name stands for a source with the root in front unless it only begins like the root. -/
theorem isBelow_sourceNamed_iff (name : String) :
    IsBelow (sourceNamed (some name)) ↔ ¬ OnlyBeginsLikeRoot name := by
  by_cases h : name.startsWith rootSource
  · rw [sourceNamed, if_pos h, IsBelow, OnlyBeginsLikeRoot, not_and, not_and, not_not]
    exact ⟨fun below _ hne => below.resolve_left hne,
      fun other => or_iff_not_imp_left.2 (other h)⟩
  · rw [sourceNamed, if_neg h]
    exact iff_of_true (.inr (startsWith_rootPoint_iff.2 ⟨_, toList_sourceOf name⟩))
      fun begins => h begins.1

theorem isPlaced_sourceNamed {name? : Option String} (h : HasPlace name?) :
    IsPlaced (sourceNamed name?) := by
  cases name? with
  | none => exact .inl rfl
  | some name =>
    dsimp only [HasPlace] at h
    by_cases begins : name.startsWith rootSource
    · rw [if_pos begins] at h
      rwa [sourceNamed, if_pos begins]
    · rw [if_neg begins, String.startsWith_string_iff] at h
      rw [sourceNamed, if_neg begins, isPlaced_iff]
      refine .inr ⟨name.toList, toList_sourceOf name, fun hpoint => h ?_⟩
      cases hname : name.toList with
      | nil => rw [hname] at hpoint; cases hpoint
      | cons c rest =>
        rw [hname] at hpoint
        obtain rfl := Option.some.inj hpoint
        exact List.prefix_append ['.'] rest

end CodeMetrics
