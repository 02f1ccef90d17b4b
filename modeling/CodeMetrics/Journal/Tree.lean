import CodeMetrics.Journal.Entry

/-!
# The tree of sources

A source hangs below the nearest of the known sources whose names stand before a point of its own
name.  The search goes over the points from the last one on, and after each point it passes over the
character before it.  So of two points that follow each other the first is not looked at, and a
source with an empty part in its name may hang below no other source at all.
-/

namespace CodeMetrics

/-- The source that a name stands for: the root if there is none, and a part of the program unless
the name begins like the root. -/
def sourceNamed (name? : Option String) : String :=
  match name? with
  | none => rootSource
  | some name => if name.startsWith rootSource then name else sourceOf name

/-- What stands before the points of a name that the search looks at, nearest first.  Names are read
backwards here. -/
def frontsBackwards : List Char → List (List Char)
  | [] => []
  | ['.'] => []
  | '.' :: c :: rest => (c :: rest) :: frontsBackwards rest
  | _ :: rest => frontsBackwards rest

theorem length_lt_of_mem_frontsBackwards {name front : List Char} (h : front ∈ frontsBackwards name) :
    front.length < name.length := by
  fun_induction frontsBackwards name with
  | case1 => cases h
  | case2 => cases h
  | case3 c rest ih =>
    obtain rfl | h := List.mem_cons.1 h
    · exact Nat.lt_succ_self _
    · exact Nat.lt_succ_of_lt (Nat.lt_succ_of_lt (ih h))
  | case4 c rest _ _ ih => exact Nat.lt_succ_of_lt (ih h)

/-- The names of the sources that the given one may hang below, nearest first. -/
def namesAbove (source : String) : List String :=
  (frontsBackwards source.toList.reverse).map fun front => String.ofList front.reverse

theorem length_lt_of_mem_namesAbove {source s : String} (h : s ∈ namesAbove source) :
    s.length < source.length := by
  obtain ⟨front, hfront, rfl⟩ := List.mem_map.1 h
  simpa [String.length_toList] using length_lt_of_mem_frontsBackwards hfront

/-- The source that the given one hangs below; the root is always known. -/
def parent? (known : List String) (source : String) : Option String :=
  (namesAbove source).find? fun s => s = rootSource || known.contains s

/-- The source is the root or hangs below it over any number of known sources. -/
def inTree (known : List String) (source : String) : Bool :=
  if source = rootSource then true
  else
    match _h : parent? known source with
    | none => false
    | some s => inTree known s
termination_by source.length
decreasing_by exact length_lt_of_mem_namesAbove (List.mem_of_find?_eq_some ‹_›)

end CodeMetrics
