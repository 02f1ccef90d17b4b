import CodeMetrics.Text.Blank
import CodeMetrics.Text.Lines

/-!
# Wrapping text

A text is broken into lines of a given width at blanks.  A word keeps the blanks behind it.  A word
that is too long for any line is folded over several lines, or it stands alone and is cut.
-/

namespace CodeMetrics

/-- What happens to a word that is too long for any line. -/
inductive Overflow where
  | fold
  | ellipsis
deriving DecidableEq

namespace Wrap

/-- The words of a text, each with the blanks behind it, after the word `word` that is being read;
`ended` says that blanks were already read behind it. -/
def wordsFrom (word : List Char) (ended : Bool) : List Char → List (List Char)
  | [] => if word.isEmpty then [] else [word]
  | c :: rest =>
    if isBlank c then wordsFrom (word ++ [c]) true rest
    else if ended then word :: wordsFrom [c] false rest
    else wordsFrom (word ++ [c]) false rest

/-- The words of a text, each with the blanks behind it; blanks at the front belong to the first. -/
def words (s : List Char) : List (List Char) :=
  match wordsFrom [] false (s.dropWhile isBlank) with
  | [] => [s]
  | first :: rest => (s.takeWhile isBlank ++ first) :: rest

/-- The glyphs of a word on lines of `width` cells, after `used` cells of the first line are taken
by `line`. -/
def foldGlyphs (width used : Nat) (line : List Char) : List Glyph → List (List Char)
  | [] => [line]
  | g :: rest =>
    if width < used + g.width then line :: foldGlyphs width g.width g.text rest
    else foldGlyphs width (used + g.width) (line ++ g.text) rest

/-- The parts of a word that fit on lines of `width` cells. -/
def foldWord (width : Nat) (word : List Char) : List (List Char) :=
  foldGlyphs width 0 [] (glyphs word)

/-- A line in front of others, unless it is empty. -/
def flush (line : List Char) (lines : List (List Char)) : List (List Char) :=
  if line.isEmpty then lines else line :: lines

/-- The lines of some words after the beginning `line` of a line, which takes `used` cells. -/
def linesFrom (overflow : Overflow) (width used : Nat) (line : List Char) :
    List (List Char) → List (List Char)
  | [] => [line]
  | word :: rest =>
    let needed := cells (dropEndWhile isBlank word)
    if used + needed ≤ width then
      linesFrom overflow width (used + cells word) (line ++ word) rest
    else if width < needed ∧ overflow = .fold then
      let parts := foldWord width word
      let last := parts.getLastD []
      flush line (parts.dropLast ++ linesFrom overflow width (cells last) last rest)
    else flush line (linesFrom overflow width (cells word) word rest)

/-- A line without the blanks at its end that stand beyond `width` characters. -/
def trimEnd (width : Nat) (line : List Char) : List Char :=
  let blanks := (line.reverse.takeWhile isBlank).length
  line.take (line.length - min blanks (line.length - width))

/-- A line that takes at most `width` cells. -/
def limit (overflow : Overflow) (width : Nat) (line : List Char) : List Char :=
  match overflow with
  | .fold => if cells line ≤ width then line else fitCells line width
  | .ellipsis => cut line width

end Wrap

/-- The lines of a text that are at most `width` cells wide, before blanks are added. -/
def wrapLines (overflow : Overflow) (width : Nat) (s : List Char) : List (List Char) :=
  (splitWhere (· = '\n') s).flatMap fun line =>
    (Wrap.linesFrom overflow width 0 [] (Wrap.words (expandTabs line))).map (Wrap.trimEnd width)

/-- A text broken into lines of at most `width` cells. -/
def wrap (width : Nat) (s : List Char) : List (List Char) :=
  (wrapLines .fold width s).map (Wrap.limit .fold width)

end CodeMetrics
