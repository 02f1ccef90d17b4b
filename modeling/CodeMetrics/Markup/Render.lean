import CodeMetrics.Markup.Parameters
import CodeMetrics.Markup.Style
import CodeMetrics.Text.Emoji

/-!
# Markup

Messages may hold tags in square brackets and names of emoji between colons.  A tag opens a style,
and a tag that begins with a slash closes the latest style of its name, or the latest of all when it
has no name; a closing tag without a style to close is a fault, and so is one that closes a style
with parameters that cannot be read.  A backslash before a tag makes it plain text.  `render` gives
the text that remains.
-/

namespace CodeMetrics

namespace Markup

/-! ## Emoji -/

/-- A name with the form that its ending asks for, as the text or the emoji form of a symbol. -/
def emojiForm (name : List Char) : List Char × List Char :=
  let ends (suffix : String) : Bool := suffix.toList.isSuffixOf name
  let without (suffix : String) : List Char := name.take (name.length - suffix.length)
  if ends "-emoji" then (without "-emoji", ['\ufe0f'])
  else if ends "-text" then (without "-text", ['\ufe0e'])
  else (name, [])

/-- The emoji of a name between colons. -/
def emojiOf? (name : List Char) : Option (List Char) :=
  let (name, form) := emojiForm name
  (emoji? (lowerCase (String.ofList name))).map fun e => e.toList ++ form

/-- The text with the names of emoji replaced; `name?` holds what was read since a colon. -/
def replaceEmojiFrom : Option (List Char) → List Char → List Char
  | none, [] => []
  | some name, [] => ':' :: name
  | none, c :: rest =>
    if c = ':' then replaceEmojiFrom (some []) rest else c :: replaceEmojiFrom none rest
  | some name, c :: rest =>
    if c = ':' then
      (match emojiOf? name with
        | some e => e
        | none => ':' :: name ++ [':']) ++ replaceEmojiFrom none rest
    else if isBlank c then ':' :: name ++ c :: replaceEmojiFrom none rest
    else replaceEmojiFrom (some (name ++ [c])) rest

/-- A text with the names of emoji replaced. -/
def replaceEmoji (s : List Char) : List Char := replaceEmojiFrom none s

/-! ## Tags -/

/-- A part of a message: plain text, or what stands between the brackets of a tag. -/
inductive Piece where
  | plain (s : List Char)
  | tag (s : List Char)

/-- The character can begin a tag. -/
def beginsTag (c : Char) : Bool := ('a' ≤ c && c ≤ 'z') || c = '#' || c = '/' || c = '@'

/-- The tag at the front of a text, and the text after it. -/
def tagAt? (s : List Char) : Option (List Char × List Char) :=
  match s with
  | '[' :: c :: rest =>
    if beginsTag c then
      match rest.dropWhile fun d => d ≠ ']' && d ≠ '[' with
      | ']' :: after => some (c :: rest.takeWhile fun d => d ≠ ']' && d ≠ '[', after)
      | _ => none
    else none
  | _ => none

/-- Plain text in front of other pieces, unless it is empty. -/
def addPlain (s : List Char) (pieces : List Piece) : List Piece :=
  if s.isEmpty then pieces else .plain s :: pieces

/-- The pieces of a text after the plain text `before`; `steps` bounds their number. -/
def piecesFrom : Nat → List Char → List Char → List Piece
  | 0, before, s => addPlain (before ++ s) []
  | steps + 1, before, s =>
    match s with
    | [] => addPlain before []
    | c :: rest =>
      let backslashes := s.takeWhile (· = '\\')
      match tagAt? (s.dropWhile (· = '\\')) with
      | some (tag, after) =>
        let half := backslashes.take (backslashes.length / 2)
        let piece :=
          if backslashes.length % 2 = 0 then Piece.tag tag else .plain ('[' :: tag ++ [']'])
        addPlain before (addPlain half (piece :: piecesFrom steps [] after))
      | none =>
        if backslashes.isEmpty then piecesFrom steps (before ++ [c]) rest
        else piecesFrom steps (before ++ backslashes) (s.dropWhile (· = '\\'))

/-- The pieces of a message. -/
def pieces (s : List Char) : List Piece := piecesFrom (s.length + 1) [] s

/-- Plain text without the backslashes before opening brackets. -/
def unescape : List Char → List Char
  | '\\' :: '[' :: rest => '[' :: unescape rest
  | c :: rest => c :: unescape rest
  | [] => []

/-- The text of a plain piece. -/
def plainText (s : List Char) : List Char := dropSteering (replaceEmoji (unescape s))

/-- The message closes a style that is not open, or one whose parameters cannot be read. -/
inductive Fault where
  | unopened (tag : List Char)
  | unreadable (parameters : List Char)
deriving DecidableEq

/-- A style that a tag has opened. -/
structure OpenStyle where
  name : String
  parameters : List Char
deriving DecidableEq

namespace OpenStyle

/-- The style of a tag: its name stands before the first equals sign, its parameters behind it. -/
def ofTag (tag : List Char) : OpenStyle :=
  ⟨styleName (tag.takeWhile (· ≠ '=')), (tag.dropWhile (· ≠ '=')).tail⟩

/-- Closes the style; only then parameters behind an at sign are read. -/
def close (s : OpenStyle) : Except Fault Unit :=
  if s.name.toList.head? = some '@' && !s.parameters.isEmpty && !readable s.parameters then
    .error (.unreadable s.parameters)
  else .ok ()

end OpenStyle

/-- The open styles after a tag, the latest first. -/
def applyTag (opened : List OpenStyle) (tag : List Char) : Except Fault (List OpenStyle) :=
  match tag.takeWhile (· ≠ '=') with
  | '/' :: closing =>
    let closing := trimWhile isBlank closing
    let closes (s : OpenStyle) : Bool := closing.isEmpty || s.name = styleName closing
    match opened.find? closes with
    | none => .error (.unopened tag)
    | some s => do
      s.close
      return opened.eraseP closes
  | _ => .ok (.ofTag tag :: opened)

/-- The text of some pieces while some styles are open. -/
def renderPieces (opened : List OpenStyle) : List Piece → Except Fault (List Char)
  | [] => .ok []
  | .plain s :: rest => (plainText s ++ ·) <$> renderPieces opened rest
  | .tag t :: rest => do renderPieces (← applyTag opened t) rest

/-- The text of a message. -/
def render (s : List Char) : Except Fault (List Char) := renderPieces [] (pieces s)

end Markup

end CodeMetrics
