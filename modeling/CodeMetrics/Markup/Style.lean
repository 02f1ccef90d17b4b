import CodeMetrics.Text.Blank
import CodeMetrics.Text.Case
import CodeMetrics.Text.Hexadecimal
import CodeMetrics.Text.Lines

/-!
# Names of styles

A style is written as attributes, a colour, a background and a link, in any order.  `styleName`
gives one name to all ways of writing the same style; anything that is no style is its own name, in
lower case.  So are here three channels of a colour that are no numbers in ASCII digits, although a
terminal knows other digits, and fails over channels that are no numbers at all.
-/

namespace CodeMetrics

namespace Markup

/-- The colours that have names. -/
def colourNames : List String := [
  "black", "red", "green", "yellow", "blue", "magenta", "cyan", "white", "bright_black",
  "bright_red", "bright_green", "bright_yellow", "bright_blue", "bright_magenta", "bright_cyan",
  "bright_white", "grey0", "gray0", "navy_blue", "dark_blue", "blue3", "blue1", "dark_green",
  "deep_sky_blue4", "dodger_blue3", "dodger_blue2", "green4", "spring_green4", "turquoise4",
  "deep_sky_blue3", "dodger_blue1", "green3", "spring_green3", "dark_cyan", "light_sea_green",
  "deep_sky_blue2", "deep_sky_blue1", "spring_green2", "cyan3", "dark_turquoise", "turquoise2",
  "green1", "spring_green1", "medium_spring_green", "cyan2", "cyan1", "dark_red", "deep_pink4",
  "purple4", "purple3", "blue_violet", "orange4", "grey37", "gray37", "medium_purple4",
  "slate_blue3", "royal_blue1", "chartreuse4", "dark_sea_green4", "pale_turquoise4", "steel_blue",
  "steel_blue3", "cornflower_blue", "chartreuse3", "cadet_blue", "sky_blue3", "steel_blue1",
  "pale_green3", "sea_green3", "aquamarine3", "medium_turquoise", "chartreuse2", "sea_green2",
  "sea_green1", "aquamarine1", "dark_slate_gray2", "dark_magenta", "dark_violet", "purple",
  "light_pink4", "plum4", "medium_purple3", "slate_blue1", "yellow4", "wheat4", "grey53", "gray53",
  "light_slate_grey", "light_slate_gray", "medium_purple", "light_slate_blue", "dark_olive_green3",
  "dark_sea_green", "light_sky_blue3", "sky_blue2", "dark_sea_green3", "dark_slate_gray3",
  "sky_blue1", "chartreuse1", "light_green", "pale_green1", "dark_slate_gray1", "red3",
  "medium_violet_red", "magenta3", "dark_orange3", "indian_red", "hot_pink3", "medium_orchid3",
  "medium_orchid", "medium_purple2", "dark_goldenrod", "light_salmon3", "rosy_brown", "grey63",
  "gray63", "medium_purple1", "gold3", "dark_khaki", "navajo_white3", "grey69", "gray69",
  "light_steel_blue3", "light_steel_blue", "yellow3", "dark_sea_green2", "light_cyan3",
  "light_sky_blue1", "green_yellow", "dark_olive_green2", "dark_sea_green1", "pale_turquoise1",
  "deep_pink3", "magenta2", "hot_pink2", "orchid", "medium_orchid1", "orange3", "light_pink3",
  "pink3", "plum3", "violet", "light_goldenrod3", "tan", "misty_rose3", "thistle3", "plum2",
  "khaki3", "light_goldenrod2", "light_yellow3", "grey84", "gray84", "light_steel_blue1",
  "yellow2", "dark_olive_green1", "honeydew2", "light_cyan1", "red1", "deep_pink2", "deep_pink1",
  "magenta1", "orange_red1", "indian_red1", "hot_pink", "dark_orange", "salmon1", "light_coral",
  "pale_violet_red1", "orchid2", "orchid1", "orange1", "sandy_brown", "light_salmon1",
  "light_pink1", "pink1", "plum1", "gold1", "navajo_white1", "misty_rose1", "thistle1", "yellow1",
  "light_goldenrod1", "khaki1", "wheat1", "cornsilk1", "grey100", "gray100", "grey3", "gray3",
  "grey7", "gray7", "grey11", "gray11", "grey15", "gray15", "grey19", "gray19", "grey23", "gray23",
  "grey27", "gray27", "grey30", "gray30", "grey35", "gray35", "grey39", "gray39", "grey42",
  "gray42", "grey46", "gray46", "grey50", "gray50", "grey54", "gray54", "grey58", "gray58",
  "grey62", "gray62", "grey66", "gray66", "grey70", "gray70", "grey74", "gray74", "grey78",
  "gray78", "grey82", "gray82", "grey85", "gray85", "grey89", "gray89", "grey93", "gray93"]

/-- The spellings of the attributes. -/
def attributeSpellings : List (String × String) :=
  [("dim", "dim"), ("d", "dim"), ("bold", "bold"), ("b", "bold"), ("italic", "italic"),
    ("i", "italic"), ("underline", "underline"), ("u", "underline"), ("blink", "blink"),
    ("blink2", "blink2"), ("reverse", "reverse"), ("r", "reverse"), ("conceal", "conceal"),
    ("c", "conceal"), ("strike", "strike"), ("s", "strike"), ("underline2", "underline2"),
    ("uu", "underline2"), ("frame", "frame"), ("encircle", "encircle"), ("overline", "overline"),
    ("o", "overline")]

/-- The attributes in the order in which a name lists them. -/
def attributeOrder : List String :=
  ["bold", "dim", "italic", "underline", "blink", "blink2", "reverse", "conceal", "strike",
    "underline2", "frame", "encircle", "overline"]

/-- A number of one to `width` digits that is at most 255. -/
def isChannel (width : Nat) (s : List Char) : Bool :=
  !s.isEmpty && s.length ≤ width && s.all Char.isDigit &&
    s.foldl (fun n c => n * 10 + (c.toNat - 48)) 0 ≤ 255

/-- The text between an opening word and a closing parenthesis. -/
def argument? (opening : String) (s : List Char) : Option (List Char) :=
  if opening.toList.isPrefixOf s && s.getLast? = some ')' then
    some ((s.drop opening.length).dropLast)
  else none

/-- The colour of a word: a name, six hexadecimal digits, a number or three channels. -/
def colour? (word : String) : Option String :=
  let word := lowerCase word
  let s := word.toList
  let hexadecimal := s.head? = some '#' && s.length = 7 && s.tail.all fun c => (hexValue? c).isSome
  let numbered := (argument? "color(" s).any (isChannel 3)
  let channels := (argument? "rgb(" s).any fun a =>
    let parts := splitWhere (· = ',') a
    parts.length = 3 && parts.all (isChannel a.length)
  if word = "default" || colourNames.contains word || hexadecimal || numbered || channels then
    some word
  else none

/-- A style as it is being read. -/
structure Style where
  attributes : List (String × Bool)
  colour : Option String
  background : Option String
  link : Option String

namespace Style

/-- A style that says nothing. -/
def plain : Style := ⟨[], none, none, none⟩

/-- Says that an attribute is on or off. -/
def setAttribute (name : String) (on : Bool) (s : Style) : Style :=
  { s with attributes := (name, on) :: s.attributes }

/-- The name of a style. -/
def name (s : Style) : String :=
  let attributes := attributeOrder.filterMap fun a =>
    (s.attributes.lookup a).map fun on => if on then a else "not " ++ a
  let parts := attributes ++ s.colour.toList ++
    (s.background.map ("on " ++ ·)).toList ++ (s.link.map ("link " ++ ·)).toList
  if parts.isEmpty then "none" else " ".intercalate parts

/-- Reads the words of a style. -/
def ofWords? (s : Style) : List String → Option Style
  | [] => some s
  | word :: rest =>
    let lower := lowerCase word
    if lower = "on" then
      match rest with
      | [] => none
      | w :: rest => (colour? w).bind fun c => ofWords? { s with background := some c } rest
    else if lower = "not" then
      match rest with
      | [] => none
      | w :: rest =>
        (attributeSpellings.lookup w).bind fun a => ofWords? (s.setAttribute a false) rest
    else if lower = "link" then
      match rest with
      | [] => none
      | w :: rest => ofWords? { s with link := some w } rest
    else
      match attributeSpellings.lookup lower with
      | some a => ofWords? (s.setAttribute a true) rest
      | none => (colour? lower).bind fun c => ofWords? { s with colour := some c } rest

end Style

/-- The one name of a style that can be written in several ways. -/
def styleName (s : List Char) : String :=
  let trimmed := trimWhile isBlank s
  let words := ((splitWhere isBlank trimmed).filter (!·.isEmpty)).map String.ofList
  if words = ["none"] then "none"
  else
    match Style.plain.ofWords? words with
    | some style => style.name
    | none => lowerCase (String.ofList trimmed)

end Markup

end CodeMetrics
