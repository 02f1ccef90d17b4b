import CodeMetrics.Text.Blank
import CodeMetrics.Text.Case
import CodeMetrics.Toml.Scalar

/-!
# Parameters of tags

A tag that begins with `@` may have parameters, which are read when the tag is closed: a name,
arguments in parentheses, both of them, or a value.  Arguments and values are literals: numbers,
texts, octets, constants, and tuples, sets and dictionaries of these.  `readable` says whether
parameters can be read.  Letters beyond ASCII count as parts of names, and every name of a character
as one that there is; line breaks count as blanks.
-/

namespace CodeMetrics

namespace Markup

/-- A token of a literal. -/
inductive Token where
  | mark (c : Char)
  | sign
  | number (imaginary : Bool)
  | text (octets : Bool)
  | constant
  | set
deriving DecidableEq

/-- What is read off the front of a text, and the rest. -/
abbrev Reads (α : Type) := Option (α × List Char)

/-- The character can be part of a name. -/
def isNameChar (c : Char) : Bool := c.isAlphanum || c = '_' || 0x7f < c.toNat

/-! ## Numbers -/

/-- A number, unless it goes on as a name. -/
def numberBefore? (imaginary : Bool) (rest : List Char) : Reads Token :=
  if rest.head?.any isNameChar then none else some (.number imaginary, rest)

/-- Reads the digits of a whole number in base 16, 8 or 2. -/
def readBased? (base : Nat) (s : List Char) : Reads Token :=
  let (digits, rest) := Toml.readMoreDigits (fun c => (hexValue? c).any (· < base)) s
  if digits.isEmpty then none else numberBefore? false rest

/-- The digits at the front of a text, and the rest. -/
def splitDigits (s : List Char) : List Char × List Char :=
  (Toml.readDigits? Char.isDigit s).getD ([], s)

/-- What follows a point and its digits, if there is one. -/
def afterFraction? (s : List Char) : Option (List Char) :=
  match s with
  | '.' :: rest => some (splitDigits rest).2
  | _ => none

/-- What follows an exponent, if there is one. -/
def afterExponent? (s : List Char) : Option (List Char) :=
  match s with
  | c :: rest =>
    if c = 'e' ∨ c = 'E' then
      (Toml.readDigits? Char.isDigit (Toml.readSign rest).2).map (·.2)
    else none
  | [] => none

/-- Digits that are a whole number by themselves: zeros only, or not too many and no zero first. -/
def isWhole (digits : List Char) : Bool :=
  digits.all (· = '0') || (digits.head? ≠ some '0' && digits.length ≤ 4300)

/-- Reads a decimal number. -/
def readDecimal? (s : List Char) : Reads Token :=
  let (digits, rest) := splitDigits s
  let fraction? := afterFraction? rest
  let rest := fraction?.getD rest
  let exponent? := afterExponent? rest
  let rest := exponent?.getD rest
  if rest.head?.any fun c => c = 'j' || c = 'J' then numberBefore? true rest.tail
  else if fraction?.isNone && exponent?.isNone && !isWhole digits then none
  else numberBefore? false rest

/-- Reads a number. -/
def readNumber? (s : List Char) : Reads Token :=
  match s with
  | '0' :: c :: rest =>
    match c.toLower with
    | 'x' => readBased? 16 rest
    | 'o' => readBased? 8 rest
    | 'b' => readBased? 2 rest
    | _ => readDecimal? s
  | _ => readDecimal? s

/-! ## Texts -/

/-- What follows `width` hexadecimal digits of a number up to `last`. -/
def afterHexadecimal? (width last : Nat) (s : List Char) : Option (List Char) :=
  let values := (s.take width).filterMap hexValue?
  if values.length = width && numberOfDigits 16 values ≤ last then some (s.drop width) else none

/-- What follows an escape, after its backslash. -/
def afterEscape? (octets : Bool) (s : List Char) : Option (List Char) :=
  match s, octets with
  | [], _ => none
  | 'x' :: rest, _ => afterHexadecimal? 2 0xff rest
  | 'u' :: rest, false => afterHexadecimal? 4 0xffff rest
  | 'U' :: rest, false => afterHexadecimal? 8 0x10ffff rest
  | 'N' :: '\x7b' :: rest, false =>
    match rest.dropWhile (· ≠ '\x7d') with
    | _ :: rest => some rest
    | [] => none
  | 'N' :: _, false => none
  | _ :: rest, _ => some rest

/-- What follows a text that ends with the given quotes; in a raw text a backslash is no escape, but
keeps the next character from ending the text.  `steps` bounds the length. -/
def afterText? (raw octets : Bool) (closing : List Char) : Nat → List Char → Option (List Char)
  | 0, _ => none
  | steps + 1, s =>
    if closing.isPrefixOf s then some (s.drop closing.length)
    else
      match s with
      | [] => none
      | c :: rest =>
        if octets && 0x7f < c.toNat then none
        else if c = '\n' && closing.length = 1 then none
        else if c = '\\' then
          (if raw then some rest.tail else afterEscape? octets rest).bind
            (afterText? raw octets closing steps)
        else afterText? raw octets closing steps rest

/-- What the letters before a text say: whether it is raw, and whether it is made of octets. -/
def textKind? (name : List Char) : Option (Bool × Bool) :=
  [("", false, false), ("u", false, false), ("r", true, false), ("b", false, true),
    ("br", true, true), ("rb", true, true)].lookup (lowerCase (String.ofList name))

/-- Reads a text in single or threefold quotes, after the letters before it. -/
def readText? (name : List Char) (s : List Char) : Reads Token :=
  match s, textKind? name with
  | quote :: rest, some (raw, octets) =>
    let after? :=
      if [quote, quote].isPrefixOf rest then
        afterText? raw octets [quote, quote, quote] rest.length (rest.drop 2)
      else afterText? raw octets [quote] (rest.length + 1) rest
    after?.map fun rest => (.text octets, rest)
  | _, _ => none

/-! ## Tokens -/

/-- Reads a text, a constant or the name of the empty set. -/
def readWord? (s : List Char) : Reads Token :=
  let name := s.takeWhile isNameChar
  let rest := s.dropWhile isNameChar
  if rest.head?.any fun c => c = '\x27' || c = '\x22' then readText? name rest
  else if ["None", "True", "False"].contains (String.ofList name) then some (.constant, rest)
  else if String.ofList name = "set" then some (.set, rest)
  else none

/-- Reads a token that is no mark and no sign. -/
def readToken? (s : List Char) : Reads Token :=
  match s with
  | '.' :: '.' :: '.' :: rest => some (.constant, rest)
  | '.' :: c :: _ => if c.isDigit then readNumber? s else none
  | c :: _ => if c.isDigit then readNumber? s else readWord? s
  | [] => none

/-- The tokens of a text inside `depth` brackets; `steps` bounds their number.  Everything from a
hash sign to the end of its line is left out, and so is the end of a line behind a backslash. -/
def tokensFrom (depth : Nat) : Nat → List Char → Option (List Token)
  | 0, _ => none
  | steps + 1, s =>
    match s with
    | [] => some []
    | '\\' :: '\n' :: rest => tokensFrom depth steps rest
    | c :: rest =>
      if [' ', '\t', '\n', '\r', '\x0c'].contains c then tokensFrom depth steps rest
      else if c = '#' then tokensFrom depth steps (rest.dropWhile (· ≠ '\n'))
      else if c = '(' || c = '\x7b' then
        if depth < 200 then (Token.mark c :: ·) <$> tokensFrom (depth + 1) steps rest else none
      else if c = ')' || c = '\x7d' then (Token.mark c :: ·) <$> tokensFrom (depth - 1) steps rest
      else if c = ',' || c = ':' then (Token.mark c :: ·) <$> tokensFrom depth steps rest
      else if c = '+' || c = '-' then (Token.sign :: ·) <$> tokensFrom depth steps rest
      else (readToken? s).bind fun (token, rest) => (token :: ·) <$> tokensFrom depth steps rest

/-! ## Values -/

/-- What matters of a value to what it is part of: numbers can be added up, a number without a sign
can get one, and what can be changed is no item of a set and no key.  `emptySet` is the name of the
empty set before it is called. -/
inductive ValueKind where
  | real
  | imaginary
  | signedReal
  | fixed
  | changeable
  | emptySet
deriving DecidableEq

/-- The value of items between brackets, each with whether it has the value of a key with it;
`comma` says whether there is a comma. -/
def valueOfItems? (closing : Char) (items : List (ValueKind × Bool)) (comma : Bool) :
    Option ValueKind :=
  match closing, items, comma with
  | ')', [(kind, false)], false => some kind
  | ')', items, _ =>
    if items.any fun (kind, isKey) => kind = .emptySet || isKey then none
    else if items.any fun (kind, _) => kind = .changeable then some .changeable
    else some .fixed
  | _, items, _ =>
    if items.any fun (kind, _) => kind = .emptySet || kind = .changeable then none
    else if items.all (·.2) || items.all (!·.2) then some .changeable
    else none

mutual

/-- Reads a value: a number with a sign, a real number with an imaginary one added, or a unit. -/
def readSum? : Nat → List Token → Option (ValueKind × List Token)
  | 0, _ => none
  | steps + 1, tokens => do
    let (left, rest) ←
      match tokens with
      | .sign :: rest => do
        let (kind, rest) ← readUnit? steps rest
        match kind with
        | .real => some (ValueKind.signedReal, rest)
        | .imaginary => some (.fixed, rest)
        | _ => none
      | _ => readUnit? steps tokens
    match rest with
    | .sign :: rest =>
      let (right, rest) ← readUnit? steps rest
      if (left = .real || left = .signedReal) && right = .imaginary then some (.fixed, rest)
      else none
    | _ => some (left, rest)

/-- Reads a number, a text, a constant, or what stands between brackets. -/
def readUnit? : Nat → List Token → Option (ValueKind × List Token)
  | 0, _ => none
  | steps + 1, tokens => do
    let (kind, rest) ←
      match tokens with
      | .number imaginary :: rest => some (if imaginary then ValueKind.imaginary else .real, rest)
      | .constant :: rest => some (.fixed, rest)
      | .set :: rest => some (.emptySet, rest)
      | .text octets :: rest =>
        let rest := rest.dropWhile (· = .text octets)
        if rest.head? = some (.text !octets) then none else some (.fixed, rest)
      | .mark '(' :: .mark ')' :: rest => some (.fixed, rest)
      | .mark '\x7b' :: .mark '\x7d' :: rest => some (.changeable, rest)
      | .mark c :: rest => do
        let closing ← if c = '(' then some ')' else if c = '\x7b' then some '\x7d' else none
        let (items, comma, rest) ← readItems? closing steps rest
        (valueOfItems? closing items comma).map (·, rest)
      | _ => none
    match kind, rest with
    | .emptySet, .mark '(' :: .mark ')' :: rest => some (.changeable, rest)
    | _, _ => some (kind, rest)

/-- Reads items up to a closing bracket, with whether there is a comma among them. -/
def readItems? (closing : Char) :
    Nat → List Token → Option (List (ValueKind × Bool) × Bool × List Token)
  | 0, _ => none
  | steps + 1, tokens => do
    let (kind, rest) ← readSum? steps tokens
    let (isKey, rest) ←
      match rest with
      | .mark ':' :: rest => do
        let (value, rest) ← readSum? steps rest
        if value = .emptySet then none else some (true, rest)
      | _ => some (false, rest)
    match rest with
    | .mark ',' :: .mark c :: rest =>
      if c = closing then some ([(kind, isKey)], true, rest)
      else do
        let (items, _, rest) ← readItems? closing steps (.mark c :: rest)
        some ((kind, isKey) :: items, true, rest)
    | .mark ',' :: rest => do
      let (items, _, rest) ← readItems? closing steps rest
      some ((kind, isKey) :: items, true, rest)
    | .mark c :: rest => if c = closing then some ([(kind, isKey)], false, rest) else none
    | _ => none

end

/-- The text is a literal; commas outside brackets make a tuple of it. -/
def isLiteral (s : List Char) : Bool :=
  match tokensFrom 0 (s.length + 1) s with
  | none => false
  | some tokens =>
    -- Each step into a value or to the next item leaves a token behind or comes after one that did.
    match readItems? ')' (3 * tokens.length + 6) (tokens ++ [.mark ')']) with
    | some (items, comma, []) =>
      (valueOfItems? ')' items comma).any (· ≠ .emptySet)
    | _ => false

/-- The parameters of a tag can be read. -/
def readable (parameters : List Char) : Bool :=
  let parameters := trimWhile isBlank parameters
  match parameters.dropWhile fun c => isNameChar c || c = '.' with
  | [] => true
  | '(' :: inner =>
    if inner.getLast? = some ')' && !inner.contains '\n' then isLiteral ('(' :: inner)
    else isLiteral parameters
  | _ => isLiteral parameters

end Markup

end CodeMetrics
