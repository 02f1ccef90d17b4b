import CodeMetrics.Text.Hexadecimal

/-!
# Reading UTF-8

`decodeUtf8` reads the shortest-form encoding of Unicode scalar values and nothing else.  A fault
names the stretch of octets that begins like a character and cannot be continued.
-/

namespace CodeMetrics

/-- Why octets are no UTF-8 text. -/
inductive Utf8Cause where
  | startByte
  | continuationByte
  | endOfData
deriving DecidableEq

/-- A stretch of octets that is no character. -/
structure Utf8Fault where
  position : Nat
  length : Nat
  lead : UInt8
  cause : Utf8Cause
deriving DecidableEq

namespace Utf8Fault

/-- The fault in words. -/
def message (f : Utf8Fault) : String :=
  let place :=
    if f.length = 1 then
      "byte 0x" ++ String.ofList (hexDigits 2 f.lead.toNat) ++ " in position " ++
        toString f.position
    else
      "bytes in position " ++ toString f.position ++ "-" ++ toString (f.position + f.length - 1)
  let cause :=
    match f.cause with
    | .startByte => "invalid start byte"
    | .continuationByte => "invalid continuation byte"
    | .endOfData => "unexpected end of data"
  "'utf-8' codec can't decode " ++ place ++ ": " ++ cause

end Utf8Fault

/-- A character of which some octets were read: the position and value of its first octet, how many
were read and how many are missing, the bits so far, and the range of the next octet. -/
structure PartialChar where
  position : Nat
  lead : UInt8
  seen : Nat
  missing : Nat
  bits : Nat
  low : UInt8
  high : UInt8

namespace PartialChar

/-- What a first octet begins, if it begins a character of several octets. -/
def begin? (position : Nat) (b : UInt8) : Option PartialChar :=
  let partialChar (missing bits : Nat) (low high : UInt8) : PartialChar :=
    ⟨position, b, 1, missing, bits, low, high⟩
  if b < 0xc2 then none
  else if b < 0xe0 then some (partialChar 1 (b.toNat % 0x20) 0x80 0xbf)
  else if b < 0xf0 then
    some (partialChar 2 (b.toNat % 0x10)
      (if b = 0xe0 then 0xa0 else 0x80) (if b = 0xed then 0x9f else 0xbf))
  else if b < 0xf5 then
    some (partialChar 3 (b.toNat % 0x08)
      (if b = 0xf0 then 0x90 else 0x80) (if b = 0xf4 then 0x8f else 0xbf))
  else none

/-- The fault of a character that is not continued. -/
def fault (p : PartialChar) (cause : Utf8Cause) : Utf8Fault := ⟨p.position, p.seen, p.lead, cause⟩

end PartialChar

/-- Reads the octets from `position` on, after the beginning of a character if one is pending. -/
def decodeUtf8From (position : Nat) :
    Option PartialChar → List UInt8 → Except Utf8Fault (List Char)
  | none, [] => .ok []
  | some p, [] => .error (p.fault .endOfData)
  | none, b :: rest =>
    if b < 0x80 then (Char.ofNat b.toNat :: ·) <$> decodeUtf8From (position + 1) none rest
    else
      match PartialChar.begin? position b with
      | none => .error ⟨position, 1, b, .startByte⟩
      | some p => decodeUtf8From (position + 1) (some p) rest
  | some p, b :: rest =>
    if p.low ≤ b ∧ b ≤ p.high then
      let bits := p.bits * 0x40 + b.toNat % 0x40
      if p.missing ≤ 1 then (Char.ofNat bits :: ·) <$> decodeUtf8From (position + 1) none rest
      else
        let p : PartialChar :=
          ⟨p.position, p.lead, p.seen + 1, p.missing - 1, bits, 0x80, 0xbf⟩
        decodeUtf8From (position + 1) (some p) rest
    else .error (p.fault .continuationByte)

/-- The text that octets encode. -/
def decodeUtf8 (octets : List UInt8) : Except Utf8Fault (List Char) := decodeUtf8From 0 none octets

end CodeMetrics
