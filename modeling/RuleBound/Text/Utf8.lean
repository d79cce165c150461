import RuleBound.Text.Hex
import RuleBound.Text.Surrogate

/-!
Text as UTF-8 bytes and back. Reading refuses overlong forms, surrogates and values beyond the
last character, and says where and why: the defect names the bytes of the longest prefix of a
character that could not be completed.
-/

namespace RuleBound.Text

/-- The UTF-8 bytes of a text. -/
def utf8 (s : String) : Bytes := s.toUTF8.data.toList

/-- The first place where a text has no bytes: lone surrogates in a row. -/
structure SurrogateDefect where
  position : Nat
  count : Nat
  /-- The first of them. -/
  unit : Nat
  deriving DecidableEq, Repr

/-- The first lone surrogates of a text. -/
def surrogateDefect? (s : String) : Option SurrogateDefect :=
  let cs := s.toList
  let rest := cs.dropWhile fun c => !isStandIn c
  match rest.head?.bind surrogate? with
  | some unit => some ⟨cs.length - rest.length, (rest.takeWhile isStandIn).length, unit⟩
  | none => none

/-- The UTF-8 bytes of a text without lone surrogates. -/
def encode (s : String) : Except SurrogateDefect Bytes :=
  match surrogateDefect? s with
  | some defect => .error defect
  | none => .ok (utf8 s)

/-- The defect in words. -/
def SurrogateDefect.message (d : SurrogateDefect) : String :=
  let head := "'utf-8' codec can't encode "
  if d.count ≤ 1 then
    head ++ "character '\\u" ++ String.ofList (hexDigits 4 d.unit) ++
      s!"' in position {d.position}: surrogates not allowed"
  else
    head ++ s!"characters in position {d.position}-{d.position + d.count - 1}: " ++
      "surrogates not allowed"

/-- Why bytes are not UTF-8. -/
inductive Utf8Reason
  /-- No character starts with this byte. -/
  | start
  /-- The byte after the prefix cannot continue it. -/
  | continuation
  /-- The bytes end inside a character. -/
  | cut
  deriving DecidableEq, Repr

/-- The first place where bytes stop being UTF-8. -/
structure Utf8Defect where
  reason : Utf8Reason
  position : Nat
  /-- The bytes that form the broken character, at least one. -/
  bytes : Bytes
  deriving DecidableEq, Repr

/-- What a leading byte announces: how many bytes follow and the range of the first of them. -/
def leadShape? (b : Nat) : Option (Nat × Nat × Nat) :=
  if b < 0x80 then some (0, 0, 0)
  else if 0xc2 ≤ b ∧ b ≤ 0xdf then some (1, 0x80, 0xbf)
  else if b = 0xe0 then some (2, 0xa0, 0xbf)
  else if b = 0xed then some (2, 0x80, 0x9f)
  else if 0xe1 ≤ b ∧ b ≤ 0xef then some (2, 0x80, 0xbf)
  else if b = 0xf0 then some (3, 0x90, 0xbf)
  else if 0xf1 ≤ b ∧ b ≤ 0xf3 then some (3, 0x80, 0xbf)
  else if b = 0xf4 then some (3, 0x80, 0x8f)
  else none

/-- The bits of a leading byte that belong to the character. -/
def leadBits (following b : Nat) : Nat :=
  match following with
  | 0 => b
  | 1 => b % 0x20
  | 2 => b % 0x10
  | _ => b % 0x08

/-- Read the continuation bytes of one character. On failure the second component says how many
of them were good and whether the bytes ended. -/
def continuation? : (count low high code : Nat) → Bytes →
    Except (Nat × Utf8Reason) (Nat × Bytes)
  | 0, _, _, code, rest => .ok (code, rest)
  | _ + 1, _, _, _, [] => .error (0, .cut)
  | count + 1, low, high, code, b :: rest =>
    if low ≤ b.toNat ∧ b.toNat ≤ high then
      match continuation? count 0x80 0xbf (code * 64 + b.toNat % 64) rest with
      | .ok r => .ok r
      | .error (good, reason) => .error (good + 1, reason)
    else .error (0, .continuation)

/-- Read characters from bytes, one leading byte at a time; `fuel` bounds their number. -/
def utf8Chars : (fuel position : Nat) → Bytes → Except Utf8Defect (List Char)
  | 0, _, _ => .ok []
  | _ + 1, _, [] => .ok []
  | fuel + 1, position, b :: rest =>
    match leadShape? b.toNat with
    | none => .error ⟨.start, position, [b]⟩
    | some (following, low, high) =>
      match continuation? following low high (leadBits following b.toNat) rest with
      | .error (good, reason) => .error ⟨reason, position, b :: rest.take good⟩
      | .ok (code, rest) =>
        (utf8Chars fuel (position + following + 1) rest).map (Char.ofNat code :: ·)

/-- Read text from UTF-8 bytes. -/
def fromUtf8 (bytes : Bytes) : Except Utf8Defect String :=
  (utf8Chars bytes.length 0 bytes).map String.ofList

/-- Read text from UTF-8 bytes, without the defect. -/
def fromUtf8? (bytes : Bytes) : Option String := (fromUtf8 bytes).toOption

/-- The defect in words. -/
def Utf8Defect.message (d : Utf8Defect) : String :=
  let reason := match d.reason with
    | .start => "invalid start byte"
    | .continuation => "invalid continuation byte"
    | .cut => "unexpected end of data"
  let head := "'utf-8' codec can't decode "
  match d.bytes with
  | [b] => s!"{head}byte 0x{toHex [b]} in position {d.position}: {reason}"
  | bytes =>
    s!"{head}bytes in position {d.position}-{d.position + bytes.length - 1}: {reason}"

end RuleBound.Text
