/-!
# UTF-8 text

Files are byte strings; a file read as text has to be well-formed UTF-8. A refusal names the byte
where the well-formed part ends and, unless the text merely stops too early, how many bytes from
there on cannot begin any character.
-/

namespace EventScript.Text.Utf8

/-- Where and how a byte string fails to be text. -/
structure Malformed where
  /-- The number of bytes before the failure, all of which are text. -/
  validUpTo : Nat
  /-- The length of the offending sequence; `none` if the bytes end inside a character. -/
  badLength : Option Nat
  deriving DecidableEq

/-- The wording of a refusal. -/
def Malformed.message (e : Malformed) : String :=
  match e.badLength with
  | some n => s!"invalid utf-8 sequence of {n} bytes from index {e.validUpTo}"
  | none => s!"incomplete utf-8 byte sequence from index {e.validUpTo}"

/-- How many bytes follow a first byte, and the range of the one right after it. The narrower ranges
leave out overlong forms, surrogates and numbers beyond the last code point. -/
def follow? (first : Nat) : Option (Nat × Nat × Nat) :=
  if first < 0xc2 then none
  else if first < 0xe0 then some (1, 0x80, 0xbf)
  else if first = 0xe0 then some (2, 0xa0, 0xbf)
  else if first = 0xed then some (2, 0x80, 0x9f)
  else if first < 0xf0 then some (2, 0x80, 0xbf)
  else if first = 0xf0 then some (3, 0x90, 0xbf)
  else if first < 0xf4 then some (3, 0x80, 0xbf)
  else if first = 0xf4 then some (3, 0x80, 0x8f)
  else none

/-- The payload of a byte after the first one. -/
def tail (b : UInt8) : Nat := b.toNat % 64

/-- A byte that may stand third or fourth. -/
def isTail (b : UInt8) : Bool := 0x80 ≤ b.toNat && b.toNat ≤ 0xbf

/-- The characters of a byte string, the first of whose bytes has the given index. -/
def decodeFrom (index : Nat) : List UInt8 → Except Malformed (List Char)
  | [] => .ok []
  | b :: rest =>
    if b.toNat < 0x80 then (Char.ofNat b.toNat :: ·) <$> decodeFrom (index + 1) rest
    else match follow? b.toNat, rest with
      | none, _ => .error ⟨index, some 1⟩
      | some _, [] => .error ⟨index, none⟩
      | some (more, low, high), b₁ :: rest₁ =>
        if b₁.toNat < low ∨ high < b₁.toNat then .error ⟨index, some 1⟩
        else if more = 1 then
          (Char.ofNat (b.toNat % 32 * 64 + tail b₁) :: ·) <$> decodeFrom (index + 2) rest₁
        else match rest₁ with
          | [] => .error ⟨index, none⟩
          | b₂ :: rest₂ =>
            if !isTail b₂ then .error ⟨index, some 2⟩
            else if more = 2 then
              (Char.ofNat ((b.toNat % 16 * 64 + tail b₁) * 64 + tail b₂) :: ·) <$>
                decodeFrom (index + 3) rest₂
            else match rest₂ with
              | [] => .error ⟨index, none⟩
              | b₃ :: rest₃ =>
                if !isTail b₃ then .error ⟨index, some 3⟩
                else
                  (Char.ofNat (((b.toNat % 8 * 64 + tail b₁) * 64 + tail b₂) * 64 + tail b₃) :: ·)
                    <$> decodeFrom (index + 4) rest₃

/-- The text of a byte string. -/
def decode (bytes : List UInt8) : Except Malformed String :=
  String.ofList <$> decodeFrom 0 bytes

/-- The bytes of a text. -/
def encode (text : String) : List UInt8 := text.toUTF8.toList

/-! ## Positions counted in bytes -/

/-- The number of bytes of a text. -/
def size : List Char → Nat
  | [] => 0
  | c :: cs => c.utf8Size + size cs

/-- What is left after a number of bytes; `none` if no character ends there. -/
def dropBytes : Nat → List Char → Option (List Char)
  | 0, cs => some cs
  | _ + 1, [] => none
  | n + 1, c :: cs => if c.utf8Size ≤ n + 1 then dropBytes (n + 1 - c.utf8Size) cs else none

/-- The text of the first bytes; `none` if no character ends there. -/
def takeBytes : Nat → List Char → Option (List Char)
  | 0, _ => some []
  | _ + 1, [] => none
  | n + 1, c :: cs =>
    if c.utf8Size ≤ n + 1 then (c :: ·) <$> takeBytes (n + 1 - c.utf8Size) cs else none

/-- The text between two positions; `none` if one of them lies inside a character. -/
def cut (start stop : Nat) (cs : List Char) : Option (List Char) :=
  dropBytes start cs >>= takeBytes (stop - start)

end EventScript.Text.Utf8
