import EventScript.Loader
import EventScript.Proofs.Utf8

/-!
# Script files kept as text

Which files the loader takes for hexadecimal text, and what it answers to the others. White space is
deleted wherever it stands, also inside a digit pair or the mark; then there may be one mark, and
behind it there have to be the digits of the script, two for each byte.

## Bytes and characters

The grammar speaks of characters, but the decoder of digits sees the bytes of the text. Every digit
is an ASCII character, so if all bytes are digits, then they are the characters of the text
(`map_byteChar_encode`). If not, there is a first byte that is no digit, and it is that byte and its
index among the bytes, not among the characters, that the refusal names.

## The decoder

The digits are decoded by a library. `HexDecoder.Lawful` says what is relied on: which refusal comes
first, and what one digit pair in front of the others stands for. What a decoder makes of a whole
text follows from that pair by pair, so the loader accepts the same files with every lawful decoder.
The one of the program is lawful.
-/

namespace EventScript

namespace Text

/-! ## Digits -/

/-- A hexadecimal digit, in either case. -/
def IsHexDigit (c : Char) : Prop := ∃ n < 16, c.toLower = Nat.digitChar n

instance : DecidablePred IsHexDigit := fun _ ↦ inferInstanceAs (Decidable (∃ n < 16, _))

/-- What holds of each character in a range holds of a character between its ends. -/
theorem of_between {P : Char → Prop} {first last c : Char} (hfirst : first ≤ c) (hlast : c ≤ last)
    (hall : ∀ k < last.toNat - first.toNat + 1, P (Char.ofNat (first.toNat + k))) : P c := by
  have hfirst : first.toNat ≤ c.toNat := hfirst
  have hlast : c.toNat ≤ last.toNat := hlast
  have hc := hall (c.toNat - first.toNat) (by omega)
  rwa [Nat.add_sub_cancel' hfirst, Char.ofNat_toNat] at hc

theorem hexValue?_digitChar : ∀ n < 16, hexValue? (Nat.digitChar n) = some n := by
  decide

/-- The case of a letter makes no difference. -/
theorem hexValue?_toLower (c : Char) : hexValue? c.toLower = hexValue? c := by
  by_cases hupper : 'A' ≤ c ∧ c ≤ 'Z'
  · exact of_between (P := fun c ↦ hexValue? c.toLower = hexValue? c) hupper.1 hupper.2 (by decide)
  · have hsame : c.toLower = c := dif_neg hupper
    rw [hsame]

/-- **The value of a digit is the number that is written with it in lower case.** -/
theorem hexValue?_eq_some_iff {c : Char} {n : Nat} :
    hexValue? c = some n ↔ n < 16 ∧ c.toLower = Nat.digitChar n := by
  constructor
  · intro h
    rw [hexValue?] at h
    split_ifs at h with hdigit hlower hupper
    all_goals obtain rfl := Option.some.inj h
    · exact of_between (P := fun c ↦ c.toNat - '0'.toNat < 16 ∧
        c.toLower = Nat.digitChar (c.toNat - '0'.toNat)) hdigit.1 hdigit.2 (by decide)
    · exact of_between (P := fun c ↦ c.toNat - 'a'.toNat + 10 < 16 ∧
        c.toLower = Nat.digitChar (c.toNat - 'a'.toNat + 10)) hlower.1 hlower.2 (by decide)
    · exact of_between (P := fun c ↦ c.toNat - 'A'.toNat + 10 < 16 ∧
        c.toLower = Nat.digitChar (c.toNat - 'A'.toNat + 10)) hupper.1 hupper.2 (by decide)
  · rintro ⟨hn, hc⟩
    rw [← hexValue?_toLower, hc, hexValue?_digitChar n hn]

theorem isHexDigit_iff {c : Char} : IsHexDigit c ↔ ∃ n, hexValue? c = some n := by
  simp only [IsHexDigit, hexValue?_eq_some_iff]

theorem IsHexDigit.toNat_lt {c : Char} (h : IsHexDigit c) : c.toNat < 0x80 := by
  obtain ⟨n, hn⟩ := isHexDigit_iff.mp h
  have hle {last : Char} (hlast : c ≤ last) (hascii : last.toNat < 0x80) : c.toNat < 0x80 :=
    Nat.lt_of_le_of_lt hlast hascii
  rw [hexValue?] at hn
  split_ifs at hn with hdigit hlower hupper
  · exact hle hdigit.2 (by decide)
  · exact hle hlower.2 (by decide)
  · exact hle hupper.2 (by decide)

theorem toList_byteDigits (b : UInt8) :
    (byteDigits b).toList = [Nat.digitChar (b.toNat / 16), Nat.digitChar (b.toNat % 16)] := by
  have hb := b.toNat_lt
  have hhigh : b.toNat / 16 < 16 := by omega
  rcases Nat.lt_or_ge b.toNat 16 with h | h
  · rw [byteDigits, padLeft, hexDigits, Nat.toDigits_of_lt_base h, Nat.div_eq_of_lt h,
      Nat.mod_eq_of_lt h]
    simp
  · rw [byteDigits, padLeft, hexDigits, Nat.toDigits_of_base_le (by decide) h,
      Nat.toDigits_of_lt_base hhigh]
    simp

theorem toList_bytesDigits_cons (b : UInt8) (bs : List UInt8) :
    (bytesDigits (b :: bs)).toList =
      Nat.digitChar (b.toNat / 16) :: Nat.digitChar (b.toNat % 16) :: (bytesDigits bs).toList := by
  rw [bytesDigits, List.map_cons, String.join_cons, String.toList_append, toList_byteDigits]
  rfl

theorem length_toList_bytesDigits (bs : List UInt8) :
    (bytesDigits bs).toList.length = 2 * bs.length := by
  induction bs with
  | nil => rfl
  | cons b bs ih =>
    rw [toList_bytesDigits_cons, List.length_cons, List.length_cons, ih, List.length_cons]
    omega

theorem exists_of_mem_bytesDigits {bs : List UInt8} {c : Char} (h : c ∈ (bytesDigits bs).toList) :
    ∃ n < 16, c = Nat.digitChar n := by
  induction bs with
  | nil => cases h
  | cons b bs ih =>
    rw [toList_bytesDigits_cons, List.mem_cons, List.mem_cons] at h
    rcases h with rfl | rfl | h
    · exact ⟨_, Nat.div_lt_of_lt_mul b.toNat_lt, rfl⟩
    · exact ⟨_, Nat.mod_lt _ (by decide), rfl⟩
    · exact ih h

end Text

open Text Text.Utf8

/-! ## Digits of a byte string -/

/-- The digits of a byte string, in any mix of cases. -/
def Writes (digits : List Char) (bs : List UInt8) : Prop :=
  digits.map Char.toLower = (bytesDigits bs).toList

theorem writes_cons_cons_iff {high low : Char} {digits : List Char} {b : UInt8} {bs : List UInt8} :
    Writes (high :: low :: digits) (b :: bs) ↔
      hexValue? high = some (b.toNat / 16) ∧ hexValue? low = some (b.toNat % 16) ∧
        Writes digits bs := by
  have hhigh : b.toNat / 16 < 16 := Nat.div_lt_of_lt_mul b.toNat_lt
  have hlow : b.toNat % 16 < 16 := Nat.mod_lt _ (by decide)
  simp only [Writes, toList_bytesDigits_cons, List.map_cons, List.cons.injEq,
    hexValue?_eq_some_iff, hhigh, hlow, true_and]

namespace Writes

variable {digits : List Char} {bs : List UInt8}

theorem length_eq (h : Writes digits bs) : digits.length = 2 * bs.length := by
  rw [← length_toList_bytesDigits, ← h, List.length_map]

theorem isHexDigit (h : Writes digits bs) {c : Char} (hc : c ∈ digits) : IsHexDigit c := by
  have hlower : c.toLower ∈ (bytesDigits bs).toList := h ▸ List.mem_map_of_mem hc
  exact exists_of_mem_bytesDigits hlower

end Writes

theorem writes_pair {h l : Nat} {high low : Char} {digits : List Char} {bs : List UInt8}
    (hhigh : hexValue? high = some h) (hlow : hexValue? low = some l) (hdigits : Writes digits bs) :
    Writes (high :: low :: digits) (UInt8.ofNat (h * 16 + l) :: bs) := by
  have hh : h < 16 := (hexValue?_eq_some_iff.mp hhigh).1
  have hl : l < 16 := (hexValue?_eq_some_iff.mp hlow).1
  have hvalue : (UInt8.ofNat (h * 16 + l)).toNat = h * 16 + l := by
    rw [UInt8.toNat_ofNat', Nat.mod_eq_of_lt (by omega)]
  rw [writes_cons_cons_iff, hvalue, hhigh, hlow]
  refine ⟨congrArg some ?_, congrArg some ?_, hdigits⟩ <;> omega

/-- Digits that pair up are those of some byte string. -/
theorem exists_writes : ∀ {digits : List Char}, digits.length % 2 = 0 →
    (∀ c ∈ digits, IsHexDigit c) → ∃ bs, Writes digits bs
  | [], _, _ => ⟨[], rfl⟩
  | high :: low :: rest, heven, hdigits => by
    obtain ⟨hhigh, hlow, hrest⟩ : IsHexDigit high ∧ IsHexDigit low ∧ ∀ c ∈ rest, IsHexDigit c := by
      simpa using hdigits
    have heven : rest.length % 2 = 0 := by
      rw [List.length_cons, List.length_cons] at heven
      omega
    obtain ⟨h, hhigh⟩ := isHexDigit_iff.mp hhigh
    obtain ⟨l, hlow⟩ := isHexDigit_iff.mp hlow
    obtain ⟨bs, hwrites⟩ := exists_writes heven hrest
    exact ⟨_, writes_pair hhigh hlow hwrites⟩

/-! ## Decoders -/

namespace HexDecoder

/-- What is relied on of a decoder: an odd number of bytes is refused before anything else, and then
the first byte that is no digit; each digit pair stands for the byte that is written with it. -/
structure Lawful (hex : HexDecoder) : Prop where
  /-- An odd number of bytes is refused. -/
  odd : ∀ bytes, bytes.length % 2 = 1 → hex.decode bytes = .error .oddLength
  /-- Of an even number of bytes, the first that is no digit is refused with its index. -/
  bad : ∀ before byte after, (before ++ byte :: after).length % 2 = 0 →
    (∀ b ∈ before, IsHexDigit (byteChar b)) → ¬IsHexDigit (byteChar byte) →
    hex.decode (before ++ byte :: after) = .error (.badDigit byte before.length)
  /-- No digits stand for no bytes. -/
  nil : hex.decode [] = .ok []
  /-- A digit pair in front stands for a byte in front. -/
  pair : ∀ high low b rest bs, Writes [byteChar high, byteChar low] [b] → hex.decode rest = .ok bs →
    hex.decode (high :: low :: rest) = .ok (b :: bs)

namespace Lawful

variable {hex : HexDecoder} (hhex : hex.Lawful)

include hhex

theorem decode_of_writes {bytes bs : List UInt8} (h : Writes (bytes.map byteChar) bs) :
    hex.decode bytes = .ok bs := by
  -- Each byte of the result takes one digit pair off the front of the text.
  induction bs generalizing bytes with
  | nil =>
    have hlength := h.length_eq
    rw [List.length_map] at hlength
    rw [List.eq_nil_of_length_eq_zero hlength]
    exact hhex.nil
  | cons b bs ih =>
    have hlength := h.length_eq
    rw [List.length_map, List.length_cons, Nat.mul_succ] at hlength
    obtain ⟨high, low, rest, rfl⟩ : ∃ high low rest, bytes = high :: low :: rest := by
      match bytes, hlength with
      | high :: low :: rest, _ => exact ⟨high, low, rest, rfl⟩
    obtain ⟨hhigh, hlow, hrest⟩ := writes_cons_cons_iff.mp h
    have hpair : Writes [byteChar high, byteChar low] [b] :=
      writes_cons_cons_iff.mpr ⟨hhigh, hlow, rfl⟩
    exact hhex.pair high low b rest bs hpair (ih hrest)

/-- **Digits that pair up are decoded as the bytes that are written with them**, or else the first
byte that is no digit is refused. -/
theorem decode_cases {bytes : List UInt8} (heven : bytes.length % 2 = 0) :
    (∃ bs, hex.decode bytes = .ok bs ∧ Writes (bytes.map byteChar) bs) ∨
      ∃ before byte after, bytes = before ++ byte :: after ∧
        (∀ b ∈ before, IsHexDigit (byteChar b)) ∧ ¬IsHexDigit (byteChar byte) ∧
        hex.decode bytes = .error (.badDigit byte before.length) := by
  rcases hfound : bytes.find? fun b ↦ ¬IsHexDigit (byteChar b) with _ | byte
  · have hdigits : ∀ c ∈ bytes.map byteChar, IsHexDigit c := by simpa using hfound
    obtain ⟨bs, hwrites⟩ := exists_writes (by rwa [List.length_map]) hdigits
    exact .inl ⟨bs, hhex.decode_of_writes hwrites, hwrites⟩
  · obtain ⟨hbyte, before, after, rfl, hbefore⟩ := List.find?_eq_some_iff_append.mp hfound
    have hbefore : ∀ b ∈ before, IsHexDigit (byteChar b) := by simpa using hbefore
    have hbyte : ¬IsHexDigit (byteChar byte) := of_decide_eq_true hbyte
    exact .inr ⟨before, byte, after, rfl, hbefore, hbyte, hhex.bad _ _ _ heven hbefore hbyte⟩

/-- **The bytes of a text are decoded as a byte string exactly if the text consists of its digits.**
Bytes of characters that are not ASCII are never digits, so there is no other way to get digits. -/
theorem decode_encode_eq_ok_iff {digits : List Char} {bs : List UInt8} :
    hex.decode (encode (String.ofList digits)) = .ok bs ↔ Writes digits bs := by
  constructor
  · intro h
    by_cases hodd : (encode (String.ofList digits)).length % 2 = 1
    · rw [hhex.odd _ hodd] at h
      cases h
    rcases hhex.decode_cases (Nat.mod_two_ne_one.mp hodd) with
      ⟨bs', hbs, hwrites⟩ | ⟨before, byte, after, -, -, -, herror⟩
    · obtain rfl : bs' = bs := Except.ok.inj (hbs.symm.trans h)
      have hascii : ∀ b ∈ encode (String.ofList digits), b.toNat < 0x80 := fun b hb ↦ by
        rw [← toNat_byteChar]
        exact (hwrites.isHexDigit (List.mem_map_of_mem hb)).toNat_lt
      rwa [map_byteChar_encode hascii] at hwrites
    · rw [herror] at h
      cases h
  · intro h
    have hascii := encode_ascii fun c hc ↦ (h.isHexDigit hc).toNat_lt
    rw [← map_byteChar_encode hascii] at h
    exact hhex.decode_of_writes h

end Lawful

end HexDecoder

/-! ## The decoder of the program -/

theorem hexByte_eq_ok_iff {index value : Nat} {b : UInt8} :
    hexByte index b = .ok value ↔ hexValue? (byteChar b) = some value := by
  rw [hexByte, byteChar]
  cases hexValue? (Char.ofNat b.toNat) with
  | none => simp only [reduceCtorEq]
  | some other => rw [Except.ok.injEq, Option.some.injEq]

theorem hexByte_of_not_isHexDigit {b : UInt8} (h : ¬IsHexDigit (byteChar b)) (index : Nat) :
    hexByte index b = .error (.badDigit b index) := by
  rw [isHexDigit_iff, not_exists] at h
  have hnone : hexValue? (byteChar b) = none := Option.eq_none_iff_forall_ne_some.mpr h
  rw [byteChar] at hnone
  rw [hexByte, hnone]

section pair

variable (index : Nat) {h l : Nat} {high low : UInt8} (rest : List UInt8)

theorem hexPairs_of_bad_high (hhigh : ¬IsHexDigit (byteChar high)) :
    hexPairs index (high :: low :: rest) = .error (.badDigit high index) := by
  rw [hexPairs, hexByte_of_not_isHexDigit hhigh]
  rfl

theorem hexPairs_of_bad_low (hhigh : IsHexDigit (byteChar high))
    (hlow : ¬IsHexDigit (byteChar low)) :
    hexPairs index (high :: low :: rest) = .error (.badDigit low (index + 1)) := by
  obtain ⟨h, hhigh⟩ := isHexDigit_iff.mp hhigh
  rw [hexPairs, hexByte_eq_ok_iff.mpr hhigh, hexByte_of_not_isHexDigit hlow]
  rfl

theorem hexPairs_of_digits (hhigh : hexValue? (byteChar high) = some h)
    (hlow : hexValue? (byteChar low) = some l) :
    hexPairs index (high :: low :: rest) =
      (UInt8.ofNat (h * 16 + l) :: ·) <$> hexPairs (index + 2) rest := by
  rw [hexPairs, hexByte_eq_ok_iff.mpr hhigh, hexByte_eq_ok_iff.mpr hlow]
  rfl

end pair

/-- The index matters to refusals only. -/
theorem hexPairs_eq_ok {index : Nat} {bytes bs : List UInt8} (h : hexPairs index bytes = .ok bs)
    (other : Nat) : hexPairs other bytes = .ok bs := by
  induction index, bytes using hexPairs.induct generalizing other bs with
  | case1 index high low rest ih =>
    by_cases hhigh : IsHexDigit (byteChar high)
    case neg =>
      rw [hexPairs_of_bad_high index rest hhigh] at h
      cases h
    by_cases hlow : IsHexDigit (byteChar low)
    case neg =>
      rw [hexPairs_of_bad_low index rest hhigh hlow] at h
      cases h
    obtain ⟨_, hhigh⟩ := isHexDigit_iff.mp hhigh
    obtain ⟨_, hlow⟩ := isHexDigit_iff.mp hlow
    rw [hexPairs_of_digits _ rest hhigh hlow] at h ⊢
    rcases hrest : hexPairs (index + 2) rest with e | bytes
    · rw [hrest] at h
      cases h
    · rw [ih hrest, ← hrest]
      exact h
  | case2 index bytes hshort =>
    rw [hexPairs] at h ⊢
    · exact h
    · exact hshort
    · exact hshort

theorem hexPairs_of_bad {byte : UInt8} {after : List UInt8} (hbyte : ¬IsHexDigit (byteChar byte)) :
    ∀ (before : List UInt8) (index : Nat), (before ++ byte :: after).length % 2 = 0 →
      (∀ b ∈ before, IsHexDigit (byteChar b)) →
      hexPairs index (before ++ byte :: after) = .error (.badDigit byte (index + before.length))
  | [], index, heven, _ => by
    rcases after with _ | ⟨low, rest⟩
    · cases heven
    · exact hexPairs_of_bad_high index rest hbyte
  | [high], index, _, hbefore =>
    hexPairs_of_bad_low index after (hbefore high List.mem_cons_self) hbyte
  | high :: low :: before, index, heven, hbefore => by
    obtain ⟨hhigh, hlow, hbefore⟩ : IsHexDigit (byteChar high) ∧ IsHexDigit (byteChar low) ∧
        ∀ b ∈ before, IsHexDigit (byteChar b) := by simpa using hbefore
    obtain ⟨_, hhigh⟩ := isHexDigit_iff.mp hhigh
    obtain ⟨_, hlow⟩ := isHexDigit_iff.mp hlow
    have heven : (before ++ byte :: after).length % 2 = 0 := by
      rw [List.cons_append, List.cons_append, List.length_cons, List.length_cons] at heven
      omega
    have hindex : index + (high :: low :: before).length = index + 2 + before.length := by
      rw [List.length_cons, List.length_cons]
      omega
    -- The rest is decoded with the index of its first byte, so its refusal names the right one.
    rw [List.cons_append, List.cons_append, hexPairs_of_digits index _ hhigh hlow,
      hexPairs_of_bad hbyte before (index + 2) heven hbefore, hindex]
    rfl

theorem decodeHex_of_odd {bytes : List UInt8} (h : bytes.length % 2 = 1) :
    decodeHex bytes = .error .oddLength := by
  rw [decodeHex, if_pos h]

theorem decodeHex_of_even {bytes : List UInt8} (h : bytes.length % 2 = 0) :
    decodeHex bytes = hexPairs 0 bytes := by
  rw [decodeHex, if_neg (by rw [h]; decide)]

theorem HexDecoder.lawful_standard : HexDecoder.standard.Lawful where
  odd _ h := decodeHex_of_odd h
  bad before byte after heven hbefore hbyte := by
    change decodeHex _ = _
    rw [decodeHex_of_even heven, hexPairs_of_bad hbyte before 0 heven hbefore, Nat.zero_add]
  nil := rfl
  pair high low b rest bs hpair hrest := by
    change decodeHex _ = _ at hrest ⊢
    have heven : rest.length % 2 = 0 := by
      refine Nat.mod_two_ne_one.mp fun hodd ↦ ?_
      rw [decodeHex_of_odd hodd] at hrest
      cases hrest
    rw [decodeHex_of_even heven] at hrest
    obtain ⟨hhigh, hlow, -⟩ := writes_cons_cons_iff.mp hpair
    rw [decodeHex_of_even (by rw [List.length_cons, List.length_cons]; omega),
      hexPairs_of_digits 0 rest hhigh hlow, hexPairs_eq_ok hrest, Nat.div_add_mod',
      UInt8.ofNat_toNat]
    rfl

/-! ## The grammar of a script file -/

/-- The marks that may stand in front of the digits. -/
def hexMarks : List (List Char) := [['0', 'x'], ['0', 'X']]

theorem mem_hexMarks_iff {mark : List Char} :
    mark ∈ hexMarks ↔ mark = ['0', 'x'] ∨ mark = ['0', 'X'] := by
  simp [hexMarks]

/-- The text without its white space. -/
def unblanked (text : String) : List Char := text.toList.filter fun c ↦ !isBlank c

/-- What a text without white space says: behind a mark, or without one, there are the digits of a
byte string. -/
def IsHexText (cs : List Char) (bs : List UInt8) : Prop :=
  ∃ mark digits, (mark = [] ∨ mark ∈ hexMarks) ∧ cs = mark ++ digits ∧ Writes digits bs

/-- What is left of a text is what stands behind the mark with which it begins, or all of it. -/
def IsBehindMark (mark body : List Char) : Prop :=
  mark ∈ hexMarks ∨ mark = [] ∧ ∀ other ∈ hexMarks, ¬other <+: body

theorem exists_mark (text : String) :
    ∃ mark, IsBehindMark mark (hexBody text) ∧ unblanked text = mark ++ hexBody text := by
  rw [hexBody, ← unblanked]
  split
  case h_1 rest heq => exact ⟨['0', 'x'], .inl (by decide), heq⟩
  case h_2 rest heq => exact ⟨['0', 'X'], .inl (by decide), heq⟩
  case h_3 hlower hupper =>
    refine ⟨[], .inr ⟨rfl, ?_⟩, rfl⟩
    rintro other hother ⟨rest, hrest⟩
    rcases mem_hexMarks_iff.mp hother with rfl | rfl
    · exact hlower rest hrest.symm
    · exact hupper rest hrest.symm

theorem Writes.notMem_hexMarks {mark digits : List Char} {bs : List UInt8}
    (h : Writes (mark ++ digits) bs) : mark ∉ hexMarks := by
  intro hmark
  rcases mem_hexMarks_iff.mp hmark with rfl | rfl
  · exact absurd (h.isHexDigit (c := 'x') (by simp)) (by decide)
  · exact absurd (h.isHexDigit (c := 'X') (by simp)) (by decide)

theorem writes_hexBody_iff {text : String} {bs : List UInt8} :
    Writes (hexBody text) bs ↔ IsHexText (unblanked text) bs := by
  obtain ⟨mark, hmark, hbody⟩ := exists_mark text
  constructor
  · intro h
    exact ⟨mark, hexBody text, hmark.symm.imp And.left id, hbody, h⟩
  · rintro ⟨mark', digits, rfl | hmark', heq, h⟩
    · -- Digits never begin with a mark, so the loader deletes none.
      rw [List.nil_append] at heq
      rcases hmark with hmark | ⟨rfl, -⟩
      · rw [← heq, hbody] at h
        exact absurd hmark h.notMem_hexMarks
      · rw [List.nil_append, heq] at hbody
        rwa [← hbody]
    · have hdigits : hexBody text = digits := by
        rw [hexBody, ← unblanked, heq]
        rcases mem_hexMarks_iff.mp hmark' with rfl | rfl <;> rfl
      rwa [hdigits]

/-! ## Loading -/

section load

variable {files : Files} {path : String} {hex : HexDecoder}

theorem loadScript_of_text {text : String} (h : files.read path = .ok (encode text)) :
    files.loadScript path true hex =
      (hex.decode (encode (String.ofList (hexBody text)))).mapError (.notHex path) := by
  have hdecode : decode (encode text) = .ok text := decode_eq_ok_iff.mpr rfl
  rw [Files.loadScript, h]
  simp only [Except.mapError, bind, Except.bind, hdecode, if_true]

theorem loadScript_of_notText {content : List UInt8} {reason : Malformed}
    (h : files.read path = .ok content) (htext : decode content = .error reason) :
    files.loadScript path true hex = .error (.notText path reason) := by
  rw [Files.loadScript, h]
  simp only [Except.mapError, bind, Except.bind, htext, if_true]

theorem mapError_eq_ok_iff {α β γ : Type} {f : α → β} {x : Except α γ} {c : γ} :
    x.mapError f = .ok c ↔ x = .ok c := by
  cases x with
  | error e => exact ⟨nofun, nofun⟩
  | ok a => simp only [Except.mapError, Except.ok.injEq]

variable (hhex : hex.Lawful)

include hhex

theorem loadScript_eq_ok_iff {content bs : List UInt8} (h : files.read path = .ok content) :
    files.loadScript path true hex = .ok bs ↔
      ∃ text, content = encode text ∧ IsHexText (unblanked text) bs := by
  constructor
  · intro hload
    cases hdecode : decode content with
    | error reason =>
      rw [loadScript_of_notText h hdecode] at hload
      cases hload
    | ok text =>
      obtain rfl := decode_eq_ok_iff.mp hdecode
      rw [loadScript_of_text h, mapError_eq_ok_iff, hhex.decode_encode_eq_ok_iff,
        writes_hexBody_iff] at hload
      exact ⟨text, rfl, hload⟩
  · rintro ⟨text, rfl, htext⟩
    rwa [loadScript_of_text h, mapError_eq_ok_iff, hhex.decode_encode_eq_ok_iff,
      writes_hexBody_iff]

/-- **Exactly the files that are text and say a byte string are loaded.** A text that says none is
refused for the odd number of bytes behind the mark, whatever else is wrong with it, or else for the
first byte behind the mark that is no digit. -/
theorem hex_loader_accepts_its_grammar {content : List UInt8} (h : files.read path = .ok content) :
    (∀ bs, files.loadScript path true hex = .ok bs ↔
      ∃ text, content = encode text ∧ IsHexText (unblanked text) bs) ∧
    ∀ text, content = encode text → (∀ bs, ¬IsHexText (unblanked text) bs) →
      ∃ mark body, IsBehindMark mark body ∧ unblanked text = mark ++ body ∧
        if (encode (String.ofList body)).length % 2 = 1 then
          files.loadScript path true hex = .error (.notHex path .oddLength)
        else
          ∃ before byte after, encode (String.ofList body) = before ++ byte :: after ∧
            (∀ b ∈ before, IsHexDigit (byteChar b)) ∧ ¬IsHexDigit (byteChar byte) ∧
            files.loadScript path true hex =
              .error (.notHex path (.badDigit byte before.length)) := by
  refine ⟨fun bs ↦ loadScript_eq_ok_iff hhex h, ?_⟩
  rintro text rfl hnone
  obtain ⟨mark, hmark, hbody⟩ := exists_mark text
  refine ⟨mark, hexBody text, hmark, hbody, ?_⟩
  rw [loadScript_of_text h]
  split
  case isTrue hodd =>
    rw [hhex.odd _ hodd]
    rfl
  case isFalse heven =>
    rcases hhex.decode_cases (Nat.mod_two_ne_one.mp heven) with
      ⟨bs, hbs, -⟩ | ⟨before, byte, after, hsplit, hbefore, hbyte, herror⟩
    · rw [hhex.decode_encode_eq_ok_iff, writes_hexBody_iff] at hbs
      exact absurd hbs (hnone bs)
    · refine ⟨before, byte, after, hsplit, hbefore, hbyte, ?_⟩
      rw [herror]
      rfl

end load

/-- A mark and a digit pair are broken by white space, and the cases are mixed. In the second file
the white space before the letter does not count. -/
theorem hex_loader_accepts_its_grammar_spaced :
    (Files.mk fun _ ↦ .ok [0x30, 0x20, 0x58, 0x34, 0x0a, 0x66, 0x41, 0x30]).loadScript "a" true =
        .ok [0x4f, 0xa0] ∧
      (Files.mk fun _ ↦ .ok [0x30, 0x20, 0x7a]).loadScript "a" true =
        .error (.notHex "a" (.badDigit 0x7a 1)) := by
  have hread (bytes : List UInt8) : (Files.mk fun _ ↦ .ok bytes).read "a" = .ok bytes := rfl
  refine ⟨?_, ?_⟩
  · refine ((hex_loader_accepts_its_grammar HexDecoder.lawful_standard (hread _)).1 _).mpr
      ⟨String.ofList ['0', ' ', 'X', '4', '\n', 'f', 'A', '0'], decode_eq_ok_iff.mp rfl,
        ['0', 'X'], ['4', 'f', 'A', '0'], by decide, ?_, ?_⟩
    · rw [unblanked, String.toList_ofList]
      decide
    · rw [Writes]
      decide
  · have htext : unblanked (String.ofList ['0', ' ', 'z']) = ['0', 'z'] := by
      rw [unblanked, String.toList_ofList]
      decide
    have hnone : ∀ bs, ¬IsHexText (unblanked (String.ofList ['0', ' ', 'z'])) bs := by
      rw [htext]
      rintro bs ⟨mark, digits, rfl | hmark, heq, hwrites⟩
      · cases heq
        exact absurd (hwrites.isHexDigit (c := 'z') (by decide)) (by decide)
      · rcases mem_hexMarks_iff.mp hmark with rfl | rfl <;> cases heq
    obtain ⟨mark, body, hmark, hbody, hload⟩ :=
      (hex_loader_accepts_its_grammar HexDecoder.lawful_standard (hread [0x30, 0x20, 0x7a])).2
        (String.ofList ['0', ' ', 'z']) (decode_eq_ok_iff.mp rfl) hnone
    obtain rfl : body = ['0', 'z'] := by
      rw [htext] at hbody
      rcases hmark with hmark | ⟨rfl, -⟩
      · rcases mem_hexMarks_iff.mp hmark with rfl | rfl <;> cases hbody
      · exact hbody.symm
    have hencode : encode (String.ofList ['0', 'z']) = [0x30, 0x7a] := encode_ofList _
    rw [hencode, if_neg (by decide)] at hload
    obtain ⟨before, byte, after, hsplit, hbefore, hbyte, hload⟩ := hload
    match before, hsplit with
    | [], hsplit =>
      cases hsplit
      exact absurd (by decide) hbyte
    | [_], hsplit =>
      cases hsplit
      exact hload
    | _ :: _ :: rest, hsplit =>
      have hlength := congrArg List.length hsplit
      simp at hlength

end EventScript
