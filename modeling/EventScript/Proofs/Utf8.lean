import Mathlib.Tactic.SplitIfs
import EventScript.Text.Utf8

/-!
# Text and its bytes

A byte string is read as text exactly if it is the bytes of that text: the decoder accepts the bytes
of every text, and what it accepts are the bytes of what it makes of them.

Both directions go through the sequences of bytes that stand for one character (`CharBytes`): they
are what the decoder takes off the front, and there is exactly one for each character, which is its
encoding.
-/

namespace EventScript.Text.Utf8

/-! ## The bytes of a text -/

theorem toList_loop (bytes : ByteArray) (i : Nat) (acc : List UInt8) :
    ByteArray.toList.loop bytes i acc = acc.reverse ++ bytes.data.toList.drop i := by
  fun_induction ByteArray.toList.loop bytes i acc with
  | case1 i acc hi ih =>
    have hlength : i < bytes.data.toList.length := hi
    have hget : bytes.get! i = bytes.data.toList[i] := by
      rw [Array.getElem_toList]
      exact getElem!_pos bytes.data i hi
    rw [ih, hget, List.reverse_cons, List.append_assoc, List.singleton_append,
      ← List.drop_eq_getElem_cons hlength]
  | case2 i acc hi =>
    have hlength : bytes.data.toList.length ≤ i := Nat.le_of_not_lt hi
    rw [List.drop_of_length_le hlength, List.append_nil]

theorem encode_ofList (cs : List Char) :
    encode (String.ofList cs) = cs.flatMap String.utf8EncodeChar := by
  rw [encode, ByteArray.toList, toList_loop, List.drop_zero, String.toUTF8_eq_toByteArray,
    String.toByteArray_ofList, List.utf8Encode, List.toList_data_toByteArray]
  rfl

/-! ## The bytes of a character -/

/-- The sequences of bytes that stand for a character. Overlong forms, surrogates and numbers beyond
the last code point are left out by what may follow four of the first bytes. -/
inductive CharBytes : List UInt8 → Char → Prop where
  /-- An ASCII character. -/
  | one {b : UInt8} (h : b.toNat < 0x80) : CharBytes [b] (Char.ofNat b.toNat)
  /-- Two bytes. -/
  | two {b b₁ : UInt8} (h : 0xc2 ≤ b.toNat ∧ b.toNat < 0xe0) (h₁ : isTail b₁) :
    CharBytes [b, b₁] (Char.ofNat (b.toNat % 32 * 64 + tail b₁))
  /-- Three bytes. -/
  | three {b b₁ b₂ : UInt8} (h : 0xe0 ≤ b.toNat ∧ b.toNat < 0xf0) (h₁ : isTail b₁) (h₂ : isTail b₂)
    (overlong : b.toNat = 0xe0 → 0xa0 ≤ b₁.toNat) (surrogate : b.toNat = 0xed → b₁.toNat < 0xa0) :
    CharBytes [b, b₁, b₂] (Char.ofNat ((b.toNat % 16 * 64 + tail b₁) * 64 + tail b₂))
  /-- Four bytes. -/
  | four {b b₁ b₂ b₃ : UInt8} (h : 0xf0 ≤ b.toNat ∧ b.toNat < 0xf5) (h₁ : isTail b₁)
    (h₂ : isTail b₂) (h₃ : isTail b₃) (overlong : b.toNat = 0xf0 → 0x90 ≤ b₁.toNat)
    (beyond : b.toNat = 0xf4 → b₁.toNat < 0x90) :
    CharBytes [b, b₁, b₂, b₃]
      (Char.ofNat (((b.toNat % 8 * 64 + tail b₁) * 64 + tail b₂) * 64 + tail b₃))

theorem isTail_iff {b : UInt8} : isTail b = true ↔ 0x80 ≤ b.toNat ∧ b.toNat < 0xc0 := by
  rw [isTail, Bool.and_eq_true, decide_eq_true_iff, decide_eq_true_iff]
  omega

theorem toNat_ofNat {n : Nat} (h : n.isValidChar) : (Char.ofNat n).toNat = n := by
  rw [Char.ofNat, dif_pos h]
  rfl

/-- The encoding of a character, with its payload cut from the right. -/
theorem utf8EncodeChar_eq (c : Char) :
    String.utf8EncodeChar c =
      if c.toNat < 0x80 then [UInt8.ofNat c.toNat]
      else if c.toNat < 0x800 then
        [UInt8.ofNat (c.toNat / 64 + 0xc0), UInt8.ofNat (c.toNat % 64 + 0x80)]
      else if c.toNat < 0x10000 then
        [UInt8.ofNat (c.toNat / 64 / 64 + 0xe0), UInt8.ofNat (c.toNat / 64 % 64 + 0x80),
          UInt8.ofNat (c.toNat % 64 + 0x80)]
      else
        [UInt8.ofNat (c.toNat / 64 / 64 / 64 + 0xf0), UInt8.ofNat (c.toNat / 64 / 64 % 64 + 0x80),
          UInt8.ofNat (c.toNat / 64 % 64 + 0x80), UInt8.ofNat (c.toNat % 64 + 0x80)] := by
  have hvalid : c.toNat < 0xd800 ∨ 0xdfff < c.toNat ∧ c.toNat < 0x110000 := c.valid
  have hdiv : c.toNat / 4096 = c.toNat / 64 / 64 := (Nat.div_div_eq_div_mul _ 64 64).symm
  have hdiv' : c.toNat / 262144 = c.toNat / 64 / 64 / 64 := by
    rw [← hdiv, Nat.div_div_eq_div_mul]
  have hvalue : c.val.toNat = c.toNat := rfl
  rw [String.utf8EncodeChar, hvalue, hdiv, hdiv']
  by_cases hone : c.toNat < 0x80
  · rw [if_pos hone, if_pos (Nat.le_of_lt_succ hone)]
  rw [if_neg hone, if_neg (by omega)]
  by_cases htwo : c.toNat < 0x800
  · rw [if_pos htwo, if_pos (Nat.le_of_lt_succ htwo), Nat.mod_eq_of_lt (b := 32) (by omega)]
  rw [if_neg htwo, if_neg (by omega)]
  by_cases hthree : c.toNat < 0x10000
  · rw [if_pos hthree, if_pos (Nat.le_of_lt_succ hthree), Nat.mod_eq_of_lt (b := 16) (by omega)]
  · rw [if_neg hthree, if_neg (by omega), Nat.mod_eq_of_lt (b := 8) (by omega)]

theorem ofNat_byte_eq {n : Nat} {b : UInt8} (h : n = b.toNat) : UInt8.ofNat n = b := by
  rw [h, UInt8.ofNat_toNat]

theorem CharBytes.utf8EncodeChar_eq {bytes : List UInt8} {c : Char} (h : CharBytes bytes c) :
    String.utf8EncodeChar c = bytes := by
  rw [Utf8.utf8EncodeChar_eq]
  cases h with
  | one h =>
    rw [toNat_ofNat (Or.inl (by omega)), if_pos h, UInt8.ofNat_toNat]
  | @two b b₁ h h₁ =>
    rw [isTail_iff] at h₁
    generalize hn : b.toNat % 32 * 64 + tail b₁ = n
    rw [tail] at hn
    rw [toNat_ofNat (Or.inl (by omega)), if_neg (by omega), if_pos (by omega),
      ofNat_byte_eq (b := b) (by omega), ofNat_byte_eq (b := b₁) (by omega)]
  | @three b b₁ b₂ h h₁ h₂ overlong surrogate =>
    -- The first two bytes alone decide whether the number is too small or a surrogate.
    rw [isTail_iff] at h₁ h₂
    generalize hn : (b.toNat % 16 * 64 + tail b₁) * 64 + tail b₂ = n
    rw [tail, tail] at hn
    have hvalid : n.isValidChar := by
      rw [Nat.isValidChar]
      omega
    rw [toNat_ofNat hvalid, if_neg (by omega), if_neg (by omega), if_pos (by omega),
      ofNat_byte_eq (b := b) (by omega), ofNat_byte_eq (b := b₁) (by omega),
      ofNat_byte_eq (b := b₂) (by omega)]
  | @four b b₁ b₂ b₃ h h₁ h₂ h₃ overlong beyond =>
    rw [isTail_iff] at h₁ h₂ h₃
    generalize hn : ((b.toNat % 8 * 64 + tail b₁) * 64 + tail b₂) * 64 + tail b₃ = n
    rw [tail, tail, tail] at hn
    have hvalid : n.isValidChar := by
      rw [Nat.isValidChar]
      omega
    rw [toNat_ofNat hvalid, if_neg (by omega), if_neg (by omega), if_neg (by omega),
      ofNat_byte_eq (b := b) (by omega), ofNat_byte_eq (b := b₁) (by omega),
      ofNat_byte_eq (b := b₂) (by omega), ofNat_byte_eq (b := b₃) (by omega)]

theorem CharBytes.of_toNat {bytes : List UInt8} {n : Nat} {c : Char}
    (h : CharBytes bytes (Char.ofNat n)) (hn : n = c.toNat) : CharBytes bytes c := by
  rwa [hn, Char.ofNat_toNat] at h

theorem charBytes_utf8EncodeChar (c : Char) : CharBytes (String.utf8EncodeChar c) c := by
  have hvalid : c.toNat < 0xd800 ∨ 0xdfff < c.toNat ∧ c.toNat < 0x110000 := c.valid
  rw [utf8EncodeChar_eq]
  split_ifs with hone htwo hthree
  · refine .of_toNat (.one ?_) ?_ <;> rw [UInt8.toNat_ofNat'] <;> omega
  · refine .of_toNat (.two ?_ ?_) ?_ <;> simp only [isTail_iff, tail, UInt8.toNat_ofNat'] <;> omega
  · refine .of_toNat (.three ?_ ?_ ?_ ?_ ?_) ?_ <;>
      simp only [isTail_iff, tail, UInt8.toNat_ofNat'] <;> omega
  · refine .of_toNat (.four ?_ ?_ ?_ ?_ ?_ ?_) ?_ <;>
      simp only [isTail_iff, tail, UInt8.toNat_ofNat'] <;> omega

/-! ## Decoding -/

/-- The first byte announces how many follow. -/
theorem follow?_two {first : Nat} (h : 0xc2 ≤ first ∧ first < 0xe0) :
    follow? first = some (1, 0x80, 0xbf) := by
  grind [follow?]

theorem follow?_three {first : Nat} (h : 0xe0 ≤ first ∧ first < 0xf0) :
    follow? first =
      some (2, if first = 0xe0 then 0xa0 else 0x80, if first = 0xed then 0x9f else 0xbf) := by
  grind [follow?]

theorem follow?_four {first : Nat} (h : 0xf0 ≤ first ∧ first < 0xf5) :
    follow? first =
      some (3, if first = 0xf0 then 0x90 else 0x80, if first = 0xf4 then 0x8f else 0xbf) := by
  grind [follow?]

theorem follow?_none {first : Nat} (h : first < 0xc2 ∨ 0xf5 ≤ first) : follow? first = none := by
  grind [follow?]

theorem of_follow? {first more low high : Nat} (h : follow? first = some (more, low, high)) :
    0x80 ≤ low ∧ high < 0xc0 ∧
      (more = 1 ∧ 0xc2 ≤ first ∧ first < 0xe0 ∨
        more = 2 ∧ 0xe0 ≤ first ∧ first < 0xf0 ∧ (first = 0xe0 → low = 0xa0) ∧
          (first = 0xed → high = 0x9f) ∨
        more = 3 ∧ 0xf0 ≤ first ∧ first < 0xf5 ∧ (first = 0xf0 → low = 0x90) ∧
          (first = 0xf4 → high = 0x8f)) := by
  by_cases htwo : 0xc2 ≤ first ∧ first < 0xe0
  · rw [follow?_two htwo] at h
    cases h
    omega
  by_cases hthree : 0xe0 ≤ first ∧ first < 0xf0
  · rw [follow?_three hthree] at h
    cases h
    split_ifs <;> omega
  by_cases hfour : 0xf0 ≤ first ∧ first < 0xf5
  · rw [follow?_four hfour] at h
    cases h
    split_ifs <;> omega
  rw [follow?_none (by omega)] at h
  cases h

/-- The decoder takes the bytes of a character off the front. -/
theorem CharBytes.decodeFrom_append {bytes : List UInt8} {c : Char} (h : CharBytes bytes c)
    (index : Nat) (rest : List UInt8) :
    decodeFrom index (bytes ++ rest) = (c :: ·) <$> decodeFrom (index + bytes.length) rest := by
  cases h with
  | one h =>
    rw [List.singleton_append, decodeFrom.eq_def]
    exact if_pos h
  | @two b b₁ h h₁ =>
    rw [isTail_iff] at h₁
    have hascii : ¬b.toNat < 0x80 := by omega
    have hnarrow : ¬(b₁.toNat < 0x80 ∨ 0xbf < b₁.toNat) := by omega
    rw [List.cons_append, List.singleton_append, decodeFrom.eq_def]
    simp only [if_neg hascii, follow?_two h, if_neg hnarrow, if_true]
    rfl
  | @three b b₁ b₂ h h₁ h₂ overlong surrogate =>
    rw [isTail_iff] at h₁
    have hascii : ¬b.toNat < 0x80 := by omega
    have hnarrow : ¬(b₁.toNat < (if b.toNat = 0xe0 then 0xa0 else 0x80) ∨
        (if b.toNat = 0xed then 0x9f else 0xbf) < b₁.toNat) := by
      split_ifs <;> omega
    rw [List.cons_append, List.cons_append, List.singleton_append, decodeFrom.eq_def]
    simp only [if_neg hascii, follow?_three h, if_neg hnarrow, h₂, Bool.not_true,
      Bool.false_eq_true, if_false, if_true]
    rfl
  | @four b b₁ b₂ b₃ h h₁ h₂ h₃ overlong beyond =>
    rw [isTail_iff] at h₁
    have hascii : ¬b.toNat < 0x80 := by omega
    have hnarrow : ¬(b₁.toNat < (if b.toNat = 0xf0 then 0x90 else 0x80) ∨
        (if b.toNat = 0xf4 then 0x8f else 0xbf) < b₁.toNat) := by
      split_ifs <;> omega
    rw [List.cons_append, List.cons_append, List.cons_append, List.singleton_append,
      decodeFrom.eq_def]
    simp only [if_neg hascii, follow?_four h, if_neg hnarrow, h₂, h₃, Bool.not_true,
      Bool.false_eq_true, if_false]
    rfl

theorem CharBytes.append_eq {head rest : List UInt8} {c : Char} {cs : List Char}
    (h : CharBytes head c) (hrest : rest = cs.flatMap String.utf8EncodeChar) :
    head ++ rest = (c :: cs).flatMap String.utf8EncodeChar := by
  rw [List.flatMap_cons, h.utf8EncodeChar_eq, hrest]

theorem of_map_eq_ok {α β ε : Type} {f : α → β} {x : Except ε α} {b : β} (h : f <$> x = .ok b) :
    ∃ a, x = .ok a ∧ f a = b := by
  cases x with
  | error e => cases h
  | ok a => exact ⟨a, rfl, Except.ok.inj h⟩

theorem decodeFrom_eq_ok {index : Nat} {bytes : List UInt8} {cs : List Char}
    (h : decodeFrom index bytes = .ok cs) : bytes = cs.flatMap String.utf8EncodeChar := by
  -- Five of the branches accept something; the others refuse.
  fun_induction decodeFrom index bytes generalizing cs with
  | case1 =>
    cases h
    rfl
  | case2 index b rest hascii ih =>
    obtain ⟨ds, hds, rfl⟩ := of_map_eq_ok h
    exact CharBytes.append_eq (.one hascii) (ih hds)
  | case6 index b hascii low high b₁ rest hrange hfollow ih =>
    obtain ⟨ds, hds, rfl⟩ := of_map_eq_ok h
    have hfirst := of_follow? hfollow
    refine CharBytes.append_eq (.two ?_ ?_) (ih hds)
    · omega
    · rw [isTail_iff]
      omega
  | case9 index b hascii low high b₁ hrange b₂ rest htail hfollow htwo ih =>
    obtain ⟨ds, hds, rfl⟩ := of_map_eq_ok h
    have hfirst := of_follow? hfollow
    refine CharBytes.append_eq (.three ?_ ?_ (by simpa using htail) ?_ ?_) (ih hds)
    · omega
    · rw [isTail_iff]
      omega
    · omega
    · omega
  | case12 index b hascii more low high b₁ hfollow hrange hone b₂ htail₂ htwo b₃ rest htail₃ ih =>
    obtain ⟨ds, hds, rfl⟩ := of_map_eq_ok h
    have hfirst := of_follow? hfollow
    refine CharBytes.append_eq
      (.four ?_ ?_ (by simpa using htail₂) (by simpa using htail₃) ?_ ?_) (ih hds)
    · omega
    · rw [isTail_iff]
      omega
    · omega
    · omega
  | _ => cases h

theorem decodeFrom_flatMap_utf8EncodeChar (index : Nat) (cs : List Char) :
    decodeFrom index (cs.flatMap String.utf8EncodeChar) = .ok cs := by
  induction cs generalizing index with
  | nil => rfl
  | cons c cs ih =>
    rw [List.flatMap_cons, (charBytes_utf8EncodeChar c).decodeFrom_append, ih]
    rfl

/-- **A byte string is read as a text exactly if it is the bytes of the text.** -/
theorem decode_eq_ok_iff {bytes : List UInt8} {text : String} :
    decode bytes = .ok text ↔ bytes = encode text := by
  constructor
  · intro h
    obtain ⟨cs, hcs, rfl⟩ := of_map_eq_ok h
    rw [encode_ofList, decodeFrom_eq_ok hcs]
  · rintro rfl
    rw [decode, ← String.ofList_toList (s := text), encode_ofList,
      decodeFrom_flatMap_utf8EncodeChar]
    rfl

theorem encode_injective {text other : String} (h : encode text = encode other) : text = other := by
  have hdecode : decode (encode text) = .ok other := decode_eq_ok_iff.mpr h
  rw [decode_eq_ok_iff.mpr rfl] at hdecode
  exact Except.ok.inj hdecode

/-! ## ASCII text -/

/-- The character of a byte. -/
def byteChar (b : UInt8) : Char := Char.ofNat b.toNat

theorem toNat_byteChar (b : UInt8) : (byteChar b).toNat = b.toNat :=
  toNat_ofNat (.inl (Nat.lt_trans b.toNat_lt (by decide)))

theorem encode_map_byteChar {bytes : List UInt8} (h : ∀ b ∈ bytes, b.toNat < 0x80) :
    encode (String.ofList (bytes.map byteChar)) = bytes := by
  rw [encode_ofList]
  induction bytes with
  | nil => rfl
  | cons b bytes ih =>
    obtain ⟨hb, hbytes⟩ := List.forall_mem_cons.mp h
    rw [List.map_cons, List.flatMap_cons, byteChar, (CharBytes.one hb).utf8EncodeChar_eq,
      ih hbytes, List.singleton_append]

/-- If the bytes of a text are all ASCII, then they are its characters. -/
theorem map_byteChar_encode {cs : List Char}
    (h : ∀ b ∈ encode (String.ofList cs), b.toNat < 0x80) :
    (encode (String.ofList cs)).map byteChar = cs :=
  String.ofList_injective (encode_injective (encode_map_byteChar h))

theorem encode_ascii {cs : List Char} (h : ∀ c ∈ cs, c.toNat < 0x80) :
    ∀ b ∈ encode (String.ofList cs), b.toNat < 0x80 := by
  intro b hb
  rw [encode_ofList] at hb
  obtain ⟨c, hc, hb⟩ := List.mem_flatMap.mp hb
  rw [utf8EncodeChar_eq, if_pos (h c hc), List.mem_singleton] at hb
  rw [hb, UInt8.toNat_ofNat_of_lt' (Nat.lt_trans (h c hc) (by decide))]
  exact h c hc

end EventScript.Text.Utf8
