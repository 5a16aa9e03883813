/-!
# Little-endian numbers

Operands wider than a byte are stored with the lowest byte first. Both directions are written for
any width, so that the two-byte and four-byte operands share their laws: writing then reading gives
the value back up to the width, and reading then writing gives the same bytes.
-/

namespace EventScript.Bytes

/-- The `width` lowest bytes of a number, lowest first. -/
def ofNat : (width : Nat) → Nat → List UInt8
  | 0, _ => []
  | width + 1, n => UInt8.ofNat n :: ofNat width (n / 256)

/-- The number whose bytes, lowest first, are the given ones. -/
def toNat : List UInt8 → Nat
  | [] => 0
  | b :: rest => b.toNat + 256 * toNat rest

/-- How many numbers fit into `width` bytes. -/
def bound : (width : Nat) → Nat
  | 0 => 1
  | width + 1 => 256 * bound width

@[simp] theorem length_ofNat (width n : Nat) : (ofNat width n).length = width := by
  induction width generalizing n with
  | zero => rfl
  | succ width ih => simp [ofNat, ih]

/-- **Writing, then reading.** The value comes back up to the width it was written in. -/
theorem toNat_ofNat (width n : Nat) : toNat (ofNat width n) = n % bound width := by
  induction width generalizing n with
  | zero => simp [ofNat, toNat, bound, Nat.mod_one]
  | succ width ih =>
    have hsplit : n % (256 * bound width) = n % 256 + 256 * (n / 256 % bound width) :=
      Nat.mod_mul
    rw [ofNat, toNat, ih, UInt8.toNat_ofNat', bound, hsplit]

/-- **Reading, then writing.** Every byte string is what its number is written as. -/
theorem ofNat_toNat (bytes : List UInt8) : ofNat bytes.length (toNat bytes) = bytes := by
  induction bytes with
  | nil => rfl
  | cons b rest ih =>
    have hb : b.toNat < 256 := b.toNat_lt
    have hdiv : (b.toNat + 256 * toNat rest) / 256 = toNat rest := by omega
    have hlow : UInt8.ofNat (b.toNat + 256 * toNat rest) = b := by
      apply UInt8.toNat_inj.mp
      rw [UInt8.toNat_ofNat']
      omega
    rw [List.length_cons, toNat, ofNat, hdiv, ih, hlow]

theorem toNat_lt (bytes : List UInt8) : toNat bytes < bound bytes.length := by
  induction bytes with
  | nil => exact Nat.one_pos
  | cons b rest ih =>
    have hb : b.toNat < 256 := b.toNat_lt
    rw [toNat, List.length_cons, bound]
    omega

/-- The two bytes of a 16-bit value. -/
def ofUInt16 (v : UInt16) : List UInt8 := ofNat 2 v.toNat

/-- The four bytes of a 32-bit value. -/
def ofUInt32 (v : UInt32) : List UInt8 := ofNat 4 v.toNat

/-- The 16-bit value of two bytes. -/
def toUInt16 (bytes : List UInt8) : UInt16 := UInt16.ofNat (toNat bytes)

/-- The 32-bit value of four bytes. -/
def toUInt32 (bytes : List UInt8) : UInt32 := UInt32.ofNat (toNat bytes)

@[simp] theorem toUInt16_ofUInt16 (v : UInt16) : toUInt16 (ofUInt16 v) = v := by
  have hv : v.toNat < 65536 := v.toNat_lt
  apply UInt16.toNat_inj.mp
  rw [toUInt16, ofUInt16, toNat_ofNat, show bound 2 = 65536 from rfl, UInt16.toNat_ofNat']
  omega

@[simp] theorem toUInt32_ofUInt32 (v : UInt32) : toUInt32 (ofUInt32 v) = v := by
  have hv : v.toNat < 4294967296 := v.toNat_lt
  apply UInt32.toNat_inj.mp
  rw [toUInt32, ofUInt32, toNat_ofNat, show bound 4 = 4294967296 from rfl, UInt32.toNat_ofNat']
  omega

theorem ofUInt16_toUInt16 {bytes : List UInt8} (h : bytes.length = 2) :
    ofUInt16 (toUInt16 bytes) = bytes := by
  have hlt : toNat bytes < 65536 := by
    have hbound := toNat_lt bytes
    rwa [h] at hbound
  rw [ofUInt16, toUInt16, UInt16.toNat_ofNat', Nat.mod_eq_of_lt hlt, ← h, ofNat_toNat]

theorem ofUInt32_toUInt32 {bytes : List UInt8} (h : bytes.length = 4) :
    ofUInt32 (toUInt32 bytes) = bytes := by
  have hlt : toNat bytes < 4294967296 := by
    have hbound := toNat_lt bytes
    rwa [h] at hbound
  rw [ofUInt32, toUInt32, UInt32.toNat_ofNat', Nat.mod_eq_of_lt hlt, ← h, ofNat_toNat]

end EventScript.Bytes
