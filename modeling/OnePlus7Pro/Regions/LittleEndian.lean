import OnePlus7Pro.Regions.Slice
import Mathlib.Tactic.Ring
import Mathlib.Tactic.NormNum

namespace regions

/-- The lowest `count` bytes of a number, least significant first. -/
def toLittleEndian : (count value : Nat) → List UInt8
  | 0, _ => []
  | count + 1, value => UInt8.ofNat value :: toLittleEndian count (value / 256)

/-- The number whose bytes, least significant first, are the given ones. -/
def ofLittleEndian : List UInt8 → Nat
  | [] => 0
  | byte :: bytes => byte.toNat + 256 * ofLittleEndian bytes

@[simp] theorem length_toLittleEndian (count value : Nat) :
    (toLittleEndian count value).length = count := by
  induction count generalizing value with
  | zero => rfl
  | succ count ih => simp [toLittleEndian, ih]

theorem ofLittleEndian_lt (bytes : List UInt8) : ofLittleEndian bytes < 256 ^ bytes.length := by
  induction bytes with
  | nil => simp [ofLittleEndian]
  | cons byte bytes ih =>
    have hbyte : byte.toNat < 256 := byte.toNat_lt
    rw [ofLittleEndian, List.length_cons, Nat.pow_succ]
    omega

/-- Decoding an encoded number gives it back up to the width of the field. -/
theorem ofLittleEndian_toLittleEndian (count value : Nat) :
    ofLittleEndian (toLittleEndian count value) = value % 256 ^ count := by
  induction count generalizing value with
  | zero => simp [toLittleEndian, ofLittleEndian, Nat.mod_one]
  | succ count ih =>
    have hbyte : (UInt8.ofNat value).toNat = value % 256 := UInt8.toNat_ofNat'
    rw [toLittleEndian, ofLittleEndian, ih, hbyte, Nat.pow_succ', Nat.mod_mul]

/-- Encoding a decoded field gives back its bytes. -/
theorem toLittleEndian_ofLittleEndian (bytes : List UInt8) :
    toLittleEndian bytes.length (ofLittleEndian bytes) = bytes := by
  induction bytes with
  | nil => rfl
  | cons byte bytes ih =>
    have hbyte : byte.toNat < 256 := byte.toNat_lt
    have hlow : UInt8.ofNat (byte.toNat + 256 * ofLittleEndian bytes) = byte := by
      apply UInt8.toNat_inj.mp
      rw [UInt8.toNat_ofNat']
      omega
    have hhigh : (byte.toNat + 256 * ofLittleEndian bytes) / 256 = ofLittleEndian bytes := by omega
    rw [List.length_cons, ofLittleEndian, toLittleEndian, hlow, hhigh, ih]

/-- A field that holds a number which fits it is the encoding of that number. -/
theorem eq_toLittleEndian {bytes : List UInt8} {count value : Nat} (hlength : bytes.length = count)
    (hvalue : ofLittleEndian bytes = value) : bytes = toLittleEndian count value := by
  rw [← hlength, ← hvalue, toLittleEndian_ofLittleEndian]

/-- One more byte above a number joins it by a shift and a bitwise disjunction. -/
theorem ofLittleEndian_concat (bytes : List UInt8) (byte : UInt8) :
    ofLittleEndian (bytes ++ [byte]) = ofLittleEndian bytes ||| byte.toNat <<< (8 * bytes.length) := by
  have hlow : ofLittleEndian bytes < 2 ^ (8 * bytes.length) := by
    rw [Nat.pow_mul]
    exact ofLittleEndian_lt bytes
  rw [Nat.or_comm, ← Nat.shiftLeft_add_eq_or_of_lt hlow, Nat.shiftLeft_eq, Nat.pow_mul]
  clear hlow
  induction bytes with
  | nil => simp [ofLittleEndian]
  | cons first bytes ih =>
    rw [List.cons_append, ofLittleEndian, ih, ofLittleEndian, List.length_cons, Nat.pow_succ]
    norm_num
    ring

end regions
