import OnePlus7Pro.Regions.LittleEndian

open regions

namespace registers

/-- One shift of a feedback register towards its lowest bit. The bit that falls out
    decides whether the feedback terms are added. -/
def shift {w : Nat} (poly x : BitVec w) : BitVec w :=
  if x.getLsbD 0 then (x >>> 1) ^^^ poly else x >>> 1

def shifts {w : Nat} (poly : BitVec w) : Nat → BitVec w → BitVec w
  | 0, x => x
  | count + 1, x => shifts poly count (shift poly x)

/-- A byte enters the register at its low end, lowest bit first. -/
def absorb {w : Nat} (poly x : BitVec w) (byte : UInt8) : BitVec w :=
  shifts poly 8 (x ^^^ byte.toBitVec.setWidth w)

def digest {w : Nat} (poly x : BitVec w) (bytes : List UInt8) : BitVec w :=
  bytes.foldl (absorb poly) x

section linear

variable {w : Nat} (poly : BitVec w)

theorem shift_xor (x y : BitVec w) : shift poly (x ^^^ y) = shift poly x ^^^ shift poly y := by
  unfold shift
  rw [BitVec.getLsbD_xor, BitVec.ushiftRight_xor_distrib]
  cases x.getLsbD 0 <;> cases y.getLsbD 0 <;> simp
  · ac_rfl
  · ac_rfl
  · rw [BitVec.xor_comm (y >>> 1), BitVec.xor_assoc, ← BitVec.xor_assoc poly, BitVec.xor_self,
      BitVec.zero_xor]

theorem shifts_xor (count : Nat) (x y : BitVec w) :
    shifts poly count (x ^^^ y) = shifts poly count x ^^^ shifts poly count y := by
  induction count generalizing x y with
  | zero => rfl
  | succ count ih => rw [shifts, shift_xor, ih, shifts, shifts]

theorem shifts_add (count count' : Nat) (x : BitVec w) :
    shifts poly (count + count') x = shifts poly count' (shifts poly count x) := by
  induction count generalizing x with
  | zero => rw [Nat.zero_add, shifts]
  | succ count ih => rw [Nat.succ_add, shifts, ih, shifts]

/-- While only zeros fall out, the register just moves down. -/
theorem shifts_of_low_clear {count : Nat} {x : BitVec w}
    (hclear : ∀ i < count, x.getLsbD i = false) : shifts poly count x = x >>> count := by
  induction count generalizing x with
  | zero => simp [shifts]
  | succ count ih =>
    have hstep : shift poly x = x >>> 1 := by
      rw [shift, hclear 0 (by omega), if_neg (by simp)]
    rw [shifts, hstep, ih, ← BitVec.shiftRight_add, Nat.add_comm]
    intro i hi
    rw [BitVec.getLsbD_ushiftRight]
    exact hclear _ (by omega)

theorem shifts_shiftLeft (count : Nat) (x : BitVec w) :
    shifts poly count (x <<< count) = (x <<< count) >>> count :=
  shifts_of_low_clear poly fun i hi => by simp [BitVec.getLsbD_shiftLeft, hi]

@[simp] theorem digest_nil (x : BitVec w) : digest poly x [] = x := rfl

@[simp] theorem digest_cons (x : BitVec w) (byte : UInt8) (bytes : List UInt8) :
    digest poly x (byte :: bytes) = digest poly (absorb poly x byte) bytes := rfl

/-- A digest is taken up again where it was left. -/
theorem digest_append (x : BitVec w) (bytes bytes' : List UInt8) :
    digest poly x (bytes ++ bytes') = digest poly (digest poly x bytes) bytes' :=
  List.foldl_append

end linear

section window

variable {w : Nat} {poly : BitVec w}

/-- In a little-endian number the first byte stands below the others. -/
theorem ofNat_cons (byte : UInt8) (bytes : List UInt8) :
    BitVec.ofNat w (ofLittleEndian (byte :: bytes)) =
      byte.toBitVec.setWidth w ^^^ (BitVec.ofNat w (ofLittleEndian bytes) <<< 8) := by
  apply BitVec.eq_of_getLsbD_eq
  intro i hi
  have hbyte : byte.toNat < 2 ^ 8 := byte.toNat_lt
  have hsplit := Nat.testBit_two_pow_mul_add (ofLittleEndian bytes) hbyte i
  rw [ofLittleEndian, Nat.add_comm, BitVec.getLsbD_ofNat, show (256 : Nat) = 2 ^ 8 from rfl, hsplit,
    BitVec.getLsbD_xor, BitVec.getLsbD_setWidth, BitVec.getLsbD_shiftLeft, BitVec.getLsbD_ofNat]
  by_cases hlow : i < 8
  · simp [hi, hlow, BitVec.testBit_toNat, ← UInt8.toNat_toBitVec]
  · have hhigh : byte.toBitVec.getLsbD i = false := BitVec.getLsbD_of_ge _ _ (by omega)
    have hroom : i - 8 < w := by omega
    simp [hi, hlow, hhigh, hroom]

/-- Bytes that fit the register together may all enter it before it is shifted. -/
theorem digest_of_fits {bytes : List UInt8} (hfits : 8 * bytes.length ≤ w) (x : BitVec w) :
    digest poly x bytes = shifts poly (8 * bytes.length) (x ^^^ BitVec.ofNat w (ofLittleEndian bytes)) := by
  induction bytes generalizing x with
  | nil => simp [ofLittleEndian, shifts]
  | cons byte bytes ih =>
    rw [List.length_cons] at hfits
    have hlt : ofLittleEndian bytes < 2 ^ (8 * bytes.length) := by
      rw [Nat.pow_mul]
      exact ofLittleEndian_lt bytes
    have hrest : shifts poly 8 (BitVec.ofNat w (ofLittleEndian bytes) <<< 8) =
        BitVec.ofNat w (ofLittleEndian bytes) := by
      rw [shifts_shiftLeft]
      apply BitVec.eq_of_getLsbD_eq
      intro i hi
      rw [BitVec.getLsbD_ushiftRight, BitVec.getLsbD_shiftLeft, BitVec.getLsbD_ofNat, BitVec.getLsbD_ofNat]
      by_cases hroom : 8 + i < w
      · simp [hroom, hi]
      · have hzero : (ofLittleEndian bytes).testBit i = false :=
          Nat.testBit_lt_two_pow (hlt.trans_le (Nat.pow_le_pow_right (by omega) (by omega)))
        simp [hroom, hzero]
    rw [digest_cons, ih (by omega), absorb, List.length_cons, Nat.mul_succ, Nat.add_comm, shifts_add,
      ofNat_cons, ← BitVec.xor_assoc, shifts_xor poly 8 (x ^^^ _), hrest]

/-- Where the highest feedback term is set, no two registers shift to the same one. -/
theorem shift_injective (htop : poly.msb = true) : Function.Injective (shift poly) := by
  intro x y h
  have hw : 0 < w := by
    by_contra hzero
    obtain rfl : w = 0 := by omega
    simp [BitVec.msb] at htop
  have hlow (z : BitVec w) : (shift poly z).msb = z.getLsbD 0 := by
    unfold shift
    cases z.getLsbD 0 <;> simp [htop, BitVec.msb_ushiftRight]
  have hbit : x.getLsbD 0 = y.getLsbD 0 := by rw [← hlow, ← hlow, h]
  have hrest : x >>> 1 = y >>> 1 := by
    unfold shift at h
    rw [hbit] at h
    split at h
    · exact (BitVec.xor_left_inj poly).mp h
    · exact h
  apply BitVec.eq_of_getLsbD_eq
  intro i hi
  cases i with
  | zero => exact hbit
  | succ i =>
    have h := congrArg (fun z => z.getLsbD i) hrest
    simpa [BitVec.getLsbD_ushiftRight, Nat.add_comm] using h

theorem shifts_injective (htop : poly.msb = true) (count : Nat) : Function.Injective (shifts poly count) := by
  induction count with
  | zero => exact fun _ _ h => h
  | succ count ih => exact fun x y h => shift_injective htop (ih h)

theorem digest_injective (htop : poly.msb = true) (bytes : List UInt8) :
    Function.Injective fun x => digest poly x bytes := by
  induction bytes with
  | nil => exact fun _ _ h => h
  | cons byte bytes ih =>
    intro x y h
    exact (BitVec.xor_left_inj _).mp (shifts_injective htop 8 (ih h))

/-- Two messages that differ within one window no longer than the register have the
    same digest only where they are the same. -/
theorem digest_window_iff (htop : poly.msb = true) {window window' : List UInt8}
    (hlength : window'.length = window.length) (hfits : 8 * window.length ≤ w) (x : BitVec w)
    (before after : List UInt8) :
    digest poly x (before ++ window' ++ after) = digest poly x (before ++ window ++ after) ↔
      window' = window := by
  refine ⟨fun h => ?_, fun h => by rw [h]⟩
  simp only [digest_append] at h
  have hwindow := digest_injective htop after h
  rw [digest_of_fits hfits, digest_of_fits (hlength ▸ hfits), hlength] at hwindow
  have hnumber := (BitVec.xor_right_inj _).mp (shifts_injective htop _ hwindow)
  have hlt (bytes : List UInt8) (hbytes : bytes.length = window.length) :
      ofLittleEndian bytes < 2 ^ w := by
    refine (ofLittleEndian_lt bytes).trans_le ?_
    rw [show (256 : Nat) = 2 ^ 8 from rfl, ← Nat.pow_mul, hbytes]
    exact Nat.pow_le_pow_right (by omega) hfits
  have hequal := congrArg BitVec.toNat hnumber
  rw [BitVec.toNat_ofNat, BitVec.toNat_ofNat, Nat.mod_eq_of_lt (hlt _ hlength),
    Nat.mod_eq_of_lt (hlt _ rfl)] at hequal
  rw [← toLittleEndian_ofLittleEndian window', hequal, hlength, toLittleEndian_ofLittleEndian]

/-- A store of at most a register's width shows in the digest unless it stores what is
    there already. -/
theorem digest_patch_iff (htop : poly.msb = true) {buffer data : List UInt8} {offset : Nat}
    (hroom : offset + data.length ≤ buffer.length) (hfits : 8 * data.length ≤ w) (x : BitVec w) :
    digest poly x (patch buffer offset data) = digest poly x buffer ↔ patch buffer offset data = buffer := by
  have hlength : (slice buffer offset data.length).length = data.length := length_slice_of_le hroom
  have hsplit : buffer = buffer.take offset ++ slice buffer offset data.length ++
      buffer.drop (offset + data.length) := by
    conv_lhs => rw [← patch_slice_self buffer offset data.length]
    rw [patch, hlength, List.take_of_length_le (l := slice _ _ _) (by rw [hlength]; omega)]
  have hstored : patch buffer offset data =
      buffer.take offset ++ data ++ buffer.drop (offset + data.length) := by
    rw [patch, List.take_of_length_le (l := data) (by omega)]
  rw [hstored]
  conv_lhs => rhs; rw [hsplit]
  conv_rhs => rhs; rw [hsplit]
  rw [digest_window_iff htop hlength.symm (by rw [hlength]; exact hfits)]
  simp

end window

/-- The digest of a byte by a table of what the low bytes become. -/
theorem absorb_table {w : Nat} (poly x : BitVec w) (byte : UInt8) :
    absorb poly x byte =
      shifts poly 8 ((x.setWidth 8 ^^^ byte.toBitVec).setWidth w) ^^^ (x >>> 8) := by
  have hsplit : x ^^^ byte.toBitVec.setWidth w =
      (x.setWidth 8 ^^^ byte.toBitVec).setWidth w ^^^ ((x >>> 8) <<< 8) := by
    apply BitVec.eq_of_getLsbD_eq
    intro i hi
    by_cases hlow : i < 8
    · simp [hi, hlow]
    · have hhigh : byte.toBitVec.getLsbD i = false := BitVec.getLsbD_of_ge _ _ (by omega)
      simp [hi, hlow, hhigh, BitVec.getLsbD_setWidth]
      congr 1
      omega
  have hrest : shifts poly 8 ((x >>> 8) <<< 8) = x >>> 8 := by
    rw [shifts_shiftLeft]
    apply BitVec.eq_of_getLsbD_eq
    intro i hi
    simp only [BitVec.getLsbD_ushiftRight, BitVec.getLsbD_shiftLeft]
    by_cases hroom : 8 + i < w
    · simp [hroom]
    · have hhigh : x.getLsbD (8 + i) = false := BitVec.getLsbD_of_ge _ _ (by omega)
      simp [hroom, hhigh]
  rw [absorb, hsplit, shifts_xor, hrest]

end registers
