import OnePlus7Pro.Gpt.Machine
import OnePlus7Pro.Regions.LittleEndian

open regions effects

namespace gpt_utils

def BLK_DEV_FILE : String := "/dev/block/mmcblk0"

def GPT_SIGNATURE : Buffer := [0x45, 0x46, 0x49, 0x20, 0x50, 0x41, 0x52, 0x54, 0x00]

abbrev HEADER_SIZE_OFFSET : Nat := 12
abbrev HEADER_CRC_OFFSET : Nat := 16
abbrev PENTRIES_OFFSET : Nat := 72
abbrev PARTITION_COUNT_OFFSET : Nat := 80
abbrev PENTRY_SIZE_OFFSET : Nat := 84
abbrev PARTITION_CRC_OFFSET : Nat := 88
abbrev PTN_ENTRY_SIZE : Nat := 128
abbrev PARTITION_NAME_OFFSET : Nat := 56
abbrev MAX_GPT_NAME_SIZE : Nat := 72

inductive gpt_state where
  | GPT_OK
  | GPT_BAD_SIGNATURE
  | GPT_BAD_CRC
  deriving DecidableEq, Repr

inductive gpt_instance where
  | PRIMARY_GPT
  | SECONDARY_GPT
  deriving DecidableEq, Repr

inductive boot_chain where
  | NORMAL_BOOT
  | BACKUP_BOOT
  deriving DecidableEq, Repr

inductive boot_update_stage where
  | UPDATE_MAIN
  | UPDATE_BACKUP
  | UPDATE_FINALIZE
  deriving DecidableEq, Repr

/-- The value of the enumeration constant. -/
def boot_update_stage.toInt : boot_update_stage → Int
  | .UPDATE_MAIN => 1
  | .UPDATE_BACKUP => 2
  | .UPDATE_FINALIZE => 3

def load (buf : Buffer) (ptr : Nat) : Except Fault UInt8 :=
  match buf[ptr]? with
  | some byte => .ok byte
  | none => .error .out_of_bounds

def store (buf : Buffer) (ptr : Nat) (byte : UInt8) : Except Fault Buffer :=
  if ptr < buf.length then .ok (buf.set ptr byte) else .error .out_of_bounds

def GET_4_BYTES (buf : Buffer) (ptr : Nat) : Except Fault Nat := do
  let b0 ← load buf ptr
  let b1 ← load buf (ptr + 1)
  let b2 ← load buf (ptr + 2)
  let b3 ← load buf (ptr + 3)
  return b0.toNat ||| (b1.toNat <<< 8) ||| (b2.toNat <<< 16) ||| (b3.toNat <<< 24)

def GET_8_BYTES (buf : Buffer) (ptr : Nat) : Except Fault Nat := do
  let b0 ← load buf ptr
  let b1 ← load buf (ptr + 1)
  let b2 ← load buf (ptr + 2)
  let b3 ← load buf (ptr + 3)
  let b4 ← load buf (ptr + 4)
  let b5 ← load buf (ptr + 5)
  let b6 ← load buf (ptr + 6)
  let b7 ← load buf (ptr + 7)
  return b0.toNat ||| (b1.toNat <<< 8) ||| (b2.toNat <<< 16) ||| (b3.toNat <<< 24) |||
    (b4.toNat <<< 32) ||| (b5.toNat <<< 40) ||| (b6.toNat <<< 48) ||| (b7.toNat <<< 56)

def PUT_4_BYTES (buf : Buffer) (ptr y : Nat) : Except Fault Buffer := do
  let buf ← store buf ptr (UInt8.ofNat (y &&& 0xff))
  let buf ← store buf (ptr + 1) (UInt8.ofNat ((y >>> 8) &&& 0xff))
  let buf ← store buf (ptr + 2) (UInt8.ofNat ((y >>> 16) &&& 0xff))
  store buf (ptr + 3) (UInt8.ofNat ((y >>> 24) &&& 0xff))

/-- `memcpy(dst + ptr, src, n)` with `src` the `n` bytes to copy. -/
def memcpy (dst : Buffer) (ptr : Nat) (src : Buffer) : Except Fault Buffer :=
  if ptr + src.length ≤ dst.length then .ok (patch dst ptr src) else .error .out_of_bounds

/-- The `count` bytes at `ptr`, as the source of a `memcpy` or an argument of `memcmp`. -/
def bytes_at (buf : Buffer) (ptr count : Nat) : Except Fault Buffer :=
  if ptr + count ≤ buf.length then .ok (slice buf ptr count) else .error .out_of_bounds

/-- `crc32(0, buf, len)`. -/
def crc32 (env : Env) (buf : Buffer) (len : Nat) : Except Fault Nat :=
  if len ≤ buf.length then .ok (env.crc32 (buf.take len)).toNat else .error .out_of_bounds

/-- The little-endian number in a field, which is what the `GET` macros compute. -/
def field (buf : Buffer) (offset width : Nat) : Nat := ofLittleEndian (slice buf offset width)

/-- A buffer with a number stored in a 4-byte field, which is what `PUT_4_BYTES` computes. -/
def setField (buf : Buffer) (offset value : Nat) : Buffer :=
  patch buf offset (toLittleEndian 4 value)

theorem load_eq {buf : Buffer} {ptr : Nat} (hroom : ptr < buf.length) :
    load buf ptr = .ok buf[ptr] := by
  simp [load, List.getElem?_eq_getElem hroom]

theorem store_eq {buf : Buffer} {ptr : Nat} (byte : UInt8) (hroom : ptr < buf.length) :
    store buf ptr byte = .ok (patch buf ptr [byte]) := by
  rw [store, if_pos hroom, set_eq_patch]

@[simp] theorem field_zero (buf : Buffer) (ptr : Nat) : field buf ptr 0 = 0 := by
  simp [field, ofLittleEndian]

/-- A field one byte wider has that byte above the others, as the `GET` macros join them. -/
theorem field_succ {buf : Buffer} {ptr width : Nat} (hroom : ptr + width < buf.length) :
    field buf ptr (width + 1) = field buf ptr width ||| buf[ptr + width].toNat <<< (8 * width) := by
  have hlength : (slice buf ptr width).length = width := length_slice_of_le (by omega)
  rw [field, slice_concat (List.getElem?_eq_getElem hroom), ofLittleEndian_concat, hlength, field]

theorem GET_4_BYTES_eq {buf : Buffer} {ptr : Nat} (hroom : ptr + 4 ≤ buf.length) :
    GET_4_BYTES buf ptr = .ok (field buf ptr 4) := by
  unfold GET_4_BYTES
  rw [load_eq (by omega), load_eq (by omega), load_eq (by omega), load_eq (by omega)]
  rw [field_succ (by omega), field_succ (by omega), field_succ (by omega), field_succ (by omega),
    field_zero, Nat.zero_or]
  rfl

theorem GET_8_BYTES_eq {buf : Buffer} {ptr : Nat} (hroom : ptr + 8 ≤ buf.length) :
    GET_8_BYTES buf ptr = .ok (field buf ptr 8) := by
  unfold GET_8_BYTES
  rw [load_eq (by omega), load_eq (by omega), load_eq (by omega), load_eq (by omega),
    load_eq (by omega), load_eq (by omega), load_eq (by omega), load_eq (by omega)]
  rw [field_succ (by omega), field_succ (by omega), field_succ (by omega), field_succ (by omega),
    field_succ (by omega), field_succ (by omega), field_succ (by omega), field_succ (by omega), field_zero,
    Nat.zero_or]
  rfl

theorem PUT_4_BYTES_eq {buf : Buffer} {ptr : Nat} (y : Nat) (hroom : ptr + 4 ≤ buf.length) :
    PUT_4_BYTES buf ptr y = .ok (setField buf ptr y) := by
  have hbyte (n : Nat) : UInt8.ofNat (n &&& 0xff) = UInt8.ofNat n := by
    apply UInt8.toNat_inj.mp
    rw [UInt8.toNat_ofNat', UInt8.toNat_ofNat', Nat.and_two_pow_sub_one_eq_mod n 8, Nat.mod_mod]
  have hdata : toLittleEndian 4 y = [UInt8.ofNat y] ++ ([UInt8.ofNat (y >>> 8)] ++
      ([UInt8.ofNat (y >>> 16)] ++ [UInt8.ofNat (y >>> 24)])) := by
    simp only [toLittleEndian, Nat.shiftRight_eq_div_pow, Nat.div_div_eq_div_mul]
    rfl
  unfold PUT_4_BYTES setField
  simp only [hbyte]
  rw [store_eq _ (by omega)]
  change (store _ _ _ >>= fun buf => _) = _
  rw [store_eq _ (by simp; omega)]
  change (store _ _ _ >>= fun buf => _) = _
  rw [store_eq _ (by simp; omega)]
  change store _ _ _ = _
  rw [store_eq _ (by simp; omega), hdata, patch_append, patch_append, patch_append]
  rfl

/-- All fields of a header lie within its block. -/
theorem header_fields {header : Buffer} (hlength : 92 ≤ header.length) :
    GET_4_BYTES header HEADER_SIZE_OFFSET = .ok (field header HEADER_SIZE_OFFSET 4) ∧
    GET_4_BYTES header HEADER_CRC_OFFSET = .ok (field header HEADER_CRC_OFFSET 4) ∧
    GET_8_BYTES header PENTRIES_OFFSET = .ok (field header PENTRIES_OFFSET 8) ∧
    GET_4_BYTES header PARTITION_COUNT_OFFSET = .ok (field header PARTITION_COUNT_OFFSET 4) ∧
    GET_4_BYTES header PENTRY_SIZE_OFFSET = .ok (field header PENTRY_SIZE_OFFSET 4) ∧
    GET_4_BYTES header PARTITION_CRC_OFFSET = .ok (field header PARTITION_CRC_OFFSET 4) := by
  have hget (ptr : Nat) (hptr : ptr + 4 ≤ 92) : GET_4_BYTES header ptr = .ok (field header ptr 4) :=
    GET_4_BYTES_eq (Nat.le_trans hptr hlength)
  have hlba : PENTRIES_OFFSET + 8 ≤ header.length := Nat.le_trans (by decide) hlength
  exact ⟨hget _ (by decide), hget _ (by decide), GET_8_BYTES_eq hlba, hget _ (by decide), hget _ (by decide),
    hget _ (by decide)⟩

/-- So do the CRCs that are stored. -/
theorem header_stores {header : Buffer} (hlength : 92 ≤ header.length) (y : Nat) :
    PUT_4_BYTES header HEADER_CRC_OFFSET y = .ok (setField header HEADER_CRC_OFFSET y) ∧
    PUT_4_BYTES header PARTITION_CRC_OFFSET y = .ok (setField header PARTITION_CRC_OFFSET y) :=
  ⟨PUT_4_BYTES_eq y (Nat.le_trans (by decide) hlength), PUT_4_BYTES_eq y (Nat.le_trans (by decide) hlength)⟩

theorem memcpy_eq {dst src : Buffer} {ptr : Nat} (hroom : ptr + src.length ≤ dst.length) :
    memcpy dst ptr src = .ok (patch dst ptr src) := if_pos hroom

theorem bytes_at_eq {buf : Buffer} {ptr count : Nat} (hroom : ptr + count ≤ buf.length) :
    bytes_at buf ptr count = .ok (slice buf ptr count) := if_pos hroom

theorem crc32_eq (env : Env) {buf : Buffer} {len : Nat} (hroom : len ≤ buf.length) :
    crc32 env buf len = .ok (env.crc32 (buf.take len)).toNat := if_pos hroom

@[simp] theorem length_setField (buf : Buffer) (offset value : Nat) :
    (setField buf offset value).length = buf.length := by
  simp [setField]

theorem field_setField_self {buf : Buffer} {offset value : Nat} (hroom : offset + 4 ≤ buf.length)
    (hvalue : value < 2 ^ 32) : field (setField buf offset value) offset 4 = value := by
  have h := @slice_patch_self _ buf (toLittleEndian 4 value) offset
    (by simpa using hroom)
  rw [length_toLittleEndian] at h
  rw [field, setField, h, ofLittleEndian_toLittleEndian]
  exact Nat.mod_eq_of_lt hvalue

theorem field_setField_of_apart (buf : Buffer) {offset value offset' width : Nat}
    (hapart : Apart offset' width offset 4) :
    field (setField buf offset value) offset' width = field buf offset' width := by
  rw [field, field, setField, slice_patch_of_apart _ (by simpa using hapart)]

theorem setField_setField_same (buf : Buffer) (offset value value' : Nat) :
    setField (setField buf offset value) offset value' = setField buf offset value' :=
  patch_patch_same buf (by simp)

theorem setField_comm (buf : Buffer) {offset offset' : Nat} (value value' : Nat)
    (hapart : Apart offset 4 offset' 4) :
    setField (setField buf offset value) offset' value' =
      setField (setField buf offset' value') offset value :=
  patch_comm buf (by simpa using hapart)

/-- Storing in a field the number it holds changes nothing. -/
theorem setField_field {buf : Buffer} {offset : Nat} (hroom : offset + 4 ≤ buf.length) :
    setField buf offset (field buf offset 4) = buf := by
  have hlength : (slice buf offset 4).length = 4 := length_slice_of_le hroom
  have hdata : toLittleEndian 4 (field buf offset 4) = slice buf offset 4 :=
    (eq_toLittleEndian hlength rfl).symm
  rw [setField, hdata, patch_slice_self]

end gpt_utils
