import OnePlus7Pro.Gpt.Fields

open regions

namespace gpt_utils

/-- The CRC of a header block as the program computes it: over the bytes that the
    header-size field names, with the CRC field cleared. -/
def headerCrc (crc : Buffer → UInt32) (header : Buffer) : Nat :=
  (crc ((setField header HEADER_CRC_OFFSET 0).take (field header HEADER_SIZE_OFFSET 4))).toNat

/-- The state that `gpt_get_state` finds a header block in. -/
def headerState (crc : Buffer → UInt32) (header : Buffer) : gpt_state :=
  if headerCrc crc header ≠ field header HEADER_CRC_OFFSET 4 then .GPT_BAD_CRC
  else if slice header 0 GPT_SIGNATURE.length = GPT_SIGNATURE then .GPT_OK
  else .GPT_BAD_SIGNATURE

/-- A header block with its CRC brought up to date. -/
def reseal (crc : Buffer → UInt32) (header : Buffer) : Buffer :=
  setField header HEADER_CRC_OFFSET (headerCrc crc header)

/-- A header block with the signature restored or its first byte cleared. -/
def mark (state : gpt_state) (header : Buffer) : Buffer :=
  match state with
  | .GPT_OK => patch header 0 GPT_SIGNATURE
  | .GPT_BAD_SIGNATURE => patch header 0 [0]
  | .GPT_BAD_CRC => header

/-- A header block with the CRC of an entry array recorded in it. -/
def recordArray (crc : Buffer → UInt32) (header pentries : Buffer) : Buffer :=
  setField header PARTITION_CRC_OFFSET (crc pentries).toNat

variable (crc : Buffer → UInt32)

@[simp] theorem length_reseal (header : Buffer) : (reseal crc header).length = header.length :=
  length_setField _ _ _

@[simp] theorem length_mark (state : gpt_state) (header : Buffer) :
    (mark state header).length = header.length := by
  cases state <;> simp [mark]

@[simp] theorem length_recordArray (header pentries : Buffer) :
    (recordArray crc header pentries).length = header.length :=
  length_setField _ _ _

theorem headerCrc_lt (header : Buffer) : headerCrc crc header < 2 ^ 32 := UInt32.toNat_lt _

/-- Two header blocks that name the same header size and the same place and form of an
    entry array. -/
structure SameLayout (header header' : Buffer) : Prop where
  header_size : field header HEADER_SIZE_OFFSET 4 = field header' HEADER_SIZE_OFFSET 4
  lba : field header PENTRIES_OFFSET 8 = field header' PENTRIES_OFFSET 8
  count : field header PARTITION_COUNT_OFFSET 4 = field header' PARTITION_COUNT_OFFSET 4
  pentry_size : field header PENTRY_SIZE_OFFSET 4 = field header' PENTRY_SIZE_OFFSET 4

theorem SameLayout.trans {header header' header'' : Buffer} (h : SameLayout header header')
    (h' : SameLayout header' header'') : SameLayout header header'' :=
  ⟨h.header_size.trans h'.header_size, h.lba.trans h'.lba, h.count.trans h'.count,
    h.pentry_size.trans h'.pentry_size⟩

/-- Writing before, between or after the layout fields leaves them alone. -/
theorem sameLayout_patch (header : Buffer) {ptr : Nat} {data : Buffer}
    (h : ptr + data.length ≤ 12 ∨ (16 ≤ ptr ∧ ptr + data.length ≤ 72) ∨ 88 ≤ ptr) :
    SameLayout (patch header ptr data) header := by
  have hfield {offset width : Nat} (happart : Apart offset width ptr data.length) :
      field (patch header ptr data) offset width = field header offset width := by
    rw [field, field, slice_patch_of_apart _ happart]
  refine ⟨hfield ?_, hfield ?_, hfield ?_, hfield ?_⟩
  all_goals
    simp only [Apart, HEADER_SIZE_OFFSET, PENTRIES_OFFSET, PARTITION_COUNT_OFFSET,
      PENTRY_SIZE_OFFSET]
    omega

theorem sameLayout_mark (state : gpt_state) (header : Buffer) :
    SameLayout (mark state header) header := by
  cases state with
  | GPT_OK => exact sameLayout_patch header (by simp [GPT_SIGNATURE])
  | GPT_BAD_SIGNATURE => exact sameLayout_patch header (by simp)
  | GPT_BAD_CRC => exact ⟨rfl, rfl, rfl, rfl⟩

theorem sameLayout_reseal (header : Buffer) : SameLayout (reseal crc header) header :=
  sameLayout_patch header (by simp [HEADER_CRC_OFFSET])

theorem sameLayout_recordArray (header pentries : Buffer) :
    SameLayout (recordArray crc header pentries) header :=
  sameLayout_patch header (by simp [PARTITION_CRC_OFFSET])

/-- The CRC of the array that a header names is not touched by sealing it. -/
theorem partition_crc_reseal (header : Buffer) :
    field (reseal crc header) PARTITION_CRC_OFFSET 4 = field header PARTITION_CRC_OFFSET 4 :=
  field_setField_of_apart header (.inr (by simp [HEADER_CRC_OFFSET, PARTITION_CRC_OFFSET]))

theorem partition_crc_mark (state : gpt_state) (header : Buffer) :
    field (mark state header) PARTITION_CRC_OFFSET 4 = field header PARTITION_CRC_OFFSET 4 := by
  rw [field, field]
  cases state with
  | GPT_OK => rw [mark, slice_patch_of_apart _ (.inr (by simp [GPT_SIGNATURE, PARTITION_CRC_OFFSET]))]
  | GPT_BAD_SIGNATURE => rw [mark, slice_patch_of_apart _ (.inr (by simp [PARTITION_CRC_OFFSET]))]
  | GPT_BAD_CRC => rfl

/-- The CRC of a header does not depend on what its CRC field holds. -/
theorem headerCrc_setField (header : Buffer) (value : Nat) :
    headerCrc crc (setField header HEADER_CRC_OFFSET value) = headerCrc crc header := by
  unfold headerCrc
  rw [setField_setField_same, field_setField_of_apart _ (by decide)]

theorem reseal_setField (header : Buffer) (value : Nat) :
    reseal crc (setField header HEADER_CRC_OFFSET value) = reseal crc header := by
  unfold reseal
  rw [headerCrc_setField, setField_setField_same]

theorem mark_setField (state : gpt_state) (header : Buffer) {offset : Nat} (value : Nat)
    (h : 9 ≤ offset) :
    mark state (setField header offset value) = setField (mark state header) offset value := by
  cases state with
  | GPT_OK =>
    rw [mark, mark, setField, setField, patch_comm]
    exact .inr (by simpa [GPT_SIGNATURE] using h)
  | GPT_BAD_SIGNATURE =>
    rw [mark, mark, setField, setField, patch_comm]
    exact .inr (by simp only [List.length_singleton]; omega)
  | GPT_BAD_CRC => rfl

/-- Marking a header and bringing its CRC up to date makes the CRC it had irrelevant. -/
theorem reseal_mark_reseal (state : gpt_state) (header : Buffer) :
    reseal crc (mark state (reseal crc header)) = reseal crc (mark state header) := by
  have h : mark state (reseal crc header) = setField (mark state header) HEADER_CRC_OFFSET (headerCrc crc header) :=
    mark_setField state header _ (by decide)
  rw [h, reseal_setField]

theorem reseal_recordArray_reseal (header pentries : Buffer) :
    reseal crc (recordArray crc (reseal crc header) pentries) = reseal crc (recordArray crc header pentries) := by
  have h : recordArray crc (reseal crc header) pentries =
      setField (recordArray crc header pentries) HEADER_CRC_OFFSET (headerCrc crc header) :=
    setField_comm header _ _ (by decide)
  rw [h, reseal_setField]

theorem recordArray_mark (state : gpt_state) (header pentries : Buffer) :
    recordArray crc (mark state header) pentries = mark state (recordArray crc header pentries) :=
  (mark_setField state header _ (by decide)).symm

theorem recordArray_recordArray (header pentries pentries' : Buffer) :
    recordArray crc (recordArray crc header pentries') pentries = recordArray crc header pentries :=
  setField_setField_same _ _ _ _

/-- Restoring the signature undoes clearing its first byte. -/
theorem mark_ok_mark (state : gpt_state) (header : Buffer) :
    mark .GPT_OK (mark state header) = mark .GPT_OK header := by
  cases state with
  | GPT_OK => exact patch_patch_same header rfl
  | GPT_BAD_SIGNATURE => exact patch_patch_cover header (Nat.le_refl _) (by decide)
  | GPT_BAD_CRC => rfl

/-- Recording in a header the CRC that it already names changes nothing. -/
theorem recordArray_self {header pentries : Buffer} (hlength : 92 ≤ header.length)
    (hcrc : field header PARTITION_CRC_OFFSET 4 = (crc pentries).toNat) :
    recordArray crc header pentries = header := by
  rw [recordArray, ← hcrc, setField_field (by simp only [PARTITION_CRC_OFFSET]; omega)]

theorem field_recordArray_self {header : Buffer} (pentries : Buffer) (hlength : 92 ≤ header.length) :
    field (recordArray crc header pentries) PARTITION_CRC_OFFSET 4 = (crc pentries).toNat :=
  field_setField_self (by simp only [PARTITION_CRC_OFFSET]; omega) (UInt32.toNat_lt _)

/-- A resealed header has a good CRC, so only its signature decides its state. -/
theorem headerState_reseal {header : Buffer} (hlength : 20 ≤ header.length) :
    headerState crc (reseal crc header) =
      if slice header 0 GPT_SIGNATURE.length = GPT_SIGNATURE then .GPT_OK else .GPT_BAD_SIGNATURE := by
  have hfield : field (reseal crc header) HEADER_CRC_OFFSET 4 = headerCrc crc header :=
    field_setField_self (by simp only [HEADER_CRC_OFFSET]; omega) (headerCrc_lt crc header)
  have hsignature : slice (reseal crc header) 0 GPT_SIGNATURE.length = slice header 0 GPT_SIGNATURE.length :=
    slice_patch_of_apart header (.inl (by decide))
  have hcrc : headerCrc crc (reseal crc header) = headerCrc crc header :=
    headerCrc_setField crc header _
  rw [headerState, hfield, hsignature, hcrc, if_neg (fun h => h rfl)]

theorem signature_mark_ok {header : Buffer} (hlength : 20 ≤ header.length) :
    slice (mark .GPT_OK header) 0 GPT_SIGNATURE.length = GPT_SIGNATURE :=
  slice_patch_self (by simp only [GPT_SIGNATURE, List.length_cons, List.length_nil]; omega)

theorem signature_mark_bad {header : Buffer} (hlength : 20 ≤ header.length) :
    slice (mark .GPT_BAD_SIGNATURE header) 0 GPT_SIGNATURE.length ≠ GPT_SIGNATURE := by
  intro h
  have hfirst : (slice (mark .GPT_BAD_SIGNATURE header) 0 GPT_SIGNATURE.length)[0]? = some 0 := by
    rw [getElem?_slice, if_pos (by decide), mark, getElem?_patch,
      if_pos ⟨Nat.le_refl _, by simp, by omega⟩]
    rfl
  rw [h] at hfirst
  simp [GPT_SIGNATURE] at hfirst

/-- A header that is found good carries its own CRC and the signature. -/
theorem headerState_eq_ok_iff (header : Buffer) :
    headerState crc header = .GPT_OK ↔
      headerCrc crc header = field header HEADER_CRC_OFFSET 4 ∧
        slice header 0 GPT_SIGNATURE.length = GPT_SIGNATURE := by
  unfold headerState
  split
  · next h => simp [h]
  · next h =>
    rw [not_not] at h
    split
    · next h' => simp [h, h']
    · next h' => simp [h']

theorem reseal_of_ok {header : Buffer} (hlength : 20 ≤ header.length)
    (h : headerState crc header = .GPT_OK) : reseal crc header = header := by
  rw [reseal, ((headerState_eq_ok_iff crc header).mp h).1,
    setField_field (by simp only [HEADER_CRC_OFFSET]; omega)]

theorem mark_of_ok {header : Buffer} (h : headerState crc header = .GPT_OK) :
    mark .GPT_OK header = header :=
  patch_eq_self ((headerState_eq_ok_iff crc header).mp h).2

end gpt_utils
