import OnePlus7Pro.Gpt.WellFormed
import OnePlus7Pro.Twins.Protocol

open regions effects twins

namespace gpt_utils

/-- The signature that stands for a mark. -/
def signature (good : Bool) : gpt_state := if good then .GPT_OK else .GPT_BAD_SIGNATURE

@[simp] theorem signature_eq_ok_iff (good : Bool) : signature good = .GPT_OK ↔ good = true := by
  cases good <;> simp [signature]

@[simp] theorem signature_eq_bad_iff (good : Bool) :
    signature good = .GPT_BAD_SIGNATURE ↔ good = false := by
  cases good <;> simp [signature]

/-- The primary header block of a device whose copies are as described. -/
def Disk.primaryHeader (crc : Buffer → UInt32) (disk : Disk) (copies : Copies Buffer) : Buffer :=
  reseal crc (mark (signature copies.primary) (disk.header .PRIMARY_GPT))

/-- The secondary header block of a device whose copies are as described. -/
def Disk.secondaryHeader (crc : Buffer → UInt32) (disk : Disk) (copies : Copies Buffer) : Buffer :=
  reseal crc (mark (signature copies.secondary) (recordArray crc (disk.header .SECONDARY_GPT) copies.recorded))

/-- The device with its headers and its secondary entry array as described. -/
def Disk.holding (crc : Buffer → UInt32) (disk : Disk) (copies : Copies Buffer) : Disk :=
  ((disk.write (disk.headerOffset .PRIMARY_GPT) (disk.primaryHeader crc copies)).write
    (disk.headerOffset .SECONDARY_GPT) (disk.secondaryHeader crc copies)).write
    (disk.pentriesOffset .SECONDARY_GPT) copies.stored

namespace Disk.Valid

variable {crc : Buffer → UInt32} {disk : Disk}

theorem length_primaryHeader (hvalid : disk.Valid crc) (copies : Copies Buffer) :
    (disk.primaryHeader crc copies).length = disk.blk_size := by
  rw [Disk.primaryHeader, length_reseal, length_mark, hvalid.length_header]

theorem length_secondaryHeader (hvalid : disk.Valid crc) (copies : Copies Buffer) :
    (disk.secondaryHeader crc copies).length = disk.blk_size := by
  rw [Disk.secondaryHeader, length_reseal, length_mark, length_recordArray, hvalid.length_header]

end Disk.Valid

@[simp] theorem holding_blk_size (crc : Buffer → UInt32) (disk : Disk) (copies : Copies Buffer) :
    (disk.holding crc copies).blk_size = disk.blk_size := rfl

@[simp] theorem length_holding (crc : Buffer → UInt32) (disk : Disk) (copies : Copies Buffer) :
    (disk.holding crc copies).bytes.length = disk.bytes.length := by
  simp [Disk.holding]

@[simp] theorem holding_headerOffset (crc : Buffer → UInt32) (disk : Disk) (copies : Copies Buffer)
    (gpt : gpt_instance) : (disk.holding crc copies).headerOffset gpt = disk.headerOffset gpt := by
  cases gpt <;> simp [Disk.headerOffset]

theorem sameLayout_primaryHeader (crc : Buffer → UInt32) (disk : Disk) (copies : Copies Buffer) :
    SameLayout (disk.primaryHeader crc copies) (disk.header .PRIMARY_GPT) :=
  (sameLayout_reseal crc _).trans (sameLayout_mark _ _)

theorem sameLayout_secondaryHeader (crc : Buffer → UInt32) (disk : Disk) (copies : Copies Buffer) :
    SameLayout (disk.secondaryHeader crc copies) (disk.header .SECONDARY_GPT) :=
  ((sameLayout_reseal crc _).trans (sameLayout_mark _ _)).trans (sameLayout_recordArray crc _ _)

theorem partition_crc_primaryHeader (crc : Buffer → UInt32) (disk : Disk) (copies : Copies Buffer) :
    field (disk.primaryHeader crc copies) PARTITION_CRC_OFFSET 4 =
      field (disk.header .PRIMARY_GPT) PARTITION_CRC_OFFSET 4 := by
  rw [Disk.primaryHeader, partition_crc_reseal, partition_crc_mark]

/-- The secondary header names the CRC of the table that is recorded. -/
theorem partition_crc_secondaryHeader {crc : Buffer → UInt32} {disk : Disk}
    (hvalid : disk.Valid crc) (copies : Copies Buffer) :
    field (disk.secondaryHeader crc copies) PARTITION_CRC_OFFSET 4 = (crc copies.recorded).toNat := by
  rw [Disk.secondaryHeader, partition_crc_reseal, partition_crc_mark]
  refine field_recordArray_self crc _ ?_
  rw [hvalid.length_header]
  exact Nat.le_trans (by decide) hvalid.blk_size

/-- A header that was marked and sealed is found in the state of its mark. -/
theorem headerState_reseal_mark (crc : Buffer → UInt32) (good : Bool) {header : Buffer}
    (hlength : 20 ≤ header.length) :
    headerState crc (reseal crc (mark (signature good) header)) = signature good := by
  rw [headerState_reseal crc (by rwa [length_mark])]
  cases good with
  | true => exact if_pos (signature_mark_ok hlength)
  | false => exact if_neg (signature_mark_bad hlength)

/-- Of two marks set on a header with the signature, the later one counts. -/
theorem mark_mark_signature {header : Buffer}
    (hsignature : slice header 0 GPT_SIGNATURE.length = GPT_SIGNATURE) (good good' : Bool) :
    mark (signature good) (mark (signature good') header) = mark (signature good) header := by
  have hsame : mark .GPT_OK header = header := patch_eq_self hsignature
  cases good with
  | true => exact mark_ok_mark _ header
  | false =>
    cases good' with
    | true => exact congrArg (mark .GPT_BAD_SIGNATURE) hsame
    | false => exact patch_patch_same header rfl

section holding

variable {crc : Buffer → UInt32} {disk : Disk} (hvalid : disk.Valid crc) {copies : Copies Buffer}
  (hfits : disk.Fits copies.stored)

include hvalid hfits

/-- The secondary array lies apart from the header blocks. -/
theorem stored_apart (gpt : gpt_instance) :
    Apart (disk.headerOffset gpt) disk.blk_size (disk.pentriesOffset .SECONDARY_GPT) copies.stored.length := by
  have h := (hvalid.array_apart .SECONDARY_GPT gpt).symm
  rwa [hvalid.pentriesSize_eq, ← hfits] at h

theorem header_holding_primary :
    (disk.holding crc copies).header .PRIMARY_GPT = disk.primaryHeader crc copies := by
  rw [Disk.header, Disk.read, holding_headerOffset, holding_blk_size, Disk.holding,
    Disk.write_bytes, slice_patch_of_apart _ (stored_apart hvalid hfits _), Disk.write_bytes, slice_patch_of_apart _ (by
      rw [hvalid.length_secondaryHeader]
      exact hvalid.headers_apart), Disk.write_bytes]
  have h := @slice_patch_self _ disk.bytes (disk.primaryHeader crc copies) (disk.headerOffset .PRIMARY_GPT) (by
      rw [hvalid.length_primaryHeader]
      exact hvalid.headerOffset_room _)
  rwa [hvalid.length_primaryHeader] at h

theorem header_holding_secondary :
    (disk.holding crc copies).header .SECONDARY_GPT = disk.secondaryHeader crc copies := by
  rw [Disk.header, Disk.read, holding_headerOffset, holding_blk_size, Disk.holding,
    Disk.write_bytes, slice_patch_of_apart _ (stored_apart hvalid hfits _), Disk.write_bytes]
  have h := @slice_patch_self _ (disk.write (disk.headerOffset .PRIMARY_GPT) (disk.primaryHeader crc copies)).bytes
    (disk.secondaryHeader crc copies) (disk.headerOffset .SECONDARY_GPT) (by
      rw [hvalid.length_secondaryHeader, Disk.write_bytes, length_patch]
      exact hvalid.headerOffset_room _)
  rwa [hvalid.length_secondaryHeader] at h

/-- The copies say nothing of the layout, which stays that of the device. -/
theorem sameLayout_holding (gpt : gpt_instance) :
    SameLayout ((disk.holding crc copies).header gpt) (disk.header gpt) := by
  cases gpt with
  | PRIMARY_GPT =>
    rw [header_holding_primary hvalid hfits]
    exact sameLayout_primaryHeader crc disk copies
  | SECONDARY_GPT =>
    rw [header_holding_secondary hvalid hfits]
    exact sameLayout_secondaryHeader crc disk copies

theorem pentriesOffset_holding (gpt : gpt_instance) :
    (disk.holding crc copies).pentriesOffset gpt = disk.pentriesOffset gpt := by
  rw [Disk.pentriesOffset, (sameLayout_holding hvalid hfits gpt).lba, holding_blk_size,
    Disk.pentriesOffset]

theorem pentriesSize_holding (gpt : gpt_instance) :
    (disk.holding crc copies).pentriesSize gpt = disk.pentriesSize gpt := by
  have hlayout := sameLayout_holding hvalid hfits gpt
  rw [Disk.pentriesSize, hlayout.count, hlayout.pentry_size, Disk.pentriesSize]

/-- The primary entry array is that of the device. -/
theorem pentries_holding_primary :
    (disk.holding crc copies).pentries .PRIMARY_GPT = disk.pentries .PRIMARY_GPT := by
  have hapart := hvalid.array_apart .PRIMARY_GPT
  have harrays : Apart (disk.pentriesOffset .PRIMARY_GPT) (disk.pentriesSize .PRIMARY_GPT)
      (disk.pentriesOffset .SECONDARY_GPT) copies.stored.length := by
    have hlength : copies.stored.length = disk.pentriesSize .SECONDARY_GPT := by
      rw [hvalid.pentriesSize_eq, ← hfits]
    rw [hlength]
    exact hvalid.arrays_apart
  rw [Disk.pentries, pentriesOffset_holding hvalid hfits, pentriesSize_holding hvalid hfits,
    Disk.read, Disk.holding, Disk.write_bytes, slice_patch_of_apart _ harrays, Disk.write_bytes,
    slice_patch_of_apart _ (by
      rw [hvalid.length_secondaryHeader]
      exact hapart _), Disk.write_bytes, slice_patch_of_apart _ (by
      rw [hvalid.length_primaryHeader]
      exact hapart _)]
  rfl

theorem pentries_holding_secondary :
    (disk.holding crc copies).pentries .SECONDARY_GPT = copies.stored := by
  have hroom := hvalid.room .SECONDARY_GPT
  rw [hvalid.pentriesSize_eq, ← hfits] at hroom
  rw [Disk.pentries, pentriesOffset_holding hvalid hfits, pentriesSize_holding hvalid hfits,
    hvalid.pentriesSize_eq, ← hfits]
  exact slice_patch_self (by
    rw [Disk.write_bytes, Disk.write_bytes, length_patch, length_patch]
    exact hroom)

theorem holdsHeader_holding (gpt : gpt_instance) : (disk.holding crc copies).HoldsHeader gpt := by
  refine ⟨Nat.le_trans (by decide) hvalid.blk_size, ?_, ?_⟩
  · rw [holding_headerOffset, holding_blk_size, length_holding]
    exact hvalid.headerOffset_room gpt
  · rw [holding_blk_size, (sameLayout_holding hvalid hfits gpt).header_size]
    exact (hvalid.header_size gpt).2

theorem readyForChain_holding : (disk.holding crc copies).ReadyForChain crc := by
  refine ⟨holdsHeader_holding hvalid hfits _, holdsHeader_holding hvalid hfits _, ?_, ?_, ?_⟩
  · rw [pentriesOffset_holding hvalid hfits, pentriesSize_holding hvalid hfits, length_holding]
    exact hvalid.room _
  · rw [pentriesOffset_holding hvalid hfits, pentriesSize_holding hvalid hfits, length_holding,
      ← hvalid.pentriesSize_eq .SECONDARY_GPT]
    exact hvalid.room _
  · rw [pentries_holding_primary hvalid hfits, header_holding_primary hvalid hfits,
      partition_crc_primaryHeader]
    exact hvalid.pentries_crc _

/-- The states of the headers are those that the marks stand for. -/
theorem headerState_holding_primary :
    headerState crc ((disk.holding crc copies).header .PRIMARY_GPT) = signature copies.primary := by
  rw [header_holding_primary hvalid hfits]
  exact headerState_reseal_mark crc copies.primary (by
    rw [hvalid.length_header]
    exact Nat.le_trans (by decide) hvalid.blk_size)

theorem headerState_holding_secondary :
    headerState crc ((disk.holding crc copies).header .SECONDARY_GPT) = signature copies.secondary := by
  rw [header_holding_secondary hvalid hfits]
  exact headerState_reseal_mark crc copies.secondary (by
    rw [length_recordArray, hvalid.length_header]
    exact Nat.le_trans (by decide) hvalid.blk_size)

end holding

end gpt_utils
