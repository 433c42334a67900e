import OnePlus7Pro.Gpt.Copies

open regions effects twins

namespace gpt_utils

section holding

variable {crc : Buffer → UInt32} {disk : Disk} (hvalid : disk.Valid crc) {copies : Copies Buffer}
  (hfits : disk.Fits copies.stored)

include hvalid hfits

/-- Marking the primary header as the program does marks the primary copy. -/
theorem mark_primary_header (good : Bool) :
    reseal crc (mark (signature good) ((disk.holding crc copies).header .PRIMARY_GPT)) =
      disk.primaryHeader crc (copies.apply (.mark_primary good)) := by
  rw [header_holding_primary hvalid hfits, Disk.primaryHeader, reseal_mark_reseal,
    mark_mark_signature (hvalid.signature_header _)]
  rfl

/-- Marking the secondary header as the program does marks the secondary copy. -/
theorem mark_secondary_header (good : Bool) :
    reseal crc (mark (signature good) ((disk.holding crc copies).header .SECONDARY_GPT)) =
      disk.secondaryHeader crc (copies.apply (.mark_secondary good)) := by
  have hsignature : slice (recordArray crc (disk.header .SECONDARY_GPT) copies.recorded) 0 GPT_SIGNATURE.length =
      GPT_SIGNATURE := by
    rw [recordArray, setField, slice_patch_of_apart _ (.inl (by decide))]
    exact hvalid.signature_header _
  rw [header_holding_secondary hvalid hfits, Disk.secondaryHeader, reseal_mark_reseal,
    mark_mark_signature hsignature]
  rfl

/-- The secondary header that `gpt2_set_boot_chain` writes records the new table. -/
theorem chain_header (table : Buffer) :
    chainHeader crc ((disk.holding crc copies).header .SECONDARY_GPT) table =
      disk.secondaryHeader crc (copies.apply (.record table)) := by
  rw [header_holding_secondary hvalid hfits, chainHeader, Disk.secondaryHeader,
    reseal_recordArray_reseal, recordArray_mark, recordArray_recordArray]
  rfl

theorem write_primaryHeader (good : Bool) :
    (disk.holding crc copies).write (disk.headerOffset .PRIMARY_GPT)
        (disk.primaryHeader crc (copies.apply (.mark_primary good))) =
      disk.holding crc (copies.apply (.mark_primary good)) := by
  have harray := stored_apart hvalid hfits .PRIMARY_GPT
  have hpast_array (bytes : Buffer) := @patch_comm _ bytes copies.stored
    (disk.primaryHeader crc (copies.apply (.mark_primary good))) _ _ (by
      rw [hvalid.length_primaryHeader]
      exact harray.symm)
  have hpast_header (bytes : Buffer) := @patch_comm _ bytes (disk.secondaryHeader crc copies)
    (disk.primaryHeader crc (copies.apply (.mark_primary good))) _ _ (by
      rw [hvalid.length_primaryHeader, hvalid.length_secondaryHeader]
      exact hvalid.headers_apart.symm)
  refine Disk.ext rfl ?_
  simp only [Disk.holding, Disk.write_bytes]
  rw [hpast_array, hpast_header, patch_patch_same _ (by rw [hvalid.length_primaryHeader, hvalid.length_primaryHeader])]
  rfl

theorem write_secondaryHeader {copies' : Copies Buffer}
    (hprimary : copies'.primary = copies.primary) (hstored : copies'.stored = copies.stored) :
    (disk.holding crc copies).write (disk.headerOffset .SECONDARY_GPT) (disk.secondaryHeader crc copies') =
      disk.holding crc copies' := by
  have harray := stored_apart hvalid hfits .SECONDARY_GPT
  have hpast_array (bytes : Buffer) := @patch_comm _ bytes copies.stored
    (disk.secondaryHeader crc copies') _ _ (by
      rw [hvalid.length_secondaryHeader]
      exact harray.symm)
  refine Disk.ext rfl ?_
  simp only [Disk.holding, Disk.write_bytes]
  rw [hpast_array, patch_patch_same _ (by rw [hvalid.length_secondaryHeader, hvalid.length_secondaryHeader]), hstored,
    Disk.primaryHeader, Disk.primaryHeader, hprimary]

omit hvalid in
theorem write_stored {table : Buffer} (htable : disk.Fits table) :
    (disk.holding crc copies).write (disk.pentriesOffset .SECONDARY_GPT) table =
      disk.holding crc (copies.apply (.store table)) := by
  refine Disk.ext rfl ?_
  simp only [Disk.holding, Disk.write_bytes]
  rw [patch_patch_same _ (hfits.trans htable.symm)]
  rfl

end holding

/-- The copies of a device as it is, both with their signatures. -/
def Disk.ownCopies (disk : Disk) : Copies Buffer :=
  ⟨true, true, disk.pentries .SECONDARY_GPT, disk.pentries .SECONDARY_GPT⟩

/-- A device with two valid copies holds its own table in the secondary one. -/
theorem holding_ownCopies {crc : Buffer → UInt32} {disk : Disk} (hvalid : disk.Valid crc) :
    disk.holding crc disk.ownCopies = disk := by
  have hsealed (gpt : gpt_instance) : reseal crc (disk.header gpt) = disk.header gpt :=
    reseal_of_ok crc (by rw [hvalid.length_header]; exact Nat.le_trans (by decide) hvalid.blk_size) (hvalid.state gpt)
  have hmarked (gpt : gpt_instance) : mark (signature true) (disk.header gpt) = disk.header gpt :=
    mark_of_ok crc (hvalid.state gpt)
  have hrecorded : recordArray crc (disk.header .SECONDARY_GPT) (disk.pentries .SECONDARY_GPT) =
      disk.header .SECONDARY_GPT := by
    refine recordArray_self crc ?_ (hvalid.pentries_crc _)
    rw [hvalid.length_header]
    exact Nat.le_trans (by decide) hvalid.blk_size
  have hprimary : disk.primaryHeader crc disk.ownCopies = disk.header .PRIMARY_GPT := by
    rw [Disk.primaryHeader, Disk.ownCopies, hmarked, hsealed]
  have hsecondary : disk.secondaryHeader crc disk.ownCopies = disk.header .SECONDARY_GPT := by
    rw [Disk.secondaryHeader, Disk.ownCopies, hrecorded, hmarked, hsealed]
  refine Disk.ext rfl ?_
  rw [Disk.holding, hprimary, hsecondary, Disk.ownCopies]
  simp only [Disk.write_bytes, Disk.header, Disk.read, Disk.pentries, patch_slice_self]

theorem holding_intact {crc : Buffer → UInt32} {disk : Disk} (hwf : disk.WellFormed crc) :
    disk.holding crc ⟨true, true, disk.pentries .PRIMARY_GPT, disk.pentries .PRIMARY_GPT⟩ = disk := by
  rw [← hwf.pentries_eq]
  exact holding_ownCopies hwf.toValid

end gpt_utils
