import OnePlus7Pro.Update.FailSafe

open regions effects twins

namespace gpt_utils

/-- The bytes of a header block that an update rewrites: the signature, the header CRC and,
    in the secondary header, the CRC of the entry array. -/
def HeaderArea (gpt : gpt_instance) (i : Nat) : Prop :=
  i < GPT_SIGNATURE.length ∨ (HEADER_CRC_OFFSET ≤ i ∧ i < HEADER_CRC_OFFSET + 4) ∨
    (gpt = .SECONDARY_GPT ∧ PARTITION_CRC_OFFSET ≤ i ∧ i < PARTITION_CRC_OFFSET + 4)

/-- The bytes of a device that an update rewrites: those of the two headers, and the
    secondary entry array. -/
def Disk.UpdateArea (disk : Disk) (i : Nat) : Prop :=
  (∃ gpt j, HeaderArea gpt j ∧ i = disk.headerOffset gpt + j) ∨
    (disk.pentriesOffset .SECONDARY_GPT ≤ i ∧
      i < disk.pentriesOffset .SECONDARY_GPT + disk.pentriesSize .PRIMARY_GPT)

variable {crc : Buffer → UInt32} {fd : String} {disk moment : Disk} {copies : Copies Buffer}

theorem getElem?_setField_outside (buf : Buffer) {offset value i : Nat}
    (houtside : i < offset ∨ offset + 4 ≤ i) : (setField buf offset value)[i]? = buf[i]? :=
  getElem?_patch_outside buf (by rwa [length_toLittleEndian])

theorem getElem?_mark_outside (state : gpt_state) (header : Buffer) {i : Nat}
    (houtside : GPT_SIGNATURE.length ≤ i) : (mark state header)[i]? = header[i]? := by
  cases state with
  | GPT_OK => exact getElem?_patch_outside header (.inr (by rwa [Nat.zero_add]))
  | GPT_BAD_SIGNATURE =>
    refine getElem?_patch_outside header (.inr ?_)
    exact Nat.le_trans (by decide) houtside
  | GPT_BAD_CRC => rfl

theorem getElem?_primaryHeader {i : Nat} (houtside : ¬ HeaderArea .PRIMARY_GPT i) :
    (disk.primaryHeader crc copies)[i]? = (disk.header .PRIMARY_GPT)[i]? := by
  unfold HeaderArea at houtside
  rw [Disk.primaryHeader, reseal, getElem?_setField_outside _ (by omega), getElem?_mark_outside _ _ (by omega)]

theorem getElem?_secondaryHeader {i : Nat} (houtside : ¬ HeaderArea .SECONDARY_GPT i) :
    (disk.secondaryHeader crc copies)[i]? = (disk.header .SECONDARY_GPT)[i]? := by
  simp only [HeaderArea, true_and] at houtside
  rw [Disk.secondaryHeader, reseal, getElem?_setField_outside _ (by omega), getElem?_mark_outside _ _ (by omega),
    recordArray, getElem?_setField_outside _ (by omega)]

/-- A header block put back with some of its bytes rewritten leaves every other byte of the
    device as it was. -/
theorem getElem?_patch_header (area : Nat → Prop) {bytes header : Buffer} {offset i : Nat}
    (hsame : ∀ j, ¬ area j → header[j]? = (slice bytes offset header.length)[j]?)
    (houtside : ∀ j, area j → i ≠ offset + j) : (patch bytes offset header)[i]? = bytes[i]? := by
  rw [getElem?_patch]
  split
  · next hin =>
    have hnot : ¬ area (i - offset) := fun h => houtside _ h (by omega)
    rw [hsame _ hnot, getElem?_slice, if_pos (by omega)]
    congr 1
    omega
  · rfl

/-- However its copies are described, a device is as before outside the area of an update. -/
theorem getElem?_holding (hvalid : disk.Valid crc) (hfits : disk.Fits copies.stored) {i : Nat}
    (houtside : ¬ disk.UpdateArea i) : (disk.holding crc copies).bytes[i]? = disk.bytes[i]? := by
  have hnot (gpt : gpt_instance) (j : Nat) (hj : HeaderArea gpt j) : i ≠ disk.headerOffset gpt + j :=
    fun h => houtside (.inl ⟨gpt, j, hj, h⟩)
  have harray : i < disk.pentriesOffset .SECONDARY_GPT ∨
      disk.pentriesOffset .SECONDARY_GPT + copies.stored.length ≤ i := by
    have h : ¬ _ := fun h => houtside (.inr h)
    rw [← hfits] at h
    omega
  have hprimary := hvalid.length_primaryHeader copies
  have hsecondary := hvalid.length_secondaryHeader copies
  have hheader : slice (disk.write (disk.headerOffset .PRIMARY_GPT) (disk.primaryHeader crc copies)).bytes
      (disk.headerOffset .SECONDARY_GPT) disk.blk_size = disk.header .SECONDARY_GPT :=
    slice_patch_of_apart _ (by rw [hprimary]; exact hvalid.headers_apart.symm)
  rw [Disk.holding, Disk.write_bytes, getElem?_patch_outside _ harray, Disk.write_bytes,
    getElem?_patch_header (HeaderArea .SECONDARY_GPT) _ (hnot _), Disk.write_bytes,
    getElem?_patch_header (HeaderArea .PRIMARY_GPT) _ (hnot _)]
  · intro j hj
    rw [getElem?_primaryHeader hj, hprimary]
    rfl
  · intro j hj
    rw [getElem?_secondaryHeader hj, hsecondary, hheader]

/-- Whatever updates are requested of a well-formed device, and wherever a session is
    stopped, it keeps its size and every byte outside the signatures and CRCs of its
    headers and its secondary entry array. -/
theorem prepare_partitions_area (hwf : disk.WellFormed crc) (h : Persisted crc fd disk moment) :
    moment.blk_size = disk.blk_size ∧ moment.bytes.length = disk.bytes.length ∧
      ∀ i, ¬ disk.UpdateArea i → moment.bytes[i]? = disk.bytes[i]? := by
  obtain ⟨copies, -, hfits, rfl⟩ := h.keeps hwf
  exact ⟨rfl, length_holding _ _ _, fun i houtside => getElem?_holding hwf.toValid hfits houtside⟩

theorem prepare_partitions_area_pairedDisk : ∃ moment : Disk,
    headerState zlib_crc32 (moment.header .PRIMARY_GPT) = .GPT_BAD_SIGNATURE ∧
    (moment.blk_size = pairedDisk.blk_size ∧ moment.bytes.length = pairedDisk.bytes.length ∧
      ∀ i, ¬ pairedDisk.UpdateArea i → moment.bytes[i]? = pairedDisk.bytes[i]?) := by
  obtain ⟨moment, hpersisted, hprimary⟩ := persisted_update_main
  exact ⟨moment, hprimary, prepare_partitions_area pairedDisk_wellFormed hpersisted⟩

end gpt_utils
