import OnePlus7Pro.Gpt.BootChainSpec

open regions effects

namespace gpt_utils

/-- A device with two valid copies of the GPT, which name the same number and size of
    entries: headers in block 1 and in the last block, and entry arrays that lie apart
    from each other and from the headers. -/
structure Disk.Valid (crc : Buffer → UInt32) (disk : Disk) : Prop where
  blk_size : 512 ≤ disk.blk_size
  blocks : 3 * disk.blk_size ≤ disk.bytes.length
  state : ∀ gpt, headerState crc (disk.header gpt) = .GPT_OK
  header_size : ∀ gpt, 92 ≤ field (disk.header gpt) HEADER_SIZE_OFFSET 4 ∧
    field (disk.header gpt) HEADER_SIZE_OFFSET 4 ≤ disk.blk_size
  count_eq : field (disk.header .SECONDARY_GPT) PARTITION_COUNT_OFFSET 4 =
    field (disk.header .PRIMARY_GPT) PARTITION_COUNT_OFFSET 4
  pentry_size_eq : field (disk.header .SECONDARY_GPT) PENTRY_SIZE_OFFSET 4 =
    field (disk.header .PRIMARY_GPT) PENTRY_SIZE_OFFSET 4
  pentry_size : PTN_ENTRY_SIZE ≤ field (disk.header .PRIMARY_GPT) PENTRY_SIZE_OFFSET 4
  product_lt : field (disk.header .PRIMARY_GPT) PARTITION_COUNT_OFFSET 4 *
    field (disk.header .PRIMARY_GPT) PENTRY_SIZE_OFFSET 4 < 2 ^ 32
  room : ∀ gpt, disk.pentriesOffset gpt + disk.pentriesSize gpt ≤ disk.bytes.length
  pentries_crc : ∀ gpt, field (disk.header gpt) PARTITION_CRC_OFFSET 4 = (crc (disk.pentries gpt)).toNat
  arrays_apart : Apart (disk.pentriesOffset .PRIMARY_GPT) (disk.pentriesSize .PRIMARY_GPT)
    (disk.pentriesOffset .SECONDARY_GPT) (disk.pentriesSize .SECONDARY_GPT)
  array_apart : ∀ gpt gpt', Apart (disk.pentriesOffset gpt) (disk.pentriesSize gpt)
    (disk.headerOffset gpt') disk.blk_size

/-- A device with two valid copies of the GPT that are equal. -/
structure Disk.WellFormed (crc : Buffer → UInt32) (disk : Disk) : Prop extends disk.Valid crc where
  pentries_eq : disk.pentries .SECONDARY_GPT = disk.pentries .PRIMARY_GPT

/-- A copy of the GPT is completely valid: its header has the signature and its CRC, and
    the CRC of the entry array that it points to. -/
structure Disk.ValidCopy (crc : Buffer → UInt32) (disk : Disk) (gpt : gpt_instance) : Prop where
  state : headerState crc (disk.header gpt) = .GPT_OK
  room : disk.pentriesOffset gpt + disk.pentriesSize gpt ≤ disk.bytes.length
  pentries_crc : field (disk.header gpt) PARTITION_CRC_OFFSET 4 = (crc (disk.pentries gpt)).toNat

/-- A table of the size of the entry arrays of the device. -/
def Disk.Fits (disk : Disk) (table : Buffer) : Prop := table.length = disk.pentriesSize .PRIMARY_GPT

namespace Disk.Valid

variable {crc : Buffer → UInt32} {disk : Disk}

theorem pentriesSize_eq (hvalid : disk.Valid crc) (gpt : gpt_instance) :
    disk.pentriesSize gpt = disk.pentriesSize .PRIMARY_GPT := by
  cases gpt with
  | PRIMARY_GPT => rfl
  | SECONDARY_GPT => rw [Disk.pentriesSize, hvalid.count_eq, hvalid.pentry_size_eq, Disk.pentriesSize]

theorem headerOffset_room (hvalid : disk.Valid crc) (gpt : gpt_instance) :
    disk.headerOffset gpt + disk.blk_size ≤ disk.bytes.length := by
  have hblocks := hvalid.blocks
  cases gpt <;> simp only [Disk.headerOffset] <;> omega

theorem headers_apart (hvalid : disk.Valid crc) :
    Apart (disk.headerOffset .PRIMARY_GPT) disk.blk_size (disk.headerOffset .SECONDARY_GPT) disk.blk_size := by
  have hblocks := hvalid.blocks
  left
  simp only [Disk.headerOffset]
  omega

theorem holdsHeader (hvalid : disk.Valid crc) (gpt : gpt_instance) : disk.HoldsHeader gpt :=
  ⟨Nat.le_trans (by decide) hvalid.blk_size, hvalid.headerOffset_room gpt, (hvalid.header_size gpt).2⟩

theorem length_header (hvalid : disk.Valid crc) (gpt : gpt_instance) :
    (disk.header gpt).length = disk.blk_size :=
  Disk.length_header (hvalid.holdsHeader gpt)

theorem signature_header (hvalid : disk.Valid crc) (gpt : gpt_instance) :
    slice (disk.header gpt) 0 GPT_SIGNATURE.length = GPT_SIGNATURE :=
  ((headerState_eq_ok_iff crc _).mp (hvalid.state gpt)).2

theorem length_pentries (hvalid : disk.Valid crc) (gpt : gpt_instance) :
    (disk.pentries gpt).length = disk.pentriesSize .PRIMARY_GPT := by
  rw [← hvalid.pentriesSize_eq gpt]
  exact length_slice_of_le (hvalid.room gpt)

end Disk.Valid

end gpt_utils
