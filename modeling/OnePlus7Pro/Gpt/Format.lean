import OnePlus7Pro.Gpt.WellFormed

open regions effects

namespace gpt_utils

def zeros (count : Nat) : Buffer := List.replicate count 0

@[simp] theorem length_zeros (count : Nat) : (zeros count).length = count := List.length_replicate

/-- A header block without signature and CRCs, for an array of four entries of 128 bytes
    that starts at the block `lba`. -/
def blankHeader (lba : Nat) : Buffer :=
  setField (setField (setField (setField (zeros 512) HEADER_SIZE_OFFSET 92) PENTRIES_OFFSET lba)
    PARTITION_COUNT_OFFSET 4) PENTRY_SIZE_OFFSET 128

def formattedHeader (crc : Buffer → UInt32) (lba : Nat) (pentries : Buffer) : Buffer :=
  reseal crc (recordArray crc (mark .GPT_OK (blankHeader lba)) pentries)

/-- A device of five blocks: the protective one, the primary header, the two entry
    arrays and the secondary header. -/
def formatted (crc : Buffer → UInt32) (pentries : Buffer) : Disk :=
  let blank : Disk := {
    blk_size := 512
    bytes := zeros 2560
    blk_size_lt := by decide
    bytes_lt := by rw [length_zeros]; decide }
  (((blank.write 512 (formattedHeader crc 2 pentries)).write 1024 pentries).write 1536 pentries).write 2048
    (formattedHeader crc 3 pentries)

variable (crc : Buffer → UInt32) {pentries : Buffer}

@[simp] theorem length_formattedHeader (lba : Nat) (pentries : Buffer) :
    (formattedHeader crc lba pentries).length = 512 := by
  simp [formattedHeader, blankHeader]

theorem sameLayout_formattedHeader (lba : Nat) (pentries : Buffer) :
    SameLayout (formattedHeader crc lba pentries) (blankHeader lba) :=
  ((sameLayout_reseal crc _).trans (sameLayout_recordArray crc _ _)).trans (sameLayout_mark _ _)

theorem headerState_formattedHeader (lba : Nat) (pentries : Buffer) :
    headerState crc (formattedHeader crc lba pentries) = .GPT_OK := by
  have hlength : 20 ≤ (blankHeader lba).length := by simp [blankHeader]
  rw [formattedHeader, headerState_reseal crc (by simpa using hlength), if_pos]
  rw [recordArray_mark]
  exact signature_mark_ok (by simpa using hlength)

@[simp] theorem formatted_blk_size (pentries : Buffer) : (formatted crc pentries).blk_size = 512 :=
  rfl

@[simp] theorem length_formatted (pentries : Buffer) :
    (formatted crc pentries).bytes.length = 2560 := by
  simp [formatted]

theorem header_formatted (pentries : Buffer) (gpt : gpt_instance) :
    (formatted crc pentries).header gpt =
      formattedHeader crc (match gpt with | .PRIMARY_GPT => 2 | .SECONDARY_GPT => 3) pentries := by
  have hself (buffer : Buffer) (offset lba : Nat) (hroom : offset + 512 ≤ buffer.length) :
      slice (patch buffer offset (formattedHeader crc lba pentries)) offset 512 = formattedHeader crc lba pentries := by
    have h := @slice_patch_self _ buffer (formattedHeader crc lba pentries) offset
      (by simpa using hroom)
    rwa [length_formattedHeader] at h
  cases gpt with
  | PRIMARY_GPT =>
    change slice (formatted crc pentries).bytes 512 512 = _
    simp only [formatted, Disk.write_bytes]
    rw [slice_patch_of_apart _ (.inl (by decide)), slice_patch_of_apart _ (.inl (by decide)),
      slice_patch_of_apart _ (.inl (by decide)), hself _ _ _ (by rw [length_zeros]; decide)]
  | SECONDARY_GPT =>
    have hoffset : (formatted crc pentries).headerOffset .SECONDARY_GPT = 2048 := by
      rw [Disk.headerOffset, length_formatted, formatted_blk_size]
    rw [Disk.header, hoffset]
    exact hself _ _ _ (by simp)

theorem header_size_formatted (pentries : Buffer) (gpt : gpt_instance) :
    field ((formatted crc pentries).header gpt) HEADER_SIZE_OFFSET 4 = 92 := by
  rw [header_formatted crc pentries, (sameLayout_formattedHeader crc _ _).header_size]
  cases gpt <;> decide +kernel

theorem lba_formatted (pentries : Buffer) (gpt : gpt_instance) :
    field ((formatted crc pentries).header gpt) PENTRIES_OFFSET 8 =
      match gpt with | .PRIMARY_GPT => 2 | .SECONDARY_GPT => 3 := by
  rw [header_formatted crc pentries, (sameLayout_formattedHeader crc _ _).lba]
  cases gpt <;> decide +kernel

theorem count_formatted (pentries : Buffer) (gpt : gpt_instance) :
    field ((formatted crc pentries).header gpt) PARTITION_COUNT_OFFSET 4 = 4 := by
  rw [header_formatted crc pentries, (sameLayout_formattedHeader crc _ _).count]
  cases gpt <;> decide +kernel

theorem pentry_size_formatted (pentries : Buffer) (gpt : gpt_instance) :
    field ((formatted crc pentries).header gpt) PENTRY_SIZE_OFFSET 4 = 128 := by
  rw [header_formatted crc pentries, (sameLayout_formattedHeader crc _ _).pentry_size]
  cases gpt <;> decide +kernel

theorem pentriesOffset_formatted (pentries : Buffer) (gpt : gpt_instance) :
    (formatted crc pentries).pentriesOffset gpt = match gpt with | .PRIMARY_GPT => 1024 | .SECONDARY_GPT => 1536 := by
  rw [Disk.pentriesOffset, lba_formatted, formatted_blk_size]
  cases gpt <;> rfl

theorem pentriesSize_formatted (pentries : Buffer) (gpt : gpt_instance) :
    (formatted crc pentries).pentriesSize gpt = 512 := by
  rw [Disk.pentriesSize, count_formatted, pentry_size_formatted]
  rfl

section layout

variable (hlength : pentries.length = 512)

include hlength

theorem pentries_formatted (gpt : gpt_instance) :
    (formatted crc pentries).pentries gpt = pentries := by
  have hself (buffer : Buffer) (offset : Nat) (hroom : offset + 512 ≤ buffer.length) :
      slice (patch buffer offset pentries) offset 512 = pentries := by
    have h := @slice_patch_self _ buffer pentries offset (by omega)
    rwa [hlength] at h
  rw [Disk.pentries, pentriesOffset_formatted crc, pentriesSize_formatted crc, Disk.read, formatted]
  simp only [Disk.write_bytes]
  cases gpt with
  | PRIMARY_GPT =>
    simp only []
    rw [slice_patch_of_apart _ (.inl (by decide)), slice_patch_of_apart _ (.inl (by decide)),
      hself _ _ (by simp)]
  | SECONDARY_GPT =>
    simp only []
    rw [slice_patch_of_apart _ (.inl (by decide)), hself _ _ (by simp)]

/-- Whatever its partitions are, a freshly formatted device is well formed. -/
theorem formatted_wellFormed : (formatted crc pentries).WellFormed crc := by
  have hheader := header_formatted crc pentries
  refine ⟨⟨Nat.le_refl 512, ?_, ?_, ?_, ?_, ?_, ?_, ?_, ?_, ?_, ?_, ?_⟩, ?_⟩
  · rw [length_formatted, formatted_blk_size]
    decide
  · intro gpt
    rw [hheader, headerState_formattedHeader]
  · intro gpt
    rw [header_size_formatted, formatted_blk_size]
    omega
  · rw [count_formatted, count_formatted]
  · rw [pentry_size_formatted, pentry_size_formatted]
  · rw [pentry_size_formatted]
  · rw [count_formatted, pentry_size_formatted]
    omega
  · intro gpt
    rw [pentriesOffset_formatted crc, pentriesSize_formatted crc, length_formatted]
    cases gpt <;> decide
  · intro gpt
    rw [pentries_formatted crc hlength, hheader, formattedHeader, partition_crc_reseal]
    exact field_recordArray_self crc _ (by simp [blankHeader])
  · rw [pentriesOffset_formatted crc, pentriesOffset_formatted crc, pentriesSize_formatted crc,
      pentriesSize_formatted crc]
    decide
  · intro gpt gpt'
    rw [pentriesOffset_formatted crc, pentriesSize_formatted crc, formatted_blk_size]
    cases gpt' with
    | PRIMARY_GPT =>
      rw [Disk.headerOffset, formatted_blk_size]
      cases gpt <;> exact .inr (by decide)
    | SECONDARY_GPT =>
      rw [Disk.headerOffset, length_formatted, formatted_blk_size]
      cases gpt <;> exact .inl (by decide)
  · rw [pentries_formatted crc hlength, pentries_formatted crc hlength]

end layout

/-- An entry of 128 bytes with a name. -/
def namedEntry (name : Buffer) : Buffer :=
  patch (zeros PTN_ENTRY_SIZE) PARTITION_NAME_OFFSET (name.flatMap fun c => [c, 0])

theorem length_namedEntries (names : List Buffer) :
    (names.flatMap namedEntry).length = names.length * PTN_ENTRY_SIZE := by
  induction names with
  | nil => rfl
  | cons name names ih =>
    have hentry : (namedEntry name).length = PTN_ENTRY_SIZE := by
      rw [namedEntry, length_patch, length_zeros]
    rw [List.flatMap_cons, List.length_append, ih, hentry, List.length_cons, Nat.succ_mul,
      Nat.add_comm]

/-- The CRC-32 of zlib, bit by bit. -/
def zlib_crc32 (buf : Buffer) : UInt32 :=
  let shift (crc : UInt32) : UInt32 :=
    if crc &&& 1 = 1 then (crc >>> 1) ^^^ 0xEDB88320 else crc >>> 1
  (buf.foldl (fun crc byte => (List.range 8).foldl (fun crc _ => shift crc) (crc ^^^ byte.toUInt32)) 0xFFFFFFFF) ^^^
    0xFFFFFFFF

/-- A target without UFS on which nothing fails. -/
def emmc : Env where
  crc32 := zlib_crc32
  transfer _ := .full
  call _ := true
  heap _ _ := 0
  ro_boot_bootdevice := "7c4000.sdhci"
  stat _ := false
  readlink _ := none
  readdir _ := none

/-- A UFS target with `xbl` and `xblbak` on which nothing fails. -/
def ufs : Env :=
  { emmc with
    ro_boot_bootdevice := "1d84000.ufshc"
    stat := fun _ => true
    readlink :=
      fun path => some (if path = "/dev/block/bootdevice/by-name/ablbak" then "/dev/block/sdb4" else "/dev/block/sde7")
    readdir := fun _ => some ["sg1"] }

/-- A device whose array holds `abl` and its backup. -/
def pairedDisk : Disk :=
  formatted zlib_crc32 ([cstr "abl", cstr "ablbak", cstr "boot", cstr "misc"].flatMap namedEntry)

/-- A device without backup partitions. -/
def singleDisk : Disk :=
  formatted zlib_crc32 ([cstr "abl", cstr "boot", cstr "misc", cstr "modem"].flatMap namedEntry)

theorem pairedDisk_wellFormed : pairedDisk.WellFormed zlib_crc32 :=
  formatted_wellFormed _ (length_namedEntries _)

theorem pairedDisk_valid : pairedDisk.Valid zlib_crc32 := pairedDisk_wellFormed.toValid

theorem singleDisk_wellFormed : singleDisk.WellFormed zlib_crc32 :=
  formatted_wellFormed _ (length_namedEntries _)

theorem emmc_working : emmc.Working := ⟨fun _ => rfl, fun _ => rfl⟩

theorem ufs_working : ufs.Working := ⟨fun _ => rfl, fun _ => rfl⟩

/-- The machine before a run, with one device. -/
def machine (disk : Disk) : World where
  disks fd := if fd = BLK_DEV_FILE then some disk else none
  boot_lun := 1
  transfers := 0
  calls := 0
  log := []
  moves := []

theorem machine_disk (disk : Disk) : (machine disk).disks BLK_DEV_FILE = some disk := rfl

end gpt_utils
