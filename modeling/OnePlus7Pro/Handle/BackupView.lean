import OnePlus7Pro.Gpt.Copies
import OnePlus7Pro.Handle.BothCopies

open regions effects

namespace gpt_utils

/-- The position of the entry array that a header names, whatever its size. -/
def Disk.tableOffset (disk : Disk) (gpt : gpt_instance) : Nat :=
  field (disk.header gpt) PENTRIES_OFFSET 8 * disk.blk_size

/-- The size of the entry array that a header names, whatever it is. -/
def Disk.tableSize (disk : Disk) (gpt : gpt_instance) : Nat :=
  field (disk.header gpt) PARTITION_COUNT_OFFSET 4 * field (disk.header gpt) PENTRY_SIZE_OFFSET 4

def Disk.table (disk : Disk) (gpt : gpt_instance) : Buffer :=
  disk.read (disk.tableOffset gpt) (disk.tableSize gpt)

/-- The handle shows both copies of the GPT of a device. -/
structure gpt_disk.Shows (disk : Disk) (handle : gpt_disk) : Prop where
  hdr : handle.hdr = some (disk.header .PRIMARY_GPT)
  hdr_bak : handle.hdr_bak = some (disk.header .SECONDARY_GPT)
  pentry_arr : handle.pentry_arr = some (disk.table .PRIMARY_GPT)
  pentry_arr_bak : handle.pentry_arr_bak = some (disk.table .SECONDARY_GPT)
  lookup : ∀ name, gpt_disk_get_pentry handle name .SECONDARY_GPT =
    gpt_pentry_seek name (disk.table .SECONDARY_GPT) 0 (disk.tableSize .SECONDARY_GPT)
      (field (disk.header .SECONDARY_GPT) PENTRY_SIZE_OFFSET 4)

variable {env : Env} {w w1 : World} {disk : Disk} {path dev : String} {dsk handle : gpt_disk}

/-- The program finds an array whose size it can express. -/
theorem table_eq_pentries {gpt : gpt_instance} (hoffset : disk.tableOffset gpt < 2 ^ 64)
    (hsize : disk.tableSize gpt < 2 ^ 32) : disk.table gpt = disk.pentries gpt := by
  have hoffset' : disk.pentriesOffset gpt = disk.tableOffset gpt := Nat.mod_eq_of_lt hoffset
  have hsize' : disk.pentriesSize gpt = disk.tableSize gpt := Nat.mod_eq_of_lt hsize
  rw [Disk.table, Disk.pentries, hoffset', hsize']

/-- `gpt_disk_get_disk_info` stops at a header that is larger than its block. -/
theorem header_size_of_info (hio : env.FullOrFail) (hleads : env.Leads dev dsk path)
    (hdisk : w.disks path = some disk) (hblk : 92 ≤ disk.blk_size)
    (hblocks : 2 * disk.blk_size ≤ disk.bytes.length)
    (hinfo : gpt_disk_get_disk_info env dev dsk w = .ok (0, handle) w1) :
    field (disk.header .PRIMARY_GPT) HEADER_SIZE_OFFSET 4 ≤ disk.blk_size := by
  by_contra hlarge
  have hroom : disk.headerOffset .PRIMARY_GPT + disk.blk_size ≤ disk.bytes.length := by
    simp only [Disk.headerOffset]
    omega
  have hlength : (disk.header .PRIMARY_GPT).length = disk.blk_size := length_slice_of_le hroom
  obtain ⟨hdr, w2, hrun, _, rfl | ⟨rfl, _⟩⟩ :=
    gpt_get_header_reads hio hleads.fresh hdisk (by omega) hroom
  · rw [gpt_disk_get_disk_info, run_bind_ok hrun] at hinfo
    simp only [] at hinfo
    rw [GET_4_BYTES_eq (by simp only [HEADER_SIZE_OFFSET]; omega), mem_ok_bind, crc32,
      if_neg (by omega), mem_error_bind] at hinfo
    cases hinfo
  · rw [gpt_disk_get_disk_info, run_bind_ok hrun] at hinfo
    cases hinfo

/-- A handle that was filled shows both copies exactly when the two header blocks are the
    same and the size of their array fits 32 bits. -/
theorem backup_view_iff (hio : env.FullOrFail) (hleads : env.Leads dev dsk path)
    (hdisk : w.disks path = some disk) (hblk : 92 ≤ disk.blk_size)
    (hblocks : 2 * disk.blk_size ≤ disk.bytes.length)
    (hroom : disk.tableOffset .PRIMARY_GPT + disk.tableSize .PRIMARY_GPT ≤ disk.bytes.length)
    (hinfo : gpt_disk_get_disk_info env dev dsk w = .ok (0, handle) w1) :
    handle.Shows disk ↔
      disk.header .SECONDARY_GPT = disk.header .PRIMARY_GPT ∧
      disk.tableSize .PRIMARY_GPT < 2 ^ 32 := by
  have hbytes := disk.bytes_lt
  have hoffset : disk.pentriesOffset .PRIMARY_GPT = disk.tableOffset .PRIMARY_GPT :=
    Nat.mod_eq_of_lt (by
    change disk.tableOffset .PRIMARY_GPT < 2 ^ 64
    omega)
  have hsize : disk.pentriesSize .PRIMARY_GPT = disk.tableSize .PRIMARY_GPT % 2 ^ 32 := rfl
  have hheader : disk.HoldsHeader .PRIMARY_GPT :=
    ⟨hblk, by simp only [Disk.headerOffset]; omega, header_size_of_info hio hleads hdisk hblk hblocks hinfo⟩
  have hroom' : disk.pentriesOffset .PRIMARY_GPT + disk.pentriesSize .PRIMARY_GPT ≤ disk.bytes.length := by
    have hle := Nat.mod_le (disk.tableSize .PRIMARY_GPT) (2 ^ 32)
    omega
  obtain ⟨_, _, hfilled⟩ :=
    (gpt_disk_get_disk_info_reads hio hleads hdisk hheader hroom').of_run hinfo (by simp)
  have hholds := hfilled.holds
  constructor
  · intro hshows
    have hlength : (disk.table .PRIMARY_GPT).length = disk.tableSize .PRIMARY_GPT :=
      length_slice_of_le hroom
    have hlength' : (disk.pentries .PRIMARY_GPT).length = disk.pentriesSize .PRIMARY_GPT :=
      length_slice_of_le hroom'
    have hsame := Option.some.inj (hshows.pentry_arr.symm.trans hholds.pentry_arr)
    refine ⟨Option.some.inj (hshows.hdr_bak.symm.trans hholds.hdr_bak), ?_⟩
    rw [← hlength, hsame, hlength', hsize]
    exact Nat.mod_lt _ (by decide)
  · rintro ⟨hsame, hlt⟩
    have htable : disk.table .PRIMARY_GPT = disk.pentries .PRIMARY_GPT :=
      table_eq_pentries (by omega) hlt
    have htable_bak : disk.table .SECONDARY_GPT = disk.table .PRIMARY_GPT := by
      rw [Disk.table, Disk.tableOffset, Disk.tableSize, hsame]
      rfl
    have hsize_bak : disk.tableSize .SECONDARY_GPT = disk.pentriesSize .PRIMARY_GPT := by
      rw [hsize, Nat.mod_eq_of_lt hlt, Disk.tableSize, hsame]
      rfl
    refine ⟨hholds.hdr, ?_, ?_, ?_, fun name => ?_⟩
    · rw [hsame, hholds.hdr_bak]
    · rw [htable, hholds.pentry_arr]
    · rw [htable_bak, htable, hholds.pentry_arr_bak]
    · rw [gpt_disk_get_pentry, if_neg (not_not.mpr hholds.is_initialized), gpt_disk.ptn_arr,
        hholds.pentry_arr_bak, htable_bak, htable, hsize_bak, hsame, hholds.pentry_arr_size, hholds.pentry_size]
      rfl

theorem backup_view_pairedDisk : ∃ handle w1,
    gpt_disk_get_disk_info emmc "abl" gpt_disk.cleared (machine pairedDisk) = .ok (0, handle) w1 ∧
    (handle.Shows pairedDisk ↔
      pairedDisk.header .SECONDARY_GPT = pairedDisk.header .PRIMARY_GPT ∧
      pairedDisk.tableSize .PRIMARY_GPT < 2 ^ 32) := by
  have hwf := pairedDisk_wellFormed
  obtain ⟨handle, w1, hinfo, _⟩ := emmc_info "abl" hwf
  have hroom : pairedDisk.tableOffset .PRIMARY_GPT + pairedDisk.tableSize .PRIMARY_GPT ≤ pairedDisk.bytes.length := by
    rw [pairedDisk, Disk.tableOffset, Disk.tableSize, lba_formatted, count_formatted,
      pentry_size_formatted, formatted_blk_size, length_formatted]
    decide
  exact ⟨handle, w1, hinfo, backup_view_iff emmc_working.fullOrFail (emmc_leads "abl" gpt_disk.cleared)
    (machine_disk pairedDisk) (hwf.holdsHeader .PRIMARY_GPT).blk_size hwf.primaryValid.blocks hroom hinfo⟩

/-- A device with two valid copies, of which only the primary one names any partition. -/
def divergedDisk : Disk := pairedDisk.holding zlib_crc32 ⟨true, true, zeros 512, zeros 512⟩

theorem divergedDisk_fits : pairedDisk.Fits (zeros 512) := by
  rw [Disk.Fits, length_zeros, pairedDisk, pentriesSize_formatted]

theorem divergedDisk_pentry_size (gpt : gpt_instance) :
    field (divergedDisk.header gpt) PENTRY_SIZE_OFFSET 4 = 128 := by
  rw [divergedDisk, (sameLayout_holding pairedDisk_valid divergedDisk_fits gpt).pentry_size,
    pairedDisk, pentry_size_formatted]

theorem divergedDisk_tableSize : divergedDisk.tableSize .SECONDARY_GPT = 512 := by
  rw [Disk.tableSize, divergedDisk_pentry_size, divergedDisk,
    (sameLayout_holding pairedDisk_valid divergedDisk_fits .SECONDARY_GPT).count, pairedDisk, count_formatted]

theorem divergedDisk_table : divergedDisk.table .SECONDARY_GPT = zeros 512 := by
  have hoffset : divergedDisk.tableOffset .SECONDARY_GPT = 1536 := by
    rw [Disk.tableOffset, divergedDisk,
      (sameLayout_holding pairedDisk_valid divergedDisk_fits .SECONDARY_GPT).lba, pairedDisk, lba_formatted]
    rfl
  have hsize := divergedDisk_tableSize
  rw [table_eq_pentries (by omega) (by omega)]
  exact pentries_holding_secondary pairedDisk_valid divergedDisk_fits

/-- On that device the entry of `abl` is found in the secondary table, which does not have it. -/
theorem backup_view_divergedDisk : ∃ handle w1,
    gpt_disk_get_disk_info emmc "abl" gpt_disk.cleared (machine divergedDisk) = .ok (0, handle) w1 ∧
    gpt_disk_get_pentry handle (cstr "abl") .SECONDARY_GPT = .ok (some 0) ∧
    gpt_pentry_seek (cstr "abl") (divergedDisk.table .SECONDARY_GPT) 0 (divergedDisk.tableSize .SECONDARY_GPT)
      (field (divergedDisk.header .SECONDARY_GPT) PENTRY_SIZE_OFFSET 4) = .ok none := by
  have hvalid := pairedDisk_valid
  have hfits := divergedDisk_fits
  have hheader : divergedDisk.HoldsHeader .PRIMARY_GPT :=
    holdsHeader_holding hvalid hfits .PRIMARY_GPT
  have hsize : divergedDisk.pentriesSize .PRIMARY_GPT = 512 := by
    rw [divergedDisk, pentriesSize_holding hvalid hfits, pairedDisk, pentriesSize_formatted]
  have hroom : divergedDisk.pentriesOffset .PRIMARY_GPT + divergedDisk.pentriesSize .PRIMARY_GPT ≤
      divergedDisk.bytes.length := by
    rw [divergedDisk, pentriesOffset_holding hvalid hfits, pentriesSize_holding hvalid hfits,
      length_holding]
    exact hvalid.room .PRIMARY_GPT
  have hpentries : divergedDisk.pentries .PRIMARY_GPT =
      [cstr "abl", cstr "ablbak", cstr "boot", cstr "misc"].flatMap namedEntry := by
    rw [divergedDisk, pentries_holding_primary hvalid hfits, pairedDisk_pentries]
  obtain ⟨⟨r, handle⟩, w1, hrun, _, rfl, hfilled⟩ :=
    (gpt_disk_get_disk_info_reads emmc_working.fullOrFail
    (emmc_leads "abl" gpt_disk.cleared) (machine_disk divergedDisk) hheader hroom).of_working emmc_working
  refine ⟨handle, w1, hrun, ?_, ?_⟩
  · have hholds := hfilled.holds
    rw [gpt_disk_get_pentry, if_neg (not_not.mpr hholds.is_initialized), gpt_disk.ptn_arr,
      hholds.pentry_arr_bak, hholds.pentry_arr_size, hholds.pentry_size, hpentries, hsize,
      divergedDisk_pentry_size]
    decide +kernel
  · rw [divergedDisk_table, divergedDisk_tableSize, divergedDisk_pentry_size]
    decide +kernel

end gpt_utils
