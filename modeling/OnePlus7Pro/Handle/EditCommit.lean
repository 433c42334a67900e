import OnePlus7Pro.Gpt.Format
import OnePlus7Pro.Handle.GptDiskSpec

open regions effects

namespace gpt_utils

/-- A device with a valid primary header, whose entry array lies on the device and apart
    from block 1. -/
structure Disk.PrimaryValid (crc : Buffer → UInt32) (disk : Disk) : Prop where
  header_size : 92 ≤ field (disk.header .PRIMARY_GPT) HEADER_SIZE_OFFSET 4 ∧
    field (disk.header .PRIMARY_GPT) HEADER_SIZE_OFFSET 4 ≤ disk.blk_size
  blocks : 2 * disk.blk_size ≤ disk.bytes.length
  state : headerState crc (disk.header .PRIMARY_GPT) = .GPT_OK
  room : disk.pentriesOffset .PRIMARY_GPT + disk.pentriesSize .PRIMARY_GPT ≤ disk.bytes.length
  array_apart : Apart (disk.pentriesOffset .PRIMARY_GPT) (disk.pentriesSize .PRIMARY_GPT)
    (disk.headerOffset .PRIMARY_GPT) disk.blk_size

/-- The device with a new primary entry array, for which the primary header is sealed. -/
def Disk.committed (crc : Buffer → UInt32) (disk : Disk) (pentries : Buffer) : Disk :=
  (disk.write (disk.headerOffset .PRIMARY_GPT) (chainHeader crc (disk.header .PRIMARY_GPT) pentries)).write
    (disk.pentriesOffset .PRIMARY_GPT) pentries

section committed

variable {crc : Buffer → UInt32} {disk : Disk} {pentries : Buffer} (hvalid : disk.PrimaryValid crc)
  (hfits : disk.Fits pentries)

include hvalid

theorem Disk.PrimaryValid.holdsHeader : disk.HoldsHeader .PRIMARY_GPT := by
  obtain ⟨hlow, hhigh⟩ := hvalid.header_size
  have hblocks := hvalid.blocks
  exact ⟨by omega, by simp only [Disk.headerOffset]; omega, hhigh⟩

theorem length_chainHeader :
    (chainHeader crc (disk.header .PRIMARY_GPT) pentries).length = disk.blk_size := by
  rw [chainHeader, length_reseal, length_recordArray, Disk.length_header hvalid.holdsHeader]

include hfits

/-- The bytes outside block 1 and the array are not touched. -/
theorem committed_outside {i : Nat} (hheader : i < disk.blk_size ∨ 2 * disk.blk_size ≤ i)
    (harray : i < disk.pentriesOffset .PRIMARY_GPT ∨
      disk.pentriesOffset .PRIMARY_GPT + disk.pentriesSize .PRIMARY_GPT ≤ i) :
    (disk.committed crc pentries).bytes[i]? = disk.bytes[i]? := by
  rw [Disk.committed, Disk.write_bytes, Disk.write_bytes, getElem?_patch_outside,
    getElem?_patch_outside]
  · rw [length_chainHeader hvalid]
    simp only [Disk.headerOffset]
    omega
  · rwa [hfits]

theorem committed_header :
    (disk.committed crc pentries).header .PRIMARY_GPT = chainHeader crc (disk.header .PRIMARY_GPT) pentries := by
  have hlength := @length_chainHeader _ _ pentries hvalid
  have hself := @slice_patch_self _ disk.bytes (chainHeader crc (disk.header .PRIMARY_GPT) pentries)
    (disk.headerOffset .PRIMARY_GPT) (by rw [hlength]; exact hvalid.holdsHeader.room)
  have hapart : Apart (disk.headerOffset .PRIMARY_GPT) disk.blk_size (disk.pentriesOffset .PRIMARY_GPT)
      pentries.length := by
    rw [hfits]
    exact hvalid.array_apart.symm
  rw [hlength] at hself
  exact (slice_patch_of_apart _ hapart).trans hself

theorem committed_pentriesOffset :
    (disk.committed crc pentries).pentriesOffset .PRIMARY_GPT = disk.pentriesOffset .PRIMARY_GPT := by
  rw [Disk.pentriesOffset, committed_header hvalid hfits, (sameLayout_chainHeader crc _ _).lba]
  rfl

theorem committed_pentriesSize :
    (disk.committed crc pentries).pentriesSize .PRIMARY_GPT = disk.pentriesSize .PRIMARY_GPT := by
  have hlayout := sameLayout_chainHeader crc (disk.header .PRIMARY_GPT) pentries
  rw [Disk.pentriesSize, committed_header hvalid hfits, hlayout.count, hlayout.pentry_size,
    Disk.pentriesSize]

theorem committed_pentries : (disk.committed crc pentries).pentries .PRIMARY_GPT = pentries := by
  rw [Disk.pentries, committed_pentriesOffset hvalid hfits, committed_pentriesSize hvalid hfits,
    ← hfits]
  refine slice_patch_self ?_
  rw [Disk.write_bytes, length_patch, hfits]
  exact hvalid.room

theorem committed_state :
    headerState crc ((disk.committed crc pentries).header .PRIMARY_GPT) = .GPT_OK := by
  have hlength := Disk.length_header hvalid.holdsHeader
  have hblk := hvalid.holdsHeader.blk_size
  have hsignature := ((headerState_eq_ok_iff crc _).mp hvalid.state).2
  rw [committed_header hvalid hfits, chainHeader,
    headerState_reseal crc (by rw [length_recordArray]; omega), if_pos]
  exact (slice_patch_of_apart _ (.inl (by decide))).trans hsignature

theorem committed_crc :
    field ((disk.committed crc pentries).header .PRIMARY_GPT) PARTITION_CRC_OFFSET 4 = (crc pentries).toNat := by
  have hlength := Disk.length_header hvalid.holdsHeader
  have hblk := hvalid.holdsHeader.blk_size
  rw [committed_header hvalid hfits, chainHeader, partition_crc_reseal,
    field_recordArray_self crc _ (by omega)]

/-- The new header differs from the old one in its two CRC fields only. -/
theorem committed_header_outside {i : Nat} (hcrc : i < 16 ∨ 20 ≤ i) (hpartition : i < 88 ∨ 92 ≤ i) :
    ((disk.committed crc pentries).header .PRIMARY_GPT)[i]? = (disk.header .PRIMARY_GPT)[i]? := by
  rw [committed_header hvalid hfits, chainHeader, reseal, recordArray, setField, setField,
    getElem?_patch_outside _ (by simpa using hcrc), getElem?_patch_outside _ (by simpa using hpartition)]

end committed

variable {env : Env} {w w1 : World} {disk : Disk} {path dev : String} {dsk handle : gpt_disk}
    {arr arr_bak : Buffer}

/-- A handle with edited arrays can be brought up to date and committed. -/
theorem update_and_commit (hio : env.FullOrFail) (hvalid : disk.PrimaryValid env.crc32)
    (hholds : handle.Holds disk path arr arr_bak) (hfits : disk.Fits arr)
    (hfits_bak : disk.Fits arr_bak) (hdisk : w.disks path = some disk) :
    ∃ handle', gpt_disk_update_crc env handle = .ok (0, handle') ∧
      env.steps.Follows (gpt_disk_commit env handle') w (commitScript path disk (disk.pentriesOffset .PRIMARY_GPT)
        (chainHeader env.crc32 (disk.header .PRIMARY_GPT) arr) arr) 0 (· = -1) := by
  have hheader := hvalid.holdsHeader
  have hlength := Disk.length_header hheader
  have hblk := hheader.blk_size
  have hroom := hvalid.room
  obtain ⟨handle', hupdate, hhdr, harr, hpath, hinit⟩ :=
    gpt_disk_update_crc_eq env hholds.is_initialized hholds.hdr
    hholds.hdr_bak hholds.pentry_arr hholds.pentry_arr_bak (hfits.trans hholds.pentry_arr_size.symm)
    (hfits_bak.trans hholds.pentry_arr_size.symm) (by omega) rfl (by rw [hlength]; exact hheader.header_size)
  refine ⟨handle', hupdate, ?_⟩
  rw [hholds.devpath] at hpath
  subst hpath
  have hlayout := sameLayout_chainHeader env.crc32 (disk.header .PRIMARY_GPT) arr
  have hoffset : pentries_offset (field (chainHeader env.crc32 (disk.header .PRIMARY_GPT) arr) PENTRIES_OFFSET 8)
      disk.blk_size = disk.pentriesOffset .PRIMARY_GPT := by
    rw [hlayout.lba, Disk.pentriesOffset]
  have hsize : arr.length =
      pentries_size (field (chainHeader env.crc32 (disk.header .PRIMARY_GPT) arr) PARTITION_COUNT_OFFSET 4)
        (field (chainHeader env.crc32 (disk.header .PRIMARY_GPT) arr) PENTRY_SIZE_OFFSET 4) := by
    rw [hlayout.count, hlayout.pentry_size, hfits, Disk.pentriesSize]
  have h := gpt_disk_commit_follows hio hdisk hinit hhdr harr (length_chainHeader hvalid) hblk hvalid.blocks hsize
    (by rw [hoffset, hfits]; exact hroom)
  rwa [hoffset] at h

theorem commitScript_replay (crc : Buffer → UInt32) (path : String) (disk : Disk) (arr : Buffer) :
    replay path disk ((commitScript path disk (disk.pentriesOffset .PRIMARY_GPT)
      (chainHeader crc (disk.header .PRIMARY_GPT) arr) arr).flatMap Step.events) = disk.committed crc arr := by
  simp only [commitScript, List.flatMap_cons, List.flatMap_nil, Step.events, List.nil_append,
    List.cons_append, List.append_nil, replay_cons, replay_nil, onDisk_write_self]
  rfl

/-- With full input and output, a handle filled from a device with a valid primary header
    can be edited and committed. The primary GPT is valid again and has the edited array,
    its header differs from the old one in the two CRC fields only, and nothing else on
    the device has changed. -/
theorem edit_commit (hworking : env.Working) (hleads : env.Leads dev dsk path)
    (hdisk : w.disks path = some disk) (hvalid : disk.PrimaryValid env.crc32)
    (hinfo : gpt_disk_get_disk_info env dev dsk w = .ok (0, handle) w1) {pentry_arr edited : Buffer}
    (harr : handle.pentry_arr = some pentry_arr) (hlength : edited.length = pentry_arr.length) :
    ∃ handle' w2 disk' w3,
      gpt_disk_update_crc env { handle with pentry_arr := some edited } = .ok (0, handle') ∧
      gpt_disk_commit env handle' w1 = .ok 0 w2 ∧ w2.disks path = some disk' ∧
      gpt_get_state env path .PRIMARY_GPT w2 = .ok (0, .GPT_OK) w3 ∧
      field (disk'.header .PRIMARY_GPT) PARTITION_CRC_OFFSET 4 = (env.crc32 (disk'.pentries .PRIMARY_GPT)).toNat ∧
      disk'.pentries .PRIMARY_GPT = edited ∧
      (∀ i, (i < 16 ∨ 20 ≤ i) → (i < 88 ∨ 92 ≤ i) →
        (disk'.header .PRIMARY_GPT)[i]? = (disk.header .PRIMARY_GPT)[i]?) ∧
      ∀ i, (i < disk.blk_size ∨ 2 * disk.blk_size ≤ i) →
        (i < disk.pentriesOffset .PRIMARY_GPT ∨
          disk.pentriesOffset .PRIMARY_GPT + disk.pentriesSize .PRIMARY_GPT ≤ i) →
        disk'.bytes[i]? = disk.bytes[i]? := by
  have hio := hworking.fullOrFail
  obtain ⟨hafter, _, hfilled⟩ :=
    (gpt_disk_get_disk_info_reads hio hleads hdisk hvalid.holdsHeader hvalid.room).of_run
    hinfo (by simp)
  have hdisk1 : w1.disks path = some disk := hafter.disk hdisk
  have hfits_orig : disk.Fits (disk.pentries .PRIMARY_GPT) := length_slice_of_le hvalid.room
  have hsame : pentry_arr = disk.pentries .PRIMARY_GPT :=
    Option.some.inj (harr.symm.trans hfilled.holds.pentry_arr)
  have hfits : disk.Fits edited := by
    rw [Disk.Fits, hlength, hsame]
    exact hfits_orig
  have hholds : gpt_disk.Holds disk path edited (disk.pentries .PRIMARY_GPT)
      { handle with pentry_arr := some edited } := { hfilled.holds with pentry_arr := rfl }
  obtain ⟨handle', hupdate, hcommit⟩ := update_and_commit hio hvalid hholds hfits hfits_orig hdisk1
  have hgranted := hworking.exec (commitScript path disk (disk.pentriesOffset .PRIMARY_GPT)
    (chainHeader env.crc32 (disk.header .PRIMARY_GPT) edited) edited) w1
  have hdisk2 := disk_of_done (Prod.ext rfl hgranted) hdisk1
  rw [commitScript_replay] at hdisk2
  have hheader : (disk.committed env.crc32 edited).HoldsHeader .PRIMARY_GPT := by
    refine ⟨hvalid.holdsHeader.blk_size, ?_, ?_⟩
    · rw [Disk.committed, Disk.write_bytes, length_patch, Disk.write_bytes, length_patch]
      exact hvalid.holdsHeader.room
    · rw [committed_header hvalid hfits, (sameLayout_chainHeader env.crc32 _ _).header_size]
      exact hvalid.header_size.2
  have hstate := (gpt_get_state_follows hio hdisk2 hheader).done (hworking.exec _ _)
  rw [committed_state hvalid hfits] at hstate
  refine ⟨handle', _, _, _, hupdate, hcommit.done hgranted, hdisk2, hstate, ?_, committed_pentries hvalid hfits,
    fun i hcrc hpartition => committed_header_outside hvalid hfits hcrc hpartition,
    fun i hheader harray => committed_outside hvalid hfits hheader harray⟩
  rw [committed_pentries hvalid hfits]
  exact committed_crc hvalid hfits

/-- Without UFS every partition is on the one device. -/
theorem emmc_leads (dev : String) (dsk : gpt_disk) : emmc.Leads dev dsk BLK_DEV_FILE := by
  have hpath (buf : String) : get_dev_path_from_partition_name emmc dev buf PATH_MAX = some BLK_DEV_FILE := by
    have htruncate : truncate BLK_DEV_FILE (PATH_MAX - 1) = BLK_DEV_FILE :=
      truncate_of_le (by decide)
    have hufs : gpt_utils_is_ufs_device emmc = false := by decide
    rw [get_dev_path_from_partition_name, hufs, htruncate]
    rfl
  exact ⟨hpath "", hpath dsk.devpath⟩

theorem Disk.Valid.primaryValid {crc : Buffer → UInt32} (hvalid : disk.Valid crc) :
    disk.PrimaryValid crc := by
  have hblocks := hvalid.blocks
  exact ⟨hvalid.header_size _, by omega, hvalid.state _, hvalid.room _, hvalid.array_apart _ _⟩

/-- A handle for the device of a target without UFS. -/
theorem emmc_info (dev : String) (hwf : disk.WellFormed zlib_crc32) :
    ∃ handle w1, gpt_disk_get_disk_info emmc dev gpt_disk.cleared (machine disk) = .ok (0, handle) w1 ∧
      (machine disk).After [] w1 ∧ handle.Filled zlib_crc32 disk BLK_DEV_FILE := by
  obtain ⟨⟨r, handle⟩, w1, hrun, hafter, rfl, hfilled⟩ :=
    (gpt_disk_get_disk_info_reads emmc_working.fullOrFail
    (emmc_leads dev gpt_disk.cleared) (machine_disk disk) (hwf.holdsHeader _) (hwf.room _)).of_working emmc_working
  exact ⟨handle, w1, hrun, hafter, hfilled⟩

theorem edit_commit_pairedDisk : ∃ handle w1 handle' w2 disk' w3,
    gpt_disk_get_disk_info emmc "abl" gpt_disk.cleared (machine pairedDisk) = .ok (0, handle) w1 ∧
    gpt_disk_update_crc emmc { handle with pentry_arr := some (zeros 512) } = .ok (0, handle') ∧
    gpt_disk_commit emmc handle' w1 = .ok 0 w2 ∧ w2.disks BLK_DEV_FILE = some disk' ∧
    gpt_get_state emmc BLK_DEV_FILE .PRIMARY_GPT w2 = .ok (0, .GPT_OK) w3 ∧
    field (disk'.header .PRIMARY_GPT) PARTITION_CRC_OFFSET 4 = (zlib_crc32 (disk'.pentries .PRIMARY_GPT)).toNat ∧
    disk'.pentries .PRIMARY_GPT = zeros 512 ∧
    (∀ i, (i < 16 ∨ 20 ≤ i) → (i < 88 ∨ 92 ≤ i) →
      (disk'.header .PRIMARY_GPT)[i]? = (pairedDisk.header .PRIMARY_GPT)[i]?) ∧
    ∀ i, (i < pairedDisk.blk_size ∨ 2 * pairedDisk.blk_size ≤ i) →
      (i < pairedDisk.pentriesOffset .PRIMARY_GPT ∨
        pairedDisk.pentriesOffset .PRIMARY_GPT + pairedDisk.pentriesSize .PRIMARY_GPT ≤ i) →
      disk'.bytes[i]? = pairedDisk.bytes[i]? := by
  obtain ⟨handle, w1, hinfo, _, hfilled⟩ := emmc_info "abl" pairedDisk_wellFormed
  have hlength : (zeros 512).length = (pairedDisk.pentries .PRIMARY_GPT).length := by
    rw [length_zeros, pairedDisk, pentries_formatted _ (length_namedEntries _), length_namedEntries]
    rfl
  obtain ⟨handle', w2, disk', w3, h⟩ := edit_commit emmc_working (emmc_leads "abl" gpt_disk.cleared)
    (machine_disk pairedDisk) pairedDisk_wellFormed.primaryValid hinfo hfilled.holds.pentry_arr hlength
  exact ⟨handle, w1, handle', w2, disk', w3, hinfo, h⟩

end gpt_utils
