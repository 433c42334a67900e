import OnePlus7Pro.Handle.EditCommit

open regions effects

namespace gpt_utils

/-- Edits of a handle: the same bytes are written over the same part of the entry that is
    found for a name in each of the two arrays. -/
inductive Edits (handle : gpt_disk) : gpt_disk → Prop where
  | none : Edits handle handle
  | more {edited : gpt_disk} {name data pentry_arr pentry_arr_bak : Buffer}
      {entry entry_bak start : Nat} (hedits : Edits handle edited)
      (hentry : gpt_disk_get_pentry edited name .PRIMARY_GPT = .ok (some entry))
      (hentry_bak : gpt_disk_get_pentry edited name .SECONDARY_GPT = .ok (some entry_bak))
      (harr : edited.pentry_arr = some pentry_arr)
      (harr_bak : edited.pentry_arr_bak = some pentry_arr_bak)
      (hinside : start + data.length ≤ edited.pentry_size) :
      Edits handle { edited with
        pentry_arr := some (patch pentry_arr (entry + start) data)
        pentry_arr_bak := some (patch pentry_arr_bak (entry_bak + start) data) }

/-- Both copies of the GPT are valid and have the given entry array. -/
structure Disk.BothCopies (crc : Buffer → UInt32) (disk : Disk) (pentries : Option Buffer) :
    Prop where
  valid : ∀ gpt, disk.ValidCopy crc gpt
  pentries_eq : ∀ gpt, some (disk.pentries gpt) = pentries

variable {env : Env} {w w1 w2 : World} {disk : Disk} {path dev : String}
    {dsk handle edited handle' : gpt_disk}
  {pentries : Buffer}

/-- Edits that are made to both arrays keep them equal. -/
theorem Edits.holds (hedits : Edits handle edited)
    (hholds : ∃ arr, handle.Holds disk path arr arr ∧ disk.Fits arr) :
    ∃ arr, edited.Holds disk path arr arr ∧ disk.Fits arr := by
  induction hedits with
  | none => exact hholds
  | @more edited name data pentry_arr pentry_arr_bak entry entry_bak start _ hentry hentry_bak harr harr_bak _ ih =>
    obtain ⟨arr, hedited, hfits⟩ := ih
    have hsame : pentry_arr = arr := Option.some.inj (harr.symm.trans hedited.pentry_arr)
    have hsame_bak : pentry_arr_bak = arr :=
      Option.some.inj (harr_bak.symm.trans hedited.pentry_arr_bak)
    subst hsame hsame_bak
    have hlookup : gpt_disk_get_pentry edited name .PRIMARY_GPT = gpt_disk_get_pentry edited name .SECONDARY_GPT := by
      simp only [gpt_disk_get_pentry, gpt_disk.ptn_arr, harr, harr_bak]
    rw [hentry, hentry_bak] at hlookup
    cases hlookup
    refine ⟨patch _ (entry + start) data, { hedited with pentry_arr := rfl, pentry_arr_bak := rfl }, ?_⟩
    rw [Disk.Fits, length_patch]
    exact hfits

/-- The secondary copy is not written. -/
theorem committed_header_secondary (hwf : disk.WellFormed env.crc32) (hfits : disk.Fits pentries) :
    (disk.committed env.crc32 pentries).header .SECONDARY_GPT = disk.header .SECONDARY_GPT := by
  have hlength := @length_chainHeader _ _ pentries hwf.primaryValid
  have harray : Apart (disk.headerOffset .SECONDARY_GPT) disk.blk_size (disk.pentriesOffset .PRIMARY_GPT)
      pentries.length := by
    rw [hfits]
    exact (hwf.array_apart .PRIMARY_GPT .SECONDARY_GPT).symm
  have hheader : Apart (disk.headerOffset .SECONDARY_GPT) disk.blk_size (disk.headerOffset .PRIMARY_GPT)
      (chainHeader env.crc32 (disk.header .PRIMARY_GPT) pentries).length := by
    rw [hlength]
    exact hwf.headers_apart.symm
  have hsize : (disk.committed env.crc32 pentries).headerOffset .SECONDARY_GPT = disk.headerOffset .SECONDARY_GPT := by
    simp only [Disk.headerOffset, Disk.committed, Disk.write_bytes, length_patch,
      Disk.write_blk_size]
  rw [Disk.header, hsize]
  exact (slice_patch_of_apart _ harray).trans (slice_patch_of_apart _ hheader)

theorem committed_pentries_secondary (hwf : disk.WellFormed env.crc32) (hfits : disk.Fits pentries) :
    (disk.committed env.crc32 pentries).pentries .SECONDARY_GPT = disk.pentries .SECONDARY_GPT := by
  have hlength := @length_chainHeader _ _ pentries hwf.primaryValid
  have harray : Apart (disk.pentriesOffset .SECONDARY_GPT) (disk.pentriesSize .SECONDARY_GPT)
      (disk.pentriesOffset .PRIMARY_GPT) pentries.length := by
    rw [hfits]
    exact hwf.arrays_apart.symm
  have hheader : Apart (disk.pentriesOffset .SECONDARY_GPT) (disk.pentriesSize .SECONDARY_GPT)
      (disk.headerOffset .PRIMARY_GPT) (chainHeader env.crc32 (disk.header .PRIMARY_GPT) pentries).length := by
    rw [hlength]
    exact hwf.array_apart _ _
  rw [Disk.pentries, Disk.pentriesOffset, Disk.pentriesSize, committed_header_secondary hwf hfits]
  exact (slice_patch_of_apart _ harray).trans (slice_patch_of_apart _ hheader)

/-- Committing the array that the device has changes nothing. -/
theorem committed_self (hwf : disk.WellFormed env.crc32) :
    disk.committed env.crc32 (disk.pentries .PRIMARY_GPT) = disk := by
  have hlength := hwf.length_header .PRIMARY_GPT
  have hblk := hwf.blk_size
  have hheader : chainHeader env.crc32 (disk.header .PRIMARY_GPT) (disk.pentries .PRIMARY_GPT) =
      disk.header .PRIMARY_GPT := by
    rw [chainHeader, recordArray_self env.crc32 (by omega) (hwf.pentries_crc _),
      reseal_of_ok env.crc32 (by omega) (hwf.state _)]
  refine Disk.ext rfl ?_
  rw [Disk.committed, hheader, Disk.write_bytes, Disk.write_bytes, Disk.header, Disk.read,
    patch_slice_self]
  exact patch_slice_self _ _ _

/-- What the device holds after an edited handle is brought up to date and committed. -/
theorem commit_edits (hio : env.FullOrFail) (hleads : env.Leads dev dsk path)
    (hdisk : w.disks path = some disk) (hwf : disk.WellFormed env.crc32)
    (hinfo : gpt_disk_get_disk_info env dev dsk w = .ok (0, handle) w1)
    (hedits : Edits handle edited) (hupdate : gpt_disk_update_crc env edited = .ok (0, handle'))
    (hcommit : gpt_disk_commit env handle' w1 = .ok 0 w2) :
    ∃ arr, handle.pentry_arr = some (disk.pentries .PRIMARY_GPT) ∧ edited.pentry_arr = some arr ∧
      disk.Fits arr ∧ w2.disks path = some (disk.committed env.crc32 arr) := by
  have hvalid := hwf.primaryValid
  obtain ⟨hafter, _, hfilled⟩ :=
    (gpt_disk_get_disk_info_reads hio hleads hdisk hvalid.holdsHeader hvalid.room).of_run
    hinfo (by simp)
  have hdisk1 : w1.disks path = some disk := hafter.disk hdisk
  obtain ⟨arr, hholds, hfits⟩ := hedits.holds ⟨_, hfilled.holds, hwf.length_pentries _⟩
  obtain ⟨handle'', hupdate', hfollows⟩ := update_and_commit hio hvalid hholds hfits hfits hdisk1
  cases hupdate.symm.trans hupdate'
  refine ⟨arr, hfilled.holds.pentry_arr, hholds.pentry_arr, hfits, ?_⟩
  rcases hfollows.of_run hcommit with ⟨hexec, _⟩ | ⟨_, hfailed⟩
  · rw [disk_of_done hexec hdisk1, commitScript_replay]
  · cases hfailed

/-- After both `gpt_disk_update_crc` and `gpt_disk_commit` have returned 0, both copies are
    valid and have the edited array exactly when the edits have changed nothing. -/
theorem both_copies_iff (hio : env.FullOrFail) (hleads : env.Leads dev dsk path)
    (hdisk : w.disks path = some disk) (hwf : disk.WellFormed env.crc32)
    (hinfo : gpt_disk_get_disk_info env dev dsk w = .ok (0, handle) w1)
    (hedits : Edits handle edited) (hupdate : gpt_disk_update_crc env edited = .ok (0, handle'))
    (hcommit : gpt_disk_commit env handle' w1 = .ok 0 w2) :
    (∃ disk', w2.disks path = some disk' ∧ disk'.BothCopies env.crc32 edited.pentry_arr) ↔
      edited.pentry_arr = handle.pentry_arr := by
  obtain ⟨arr, harr, hedited, hfits, hdisk2⟩ :=
    commit_edits hio hleads hdisk hwf hinfo hedits hupdate hcommit
  rw [hedited, harr]
  constructor
  · rintro ⟨disk', hdisk', hboth⟩
    cases hdisk'.symm.trans hdisk2
    rw [← hboth.pentries_eq .SECONDARY_GPT, committed_pentries_secondary hwf hfits, hwf.pentries_eq]
  · intro hsame
    cases hsame
    rw [committed_self hwf] at hdisk2
    refine ⟨disk, hdisk2, fun gpt => ⟨hwf.state gpt, hwf.room gpt, hwf.pentries_crc gpt⟩, fun gpt => ?_⟩
    cases gpt with
    | PRIMARY_GPT => rfl
    | SECONDARY_GPT => rw [hwf.pentries_eq]

theorem pairedDisk_pentries (gpt : gpt_instance) :
    pairedDisk.pentries gpt = [cstr "abl", cstr "ablbak", cstr "boot", cstr "misc"].flatMap namedEntry := by
  rw [pairedDisk, pentries_formatted _ (length_namedEntries _)]

/-- The entry of `abl` is the first one. -/
theorem pairedDisk_get_pentry
    (hholds : handle.Holds pairedDisk path (pairedDisk.pentries .PRIMARY_GPT)
    (pairedDisk.pentries .PRIMARY_GPT)) (gpt : gpt_instance) :
    gpt_disk_get_pentry handle (cstr "abl") gpt = .ok (some 0) := by
  have harr : handle.ptn_arr gpt = some ([cstr "abl", cstr "ablbak", cstr "boot", cstr "misc"].flatMap namedEntry) := by
    rw [← pairedDisk_pentries .PRIMARY_GPT]
    cases gpt with
    | PRIMARY_GPT => exact hholds.pentry_arr
    | SECONDARY_GPT => exact hholds.pentry_arr_bak
  rw [gpt_disk_get_pentry, if_neg (not_not.mpr hholds.is_initialized), harr, hholds.pentry_arr_size,
    hholds.pentry_size, pairedDisk, pentry_size_formatted, pentriesSize_formatted]
  decide +kernel

/-- A run in which an attribute of `abl` is edited and committed. -/
theorem edits_pairedDisk : ∃ handle w1 edited handle' w2,
    gpt_disk_get_disk_info emmc "abl" gpt_disk.cleared (machine pairedDisk) = .ok (0, handle) w1 ∧
    Edits handle edited ∧ gpt_disk_update_crc emmc edited = .ok (0, handle') ∧
    gpt_disk_commit emmc handle' w1 = .ok 0 w2 ∧ edited.pentry_arr ≠ handle.pentry_arr := by
  have hwf : pairedDisk.WellFormed emmc.crc32 := pairedDisk_wellFormed
  obtain ⟨handle, w1, hinfo, hafter, hfilled⟩ := emmc_info "abl" pairedDisk_wellFormed
  have hholds := hfilled.holds
  have hinside : 54 + [(4 : UInt8)].length ≤ handle.pentry_size := by
    rw [hholds.pentry_size, pairedDisk, pentry_size_formatted]
    decide
  have hedits := Edits.none.more (pairedDisk_get_pentry hholds .PRIMARY_GPT)
    (pairedDisk_get_pentry hholds .SECONDARY_GPT) hholds.pentry_arr hholds.pentry_arr_bak hinside
  obtain ⟨arr, hedited, hfits⟩ := hedits.holds ⟨_, hholds, hwf.length_pentries _⟩
  obtain ⟨handle', hupdate, hfollows⟩ :=
    update_and_commit emmc_working.fullOrFail hwf.primaryValid hedited hfits hfits
    (hafter.disk (machine_disk pairedDisk))
  refine ⟨handle, w1, _, handle', _, hinfo, hedits, hupdate, hfollows.done (emmc_working.exec _ _), ?_⟩
  rw [hholds.pentry_arr, pairedDisk_pentries]
  change some (patch _ (0 + 54) [4]) ≠ _
  decide +kernel

theorem both_copies_pairedDisk : ∃ handle w1 edited handle' w2,
    gpt_disk_get_disk_info emmc "abl" gpt_disk.cleared (machine pairedDisk) = .ok (0, handle) w1 ∧
    Edits handle edited ∧ gpt_disk_update_crc emmc edited = .ok (0, handle') ∧
    gpt_disk_commit emmc handle' w1 = .ok 0 w2 ∧
    ((∃ disk', w2.disks BLK_DEV_FILE = some disk' ∧ disk'.BothCopies zlib_crc32 edited.pentry_arr) ↔
      edited.pentry_arr = handle.pentry_arr) := by
  obtain ⟨handle, w1, edited, handle', w2, hinfo, hedits, hupdate, hcommit, _⟩ := edits_pairedDisk
  exact ⟨handle, w1, edited, handle', w2, hinfo, hedits, hupdate, hcommit,
    both_copies_iff emmc_working.fullOrFail (emmc_leads "abl" gpt_disk.cleared) (machine_disk pairedDisk)
      pairedDisk_wellFormed hinfo hedits hupdate hcommit⟩

/-- After an attribute of `abl` is edited and committed, the secondary array is the old one. -/
theorem secondary_not_committed_pairedDisk :
    pairedDisk.WellFormed zlib_crc32 ∧ ∃ handle w1 edited handle' w2 disk',
    gpt_disk_get_disk_info emmc "abl" gpt_disk.cleared (machine pairedDisk) = .ok (0, handle) w1 ∧
    Edits handle edited ∧ gpt_disk_update_crc emmc edited = .ok (0, handle') ∧
    gpt_disk_commit emmc handle' w1 = .ok 0 w2 ∧ w2.disks BLK_DEV_FILE = some disk' ∧
    some (disk'.pentries .SECONDARY_GPT) ≠ edited.pentry_arr := by
  have hwf : pairedDisk.WellFormed emmc.crc32 := pairedDisk_wellFormed
  obtain ⟨handle, w1, edited, handle', w2, hinfo, hedits, hupdate, hcommit, hchanged⟩ :=
    edits_pairedDisk
  obtain ⟨arr, harr, hedited, hfits, hdisk2⟩ := commit_edits emmc_working.fullOrFail
    (emmc_leads "abl" gpt_disk.cleared) (machine_disk pairedDisk) hwf hinfo hedits hupdate hcommit
  refine ⟨pairedDisk_wellFormed, handle, w1, edited, handle', w2, _, hinfo, hedits, hupdate, hcommit, hdisk2, ?_⟩
  rw [committed_pentries_secondary hwf hfits, hwf.pentries_eq, ← harr]
  exact hchanged.symm

end gpt_utils
