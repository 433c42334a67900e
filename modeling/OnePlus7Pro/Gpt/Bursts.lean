import OnePlus7Pro.Gpt.SparseCrc32
import OnePlus7Pro.Gpt.StageSpec

open regions effects registers

namespace gpt_utils

/-- Up to four neighbouring bytes of a buffer, at least one of which has changed. -/
structure Burst (buf : Buffer) where
  offset : Nat
  data : Buffer
  length_le : data.length ≤ 4
  room : offset + data.length ≤ buf.length
  changed : slice buf offset data.length ≠ data

def Burst.struck {buf : Buffer} (burst : Burst buf) : Buffer := patch buf burst.offset burst.data

/-- A burst among the bytes that the CRC of a header covers, with the header size as it
    was, or within the CRC itself. -/
def Burst.OfHeader {header : Buffer} (burst : Burst header) : Prop :=
  (burst.offset + burst.data.length ≤ field header HEADER_SIZE_OFFSET 4 ∧
    Apart HEADER_SIZE_OFFSET 4 burst.offset burst.data.length ∧
    Apart HEADER_CRC_OFFSET 4 burst.offset burst.data.length) ∨
  (HEADER_CRC_OFFSET ≤ burst.offset ∧ burst.offset + burst.data.length ≤ HEADER_CRC_OFFSET + 4)

/-- The `crc32` of the surroundings is the function that zlib documents. -/
def Env.Zlib (env : Env) : Prop := ∀ buf, env.crc32 buf = sparse_crc32 0 buf

namespace Burst

variable {buf header : Buffer}

@[simp] theorem length_struck (burst : Burst buf) : burst.struck.length = buf.length := length_patch _ _ _

theorem sparse_crc32_ne (crc_in : UInt32) (burst : Burst buf) :
    sparse_crc32 crc_in burst.struck ≠ sparse_crc32 crc_in buf := by
  intro h
  rw [sparse_crc32_eq_iff] at h
  have hsame := (digest_patch_iff (by decide) burst.room (by have := burst.length_le; omega) _).mp h
  have hself := slice_patch_self burst.room
  rw [hsame] at hself
  exact burst.changed hself

/-- A burst apart from a region, seen in what that region is overwritten with. -/
def behind (burst : Burst buf) {offset : Nat} (value : Nat)
    (hapart : Apart burst.offset burst.data.length offset 4) : Burst (setField buf offset value) where
  offset := burst.offset
  data := burst.data
  length_le := burst.length_le
  room := by rw [length_setField]; exact burst.room
  changed := by
    rw [setField, slice_patch_of_apart _ (by rwa [length_toLittleEndian])]
    exact burst.changed

theorem room_take (burst : Burst buf) {count : Nat} (hroom : burst.offset + burst.data.length ≤ count) :
    burst.offset + burst.data.length ≤ (buf.take count).length := by
  rw [List.length_take]
  exact Nat.le_min.mpr ⟨hroom, burst.room⟩

theorem changed_take (burst : Burst buf) {count : Nat}
    (hroom : burst.offset + burst.data.length ≤ count) :
    slice (buf.take count) burst.offset burst.data.length ≠ burst.data := by
  have h := burst.changed
  rwa [slice, List.drop_take, List.take_take, Nat.min_eq_left (by omega)]

/-- A burst in the first bytes of a buffer. -/
def within (burst : Burst buf) {count : Nat} (hroom : burst.offset + burst.data.length ≤ count) :
    Burst (buf.take count) where
  offset := burst.offset
  data := burst.data
  length_le := burst.length_le
  room := burst.room_take hroom
  changed := burst.changed_take hroom

theorem header_size_struck {burst : Burst header} (hburst : burst.OfHeader) :
    field burst.struck HEADER_SIZE_OFFSET 4 = field header HEADER_SIZE_OFFSET 4 := by
  have hapart : Apart HEADER_SIZE_OFFSET 4 burst.offset burst.data.length := by
    rcases hburst with h | h
    · exact h.2.1
    · exact .inl h.1
  rw [field, struck, slice_patch_of_apart _ hapart, field]

/-- A header whose CRC was right has a wrong one after a burst. -/
theorem headerState_struck {burst : Burst header} (hburst : burst.OfHeader) (hlength : 20 ≤ header.length)
    (hstate : headerState (sparse_crc32 0) header ≠ .GPT_BAD_CRC) :
    headerState (sparse_crc32 0) burst.struck = .GPT_BAD_CRC := by
  have hgood : headerCrc (sparse_crc32 0) header = field header HEADER_CRC_OFFSET 4 := by
    by_contra h
    exact hstate (if_pos h)
  refine if_pos ?_
  rw [headerCrc, header_size_struck hburst]
  rcases hburst with ⟨hsize, _, hapart⟩ | ⟨hstart, hstop⟩
  · -- the field holds the old CRC, and the bytes it covers have another
    have hfield : field burst.struck HEADER_CRC_OFFSET 4 = field header HEADER_CRC_OFFSET 4 := by
      rw [field, struck, slice_patch_of_apart _ hapart, field]
    have hcleared : (setField burst.struck HEADER_CRC_OFFSET 0).take (field header HEADER_SIZE_OFFSET 4) =
        ((burst.behind 0 hapart.symm).within hsize).struck := by
      rw [setField, struck, patch_comm _ (by rw [length_toLittleEndian]; exact hapart.symm), take_patch _ hsize]
      rfl
    rw [hfield, ← hgood, headerCrc, hcleared]
    exact fun h => sparse_crc32_ne 0 _ (UInt32.toNat_inj.mp h)
  · -- the field holds something else, and the bytes that count have the old CRC
    have hcleared : setField burst.struck HEADER_CRC_OFFSET 0 = setField header HEADER_CRC_OFFSET 0 :=
      patch_patch_cover header hstart (by rw [length_toLittleEndian]; exact hstop)
    rw [hcleared, ← headerCrc, hgood]
    intro h
    have hslice : slice burst.struck HEADER_CRC_OFFSET 4 = slice header HEADER_CRC_OFFSET 4 := by
      have hfour : (slice header HEADER_CRC_OFFSET 4).length = 4 := length_slice_of_le hlength
      have hfour' : (slice burst.struck HEADER_CRC_OFFSET 4).length = 4 :=
        length_slice_of_le (by rw [length_struck]; exact hlength)
      rw [eq_toLittleEndian hfour h]
      exact eq_toLittleEndian hfour' rfl
    have hstored := slice_patch_self burst.room
    obtain ⟨inner, hinner⟩ := Nat.exists_eq_add_of_le hstart
    apply burst.changed
    rw [hinner] at hstored hstop ⊢
    rw [← slice_slice header (show inner + burst.data.length ≤ 4 by omega), ← hslice, struck, hinner,
      slice_slice _ (by omega), hstored]

end Burst

/-- The device with a burst in the block of a header. -/
def Disk.strikeHeader (disk : Disk) {gpt : gpt_instance} (burst : Burst (disk.header gpt)) : Disk :=
  disk.write (disk.headerOffset gpt + burst.offset) burst.data

section header

variable {env : Env} {w : World} {fd : String} {disk : Disk} {gpt : gpt_instance}
  {burst : Burst (disk.header gpt)}

theorem headerOffset_strikeHeader (gpt' : gpt_instance) :
    (disk.strikeHeader burst).headerOffset gpt' = disk.headerOffset gpt' := by
  cases gpt' <;> simp [Disk.strikeHeader, Disk.headerOffset]

theorem header_strikeHeader (hheader : disk.HoldsHeader gpt) :
    (disk.strikeHeader burst).header gpt = burst.struck := by
  have hroom := burst.room
  rw [Disk.length_header hheader] at hroom
  rw [Disk.header, headerOffset_strikeHeader]
  exact slice_patch_inside _ hroom

theorem header_strikeHeader_other (hheaders : ∀ gpt, disk.HoldsHeader gpt)
    (hblocks : 3 * disk.blk_size ≤ disk.bytes.length) {gpt' : gpt_instance} (hother : gpt' ≠ gpt) :
    (disk.strikeHeader burst).header gpt' = disk.header gpt' := by
  have hroom := burst.room
  rw [Disk.length_header (hheaders gpt)] at hroom
  have hapart : Apart (disk.headerOffset gpt') disk.blk_size (disk.headerOffset gpt + burst.offset)
      burst.data.length := by
    unfold Apart
    cases gpt <;> cases gpt' <;> simp only [Disk.headerOffset] <;> first | exact absurd rfl hother | omega
  rw [Disk.header, headerOffset_strikeHeader]
  exact slice_patch_of_apart _ hapart

theorem holdsHeader_strikeHeader (hheaders : ∀ gpt, disk.HoldsHeader gpt)
    (hblocks : 3 * disk.blk_size ≤ disk.bytes.length) (hburst : burst.OfHeader) (gpt' : gpt_instance) :
    (disk.strikeHeader burst).HoldsHeader gpt' := by
  have hheader := hheaders gpt'
  refine ⟨hheader.blk_size, ?_, ?_⟩
  · rw [headerOffset_strikeHeader, Disk.strikeHeader, Disk.write_bytes, length_patch]
    exact hheader.room
  · by_cases hsame : gpt' = gpt
    · subst hsame
      rw [header_strikeHeader hheader, Burst.header_size_struck hburst]
      exact hheader.header_size
    · rw [header_strikeHeader_other hheaders hblocks hsame]
      exact hheader.header_size

/-- A header whose CRC is wrong makes `prepare_partitions` fail before it does anything. -/
theorem prepare_partitions_bad_crc (hio : env.FullOrFail) (hdisk : w.disks fd = some disk)
    (hheaders : ∀ gpt, disk.HoldsHeader gpt) (hbad : headerState env.crc32 (disk.header gpt) = .GPT_BAD_CRC)
    (stage : boot_update_stage) :
    env.steps.Follows (prepare_partitions env stage fd) w (openScript disk) (-1) (· ≠ 0) := by
  refine Steps.Follows.congr ([.call] ++ (readScript disk .PRIMARY_GPT ++ (readScript disk .SECONDARY_GPT ++ []))) ?_
    (by rw [openScript, List.append_nil])
  refine (open_device_follows env hdisk).bind ?_ fun w1 h1 => ?_
  · rintro a rfl
    exact ⟨-1, rfl, by decide⟩
  have hdisk1 : w1.disks fd = some disk := disk_of_done h1 hdisk
  refine (gpt_get_state_follows hio hdisk1 (hheaders _)).bind ?_ fun w2 h2 => ?_
  · rintro ⟨r, state⟩ hr
    exact ⟨1, if_pos (by simp_all), by decide⟩
  have hdisk2 : w2.disks fd = some disk := by
    rw [disk_of_done h2 hdisk1, readScript_events, replay_nil]
  refine (gpt_get_state_follows hio hdisk2 (hheaders _)).bind ?_ fun w3 h3 => ?_
  · rintro ⟨r, state⟩ hr
    exact ⟨1, if_pos (by simp_all), by decide⟩
  simp only []
  rw [if_neg (not_not.mpr rfl), if_pos]
  · exact Steps.Follows.pure
  · cases gpt with
    | PRIMARY_GPT => exact .inl hbad
    | SECONDARY_GPT => exact .inr hbad

/-- Nothing takes effect in a script without events. -/
theorem after_of_follows {A : Type} {m : Sys A} {script : List Step} {value : A} {failed : A → Prop}
    (hevents : script.flatMap Step.events = []) (hm : env.steps.Follows m w script value failed) :
    Returns m w fun a w' => (a = value ∨ failed a) ∧ w.After [] w' := by
  have hnone : env.effect script w = [] := List.prefix_nil.mp (hevents ▸ effect_isPrefix env script w)
  have hafter := exec_after env script w
  rw [hnone] at hafter
  refine Returns.mono hm fun a w' h => ?_
  rcases h with ⟨hexec, ha⟩ | ⟨hexec, ha⟩
  · rw [hexec] at hafter
    exact ⟨.inl ha, hafter⟩
  · rw [hexec] at hafter
    exact ⟨.inr ha, hafter⟩

/-- After a burst in a header, no sequence of update stages succeeds in any stage or
    changes anything. -/
theorem header_burst_refused (hio : env.FullOrFail) (hzlib : env.Zlib) (hheaders : ∀ gpt, disk.HoldsHeader gpt)
    (hblocks : 3 * disk.blk_size ≤ disk.bytes.length)
    (hstate : headerState env.crc32 (disk.header gpt) ≠ .GPT_BAD_CRC) (hburst : burst.OfHeader)
    (hdisk : w.disks fd = some (disk.strikeHeader burst)) (stages : List boot_update_stage) :
    Returns (stages.mapM fun stage => prepare_partitions env stage fd) w fun rs w' =>
      (∀ r ∈ rs, r ≠ 0) ∧ w.After [] w' := by
  obtain hcrc : env.crc32 = sparse_crc32 0 := funext hzlib
  have hlength : 20 ≤ (disk.header gpt).length := by
    rw [Disk.length_header (hheaders gpt)]
    exact Nat.le_trans (by decide) (hheaders gpt).blk_size
  have hbad : headerState env.crc32 ((disk.strikeHeader burst).header gpt) = .GPT_BAD_CRC := by
    rw [hcrc] at hstate ⊢
    rw [header_strikeHeader (hheaders gpt)]
    exact Burst.headerState_struck hburst hlength hstate
  refine Returns.mapM_all (I := fun w' => w.After [] w') (fun stage w' hafter => ?_) stages (World.After.refl w)
  have hdisk' : w'.disks fd = some (disk.strikeHeader burst) := by
    rw [hafter.disks, hdisk]
    rfl
  have hfollows := prepare_partitions_bad_crc hio hdisk' (holdsHeader_strikeHeader hheaders hblocks hburst) hbad stage
  have hevents : (openScript (disk.strikeHeader burst)).flatMap Step.events = [] := by
    simp [openScript, Step.events]
  refine (after_of_follows hevents hfollows).mono fun r w'' h => ⟨?_, hafter.trans h.2⟩
  rcases h.1 with rfl | h
  · decide
  · exact h

end header

/-- The first letter of the signature in lower case, and the one behind it gone. -/
def signatureBurst : Burst (pairedDisk.header .PRIMARY_GPT) where
  offset := 0
  data := [0x65, 0]
  length_le := by decide
  room := by
    rw [pairedDisk_valid.length_header]
    decide
  changed := by
    rw [pairedDisk, header_formatted]
    decide +kernel

theorem signatureBurst_ofHeader : signatureBurst.OfHeader := by
  have hsize : field (pairedDisk.header .PRIMARY_GPT) HEADER_SIZE_OFFSET 4 = 92 := header_size_formatted _ _ _
  refine .inl ⟨?_, .inr (by decide), .inr (by decide)⟩
  rw [hsize]
  decide

theorem zlib_emmc : emmc.Zlib := fun buf => (sparse_crc32_zero buf).symm

theorem header_burst_refused_pairedDisk :
    Returns ([boot_update_stage.UPDATE_MAIN, .UPDATE_BACKUP, .UPDATE_MAIN].mapM fun stage =>
      prepare_partitions emmc stage BLK_DEV_FILE) (machine (pairedDisk.strikeHeader signatureBurst))
      fun rs w' => (∀ r ∈ rs, r ≠ 0) ∧ (machine (pairedDisk.strikeHeader signatureBurst)).After [] w' :=
  header_burst_refused emmc_working.fullOrFail zlib_emmc (fun gpt => pairedDisk_valid.holdsHeader gpt)
    pairedDisk_valid.blocks (by rw [show emmc.crc32 = zlib_crc32 from rfl, pairedDisk_valid.state]; decide)
    signatureBurst_ofHeader (machine_disk _) _

/-- The device with a burst in its primary entry array. -/
def Disk.strikeArray (disk : Disk) (burst : Burst (disk.pentries .PRIMARY_GPT)) : Disk :=
  disk.write (disk.pentriesOffset .PRIMARY_GPT + burst.offset) burst.data

/-- The steps of `gpt2_set_boot_chain` up to the comparison of the CRC. -/
def arrayReads (disk : Disk) : List Step :=
  [.call, .call, .call, .read disk.blk_size, .call, .read (disk.pentriesSize .PRIMARY_GPT)]

section array

variable {env : Env} {w : World} {fd : String} {disk : Disk} {burst : Burst (disk.pentries .PRIMARY_GPT)}

/-- An entry array whose CRC is wrong makes `gpt2_set_boot_chain` fail before it does anything. -/
theorem gpt2_set_boot_chain_bad_crc (hio : env.FullOrFail) (hdisk : w.disks fd = some disk)
    (hheaders : ∀ gpt, disk.headerOffset gpt + disk.blk_size ≤ disk.bytes.length) (hblk : 92 ≤ disk.blk_size)
    (hroom : disk.pentriesOffset .PRIMARY_GPT + disk.pentriesSize .PRIMARY_GPT ≤ disk.bytes.length)
    (hbad : field (disk.header .PRIMARY_GPT) PARTITION_CRC_OFFSET 4 ≠ (env.crc32 (disk.pentries .PRIMARY_GPT)).toNat)
    (boot : boot_chain) :
    env.steps.Follows (gpt2_set_boot_chain env fd boot) w (arrayReads disk) (-1) (· = -1) := by
  have hlength : (disk.header .PRIMARY_GPT).length = disk.blk_size := length_slice_of_le (hheaders .PRIMARY_GPT)
  have hsize : pentries_size (field (disk.header .PRIMARY_GPT) PARTITION_COUNT_OFFSET 4)
      (field (disk.header .PRIMARY_GPT) PENTRY_SIZE_OFFSET 4) = disk.pentriesSize .PRIMARY_GPT :=
    rfl
  have hread : disk.read (disk.pentriesOffset .PRIMARY_GPT) (disk.pentriesSize .PRIMARY_GPT) =
      disk.pentries .PRIMARY_GPT := rfl
  have hpentries : (disk.pentries .PRIMARY_GPT).length = disk.pentriesSize .PRIMARY_GPT :=
    length_slice_of_le hroom
  have hmodify : env.steps.Follows (gpt2_set_boot_chain.modify env fd boot) w (arrayReads disk)
      (.error (-1)) (· = .error (-1)) := by
    refine Steps.Follows.congr
      ([.call] ++ ([.call] ++ ([.call] ++ ([.read _] ++ ([.call] ++ ([.read _] ++ [])))))) ?_ rfl
    refine (ioctl_BLKSSZGET_follows env hdisk).bind ?_ fun w1 h1 => ?_
    · rintro a rfl
      exact ⟨.error (-1), rfl, rfl⟩
    refine (malloc_follows env w1 disk.blk_size).bind ?_ fun w2 h2 => ?_
    · rintro a rfl
      exact ⟨.error (-1), rfl, rfl⟩
    have hdisk2 : w2.disks fd = some disk := disk_of_done h2 (disk_of_done h1 hdisk)
    refine (gpt_header_offset_follows hdisk2 (hheaders .SECONDARY_GPT)).bind ?_ fun w3 h3 => ?_
    · rintro a rfl
      exact ⟨.error (-1), rfl, rfl⟩
    have hdisk3 : w3.disks fd = some disk := disk_of_done h3 hdisk2
    refine (blk_rw_read_follows hio hdisk3 (hheaders .PRIMARY_GPT) (length_fresh _ _ _)).bind ?_ fun w4 h4 => ?_
    · rintro ⟨r, buf⟩ hr
      exact ⟨.error r, if_pos (by simp_all), congrArg Except.error hr⟩
    have hdisk4 : w4.disks fd = some disk := disk_of_done h4 hdisk3
    have hheader : disk.read (disk.headerOffset .PRIMARY_GPT) disk.blk_size = disk.header .PRIMARY_GPT := rfl
    simp only [hheader]
    rw [if_neg (by simp)]
    simp only [header_fields (hblk.trans_eq hlength.symm), mem_ok_bind, hsize]
    refine (calloc_follows env w4 (disk.pentriesSize .PRIMARY_GPT)).bind ?_ fun w5 h5 => ?_
    · rintro a rfl
      exact ⟨.error (-1), rfl, rfl⟩
    have hdisk5 : w5.disks fd = some disk := disk_of_done h5 hdisk4
    refine (blk_rw_read_follows hio hdisk5 hroom List.length_replicate).bind ?_ fun w6 h6 => ?_
    · rintro ⟨r, buf⟩ hr
      exact ⟨.error r, if_pos (by simp_all), congrArg Except.error hr⟩
    simp only [hread]
    rw [if_neg (by simp), crc32_eq env (Nat.le_of_eq hpentries.symm), mem_ok_bind,
      List.take_of_length_le (Nat.le_of_eq hpentries), if_pos hbad]
    exact Steps.Follows.pure
  refine Steps.Follows.congr (arrayReads disk ++ []) ?_ (List.append_nil _)
  refine hmodify.bind ?_ fun w' _ => Steps.Follows.pure
  rintro a rfl
  exact ⟨-1, rfl, rfl⟩

/-- After a burst in the primary entry array the boot chain cannot be set: no sequence of
    attempts succeeds once or changes anything. -/
theorem array_burst_refused (hio : env.FullOrFail) (hzlib : env.Zlib) (hready : disk.ReadyForChain env.crc32)
    (hapart : Apart (disk.pentriesOffset .PRIMARY_GPT) (disk.pentriesSize .PRIMARY_GPT)
      (disk.headerOffset .PRIMARY_GPT) disk.blk_size)
    (hdisk : w.disks fd = some (disk.strikeArray burst)) (boots : List boot_chain) :
    Returns (boots.mapM fun boot => gpt2_set_boot_chain env fd boot) w fun rs w' =>
      (∀ r ∈ rs, r = -1) ∧ w.After [] w' := by
  obtain hcrc : env.crc32 = sparse_crc32 0 := funext hzlib
  have hpentries : (disk.pentries .PRIMARY_GPT).length = disk.pentriesSize .PRIMARY_GPT :=
    length_slice_of_le hready.room
  have hinside := burst.room
  rw [hpentries] at hinside
  have hbytes : (disk.strikeArray burst).bytes.length = disk.bytes.length := by
    rw [Disk.strikeArray, Disk.write_bytes, length_patch]
  have hheader : (disk.strikeArray burst).header .PRIMARY_GPT = disk.header .PRIMARY_GPT :=
    slice_patch_of_apart _ (hapart.symm.mono (Nat.le_refl _) (Nat.le_refl _) (Nat.le_add_right _ _) (by omega))
  have hoffset : (disk.strikeArray burst).pentriesOffset .PRIMARY_GPT = disk.pentriesOffset .PRIMARY_GPT := by
    rw [Disk.pentriesOffset, hheader]
    rfl
  have hsize : (disk.strikeArray burst).pentriesSize .PRIMARY_GPT = disk.pentriesSize .PRIMARY_GPT := by
    rw [Disk.pentriesSize, hheader]
    rfl
  have hstruck : (disk.strikeArray burst).pentries .PRIMARY_GPT = burst.struck := by
    rw [Disk.pentries, hoffset, hsize]
    exact slice_patch_inside _ hinside
  refine Returns.mapM_all (I := fun w' => w.After [] w') (fun boot w' hafter => ?_) boots (World.After.refl w)
  have hdisk' : w'.disks fd = some (disk.strikeArray burst) := by
    rw [hafter.disks, hdisk]
    rfl
  have hfollows := gpt2_set_boot_chain_bad_crc hio hdisk' (fun gpt => ?_) hready.primary.blk_size ?_ ?_ boot
  · refine (after_of_follows rfl hfollows).mono fun r w'' h => ⟨?_, hafter.trans h.2⟩
    rcases h.1 with h | h
    · exact h
    · exact h
  · have hroom := hready.primary.room
    have hroom' := hready.secondary.room
    cases gpt <;> rw [Disk.headerOffset, hbytes] <;> assumption
  · rw [hoffset, hsize, hbytes]
    exact hready.room
  · rw [hheader, hready.crc_eq, hstruck, hcrc]
    exact fun h => burst.sparse_crc32_ne 0 (UInt32.toNat_inj.mp h).symm

end array

/-- The name of the first partition with another letter. -/
def nameBurst : Burst (pairedDisk.pentries .PRIMARY_GPT) where
  offset := 56
  data := [0x78]
  length_le := by decide
  room := by
    rw [pairedDisk, pentries_formatted _ (length_namedEntries _), length_namedEntries]
    decide
  changed := by
    rw [pairedDisk, pentries_formatted _ (length_namedEntries _)]
    decide +kernel

theorem array_burst_refused_pairedDisk :
    Returns ([boot_chain.BACKUP_BOOT, .NORMAL_BOOT].mapM fun boot => gpt2_set_boot_chain emmc BLK_DEV_FILE boot)
      (machine (pairedDisk.strikeArray nameBurst))
      fun rs w' => (∀ r ∈ rs, r = -1) ∧ (machine (pairedDisk.strikeArray nameBurst)).After [] w' :=
  array_burst_refused emmc_working.fullOrFail zlib_emmc
    ⟨pairedDisk_valid.holdsHeader _, pairedDisk_valid.holdsHeader _, pairedDisk_valid.room _,
      by rw [← pairedDisk_valid.pentriesSize_eq .SECONDARY_GPT]; exact pairedDisk_valid.room _,
      pairedDisk_valid.pentries_crc _⟩
    (pairedDisk_valid.array_apart _ _) (machine_disk _) _

end gpt_utils
