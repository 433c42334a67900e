import OnePlus7Pro.Handle.HandleBounds

open regions effects

namespace gpt_utils

/-- The device behind `fd` is `disk`, reads and writes move all there is or fail, and CRCs are
    those of `crc`. -/
structure Env.Serves (env : Env) (crc : Buffer → UInt32) (w : World) (fd : String) (disk : Disk) : Prop where
  io : env.FullOrFail
  crc32 : env.crc32 = crc
  disk : w.disks fd = some disk

/-- The search for a name and the update of the CRCs stay within the header blocks and the arrays of
    a handle. -/
structure gpt_disk.InBounds (env : Env) (handle : gpt_disk) : Prop where
  get_pentry : ∀ (name : Buffer) (gpt : gpt_instance), name.length < 33 → 0 ∉ name →
    gpt_disk_get_pentry handle name gpt ≠ .error .out_of_bounds
  update_crc : gpt_disk_update_crc env handle ≠ .error .out_of_bounds

/-- Whatever is done with the GPT on a device stays within the header blocks and the entry arrays
    that it was read into, whatever fails and whatever fresh memory holds. -/
structure Disk.InBounds (crc : Buffer → UInt32) (disk : Disk) : Prop where
  get_state : ∀ {env : Env} {w : World} {fd : String} (gpt : gpt_instance), env.Serves crc w fd disk →
    ¬ Faults (gpt_get_state env fd gpt) w
  set_state : ∀ {env : Env} {w : World} {fd : String} (gpt : gpt_instance) (state : gpt_state),
    env.Serves crc w fd disk → ¬ Faults (gpt_set_state env fd gpt state) w
  set_boot_chain : ∀ {env : Env} {w : World} {fd : String} (boot : boot_chain), env.Serves crc w fd disk →
    ¬ Faults (gpt2_set_boot_chain env fd boot) w
  get_disk_info : ∀ {env : Env} {w : World} {fd dev : String} {dsk : gpt_disk}, env.Serves crc w fd disk →
    env.Leads dev dsk fd → ¬ Faults (gpt_disk_get_disk_info env dev dsk) w
  /-- Also after the entries in the handle have been changed. -/
  handle : ∀ {env : Env} {w w' : World} {fd dev : String} {dsk handle : gpt_disk} {arr arr_bak : Buffer},
    env.Serves crc w fd disk → env.Leads dev dsk fd →
    gpt_disk_get_disk_info env dev dsk w = .ok (0, handle) w' →
    handle.pentry_arr.map List.length = some arr.length →
    handle.pentry_arr_bak.map List.length = some arr_bak.length →
    (handle.withArrays arr arr_bak).InBounds env

/-- What the headers that can be read from a device say fits: their own sizes, every name in the
    entry array, and every entry that is exchanged. -/
structure Disk.Contained (crc : Buffer → UInt32) (disk : Disk) : Prop where
  header : ∀ {gpt : gpt_instance} {hdr : Buffer}, disk.HeaderRead gpt hdr →
    field hdr HEADER_SIZE_OFFSET 4 ≤ disk.blk_size
  names : ∀ {hdr : Buffer}, disk.HeaderRead .PRIMARY_GPT hdr → disk.Readable hdr →
    SlotsFit (arraySize hdr) (field hdr PENTRY_SIZE_OFFSET 4)
  exchanges : ∀ (env : Env) {hdr : Buffer}, disk.HeaderRead .PRIMARY_GPT hdr → disk.Readable hdr →
    (crc (disk.array hdr)).toNat = field hdr PARTITION_CRC_OFFSET 4 →
    SwapsFit (field hdr PENTRY_SIZE_OFFSET 4) (slotCount (arraySize hdr) (field hdr PENTRY_SIZE_OFFSET 4))
      (swapNames env) (disk.array hdr)
  /-- Two reads of the primary header can differ only where the device ends before the block does. -/
  alike : ∀ {hdr hdr' : Buffer}, disk.HeaderRead .PRIMARY_GPT hdr → disk.HeaderRead .PRIMARY_GPT hdr' →
    disk.Readable hdr → disk.Readable hdr' → arraySize hdr = arraySize hdr'

section sufficient

variable {crc : Buffer → UInt32} {disk : Disk}

/-- Where everything fits, nothing leaves its buffer. -/
theorem Disk.Contained.inBounds (hcontained : disk.Contained crc) (hblk : 512 ≤ disk.blk_size) :
    disk.InBounds crc where
  get_state gpt hserves :=
    not_faults_of_returns (gpt_get_state_fit hserves.io hserves.disk (by omega) fun _ => hcontained.header)
  set_state gpt state hserves :=
    not_faults_of_returns (gpt_set_state_fit state hserves.io hserves.disk (by omega) fun _ => hcontained.header)
  set_boot_chain boot hserves := by
    refine not_faults_of_returns (gpt2_set_boot_chain_fit hserves.io hserves.disk (by omega)
      (fun _ => hcontained.header) (fun hdr hread hreadable hcrc => ?_) boot)
    rw [hserves.crc32] at hcrc
    exact ⟨hcontained.names hread hreadable, hcontained.exchanges _ hread hreadable hcrc⟩
  get_disk_info hserves hleads :=
    not_faults_of_returns (gpt_disk_get_disk_info_sees hserves.io hleads hserves.disk (by omega)
      fun _ => hcontained.header)
  handle {env w w' fd dev dsk handle arr arr_bak} hserves hleads hrun harr harr_bak := by
    have hsees := gpt_disk_get_disk_info_sees hserves.io hleads hserves.disk (by omega)
      fun _ => hcontained.header
    obtain ⟨_, ⟨hfills, ⟨hroom, hreadable, hreadable_bak⟩, _⟩ | ⟨hfail, _⟩⟩ :=
      Returns.of_run hsees hrun
    case inr => exact absurd hfail (by simp)
    have hloads := hfills.loads
    have hread := headerRead_headerOver env .PRIMARY_GPT (w.calls + 2) hroom
    have hread_bak := headerRead_headerOver env .PRIMARY_GPT (w.calls + 5) hroom
    have halike := hcontained.alike hread hread_bak hreadable hreadable_bak
    rw [hloads.pentry_arr, Option.map_some, Option.some.injEq, disk.length_array] at harr
    rw [hloads.pentry_arr_bak, Option.map_some, Option.some.injEq, disk.length_array, ← halike] at harr_bak
    have hloaded := hloads.withArrays arr arr_bak
    have hlength := hread.length
    have hheader := hcontained.header hread
    refine ⟨fun name gpt hname _ => ?_, ?_⟩
    · obtain ⟨entry, hentry⟩ := gpt_disk_get_pentry_fit hloaded (hcontained.names hread hreadable) harr.symm
        harr_bak.symm hname gpt
      rw [hentry]
      exact nofun
    · obtain ⟨handle', hupdate⟩ := @gpt_disk_update_crc_fit env _ _ _ _ _ hloaded (by omega)
        (hread_bak.length.trans hlength.symm) (by omega) harr.symm harr_bak.symm
      rw [hupdate]
      exact nofun

/-- On a device with a valid GPT everything fits. -/
theorem Disk.Valid.contained (hvalid : disk.Valid crc) : disk.Contained crc := by
  have hsize {hdr : Buffer} (hread : disk.HeaderRead .PRIMARY_GPT hdr) :
      arraySize hdr = field hdr PARTITION_COUNT_OFFSET 4 * field hdr PENTRY_SIZE_OFFSET 4 ∧
        PTN_ENTRY_SIZE ≤ field hdr PENTRY_SIZE_OFFSET 4 := by
    rw [hread.eq (hvalid.headerOffset_room _)]
    exact ⟨Nat.mod_eq_of_lt hvalid.product_lt, hvalid.pentry_size⟩
  refine ⟨fun {gpt hdr} hread => ?_, fun hread _ k hk => ?_, fun env hdr hread _ _ => ?_,
    fun hread hread' _ _ => ?_⟩
  · rw [hread.eq (hvalid.headerOffset_room gpt)]
    exact (hvalid.header_size gpt).2
  · obtain ⟨harray, hpentry⟩ := hsize hread
    rw [harray] at hk ⊢
    exact slotsFit_of_whole _ hpentry k hk
  · obtain ⟨harray, hpentry⟩ := hsize hread
    refine swapsFit_of_whole (fun k hk => ?_) _ (disk.length_array hdr)
    rw [harray] at hk ⊢
    exact slots_whole hpentry hk
  · rw [hread.eq (hvalid.headerOffset_room _), hread'.eq (hvalid.headerOffset_room _)]

end sufficient

/-- Surroundings in which nothing fails and fresh memory holds what is given. -/
def Env.granting (env : Env) (crc : Buffer → UInt32) (memory : Nat → Buffer) : Env :=
  { env with
    crc32 := crc
    transfer := fun _ => .full
    call := fun _ => true
    heap := fun n i => (memory n).getD i 0 }

section necessary

variable {crc : Buffer → UInt32} {disk : Disk} {memory : Nat → Buffer}

theorem granting_working (env : Env) : (env.granting crc memory).Working := ⟨fun _ => rfl, fun _ => rfl⟩

theorem granting_serves (env : Env) : (env.granting crc memory).Serves crc (machine disk) BLK_DEV_FILE disk :=
  ⟨(granting_working env).fullOrFail, rfl, machine_disk disk⟩

theorem granting_leads (dev : String) (dsk : gpt_disk) :
    (emmc.granting crc memory).Leads dev dsk BLK_DEV_FILE :=
  ⟨(emmc_leads dev dsk).fresh, (emmc_leads dev dsk).handle⟩

/-- A header block is read over what fresh memory holds. -/
theorem headerOver_granting (env : Env) (gpt : gpt_instance) {n : Nat} (hmemory : (memory n).length = disk.blk_size) :
    disk.headerOver (env.granting crc memory) gpt n = disk.readOver (disk.headerOffset gpt) (memory n) := by
  have hfresh : (List.range disk.blk_size).map ((env.granting crc memory).heap n) = memory n := by
    apply List.ext_getElem
    · simp [hmemory]
    · intro i hi hi'
      simp [Env.granting, hi']
  rw [Disk.headerOver, hfresh]

/-- A handle can be loaded with any two header blocks that can be read. -/
theorem loads_granting {block block_bak : Buffer} (hblk : 92 ≤ disk.blk_size)
    (hheader : ∀ hdr, disk.HeaderRead .PRIMARY_GPT hdr → field hdr HEADER_SIZE_OFFSET 4 ≤ disk.blk_size)
    (hread : disk.HeaderRead .PRIMARY_GPT block) (hread_bak : disk.HeaderRead .PRIMARY_GPT block_bak)
    (hreadable : disk.Readable block) (hreadable_bak : disk.Readable block_bak) :
    ∃ (memory : Nat → Buffer) (handle : gpt_disk) (w' : World),
      gpt_disk_get_disk_info (emmc.granting crc memory) "" .cleared (machine disk) = .ok (0, handle) w' ∧
        disk.Loads block block_bak handle := by
  obtain ⟨hroom, first, hfirst, rfl⟩ := hread
  obtain ⟨_, second, hsecond, rfl⟩ := hread_bak
  let memory (n : Nat) : Buffer := if n = 2 then first else second
  have hover : disk.headerOver (emmc.granting crc memory) .PRIMARY_GPT 2 = disk.readOver disk.blk_size first :=
    headerOver_granting emmc .PRIMARY_GPT hfirst
  have hover_bak : disk.headerOver (emmc.granting crc memory) .PRIMARY_GPT 5 = disk.readOver disk.blk_size second :=
    headerOver_granting emmc .PRIMARY_GPT hsecond
  have hsees := gpt_disk_get_disk_info_sees (granting_working emmc).fullOrFail
    (@granting_leads crc memory "" .cleared) (machine_disk disk) hblk hheader
  obtain ⟨a, w', hrun, _, ⟨block_size, rfl⟩, _⟩ := hsees.of_working (machine_disk disk) (granting_working emmc)
    ⟨hroom, hover ▸ hreadable, hover_bak ▸ hreadable_bak⟩
  refine ⟨memory, _, w', hrun, ?_⟩
  change disk.Loads (disk.readOver disk.blk_size first) (disk.readOver disk.blk_size second) _
  rw [← hover, ← hover_bak]
  exact Disk.Fills.loads ⟨block_size, rfl⟩

/-- A device on which nothing leaves its buffer holds headers that fit. -/
theorem Disk.InBounds.header (hbounds : disk.InBounds crc) (hblk : 512 ≤ disk.blk_size) {gpt : gpt_instance}
    {hdr : Buffer} (hread : disk.HeaderRead gpt hdr) : field hdr HEADER_SIZE_OFFSET 4 ≤ disk.blk_size := by
  obtain ⟨hroom, block, hblock, rfl⟩ := hread
  by_contra hover
  refine hbounds.get_state gpt (@granting_serves crc disk (fun _ => block) emmc) ?_
  refine gpt_get_state_beyond (granting_working emmc) (machine_disk disk) (by omega) hroom ?_
  rw [headerOver_granting emmc gpt hblock]
  exact Nat.lt_of_not_le hover

/-- A device on which nothing leaves its buffer holds names that fit. -/
theorem Disk.InBounds.names (hbounds : disk.InBounds crc) (hblk : 512 ≤ disk.blk_size) {hdr : Buffer}
    (hread : disk.HeaderRead .PRIMARY_GPT hdr) (hreadable : disk.Readable hdr) :
    SlotsFit (arraySize hdr) (field hdr PENTRY_SIZE_OFFSET 4) := by
  by_contra hover
  obtain ⟨memory, handle, w', hrun, hloads⟩ := @loads_granting crc disk _ _ (by omega)
    (fun _ => hbounds.header hblk) hread hread hreadable hreadable
  have hhandle := hbounds.handle (granting_serves emmc) (granting_leads _ _) hrun
    (congrArg (Option.map List.length) hloads.pentry_arr) (congrArg (Option.map List.length) hloads.pentry_arr_bak)
  obtain ⟨name, hlength, hzero, hfault⟩ := gpt_disk_get_pentry_beyond (hloads.withArrays _ _)
    (disk.length_array hdr) hover
  exact hhandle.get_pentry name .PRIMARY_GPT (by omega) hzero hfault

/-- A device on which nothing leaves its buffer is always read with the same size of the array. -/
theorem Disk.InBounds.alike (hbounds : disk.InBounds crc) (hblk : 512 ≤ disk.blk_size) {hdr hdr' : Buffer}
    (hread : disk.HeaderRead .PRIMARY_GPT hdr) (hread' : disk.HeaderRead .PRIMARY_GPT hdr')
    (hreadable : disk.Readable hdr) (hreadable' : disk.Readable hdr') : arraySize hdr = arraySize hdr' := by
  have hnot {block block_bak : Buffer} (hread : disk.HeaderRead .PRIMARY_GPT block)
      (hread_bak : disk.HeaderRead .PRIMARY_GPT block_bak) (hreadable : disk.Readable block)
      (hreadable_bak : disk.Readable block_bak) : ¬ arraySize block_bak < arraySize block := by
    intro hsmaller
    obtain ⟨memory, handle, w', hrun, hloads⟩ := @loads_granting crc disk _ _ (by omega)
      (fun _ => hbounds.header hblk) hread hread_bak hreadable hreadable_bak
    have hhandle := hbounds.handle (granting_serves emmc) (granting_leads _ _) hrun
      (congrArg (Option.map List.length) hloads.pentry_arr) (congrArg (Option.map List.length) hloads.pentry_arr_bak)
    exact hhandle.update_crc (gpt_disk_update_crc_beyond (hloads.withArrays _ _) (disk.length_array block)
      (by rwa [disk.length_array]))
  have hfirst := hnot hread hread' hreadable hreadable'
  have hsecond := hnot hread' hread hreadable' hreadable
  omega

/-- A device on which nothing leaves its buffer holds exchanges that fit. -/
theorem Disk.InBounds.exchanges (hbounds : disk.InBounds crc) (hblk : 512 ≤ disk.blk_size) (env : Env)
    {hdr : Buffer} (hread : disk.HeaderRead .PRIMARY_GPT hdr) (hreadable : disk.Readable hdr)
    (hcrc : (crc (disk.array hdr)).toNat = field hdr PARTITION_CRC_OFFSET 4) :
    SwapsFit (field hdr PENTRY_SIZE_OFFSET 4) (slotCount (arraySize hdr) (field hdr PENTRY_SIZE_OFFSET 4))
      (swapNames env) (disk.array hdr) := by
  have hnames := hbounds.names hblk hread hreadable
  obtain ⟨hroom, block, hblock, rfl⟩ := hread
  by_contra hover
  refine hbounds.set_boot_chain .BACKUP_BOOT (@granting_serves crc disk (fun _ => block) env) ?_
  exact gpt2_set_boot_chain_beyond (granting_working env) (machine_disk disk) (by omega) hroom
    (headerOver_granting env .PRIMARY_GPT hblock) hreadable hcrc hnames hover

end necessary

/-- Nothing that is done with the GPT on a device leaves its buffer exactly if what the headers say
    fits. -/
theorem inBounds_iff (crc : Buffer → UInt32) {disk : Disk} (hblk : 512 ≤ disk.blk_size) :
    disk.InBounds crc ↔ disk.Contained crc :=
  ⟨fun h => ⟨h.header hblk, h.names hblk, h.exchanges hblk, h.alike hblk⟩, fun h => h.inBounds hblk⟩

theorem inBounds_pairedDisk : 512 ≤ pairedDisk.blk_size ∧ pairedDisk.InBounds zlib_crc32 :=
  ⟨pairedDisk_valid.blk_size, (inBounds_iff zlib_crc32 pairedDisk_valid.blk_size).mpr pairedDisk_valid.contained⟩

/-- An erased device of two blocks. -/
def erasedDisk : Disk where
  blk_size := 4096
  bytes := List.replicate 8192 0xFF
  blk_size_lt := by decide
  bytes_lt := by rw [List.length_replicate]; decide

/-- The header of an erased device says that it is of almost 4 GiB. -/
theorem erasedDisk_out_of_bounds : 512 ≤ erasedDisk.blk_size ∧ ¬ erasedDisk.InBounds zlib_crc32 := by
  have hblk : 512 ≤ erasedDisk.blk_size := by decide
  refine ⟨hblk, fun hbounds => ?_⟩
  have hread : erasedDisk.HeaderRead .PRIMARY_GPT (erasedDisk.readOver 4096 (zeros 4096)) :=
    ⟨by decide +kernel, zeros 4096, length_zeros 4096, rfl⟩
  have hsize : field (erasedDisk.readOver 4096 (zeros 4096)) HEADER_SIZE_OFFSET 4 = 2 ^ 32 - 1 := by decide +kernel
  have hfits := hbounds.header hblk hread
  rw [hsize] at hfits
  exact absurd hfits (by decide)

end gpt_utils
