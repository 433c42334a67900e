import OnePlus7Pro.Gpt.BootChainSpec
import OnePlus7Pro.Gpt.Reading
import OnePlus7Pro.Handle.GptDisk

open regions effects

namespace gpt_utils

/-- The call returns a result that satisfies `Q` without a lasting effect, unless
    something fails. -/
def Env.Reads {A : Type} (env : Env) (m : Sys A) (w : World) (Q failed : A → Prop) : Prop :=
  Returns m w fun a w' => w.After [] w' ∧ (Q a ∨ (failed a ∧ ¬ env.Working))

/-- The device at `path` is the one that holds the partition `dev`, also when its path is
    written over the one in the handle. -/
structure Env.Leads (env : Env) (dev : String) (dsk : gpt_disk) (path : String) : Prop where
  fresh : get_dev_path_from_partition_name env dev "" PATH_MAX = some path
  handle : get_dev_path_from_partition_name env dev dsk.devpath PATH_MAX = some path

section reads

variable {env : Env} {w : World} {A : Type} {m : Sys A} {Q failed : A → Prop}

/-- A call that the device allows. -/
theorem Env.Sees.reads {calls : Nat} {allowed : Prop} (hm : env.Sees m w calls allowed Q failed)
    (hallowed : allowed) : env.Reads m w Q failed :=
  Returns.mono hm fun _ _ h =>
    ⟨h.1, h.2.imp (fun h => h.1) fun h => ⟨h.1, fun hworking => h.2 ⟨hworking, hallowed⟩⟩⟩

theorem Env.Reads.mono {Q' : A → Prop} (hm : env.Reads m w Q failed) (hQ : ∀ a, Q a → Q' a) :
    env.Reads m w Q' failed :=
  Returns.mono hm fun a _ h => ⟨h.1, h.2.imp_left (hQ a)⟩

/-- Where nothing fails, the call returns as it should. -/
theorem Env.Reads.of_working (hworking : env.Working) (hm : env.Reads m w Q failed) :
    ∃ a w', m w = .ok a w' ∧ w.After [] w' ∧ Q a := by
  obtain ⟨a, w', hrun, hafter, hQ | ⟨_, hbroken⟩⟩ := hm
  · exact ⟨a, w', hrun, hafter, hQ⟩
  · exact absurd hworking hbroken

/-- A result that was not reported as a failure is as it should be. -/
theorem Env.Reads.of_run {a : A} {w' : World} (hm : env.Reads m w Q failed) (hrun : m w = .ok a w')
    (hfailed : ¬ failed a) : w.After [] w' ∧ Q a := by
  obtain ⟨hafter, hQ | ⟨hfail, _⟩⟩ := Returns.of_run hm hrun
  · exact ⟨hafter, hQ⟩
  · exact absurd hfail hfailed

end reads

variable {env : Env} {w : World} {fd : String} {disk : Disk}

theorem gpt_get_block_size_follows (hdisk : w.disks fd = some disk) :
    env.steps.Follows (gpt_get_block_size env fd) w [.call] disk.blk_size (· = 0) := by
  refine Steps.Follows.congr ([.call] ++ []) ?_ rfl
  refine (ioctl_BLKSSZGET_follows env hdisk).bind ?_ fun w' _ => Steps.Follows.pure
  rintro a rfl
  exact ⟨0, rfl, rfl⟩

theorem gpt_get_block_size_run (hdisk : w.disks fd = some disk) :
    gpt_get_block_size env fd w = .ok (if env.call w.calls then disk.blk_size else 0) w.called := by
  have hrun : ioctl_BLKSSZGET env fd w = .ok (if env.call w.calls then some disk.blk_size else none) w.called := by
    simp [ioctl_BLKSSZGET, hdisk]
  refine (run_bind_ok hrun).trans ?_
  split <;> rfl

theorem gpt_get_block_size_sees (hdisk : w.disks fd = some disk) :
    env.Sees (gpt_get_block_size env fd) w 1 True (· = disk.blk_size) (· = 0) :=
  sees_call (gpt_get_block_size_run hdisk)

theorem open_device_sees (hdisk : w.disks fd = some disk) :
    env.Sees (open_device env fd) w 1 True (· = some fd) (· = none) :=
  sees_call (by simp [open_device, hdisk])

/-- A read into `NULL` has no effect. -/
theorem blk_rw_null_returns (fd : String) (offset len : Nat) (w : World) :
    Returns (blk_rw_null fd offset len) w fun _ w' => w.After [] w' := by
  refine (lseek64_set_returns fd offset w).bind ?_
  rintro r w' rfl
  by_cases hr : r < 0
  · rw [if_pos hr]
    exact .pure (World.After.refl w')
  · rw [if_neg hr]
    exact ⟨_, _, rfl, World.After.transferred w' len none⟩

/-- Reading a header of the device that holds a partition. -/
theorem gpt_get_header_sees {dev : String} {gpt : gpt_instance} (hio : env.FullOrFail)
    (hpath : get_dev_path_from_partition_name env dev "" PATH_MAX = some fd)
    (hdisk : w.disks fd = some disk) (hblk : 0 < disk.blk_size) :
    env.Sees (gpt_get_header env dev gpt) w (3 + offsetCalls gpt) (disk.blk_size ≤ disk.bytes.length)
      (· = some (disk.headerOver env gpt (w.calls + 2))) (· = none) := by
  have hsteps : env.Sees (gpt_get_header env dev gpt) w (1 + (1 + (1 + (offsetCalls gpt + (0 + 0)))))
      (True ∧ True ∧ True ∧ (gpt = .SECONDARY_GPT → disk.blk_size ≤ disk.bytes.length) ∧
        disk.headerOffset gpt ≤ disk.bytes.length ∧ True)
      (· = some (disk.headerOver env gpt (w.calls + 2))) (· = none) := by
    unfold gpt_get_header
    rw [hpath]
    refine (open_device_sees hdisk).bind hdisk ?_ ?_
    · rintro a w1 rfl hdisk1
      exact .pure ⟨World.After.refl w1, rfl⟩
    rintro a w1 rfl _ hdisk1 hcalls1
    refine (gpt_get_block_size_sees hdisk1).bind hdisk1 ?_ ?_
    · rintro a w2 rfl hdisk2
      exact .pure ⟨World.After.refl w2, rfl⟩
    rintro a w2 rfl _ hdisk2 hcalls2
    rw [if_neg (Nat.pos_iff_ne_zero.mp hblk)]
    refine (malloc_sees env w2 disk.blk_size).bind hdisk2 ?_ ?_
    · rintro a w3 rfl hdisk3
      refine Returns.bind (gpt_header_offset_sees hdisk3 gpt) fun offset w4 h => ?_
      obtain ⟨hafter4, ⟨rfl, _⟩ | ⟨rfl, _⟩⟩ := h
      · refine (blk_rw_null_returns fd _ disk.blk_size w4).bind fun _ w5 hafter5 => ?_
        exact .pure ⟨hafter4.trans hafter5, rfl⟩
      · exact .pure ⟨hafter4, rfl⟩
    rintro a w3 rfl _ hdisk3 _
    refine (gpt_header_offset_sees hdisk3 gpt).bind hdisk3 ?_ ?_
    · rintro a w4 rfl _
      exact .pure ⟨World.After.refl w4, rfl⟩
    rintro a w4 rfl _ hdisk4 _
    refine (blk_rw_read_sees hio hdisk4 _ (length_fresh env w2 disk.blk_size)).bind hdisk4 ?_ ?_
    · rintro ⟨r, buf⟩ w5 (rfl : r = -1) _
      exact .pure ⟨World.After.refl w5, rfl⟩
    rintro a w5 rfl _ _ _
    refine Env.Sees.pure ?_
    rw [fresh, hcalls2, hcalls1]
    rfl
  have hcalls : 3 + offsetCalls gpt = 1 + (1 + (1 + (offsetCalls gpt + (0 + 0)))) := by omega
  rw [hcalls]
  refine hsteps.mono ?_ fun _ _ h => h
  cases gpt <;> simp [Disk.headerOffset]

/-- A header that lies on the device is read whole. -/
theorem gpt_get_header_reads {dev path : String} {gpt : gpt_instance} (hio : env.FullOrFail)
    (hpath : get_dev_path_from_partition_name env dev "" PATH_MAX = some path)
    (hdisk : w.disks path = some disk) (hblk : 0 < disk.blk_size)
    (hroom : disk.headerOffset gpt + disk.blk_size ≤ disk.bytes.length) :
    env.Reads (gpt_get_header env dev gpt) w (· = some (disk.header gpt)) (· = none) := by
  have hfits : disk.blk_size ≤ disk.bytes.length := by omega
  rw [← (headerRead_headerOver env gpt (w.calls + 2) hfits).eq hroom]
  exact (gpt_get_header_sees hio hpath hdisk hblk).reads hfits

/-- Reading the entry array that a header names. -/
theorem gpt_get_pentry_arr_sees {hdr : Buffer} (hio : env.FullOrFail) (hdisk : w.disks fd = some disk)
    (hblk : 0 < disk.blk_size) (hlength : 92 ≤ hdr.length) :
    env.Sees (gpt_get_pentry_arr env hdr fd) w 2 (disk.Readable hdr) (· = some (disk.array hdr))
      (· = none) := by
  have hsteps : env.Sees (gpt_get_pentry_arr env hdr fd) w (1 + (1 + (0 + 0)))
      (True ∧ True ∧ disk.Readable hdr ∧ True) (· = some (disk.array hdr)) (· = none) := by
    refine (gpt_get_block_size_sees hdisk).bind hdisk ?_ ?_
    · rintro a w1 rfl hdisk1
      exact .pure ⟨World.After.refl w1, rfl⟩
    rintro a w1 rfl _ hdisk1 _
    rw [if_neg (Nat.pos_iff_ne_zero.mp hblk)]
    simp only [header_fields hlength, mem_ok_bind]
    rw [← arraySize]
    refine (calloc_sees env w1 (arraySize hdr)).bind hdisk1 ?_ ?_
    · rintro a w2 rfl hdisk2
      exact .pure ⟨World.After.refl w2, rfl⟩
    rintro a w2 rfl _ hdisk2 _
    refine (blk_rw_read_sees hio hdisk2 (disk.arrayOffset hdr) List.length_replicate).bind hdisk2 ?_ ?_
    · rintro ⟨r, buf⟩ w3 (rfl : r = -1) hdisk3
      exact .pure ⟨World.After.refl w3, rfl⟩
    rintro a w3 rfl _ hdisk3 _
    exact Env.Sees.pure rfl
  exact hsteps.mono (by simp) fun _ _ h => h

/-- A handle after it was filled with two header blocks and two entry arrays. -/
def gpt_disk.filledWith (crc : Buffer → UInt32) (path : String) (block block_bak arr arr_bak : Buffer)
    (block_size : Nat) : gpt_disk where
  hdr := some block
  hdr_crc := (crc (block.take (field block HEADER_SIZE_OFFSET 4))).toNat
  hdr_bak := some block_bak
  hdr_bak_crc := (crc (block_bak.take (field block HEADER_SIZE_OFFSET 4))).toNat
  pentry_arr := some arr
  pentry_arr_bak := some arr_bak
  pentry_arr_size := arraySize block
  pentry_size := field block PENTRY_SIZE_OFFSET 4
  pentry_arr_crc := field block PARTITION_CRC_OFFSET 4
  pentry_arr_bak_crc := field block_bak PARTITION_CRC_OFFSET 4
  devpath := path
  block_size := block_size
  is_initialized := GPT_DISK_INIT_MAGIC

/-- The result of `gpt_disk_get_disk_info` once it has read two header blocks and the arrays that
    they name. -/
def Disk.Fills (disk : Disk) (crc : Buffer → UInt32) (path : String) (block block_bak : Buffer)
    (a : Int × gpt_disk) : Prop :=
  ∃ block_size,
    a = (0, .filledWith crc path block block_bak (disk.array block) (disk.array block_bak) block_size)

/-- `gpt_disk_get_disk_info` stays within the header blocks if they say that they fit, and
    fills the handle, unless something fails. -/
theorem gpt_disk_get_disk_info_sees {dev : String} {dsk : gpt_disk} (hio : env.FullOrFail)
    (hleads : env.Leads dev dsk fd) (hdisk : w.disks fd = some disk) (hblk : 92 ≤ disk.blk_size)
    (hheader : ∀ hdr, disk.HeaderRead .PRIMARY_GPT hdr → field hdr HEADER_SIZE_OFFSET 4 ≤ disk.blk_size) :
    env.Sees (gpt_disk_get_disk_info env dev dsk) w 12
      (disk.blk_size ≤ disk.bytes.length ∧ disk.Readable (disk.headerOver env .PRIMARY_GPT (w.calls + 2)) ∧
        disk.Readable (disk.headerOver env .PRIMARY_GPT (w.calls + 5)))
      (disk.Fills env.crc32 fd (disk.headerOver env .PRIMARY_GPT (w.calls + 2))
        (disk.headerOver env .PRIMARY_GPT (w.calls + 5))) (·.1 = -1) := by
  have hpositive : 0 < disk.blk_size := by omega
  have hsteps : env.Sees (gpt_disk_get_disk_info env dev dsk) w (3 + (3 + (1 + (2 + (2 + (1 + 0))))))
      (disk.blk_size ≤ disk.bytes.length ∧ disk.blk_size ≤ disk.bytes.length ∧ True ∧
        disk.Readable (disk.headerOver env .PRIMARY_GPT (w.calls + 2)) ∧
        disk.Readable (disk.headerOver env .PRIMARY_GPT (w.calls + 5)) ∧ True ∧ True)
      (disk.Fills env.crc32 fd (disk.headerOver env .PRIMARY_GPT (w.calls + 2))
        (disk.headerOver env .PRIMARY_GPT (w.calls + 5))) (·.1 = -1) := by
    refine (gpt_get_header_sees hio hleads.fresh hdisk hpositive).bind hdisk ?_ ?_
    · rintro a w1 rfl hdisk1
      exact .pure ⟨World.After.refl w1, rfl⟩
    rintro a w1 rfl hroom hdisk1 hcalls1
    have hread := headerRead_headerOver env .PRIMARY_GPT (w.calls + 2) hroom
    have hlength := hread.length
    have hsize := hheader _ hread
    simp only [header_fields (hblk.trans_eq hlength.symm), mem_ok_bind]
    rw [crc32_eq env (by omega)]
    simp only [mem_ok_bind]
    refine (gpt_get_header_sees hio hleads.fresh hdisk1 hpositive).bind hdisk1 ?_ ?_
    · rintro a w2 rfl hdisk2
      exact .pure ⟨World.After.refl w2, rfl⟩
    rintro a w2 rfl _ hdisk2 _
    have hcalls2 : w1.calls + 2 = w.calls + 5 := congrArg (· + 2) hcalls1
    rw [hcalls2]
    have hlength_bak := (headerRead_headerOver env .PRIMARY_GPT (w.calls + 5) hroom).length
    simp only []
    rw [crc32_eq env (by omega)]
    simp only [mem_ok_bind]
    rw [hleads.handle]
    refine (open_device_sees hdisk2).bind hdisk2 ?_ ?_
    · rintro a w3 rfl hdisk3
      exact .pure ⟨World.After.refl w3, rfl⟩
    rintro a w3 rfl _ hdisk3 _
    refine (gpt_get_pentry_arr_sees hio hdisk3 hpositive (by omega)).bind hdisk3 ?_ ?_
    · rintro a w4 rfl hdisk4
      exact .pure ⟨World.After.refl w4, rfl⟩
    rintro a w4 rfl _ hdisk4 _
    simp only [Option.isNone_some, Bool.false_eq_true, if_false]
    refine (gpt_get_pentry_arr_sees hio hdisk4 hpositive (by omega)).bind hdisk4 ?_ ?_
    · rintro a w5 rfl hdisk5
      exact .pure ⟨World.After.refl w5, rfl⟩
    rintro a w5 rfl _ hdisk5 _
    simp only [Option.isNone_some, Bool.false_eq_true, if_false,
      header_fields (hblk.trans_eq hlength_bak.symm), mem_ok_bind]
    -- whatever the last call returns is taken for the block size
    have hlast : env.Sees (gpt_get_block_size env fd) w5 1 True (fun _ => True) (fun _ => False) :=
      ⟨_, _, gpt_get_block_size_run hdisk5, World.After.called w5, .inl ⟨trivial, trivial, rfl⟩⟩
    refine hlast.bind hdisk5 (fun _ _ h => h.elim) fun block_size w6 _ _ hdisk6 _ => ?_
    exact Env.Sees.pure ⟨block_size, rfl⟩
  exact hsteps.mono (by simp) fun _ _ h => h

/-- The handle holds the primary header of a device twice, and two entry arrays. -/
structure gpt_disk.Holds (disk : Disk) (path : String) (arr arr_bak : Buffer) (handle : gpt_disk) :
    Prop where
  hdr : handle.hdr = some (disk.header .PRIMARY_GPT)
  hdr_bak : handle.hdr_bak = some (disk.header .PRIMARY_GPT)
  pentry_arr : handle.pentry_arr = some arr
  pentry_arr_bak : handle.pentry_arr_bak = some arr_bak
  pentry_arr_size : handle.pentry_arr_size = disk.pentriesSize .PRIMARY_GPT
  pentry_size : handle.pentry_size = field (disk.header .PRIMARY_GPT) PENTRY_SIZE_OFFSET 4
  devpath : handle.devpath = path
  is_initialized : handle.is_initialized = GPT_DISK_INIT_MAGIC

/-- What a handle is filled with: the primary header and its array, twice. -/
structure gpt_disk.Filled (crc : Buffer → UInt32) (disk : Disk) (path : String) (handle : gpt_disk) :
    Prop where
  holds : handle.Holds disk path (disk.pentries .PRIMARY_GPT) (disk.pentries .PRIMARY_GPT)
  hdr_crc : handle.hdr_crc =
    (crc ((disk.header .PRIMARY_GPT).take (field (disk.header .PRIMARY_GPT) HEADER_SIZE_OFFSET 4))).toNat
  hdr_bak_crc : handle.hdr_bak_crc = handle.hdr_crc
  pentry_arr_crc : handle.pentry_arr_crc = field (disk.header .PRIMARY_GPT) PARTITION_CRC_OFFSET 4
  pentry_arr_bak_crc : handle.pentry_arr_bak_crc = handle.pentry_arr_crc

/-- `gpt_disk_get_disk_info` fills the handle, unless something fails. -/
theorem gpt_disk_get_disk_info_reads {dev path : String} {dsk : gpt_disk} (hio : env.FullOrFail)
    (hleads : env.Leads dev dsk path) (hdisk : w.disks path = some disk)
    (hheader : disk.HoldsHeader .PRIMARY_GPT)
    (hroom : disk.pentriesOffset .PRIMARY_GPT + disk.pentriesSize .PRIMARY_GPT ≤ disk.bytes.length) :
    env.Reads (gpt_disk_get_disk_info env dev dsk) w
      (fun a => a.1 = 0 ∧ a.2.Filled env.crc32 disk path) (fun a => a.1 = -1) := by
  have hroom_header := hheader.room
  have hfits : disk.blk_size ≤ disk.bytes.length := by omega
  have hread (n : Nat) : disk.headerOver env .PRIMARY_GPT n = disk.header .PRIMARY_GPT :=
    (headerRead_headerOver env .PRIMARY_GPT n hfits).eq hroom_header
  have hsize (hdr : Buffer) (h : disk.HeaderRead .PRIMARY_GPT hdr) :
      field hdr HEADER_SIZE_OFFSET 4 ≤ disk.blk_size := by
    rw [h.eq hroom_header]
    exact hheader.header_size
  have hreadable : disk.Readable (disk.header .PRIMARY_GPT) := Nat.le_of_add_right_le hroom
  have harray : disk.array (disk.header .PRIMARY_GPT) = disk.pentries .PRIMARY_GPT := Disk.array_eq hroom
  have hsees := gpt_disk_get_disk_info_sees hio hleads hdisk hheader.blk_size hsize
  rw [hread, hread] at hsees
  refine (hsees.reads ⟨hfits, hreadable, hreadable⟩).mono ?_
  rintro a ⟨block_size, rfl⟩
  rw [harray]
  exact ⟨rfl, ⟨rfl, rfl, rfl, rfl, rfl, rfl, rfl, rfl⟩, rfl, rfl, rfl, rfl⟩

@[simp] theorem ok_bind {A B : Type} (a : A) (f : A → Except Fault B) : (Except.ok a >>= f) = f a :=
  rfl

/-- `gpt_disk_update_crc` seals the primary header for the array that the handle holds. -/
theorem gpt_disk_update_crc_eq (env : Env) {handle : gpt_disk} {hdr hdr_bak arr arr_bak : Buffer}
    (hinit : handle.is_initialized = GPT_DISK_INIT_MAGIC) (hhdr : handle.hdr = some hdr)
    (hhdr_bak : handle.hdr_bak = some hdr_bak) (harr : handle.pentry_arr = some arr)
    (harr_bak : handle.pentry_arr_bak = some arr_bak) (hsize : arr.length = handle.pentry_arr_size)
    (hsize_bak : arr_bak.length = handle.pentry_arr_size) (hlength : 92 ≤ hdr.length)
    (hlength_bak : hdr_bak.length = hdr.length)
    (hheader_size : field hdr HEADER_SIZE_OFFSET 4 ≤ hdr.length) :
    ∃ handle', gpt_disk_update_crc env handle = .ok (0, handle') ∧
      handle'.hdr = some (chainHeader env.crc32 hdr arr) ∧ handle'.pentry_arr = some arr ∧
      handle'.devpath = handle.devpath ∧ handle'.is_initialized = GPT_DISK_INIT_MAGIC := by
  have hfield : field (recordArray env.crc32 hdr arr) HEADER_SIZE_OFFSET 4 = field hdr HEADER_SIZE_OFFSET 4 :=
    (sameLayout_recordArray env.crc32 hdr arr).header_size
  have hrecorded : (recordArray env.crc32 hdr arr).length = hdr.length := length_recordArray _ _ _
  unfold gpt_disk_update_crc
  rw [if_neg (not_not.mpr hinit), hhdr, hhdr_bak, harr, harr_bak]
  simp only [deref, ok_bind]
  rw [crc32_eq env (by omega), List.take_of_length_le (by omega)]
  simp only [ok_bind]
  rw [crc32_eq env (by omega), List.take_of_length_le (by omega)]
  simp only [ok_bind]
  rw [PUT_4_BYTES_eq _ (by simp only [PARTITION_CRC_OFFSET]; omega),
    PUT_4_BYTES_eq _ (by simp only [PARTITION_CRC_OFFSET]; omega), ← recordArray]
  simp only [ok_bind]
  rw [GET_4_BYTES_eq (by simp only [HEADER_SIZE_OFFSET]; omega), hfield,
    PUT_4_BYTES_eq _ (by simp only [HEADER_CRC_OFFSET]; omega),
    PUT_4_BYTES_eq _ (by simp only [HEADER_CRC_OFFSET, length_setField]; omega)]
  simp only [ok_bind]
  rw [crc32_eq env (by rw [length_setField]; omega),
    crc32_eq env (by rw [length_setField, length_setField]; omega)]
  simp only [ok_bind]
  rw [PUT_4_BYTES_eq _ (by simp only [HEADER_CRC_OFFSET, length_setField]; omega),
    PUT_4_BYTES_eq _ (by simp only [HEADER_CRC_OFFSET, length_setField]; omega)]
  refine ⟨_, rfl, ?_, rfl, rfl, hinit⟩
  rw [setField_setField_same, ← hfield]
  rfl

/-- The steps of `gpt_disk_commit`. -/
def commitScript (path : String) (disk : Disk) (offset : Nat) (hdr arr : Buffer) : List Step :=
  [.call, .call, .write path disk.blk_size hdr, .call, .write path offset arr]

theorem gpt_set_header_follows {hdr : Buffer} (hio : env.FullOrFail)
    (hdisk : w.disks fd = some disk) (hlength : hdr.length = disk.blk_size)
    (hblk : 0 < disk.blk_size) (hroom : 2 * disk.blk_size ≤ disk.bytes.length) :
    env.steps.Follows (gpt_set_header env (some hdr) fd .PRIMARY_GPT) w [.call, .write fd disk.blk_size hdr] 0
      (· = -1) := by
  refine Steps.Follows.congr ([.call] ++ ([.write fd disk.blk_size hdr] ++ [])) ?_ rfl
  refine (gpt_get_block_size_follows hdisk).bind ?_ fun w1 h1 => ?_
  · rintro a rfl
    exact ⟨-1, rfl, rfl⟩
  have hdisk1 : w1.disks fd = some disk := disk_of_done h1 hdisk
  rw [if_neg (Nat.pos_iff_ne_zero.mp hblk)]
  change env.steps.Follows (if disk.blk_size = 0 then pure (-1) else _) w1 _ _ _
  rw [if_neg (Nat.pos_iff_ne_zero.mp hblk)]
  refine (blk_rw_write_follows hio hdisk1 (by omega) hlength).bind ?_ fun w2 h2 => Steps.Follows.pure
  rintro ⟨r, buf⟩ (rfl : r = -1)
  exact ⟨-1, rfl, rfl⟩

theorem gpt_set_pentry_arr_follows {hdr arr : Buffer} (hio : env.FullOrFail)
    (hdisk : w.disks fd = some disk) (hblk : 0 < disk.blk_size) (hlength : 92 ≤ hdr.length)
    (hsize : arr.length = pentries_size (field hdr PARTITION_COUNT_OFFSET 4) (field hdr PENTRY_SIZE_OFFSET 4))
    (hroom : pentries_offset (field hdr PENTRIES_OFFSET 8) disk.blk_size + arr.length ≤ disk.bytes.length) :
    env.steps.Follows (gpt_set_pentry_arr env (some hdr) fd (some arr)) w
      [.call, .write fd (pentries_offset (field hdr PENTRIES_OFFSET 8) disk.blk_size) arr] 0 (· = -1) := by
  refine Steps.Follows.congr ([.call] ++ ([.write fd _ _] ++ [])) ?_ rfl
  refine (gpt_get_block_size_follows hdisk).bind ?_ fun w1 h1 => ?_
  · rintro a rfl
    exact ⟨-1, rfl, rfl⟩
  have hdisk1 : w1.disks fd = some disk := disk_of_done h1 hdisk
  rw [if_neg (Nat.pos_iff_ne_zero.mp hblk)]
  simp only [header_fields hlength, mem_ok_bind]
  rw [← hsize]
  refine (blk_rw_write_follows hio hdisk1 hroom rfl).bind ?_ fun w2 h2 => Steps.Follows.pure
  rintro ⟨r, buf⟩ (rfl : r = -1)
  exact ⟨-1, rfl, rfl⟩

/-- `gpt_disk_commit` writes the primary header and then the primary array, and nothing else. -/
theorem gpt_disk_commit_follows {handle : gpt_disk} {hdr arr : Buffer} (hio : env.FullOrFail)
    (hdisk : w.disks handle.devpath = some disk)
    (hinit : handle.is_initialized = GPT_DISK_INIT_MAGIC) (hhdr : handle.hdr = some hdr)
    (harr : handle.pentry_arr = some arr) (hlength : hdr.length = disk.blk_size)
    (hblk : 92 ≤ disk.blk_size) (hblocks : 2 * disk.blk_size ≤ disk.bytes.length)
    (hsize : arr.length = pentries_size (field hdr PARTITION_COUNT_OFFSET 4) (field hdr PENTRY_SIZE_OFFSET 4))
    (hroom : pentries_offset (field hdr PENTRIES_OFFSET 8) disk.blk_size + arr.length ≤ disk.bytes.length) :
    env.steps.Follows (gpt_disk_commit env handle) w
      (commitScript handle.devpath disk (pentries_offset (field hdr PENTRIES_OFFSET 8) disk.blk_size) hdr arr) 0
      (· = -1) := by
  refine Steps.Follows.congr ([.call] ++ ([.call, .write handle.devpath disk.blk_size hdr] ++
    ([.call, .write handle.devpath _ arr] ++ []))) ?_ rfl
  unfold gpt_disk_commit
  rw [if_neg (not_not.mpr hinit), hhdr, harr]
  refine (open_device_follows env hdisk).bind ?_ fun w1 h1 => ?_
  · rintro a rfl
    exact ⟨-1, rfl, rfl⟩
  have hdisk1 : w1.disks handle.devpath = some disk := disk_of_done h1 hdisk
  refine (gpt_set_header_follows hio hdisk1 hlength (by omega) hblocks).bind ?_ fun w2 h2 => ?_
  · rintro a rfl
    exact ⟨-1, rfl, rfl⟩
  have hdisk2 : w2.disks handle.devpath = some (disk.write disk.blk_size hdr) := by
    rw [disk_of_done h2 hdisk1]
    exact congrArg some (onDisk_write_self handle.devpath disk disk.blk_size hdr.length hdr)
  rw [if_neg (not_not.mpr rfl)]
  have hroom' : pentries_offset (field hdr PENTRIES_OFFSET 8) disk.blk_size + arr.length ≤
      (disk.write disk.blk_size hdr).bytes.length := by
    rw [Disk.write_bytes, length_patch]
    exact hroom
  refine (gpt_set_pentry_arr_follows hio hdisk2 (by rw [Disk.write_blk_size]; omega) (by omega) hsize hroom').bind ?_
    fun w3 h3 => ?_
  · rintro a rfl
    exact ⟨-1, rfl, rfl⟩
  · exact Steps.Follows.pure

end gpt_utils
