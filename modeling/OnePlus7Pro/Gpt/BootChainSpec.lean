import OnePlus7Pro.Gpt.HeaderSpec

open regions effects

namespace gpt_utils

/-- The position of the entry array that a header names. -/
def Disk.pentriesOffset (disk : Disk) (gpt : gpt_instance) : Nat :=
  pentries_offset (field (disk.header gpt) PENTRIES_OFFSET 8) disk.blk_size

/-- The size of the entry array that a header names. -/
def Disk.pentriesSize (disk : Disk) (gpt : gpt_instance) : Nat :=
  pentries_size (field (disk.header gpt) PARTITION_COUNT_OFFSET 4) (field (disk.header gpt) PENTRY_SIZE_OFFSET 4)

/-- The entry array that a header names. -/
def Disk.pentries (disk : Disk) (gpt : gpt_instance) : Buffer :=
  disk.read (disk.pentriesOffset gpt) (disk.pentriesSize gpt)

/-- The header block that `gpt2_set_boot_chain` writes for a new entry array. -/
def chainHeader (crc : Buffer → UInt32) (header pentries : Buffer) : Buffer :=
  reseal crc (recordArray crc header pentries)

theorem sameLayout_chainHeader (crc : Buffer → UInt32) (header pentries : Buffer) :
    SameLayout (chainHeader crc header pentries) header :=
  (sameLayout_reseal crc _).trans (sameLayout_recordArray crc header pentries)

/-- What `gpt2_set_boot_chain` needs of a device to get as far as its writes. -/
structure Disk.ReadyForChain (crc : Buffer → UInt32) (disk : Disk) : Prop where
  primary : disk.HoldsHeader .PRIMARY_GPT
  secondary : disk.HoldsHeader .SECONDARY_GPT
  room : disk.pentriesOffset .PRIMARY_GPT + disk.pentriesSize .PRIMARY_GPT ≤ disk.bytes.length
  room_secondary : disk.pentriesOffset .SECONDARY_GPT + disk.pentriesSize .PRIMARY_GPT ≤ disk.bytes.length
  crc_eq : field (disk.header .PRIMARY_GPT) PARTITION_CRC_OFFSET 4 = (crc (disk.pentries .PRIMARY_GPT)).toNat

variable {env : Env} {w : World} {fd : String} {disk : Disk} {boot : boot_chain}
    {pentries' : Buffer}

theorem blk_rw_header_follows {gpt : gpt_instance} (hio : env.FullOrFail)
    (hdisk : w.disks fd = some disk) (hheader : disk.HoldsHeader gpt) {buf : Buffer}
    (hbuf : buf.length = disk.blk_size) :
    env.steps.Follows (blk_rw env fd false (disk.headerOffset gpt) buf disk.blk_size) w [.read disk.blk_size]
      (0, disk.header gpt) (·.1 = -1) :=
  blk_rw_read_follows hio hdisk hheader.room hbuf

/-- The steps of `gpt2_set_boot_chain` before its writes. -/
def chainReads (disk : Disk) : List Step :=
  [.call, .call, .call, .read disk.blk_size, .call, .read (disk.pentriesSize .PRIMARY_GPT), .read disk.blk_size]

@[simp] theorem chainReads_events (disk : Disk) : (chainReads disk).flatMap Step.events = [] := rfl

/-- The two writes of `gpt2_set_boot_chain`: the secondary header, then its entry array. -/
def chainWrites (crc : Buffer → UInt32) (fd : String) (disk : Disk) (pentries' : Buffer) :
    List Step :=
  [.write fd (disk.headerOffset .SECONDARY_GPT) (chainHeader crc (disk.header .SECONDARY_GPT) pentries'),
    .write fd (disk.pentriesOffset .SECONDARY_GPT) pentries']

/-- The header and array that `gpt2_set_boot_chain` works out for a device. -/
def chainUpdate (crc : Buffer → UInt32) (disk : Disk) (pentries' : Buffer) : chain_update where
  gpt2_header_offset := disk.headerOffset .SECONDARY_GPT
  gpt_header := chainHeader crc (disk.header .SECONDARY_GPT) pentries'
  blk_size := disk.blk_size
  pentries_offset := disk.pentriesOffset .SECONDARY_GPT
  pentries := pentries'
  pentries_array_size := disk.pentriesSize .PRIMARY_GPT

/-- Sealing the secondary header for an array, with both in their buffers. -/
theorem chainHeader_run (env : Env) {secondary pentries : Buffer} {size : Nat}
    (hlength : 92 ≤ secondary.length) (hheader : field secondary HEADER_SIZE_OFFSET 4 ≤ secondary.length)
    (hsize : pentries.length = size) {A : Type} (f : Buffer → Sys A) :
    (do
      let crc ← mem (crc32 env pentries size)
      let recorded ← mem (PUT_4_BYTES secondary PARTITION_CRC_OFFSET crc)
      let cleared ← mem (PUT_4_BYTES recorded HEADER_CRC_OFFSET 0)
      let crc ← mem (crc32 env cleared (field secondary HEADER_SIZE_OFFSET 4))
      let sealed ← mem (PUT_4_BYTES cleared HEADER_CRC_OFFSET crc)
      f sealed) = f (chainHeader env.crc32 secondary pentries) := by
  have hrecorded : (recordArray env.crc32 secondary pentries).length = secondary.length := length_recordArray _ _ _
  have hcleared : (setField (recordArray env.crc32 secondary pentries) HEADER_CRC_OFFSET 0).length =
      secondary.length := by
    rw [length_setField, hrecorded]
  have hheader_size : field secondary HEADER_SIZE_OFFSET 4 =
      field (recordArray env.crc32 secondary pentries) HEADER_SIZE_OFFSET 4 :=
    (sameLayout_recordArray env.crc32 secondary pentries).header_size.symm
  rw [crc32_eq env (Nat.le_of_eq hsize.symm), List.take_of_length_le (Nat.le_of_eq hsize)]
  simp only [header_stores hlength, mem_ok_bind]
  rw [← recordArray]
  simp only [header_stores (hlength.trans_eq hrecorded.symm), mem_ok_bind]
  rw [crc32_eq env (hheader.trans_eq hcleared.symm)]
  simp only [header_stores (hlength.trans_eq hcleared.symm), mem_ok_bind, setField_setField_same, hheader_size]
  rfl

/-- What the first part of `gpt2_set_boot_chain` does once it has read the device. -/
def gpt2_set_boot_chain.exchanged (env : Env) (disk : Disk) (boot : boot_chain) :
    Sys (Except Int chain_update) := do
  let (r, pentries) ← mem (gpt2_set_boot_chain.exchange env (disk.pentries .PRIMARY_GPT)
    (disk.pentriesSize .PRIMARY_GPT) (field (disk.header .PRIMARY_GPT) PENTRY_SIZE_OFFSET 4) boot)
  if r ≠ 0 then
    return .error r
  let crc ← mem (crc32 env pentries (disk.pentriesSize .PRIMARY_GPT))
  let secondary ← mem (PUT_4_BYTES (disk.header .SECONDARY_GPT) PARTITION_CRC_OFFSET crc)
  let secondary ← mem (PUT_4_BYTES secondary HEADER_CRC_OFFSET 0)
  let crc ← mem (crc32 env secondary (field (disk.header .SECONDARY_GPT) HEADER_SIZE_OFFSET 4))
  let secondary ← mem (PUT_4_BYTES secondary HEADER_CRC_OFFSET crc)
  return .ok { chainUpdate env.crc32 disk pentries with gpt_header := secondary }

/-- The first part of `gpt2_set_boot_chain` reads the primary header and array and the secondary
    header before it exchanges anything. -/
theorem modify_reaches (hio : env.FullOrFail) (hdisk : w.disks fd = some disk)
    (hprimary : disk.HoldsHeader .PRIMARY_GPT) (hsecondary : disk.HoldsHeader .SECONDARY_GPT)
    (hroom : disk.pentriesOffset .PRIMARY_GPT + disk.pentriesSize .PRIMARY_GPT ≤ disk.bytes.length)
    (hcrc : field (disk.header .PRIMARY_GPT) PARTITION_CRC_OFFSET 4 =
      (env.crc32 (disk.pentries .PRIMARY_GPT)).toNat) (boot : boot_chain) :
    env.steps.Reaches (gpt2_set_boot_chain.modify env fd boot) w (chainReads disk)
      (gpt2_set_boot_chain.exchanged env disk boot) (· = .error (-1)) := by
  have hlength1 := Disk.length_header hprimary
  have hlength2 := Disk.length_header hsecondary
  have hblk := hprimary.blk_size
  have hsize : pentries_size (field (disk.header .PRIMARY_GPT) PARTITION_COUNT_OFFSET 4)
      (field (disk.header .PRIMARY_GPT) PENTRY_SIZE_OFFSET 4) = disk.pentriesSize .PRIMARY_GPT :=
      rfl
  have hread : disk.read (disk.pentriesOffset .PRIMARY_GPT) (disk.pentriesSize .PRIMARY_GPT) =
      disk.pentries .PRIMARY_GPT := rfl
  have hpentries : (disk.pentries .PRIMARY_GPT).length = disk.pentriesSize .PRIMARY_GPT :=
    length_slice_of_le hroom
  rw [show chainReads disk = [.call] ++ ([.call] ++ ([.call] ++ ([.read _] ++ ([.call] ++ ([.read _] ++
    ([.read _] ++ [])))))) from rfl]
  refine (ioctl_BLKSSZGET_follows env hdisk).reaches ?_ fun w1 h1 => ?_
  · rintro a rfl
    exact ⟨.error (-1), rfl, rfl⟩
  refine (malloc_follows env w1 disk.blk_size).reaches ?_ fun w2 h2 => ?_
  · rintro a rfl
    exact ⟨.error (-1), rfl, rfl⟩
  have hdisk2 : w2.disks fd = some disk := disk_of_done h2 (disk_of_done h1 hdisk)
  refine (gpt_header_offset_follows hdisk2 hsecondary.room).reaches ?_ fun w3 h3 => ?_
  · rintro a rfl
    exact ⟨.error (-1), rfl, rfl⟩
  have hdisk3 : w3.disks fd = some disk := disk_of_done h3 hdisk2
  refine (blk_rw_header_follows hio hdisk3 hprimary (length_fresh _ _ _)).reaches ?_ fun w4 h4 => ?_
  · rintro ⟨r, buf⟩ hr
    exact ⟨.error r, if_pos (by simp_all), congrArg Except.error hr⟩
  have hdisk4 : w4.disks fd = some disk := disk_of_done h4 hdisk3
  simp only []
  rw [if_neg (by simp)]
  simp only [header_fields (hblk.trans_eq hlength1.symm), mem_ok_bind, hsize]
  refine (calloc_follows env w4 (disk.pentriesSize .PRIMARY_GPT)).reaches ?_ fun w5 h5 => ?_
  · rintro a rfl
    exact ⟨.error (-1), rfl, rfl⟩
  have hdisk5 : w5.disks fd = some disk := disk_of_done h5 hdisk4
  refine (blk_rw_read_follows hio hdisk5 hroom List.length_replicate).reaches ?_ fun w6 h6 => ?_
  · rintro ⟨r, buf⟩ hr
    exact ⟨.error r, if_pos (by simp_all), congrArg Except.error hr⟩
  have hdisk6 : w6.disks fd = some disk := disk_of_done h6 hdisk5
  simp only [hread]
  rw [if_neg (by simp), crc32_eq env (Nat.le_of_eq hpentries.symm), mem_ok_bind,
    List.take_of_length_le (Nat.le_of_eq hpentries), hcrc]
  rw [if_neg (not_not.mpr rfl)]
  refine (blk_rw_header_follows hio hdisk6 hsecondary hlength1).reaches ?_ fun w7 h7 => ?_
  · rintro ⟨r, buf⟩ hr
    exact ⟨.error r, if_pos (by simp_all), congrArg Except.error hr⟩
  simp only []
  rw [if_neg (by simp)]
  simp only [header_fields (hblk.trans_eq hlength2.symm), mem_ok_bind]
  exact .refl

/-- Once it has read the device, it seals the secondary header for what the exchange returns, or
    ends the function when the exchange asks it to stop. -/
theorem exchanged_eq (hsecondary : disk.HoldsHeader .SECONDARY_GPT) {r : Int}
    (hexchange : gpt2_set_boot_chain.exchange env (disk.pentries .PRIMARY_GPT) (disk.pentriesSize .PRIMARY_GPT)
      (field (disk.header .PRIMARY_GPT) PENTRY_SIZE_OFFSET 4) boot = .ok (r, pentries'))
    (hlength' : pentries'.length = disk.pentriesSize .PRIMARY_GPT) :
    gpt2_set_boot_chain.exchanged env disk boot =
      pure (if r = 0 then .ok (chainUpdate env.crc32 disk pentries') else .error r) := by
  have hlength := Disk.length_header hsecondary
  unfold gpt2_set_boot_chain.exchanged
  rw [hexchange, mem_ok_bind]
  by_cases hr : r = 0
  · rw [if_pos hr]
    simp only [hr, ne_eq, not_true_eq_false, if_false]
    exact chainHeader_run env (hsecondary.blk_size.trans_eq hlength.symm)
      (hsecondary.header_size.trans_eq hlength.symm) hlength' _
  · rw [if_neg hr]
    exact if_pos hr

/-- The first part of `gpt2_set_boot_chain` reads the primary array and the secondary
    header, and ends the function when the exchange asks it to stop. -/
theorem modify_follows (hio : env.FullOrFail) (hdisk : w.disks fd = some disk)
    (hready : disk.ReadyForChain env.crc32) {r : Int}
    (hexchange : gpt2_set_boot_chain.exchange env (disk.pentries .PRIMARY_GPT) (disk.pentriesSize .PRIMARY_GPT)
      (field (disk.header .PRIMARY_GPT) PENTRY_SIZE_OFFSET 4) boot = .ok (r, pentries'))
    (hlength' : pentries'.length = disk.pentriesSize .PRIMARY_GPT) :
    env.steps.Follows (gpt2_set_boot_chain.modify env fd boot) w (chainReads disk)
      (if r = 0 then .ok (chainUpdate env.crc32 disk pentries') else .error r) (· = .error (-1)) := by
  refine (modify_reaches hio hdisk hready.primary hready.secondary hready.room hready.crc_eq boot).follows ?_
  intro w'
  rw [exchanged_eq hready.secondary hexchange hlength']
  rfl

/-- The last part of `gpt2_set_boot_chain` writes the secondary header, then its array. -/
theorem write_back_follows (hio : env.FullOrFail) (hdisk : w.disks fd = some disk)
    (hready : disk.ReadyForChain env.crc32)
    (hlength' : pentries'.length = disk.pentriesSize .PRIMARY_GPT) :
    env.steps.Follows (gpt2_set_boot_chain.write_back env fd (chainUpdate env.crc32 disk pentries')) w
      (chainWrites env.crc32 fd disk pentries') 0 (· = -1) := by
  have hlength : (chainHeader env.crc32 (disk.header .SECONDARY_GPT) pentries').length = disk.blk_size := by
    rw [chainHeader, length_reseal, length_recordArray, Disk.length_header hready.secondary]
  refine Steps.Follows.congr ([.write fd _ _] ++ ([.write fd _ _] ++ [])) ?_ rfl
  refine (blk_rw_write_follows hio hdisk hready.secondary.room hlength).bind ?_ fun w1 h1 => ?_
  · rintro ⟨r, buf⟩ hr
    exact ⟨r, if_pos (by simp_all), hr⟩
  have hdisk1 := disk_of_done h1 hdisk
  simp only []
  rw [if_neg (by simp)]
  refine (blk_rw_write_follows hio hdisk1 ?_ hlength').bind ?_ fun w2 h2 => Steps.Follows.pure
  · rw [length_replay]
    exact hready.room_secondary
  · rintro ⟨r, buf⟩ hr
    exact ⟨r, rfl, hr⟩

/-- `gpt2_set_boot_chain` reads the primary array and the secondary header; unless the
    exchange asks it to stop, it writes the secondary header and array. -/
theorem gpt2_set_boot_chain_follows (hio : env.FullOrFail) (hdisk : w.disks fd = some disk)
    (hready : disk.ReadyForChain env.crc32) {r : Int}
    (hexchange : gpt2_set_boot_chain.exchange env (disk.pentries .PRIMARY_GPT) (disk.pentriesSize .PRIMARY_GPT)
      (field (disk.header .PRIMARY_GPT) PENTRY_SIZE_OFFSET 4) boot = .ok (r, pentries'))
    (hlength' : pentries'.length = disk.pentriesSize .PRIMARY_GPT) :
    env.steps.Follows (gpt2_set_boot_chain env fd boot) w
      (chainReads disk ++ if r = 0 then chainWrites env.crc32 fd disk pentries' else []) r (· = -1) := by
  refine (modify_follows hio hdisk hready hexchange hlength').bind ?_ fun w1 h1 => ?_
  · rintro a rfl
    exact ⟨-1, rfl, rfl⟩
  have hdisk1 : w1.disks fd = some disk := disk_of_done h1 hdisk
  by_cases hr : r = 0
  · rw [if_pos hr, if_pos hr, hr]
    exact write_back_follows hio hdisk1 hready hlength'
  · rw [if_neg hr, if_neg hr]
    exact Steps.Follows.pure

end gpt_utils
