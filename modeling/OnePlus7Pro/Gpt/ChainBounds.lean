import OnePlus7Pro.Gpt.BootChainSpec
import OnePlus7Pro.Gpt.HeaderBounds
import OnePlus7Pro.Gpt.SlotBounds

open regions effects

namespace gpt_utils

variable {env : Env} {fd : String} {disk : Disk} {w : World}

/-- The exchange that `gpt2_set_boot_chain` makes stays within an array in which everything fits. -/
theorem exchange_fit (env : Env) (hdr : Buffer) (boot : boot_chain)
    (hsearch : SlotsFit (arraySize hdr) (field hdr PENTRY_SIZE_OFFSET 4))
    (hswaps : SwapsFit (field hdr PENTRY_SIZE_OFFSET 4)
      (slotCount (arraySize hdr) (field hdr PENTRY_SIZE_OFFSET 4)) (swapNames env) (disk.array hdr)) :
    ∃ r pentries', gpt2_set_boot_chain.exchange env (disk.array hdr) (arraySize hdr)
      (field hdr PENTRY_SIZE_OFFSET 4) boot = .ok (r, pentries') ∧ pentries'.length = arraySize hdr := by
  have hlength := disk.length_array hdr
  cases boot with
  | NORMAL_BOOT => exact ⟨0, _, rfl, hlength⟩
  | BACKUP_BOOT =>
    rw [← hlength] at hsearch hswaps ⊢
    exact (gpt_boot_chain_swap_fit env (array_empty disk hdr) hsearch).1 hswaps

/-- A failure leaves nothing to be written. -/
theorem failed_returns {Q : chain_update → Prop} (r : Int) (w : World) :
    Returns (pure (.error r) : Sys (Except Int chain_update)) w
      fun a _ => ∀ update, a = .ok update → Q update := by
  refine .pure ?_
  rintro update ⟨⟩

section fit

variable (hio : env.FullOrFail) (hdisk : w.disks fd = some disk)
    (hblk : 92 ≤ disk.blk_size)
    (hheader : ∀ hdr, disk.HeaderRead .SECONDARY_GPT hdr → field hdr HEADER_SIZE_OFFSET 4 ≤ disk.blk_size)
    (hexchange : ∀ hdr, disk.HeaderRead .PRIMARY_GPT hdr → disk.Readable hdr →
      (env.crc32 (disk.array hdr)).toNat = field hdr PARTITION_CRC_OFFSET 4 →
        SlotsFit (arraySize hdr) (field hdr PENTRY_SIZE_OFFSET 4) ∧
        SwapsFit (field hdr PENTRY_SIZE_OFFSET 4)
          (slotCount (arraySize hdr) (field hdr PENTRY_SIZE_OFFSET 4)) (swapNames env) (disk.array hdr))

include hio hdisk hblk hheader hexchange

/-- `gpt2_set_boot_chain` stays within its buffers up to its writes. -/
theorem modify_fit (boot : boot_chain) :
    Returns (gpt2_set_boot_chain.modify env fd boot) w fun a _ => ∀ update, a = .ok update →
      update.gpt_header.length = update.blk_size ∧ update.pentries.length = update.pentries_array_size := by
  refine (ioctl_BLKSSZGET_sees hdisk).returns hdisk ?_ ?_
  · rintro _ w1 rfl
    exact failed_returns _ _
  rintro _ w1 rfl _ hdisk1
  refine (malloc_sees env w1 disk.blk_size).returns hdisk1 ?_ ?_
  · rintro _ w2 rfl
    exact failed_returns _ _
  rintro _ w2 rfl _ hdisk2
  refine (gpt_header_offset_sees hdisk2 .SECONDARY_GPT).returns hdisk2 ?_ ?_
  · rintro _ w3 rfl
    exact failed_returns _ _
  rintro _ w3 rfl hroom hdisk3
  have hroom := hroom rfl
  refine (blk_rw_read_sees hio hdisk3 disk.blk_size (length_fresh env w1 disk.blk_size)).returns hdisk3 ?_ ?_
  · rintro ⟨r, buf⟩ w4 (rfl : r = -1)
    exact failed_returns _ _
  rintro _ w4 rfl _ hdisk4
  have hread : disk.HeaderRead .PRIMARY_GPT (disk.readOver disk.blk_size (fresh env w1 disk.blk_size)) :=
    ⟨hroom, _, length_fresh _ _ _, rfl⟩
  generalize disk.readOver disk.blk_size (fresh env w1 disk.blk_size) = primary at hread
  have hlength := hread.length
  simp only []
  rw [if_neg (by simp)]
  simp only [header_fields (hblk.trans_eq hlength.symm), mem_ok_bind]
  rw [← arraySize]
  refine (calloc_sees env w4 (arraySize primary)).returns hdisk4 ?_ ?_
  · rintro _ w5 rfl
    exact failed_returns _ _
  rintro _ w5 rfl _ hdisk5
  have hzero : (List.replicate (arraySize primary) (0 : UInt8)).length = arraySize primary := List.length_replicate
  refine (blk_rw_read_sees hio hdisk5 (disk.arrayOffset primary) hzero).returns hdisk5 ?_ ?_
  · rintro ⟨r, buf⟩ w6 (rfl : r = -1)
    exact failed_returns _ _
  rintro _ w6 rfl hreadable hdisk6
  rw [← Disk.array]
  have hsize := disk.length_array primary
  simp only []
  rw [if_neg (by simp), crc32_eq env (Nat.le_of_eq hsize.symm), mem_ok_bind,
    List.take_of_length_le (Nat.le_of_eq hsize)]
  by_cases hcrc : field primary PARTITION_CRC_OFFSET 4 = (env.crc32 (disk.array primary)).toNat
  case neg =>
    rw [if_pos hcrc]
    exact failed_returns _ _
  rw [if_neg (not_not.mpr hcrc)]
  refine (blk_rw_read_sees hio hdisk6 (disk.bytes.length - disk.blk_size) hlength).returns hdisk6 ?_ ?_
  · rintro ⟨r, buf⟩ w7 (rfl : r = -1)
    exact failed_returns _ _
  rintro _ w7 rfl _ _
  have hread' : disk.HeaderRead .SECONDARY_GPT (disk.readOver (disk.bytes.length - disk.blk_size) primary) :=
    ⟨hroom, _, hlength, rfl⟩
  generalize disk.readOver (disk.bytes.length - disk.blk_size) primary = secondary at hread'
  have hlength' := hread'.length
  have hheader_size := hheader secondary hread'
  obtain ⟨hsearch, hswaps⟩ := hexchange primary hread hreadable hcrc.symm
  obtain ⟨r, pentries', hexchanged, hpentries'⟩ := exchange_fit env primary boot hsearch hswaps
  simp only []
  rw [if_neg (by simp)]
  simp only [header_fields (hblk.trans_eq hlength'.symm), hexchanged, mem_ok_bind]
  by_cases hr : r = 0
  case neg =>
    rw [if_pos hr]
    exact failed_returns _ _
  rw [if_neg (not_not.mpr hr), chainHeader_run env (hblk.trans_eq hlength'.symm)
    (hheader_size.trans_eq hlength'.symm) hpentries']
  refine .pure ?_
  intro update hupdate
  cases hupdate
  exact ⟨by rw [chainHeader, length_reseal, length_recordArray, hlength'], hpentries'⟩

/-- `gpt2_set_boot_chain` stays within its buffers. -/
theorem gpt2_set_boot_chain_fit (boot : boot_chain) :
    Returns (gpt2_set_boot_chain env fd boot) w fun _ _ => True := by
  refine (modify_fit hio hdisk hblk hheader hexchange boot).bind fun a w' h => ?_
  cases a with
  | error r => exact .pure trivial
  | ok update =>
    obtain ⟨hlength, hlength'⟩ := h update rfl
    refine (blk_rw_write_returns _ hlength).bind fun a w'' _ => ?_
    obtain ⟨r, _⟩ := a
    simp only []
    by_cases hr : r = 0
    · rw [if_neg (not_not.mpr hr)]
      exact (blk_rw_write_returns _ hlength').bind fun _ _ _ => .pure trivial
    · rw [if_pos hr]
      exact .pure trivial

end fit

/-- Where all entries fit but not all that is exchanged does, `gpt2_set_boot_chain` leaves the array. -/
theorem gpt2_set_boot_chain_beyond {hdr : Buffer} (hworking : env.Working) (hdisk : w.disks fd = some disk)
    (hblk : 92 ≤ disk.blk_size) (hroom : disk.blk_size ≤ disk.bytes.length)
    (hhdr : disk.headerOver env .PRIMARY_GPT (w.calls + 1) = hdr) (hreadable : disk.Readable hdr)
    (hcrc : (env.crc32 (disk.array hdr)).toNat = field hdr PARTITION_CRC_OFFSET 4)
    (hsearch : SlotsFit (arraySize hdr) (field hdr PENTRY_SIZE_OFFSET 4))
    (hswaps : ¬ SwapsFit (field hdr PENTRY_SIZE_OFFSET 4)
      (slotCount (arraySize hdr) (field hdr PENTRY_SIZE_OFFSET 4)) (swapNames env) (disk.array hdr)) :
    Faults (gpt2_set_boot_chain env fd .BACKUP_BOOT) w := by
  have hio := hworking.fullOrFail
  have hlength : hdr.length = disk.blk_size := by
    rw [← hhdr]
    exact (headerRead_headerOver env _ _ hroom).length
  have hsize := disk.length_array hdr
  refine Faults.bind_left ?_
  obtain ⟨_, w1, hrun1, hdisk1, rfl, hcalls1⟩ := (ioctl_BLKSSZGET_sees hdisk).of_working hdisk hworking trivial
  refine Faults.bind hrun1 ?_
  obtain ⟨_, w2, hrun2, hdisk2, rfl, _⟩ := (malloc_sees env w1 disk.blk_size).of_working hdisk1 hworking trivial
  refine Faults.bind hrun2 ?_
  obtain ⟨_, w3, hrun3, hdisk3, rfl, _⟩ :=
    (gpt_header_offset_sees hdisk2 .SECONDARY_GPT).of_working hdisk2 hworking fun _ => hroom
  refine Faults.bind hrun3 ?_
  obtain ⟨_, w4, hrun4, hdisk4, rfl, _⟩ :=
    (blk_rw_read_sees hio hdisk3 disk.blk_size (length_fresh env w1 disk.blk_size)).of_working hdisk3 hworking hroom
  refine Faults.bind hrun4 ?_
  have hprimary : disk.readOver disk.blk_size (fresh env w1 disk.blk_size) = hdr := by
    rw [← hhdr, fresh, hcalls1]
    rfl
  simp only []
  rw [if_neg (by simp), hprimary]
  simp only [header_fields (hblk.trans_eq hlength.symm), mem_ok_bind]
  rw [← arraySize]
  obtain ⟨_, w5, hrun5, hdisk5, rfl, _⟩ := (calloc_sees env w4 (arraySize hdr)).of_working hdisk4 hworking trivial
  refine Faults.bind hrun5 ?_
  obtain ⟨_, w6, hrun6, hdisk6, rfl, _⟩ :=
    (blk_rw_read_sees hio hdisk5 (disk.arrayOffset hdr) List.length_replicate).of_working hdisk5 hworking hreadable
  refine Faults.bind hrun6 ?_
  rw [← Disk.array]
  simp only []
  rw [if_neg (by simp), crc32_eq env (Nat.le_of_eq hsize.symm), mem_ok_bind,
    List.take_of_length_le (Nat.le_of_eq hsize), if_neg (not_not.mpr hcrc.symm)]
  obtain ⟨_, w7, hrun7, _, rfl, _⟩ :=
    (blk_rw_read_sees hio hdisk6 (disk.bytes.length - disk.blk_size) hlength).of_working hdisk6 hworking (by omega)
  refine Faults.bind hrun7 ?_
  have hlength' := (disk.length_readOver (disk.bytes.length - disk.blk_size) hdr).trans hlength
  simp only []
  rw [if_neg (by simp)]
  simp only [header_fields (hblk.trans_eq hlength'.symm), mem_ok_bind]
  rw [← hsize] at hsearch hswaps ⊢
  rw [gpt2_set_boot_chain.exchange, (gpt_boot_chain_swap_fit env (array_empty disk hdr) hsearch).2 hswaps]
  exact ⟨w7, rfl⟩

end gpt_utils
