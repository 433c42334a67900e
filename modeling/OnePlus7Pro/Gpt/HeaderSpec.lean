import OnePlus7Pro.Gpt.Header
import OnePlus7Pro.Gpt.HeaderAlgebra
import OnePlus7Pro.Gpt.Syscalls

open regions effects

namespace gpt_utils

/-- The position of a header block on a device. -/
def Disk.headerOffset (disk : Disk) : gpt_instance → Nat
  | .PRIMARY_GPT => disk.blk_size
  | .SECONDARY_GPT => disk.bytes.length - disk.blk_size

def Disk.header (disk : Disk) (gpt : gpt_instance) : Buffer :=
  disk.read (disk.headerOffset gpt) disk.blk_size

/-- The block of a header lies on the device, and the header fits its block. -/
structure Disk.HoldsHeader (disk : Disk) (gpt : gpt_instance) : Prop where
  blk_size : 92 ≤ disk.blk_size
  room : disk.headerOffset gpt + disk.blk_size ≤ disk.bytes.length
  header_size : field (disk.header gpt) HEADER_SIZE_OFFSET 4 ≤ disk.blk_size

theorem Disk.length_header {disk : Disk} {gpt : gpt_instance} (h : disk.HoldsHeader gpt) :
    (disk.header gpt).length = disk.blk_size :=
  length_slice_of_le h.room

/-- The steps of finding the position of a header. -/
def offsetScript : gpt_instance → List Step
  | .PRIMARY_GPT => []
  | .SECONDARY_GPT => [.call]

/-- The steps of reading a header. -/
def readScript (disk : Disk) (gpt : gpt_instance) : List Step :=
  [.call, .call] ++ (offsetScript gpt ++ [.read disk.blk_size])

variable {env : Env} {w w' : World} {fd : String} {disk : Disk} {gpt : gpt_instance}

/-- The devices after a script that was carried out. -/
theorem disk_of_done {script : List Step} (hexec : env.steps.exec script w = (w', true))
    (hdisk : w.disks fd = some disk) :
    w'.disks fd = some (replay fd disk (script.flatMap Step.events)) := by
  have h := exec_after env script w
  rw [effect_of_done hexec, hexec] at h
  exact h.disk hdisk

theorem gpt_header_offset_follows (hdisk : w.disks fd = some disk)
    (hroom : disk.headerOffset gpt + disk.blk_size ≤ disk.bytes.length) :
    env.steps.Follows (gpt_header_offset env fd gpt disk.blk_size) w (offsetScript gpt)
      (some (disk.headerOffset gpt)) (· = none) := by
  cases gpt with
  | PRIMARY_GPT => exact Steps.Follows.pure
  | SECONDARY_GPT =>
    simp only [Disk.headerOffset] at hroom
    unfold gpt_header_offset
    refine Steps.Follows.congr ([.call] ++ []) ?_ rfl
    refine (lseek64_end_follows env hdisk).bind ?_ fun w' hexec => ?_
    · rintro a rfl
      exact ⟨none, if_pos (by omega), rfl⟩
    · have hoffset : ((disk.bytes.length : Int) - disk.blk_size).toNat = disk.bytes.length - disk.blk_size := by
        omega
      rw [if_neg (by omega), hoffset]
      exact Steps.Follows.pure

/-- Reading a header returns its block size, its position and its block. -/
theorem read_gpt_header_follows (hio : env.FullOrFail) (hdisk : w.disks fd = some disk)
    (hroom : disk.headerOffset gpt + disk.blk_size ≤ disk.bytes.length) :
    env.steps.Follows (read_gpt_header env fd gpt) w (readScript disk gpt)
      (some (disk.blk_size, disk.headerOffset gpt, disk.header gpt)) (· = none) := by
  refine Steps.Follows.congr ([.call] ++ ([.call] ++ (offsetScript gpt ++ ([.read disk.blk_size] ++ [])))) ?_ rfl
  refine (ioctl_BLKSSZGET_follows env hdisk).bind ?_ fun w1 h1 => ?_
  · rintro a rfl
    exact ⟨none, rfl, rfl⟩
  refine (malloc_follows env w1 disk.blk_size).bind ?_ fun w2 h2 => ?_
  · rintro a rfl
    exact ⟨none, rfl, rfl⟩
  have hdisk2 : w2.disks fd = some disk := disk_of_done h2 (disk_of_done h1 hdisk)
  refine (gpt_header_offset_follows hdisk2 hroom).bind ?_ fun w3 h3 => ?_
  · rintro a rfl
    exact ⟨none, rfl, rfl⟩
  have hdisk3 : w3.disks fd = some disk := by
    have h := disk_of_done h3 hdisk2
    cases gpt <;> exact h
  refine (blk_rw_read_follows hio hdisk3 hroom (length_fresh _ _ _)).bind ?_ fun w4 h4 => ?_
  · rintro ⟨r, buf⟩ hr
    exact ⟨none, if_pos (by simp_all), rfl⟩
  exact Steps.Follows.pure

@[simp] theorem readScript_events (disk : Disk) (gpt : gpt_instance) :
    (readScript disk gpt).flatMap Step.events = [] := by
  cases gpt <;> rfl

/-- `gpt_get_state` reports the state of the header block, without touching the device. -/
theorem gpt_get_state_follows (hio : env.FullOrFail) (hdisk : w.disks fd = some disk)
    (hheader : disk.HoldsHeader gpt) :
    env.steps.Follows (gpt_get_state env fd gpt) w (readScript disk gpt)
      (0, headerState env.crc32 (disk.header gpt)) (·.1 = -1) := by
  have hlength := Disk.length_header hheader
  have hblk := hheader.blk_size
  refine Steps.Follows.congr (readScript disk gpt ++ []) ?_ (List.append_nil _)
  refine (read_gpt_header_follows hio hdisk hheader.room).bind ?_ fun w' hexec => ?_
  · rintro a rfl
    exact ⟨(-1, .GPT_OK), rfl, rfl⟩
  have hcleared : (setField (disk.header gpt) HEADER_CRC_OFFSET 0).length = disk.blk_size := by
    rw [length_setField, hlength]
  simp only []
  rw [bytes_at_eq (by simp only [GPT_SIGNATURE, List.length_cons, List.length_nil]; omega)]
  simp only [header_fields (hblk.trans_eq hlength.symm), header_stores (hblk.trans_eq hlength.symm), mem_ok_bind]
  rw [crc32_eq env (by rw [hcleared]; exact hheader.header_size)]
  simp only [mem_ok_bind]
  unfold headerState headerCrc
  by_cases hsignature : slice (disk.header gpt) 0 GPT_SIGNATURE.length = GPT_SIGNATURE
  · rw [if_neg (not_not.mpr hsignature), if_pos hsignature]
    split <;> exact Steps.Follows.pure
  · rw [if_pos hsignature, if_neg hsignature]
    split <;> exact Steps.Follows.pure

/-- The marking of the signature stays within a header block. -/
theorem mark_eq {header : Buffer} {state : gpt_state} (hstate : state ≠ .GPT_BAD_CRC)
    (hlength : 92 ≤ header.length) :
    gpt_set_state.mark header state = .ok (some (mark state header)) := by
  cases state with
  | GPT_OK =>
    rw [gpt_set_state.mark, memcpy_eq (by simp only [GPT_SIGNATURE, List.length_cons, List.length_nil]; omega)]
    rfl
  | GPT_BAD_SIGNATURE =>
    rw [gpt_set_state.mark, store_eq _ (by omega)]
    rfl
  | GPT_BAD_CRC => exact absurd rfl hstate

/-- `gpt_set_state` writes the header block back with its signature marked and its
    CRC brought up to date. -/
theorem gpt_set_state_follows (hio : env.FullOrFail) (hdisk : w.disks fd = some disk)
    (hheader : disk.HoldsHeader gpt) {state : gpt_state} (hstate : state ≠ .GPT_BAD_CRC) :
    env.steps.Follows (gpt_set_state env fd gpt state) w
      (readScript disk gpt ++
        [.write fd (disk.headerOffset gpt) (reseal env.crc32 (mark state (disk.header gpt)))])
      0 (· = -1) := by
  have hlength := Disk.length_header hheader
  have hblk := hheader.blk_size
  refine Steps.Follows.congr (readScript disk gpt ++ ([.write fd _ _] ++ [])) ?_ rfl
  refine (read_gpt_header_follows hio hdisk hheader.room).bind ?_ fun w' hexec => ?_
  · rintro a rfl
    exact ⟨-1, rfl, rfl⟩
  simp only []
  rw [mark_eq hstate (by omega)]
  simp only [mem_ok_bind]
  rw [GET_4_BYTES_eq (by simp only [HEADER_SIZE_OFFSET, length_mark]; omega),
    PUT_4_BYTES_eq _ (by simp only [HEADER_CRC_OFFSET, length_mark]; omega)]
  simp only [mem_ok_bind]
  rw [crc32_eq env (by
    rw [length_setField, length_mark, hlength, (sameLayout_mark state _).header_size]
    exact hheader.header_size)]
  simp only [mem_ok_bind]
  rw [PUT_4_BYTES_eq _ (by simp only [HEADER_CRC_OFFSET, length_setField, length_mark]; omega),
    setField_setField_same]
  simp only [mem_ok_bind]
  have hdisk' : w'.disks fd = some disk := by
    rw [disk_of_done hexec hdisk, readScript_events, replay_nil]
  refine (blk_rw_write_follows hio hdisk' hheader.room ?_).bind ?_ fun w'' hexec' => ?_
  · rw [length_setField, length_mark, hlength]
  · rintro ⟨r, buf⟩ hr
    exact ⟨-1, if_pos (by simp_all), rfl⟩
  · exact Steps.Follows.pure

end gpt_utils
