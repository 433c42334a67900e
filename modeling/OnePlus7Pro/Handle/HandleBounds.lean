import OnePlus7Pro.Gpt.ChainBounds
import OnePlus7Pro.Handle.EditCommit

open regions effects

namespace gpt_utils

/-- The handle holds two header blocks and two entry arrays, with the sizes that the first of the
    headers gives. -/
structure gpt_disk.Loaded (block block_bak arr arr_bak : Buffer) (handle : gpt_disk) : Prop where
  hdr : handle.hdr = some block
  hdr_bak : handle.hdr_bak = some block_bak
  pentry_arr : handle.pentry_arr = some arr
  pentry_arr_bak : handle.pentry_arr_bak = some arr_bak
  pentry_arr_size : handle.pentry_arr_size = arraySize block
  pentry_size : handle.pentry_size = field block PENTRY_SIZE_OFFSET 4
  is_initialized : handle.is_initialized = GPT_DISK_INIT_MAGIC

/-- A handle with other entry arrays. -/
def gpt_disk.withArrays (handle : gpt_disk) (arr arr_bak : Buffer) : gpt_disk :=
  { handle with pentry_arr := some arr, pentry_arr_bak := some arr_bak }

theorem gpt_disk.Loaded.withArrays {block block_bak arr arr_bak : Buffer} {handle : gpt_disk}
    (h : handle.Loaded block block_bak arr arr_bak) (arr' arr_bak' : Buffer) :
    (handle.withArrays arr' arr_bak').Loaded block block_bak arr' arr_bak' :=
  { h with pentry_arr := rfl, pentry_arr_bak := rfl }

/-- The handle holds two header blocks and the entry arrays that they name. -/
def Disk.Loads (disk : Disk) (block block_bak : Buffer) (handle : gpt_disk) : Prop :=
  handle.Loaded block block_bak (disk.array block) (disk.array block_bak)

theorem Disk.Fills.loads {disk : Disk} {crc : Buffer → UInt32} {path : String} {block block_bak : Buffer}
    {r : Int} {handle : gpt_disk} (h : disk.Fills crc path block block_bak (r, handle)) :
    disk.Loads block block_bak handle := by
  obtain ⟨block_size, h⟩ := h
  obtain ⟨rfl, rfl⟩ := Prod.mk.inj h
  exact ⟨rfl, rfl, rfl, rfl, rfl, rfl, rfl⟩

section handle

variable {env : Env} {handle : gpt_disk} {block block_bak arr arr_bak : Buffer}

/-- Where the entries fit, the search in a loaded handle stays within the array. -/
theorem gpt_disk_get_pentry_fit {name : Buffer} (hloaded : handle.Loaded block block_bak arr arr_bak)
    (hsearch : SlotsFit (arraySize block) (field block PENTRY_SIZE_OFFSET 4))
    (harr : arr.length = arraySize block) (harr_bak : arr_bak.length = arraySize block)
    (hname : name.length < 33) (gpt : gpt_instance) :
    ∃ entry, gpt_disk_get_pentry handle name gpt = .ok entry := by
  have hseek {ptn_arr : Buffer} (hsize : ptn_arr.length = arraySize block) :
      ∃ entry, gpt_pentry_seek name ptn_arr 0 (arraySize block) (field block PENTRY_SIZE_OFFSET 4) = .ok entry := by
    have hempty (hzero : field block PENTRY_SIZE_OFFSET 4 = 0) : ptn_arr = [] := by
      rw [← List.length_eq_zero_iff, hsize, arraySize, hzero]
      simp [pentries_size]
    rw [← hsize] at hsearch ⊢
    have hfound := @gpt_pentry_seek_fit name _ _ 0 (by omega) hempty hsearch (Nat.zero_le _)
    rw [Nat.zero_mul] at hfound
    exact ⟨_, hfound⟩
  unfold gpt_disk_get_pentry
  rw [if_neg (not_not.mpr hloaded.is_initialized), hloaded.pentry_arr_size, hloaded.pentry_size]
  cases gpt with
  | PRIMARY_GPT =>
    rw [gpt_disk.ptn_arr, hloaded.pentry_arr]
    exact hseek harr
  | SECONDARY_GPT =>
    rw [gpt_disk.ptn_arr, hloaded.pentry_arr_bak]
    exact hseek harr_bak

/-- The CRCs of a loaded handle are brought up to date within its header blocks and arrays. -/
theorem gpt_disk_update_crc_fit (hloaded : handle.Loaded block block_bak arr arr_bak)
    (hlength : 92 ≤ block.length) (hlength_bak : block_bak.length = block.length)
    (hheader : field block HEADER_SIZE_OFFSET 4 ≤ block.length)
    (harr : arr.length = arraySize block) (harr_bak : arr_bak.length = arraySize block) :
    ∃ handle', gpt_disk_update_crc env handle = .ok (0, handle') := by
  have hsize := hloaded.pentry_arr_size.symm
  obtain ⟨handle', hrun, _⟩ := gpt_disk_update_crc_eq env hloaded.is_initialized hloaded.hdr hloaded.hdr_bak
    hloaded.pentry_arr hloaded.pentry_arr_bak (harr.trans hsize) (harr_bak.trans hsize) hlength hlength_bak hheader
  exact ⟨handle', hrun⟩

/-- Where an entry does not fit, the search in a loaded handle for some name leaves the array. -/
theorem gpt_disk_get_pentry_beyond (hloaded : handle.Loaded block block_bak arr arr_bak)
    (harr : arr.length = arraySize block)
    (hsearch : ¬ SlotsFit (arraySize block) (field block PENTRY_SIZE_OFFSET 4)) :
    ∃ name : Buffer, name.length = 32 ∧ 0 ∉ name ∧
      gpt_disk_get_pentry handle name .PRIMARY_GPT = .error .out_of_bounds := by
  have hlt : arr.length < 2 ^ 32 := by
    rw [harr]
    exact Nat.mod_lt _ (by decide)
  rw [← harr] at hsearch
  obtain ⟨name, hname, hzero, hfault⟩ := gpt_pentry_seek_beyond hlt hsearch
  refine ⟨name, hname, hzero, ?_⟩
  unfold gpt_disk_get_pentry
  rw [if_neg (not_not.mpr hloaded.is_initialized), gpt_disk.ptn_arr, hloaded.pentry_arr, hloaded.pentry_arr_size,
    hloaded.pentry_size, ← harr]
  exact hfault

/-- Where the second array is smaller than the first header says, its CRC is taken over more than
    the array. -/
theorem gpt_disk_update_crc_beyond (hloaded : handle.Loaded block block_bak arr arr_bak)
    (harr : arr.length = arraySize block) (hsmaller : arr_bak.length < arraySize block) :
    gpt_disk_update_crc env handle = .error .out_of_bounds := by
  unfold gpt_disk_update_crc
  rw [if_neg (not_not.mpr hloaded.is_initialized), hloaded.pentry_arr, hloaded.pentry_arr_bak,
    hloaded.pentry_arr_size]
  simp only [deref, ok_bind]
  rw [crc32_eq env (by omega)]
  simp only [ok_bind]
  rw [crc32_beyond env (by omega)]
  rfl

end handle

end gpt_utils
