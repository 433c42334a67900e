import OnePlus7Pro.Gpt.PreparePartitions
import OnePlus7Pro.Handle.GptDisk
import Mathlib.Data.List.Nodup

open regions effects

namespace gpt_utils

abbrev MAX_LUNS : Nat := 26

/-- The LUNs that hold boot critical images: the valid entries of `lun_list`. -/
structure update_data where
  lun_list : List String
  num_valid_entries_le : lun_list.length ≤ MAX_LUNS

def update_data.num_valid_entries (dat : update_data) : Nat := dat.lun_list.length

def update_data.cleared : update_data := ⟨[], Nat.zero_le _⟩

/-- `strlcpy` into the first entry that is not valid. -/
def update_data.push (dat : update_data) (lun_path : String) : Except Fault update_data :=
  if h : dat.lun_list.length < MAX_LUNS then
    .ok ⟨dat.lun_list ++ [truncate lun_path (PATH_MAX - 1)], by rw [List.length_append]; exact h⟩
  else .error .out_of_bounds

/-- Add a LUN to the list unless it is there already. -/
def add_lun_to_update_list (env : Env) (lun_path : String) (dat : update_data) :
    Except Fault (Int × update_data) := do
  if !env.stat lun_path then
    return (-1, dat)
  -- the loop over the entries is not entered when the list is nearly full
  if dat.num_valid_entries < MAX_LUNS - 1 ∧ dat.lun_list.any fun lun => lun.toList.isPrefixOf lun_path.toList then
    return (0, dat)
  return (0, ← dat.push lun_path)

/-- A name as a string. -/
def characters (name : Buffer) : String := String.ofList (name.map fun c => Char.ofNat c.toNat)

/-- One turn of the loop of `prepare_boot_update` over the names of the partitions. -/
def prepare_boot_update.add_partition (env : Env) (data : update_data) (ptn_name : Buffer) :
    Except Fault update_data := do
  -- the boot LUN takes care of the partitions whose names start with `xbl`
  if PTN_XBL.isPrefixOf ptn_name then
    return data
  let buf := truncate (BOOT_DEV_DIR ++ "/" ++ characters ptn_name ++ "bak") (PATH_MAX - 1)
  if !env.stat buf then
    return data
  let some real_path := env.readlink buf | return data
  let real_path := truncate real_path (PATH_MAX - 1)
  if strlen real_path < PATH_TRUNCATE_LOC + 1 then
    return data
  let (_, data) ← add_lun_to_update_list env (truncate real_path PATH_TRUNCATE_LOC) data
  return data

/-- The LUNs over which the boot critical images of a UFS target are spread. -/
def prepare_boot_update.data (env : Env) : Except Fault update_data :=
  PTN_SWAP_LIST.foldlM (prepare_boot_update.add_partition env) update_data.cleared

/-- The LUNs of the list are distinct, and their paths have the length of `/dev/block/sda`. -/
structure update_data.Distinct (data : update_data) : Prop where
  nodup : data.lun_list.Nodup
  strlen_eq : ∀ lun ∈ data.lun_list, strlen lun = PATH_TRUNCATE_LOC

theorem strlen_truncate {path : String} {count : Nat} (h : count ≤ strlen path) :
    strlen (truncate path count) = count := by
  rw [strlen, truncate, String.toList_ofList, List.length_take]
  exact Nat.min_eq_left h

section lists

variable (env : Env) {data : update_data}

/-- Where there is room, a LUN is added to the list exactly once. -/
theorem add_lun_to_update_list_distinct (hdistinct : data.Distinct)
    (hroom : data.lun_list.length < MAX_LUNS - 1) {lun_path : String}
    (hlength : strlen lun_path = PATH_TRUNCATE_LOC) :
    ∃ r data', add_lun_to_update_list env lun_path data = .ok (r, data') ∧ data'.Distinct ∧
      data'.lun_list.length ≤ data.lun_list.length + 1 := by
  unfold add_lun_to_update_list
  split
  · exact ⟨-1, data, rfl, hdistinct, Nat.le_succ _⟩
  split
  · exact ⟨0, data, rfl, hdistinct, Nat.le_succ _⟩
  · next hfound =>
    have hnew : lun_path ∉ data.lun_list := by
      intro hmem
      refine hfound ⟨hroom, List.any_eq_true.mpr ⟨lun_path, hmem, ?_⟩⟩
      exact List.isPrefixOf_iff_prefix.mpr (List.prefix_refl _)
    have hsame : truncate lun_path (PATH_MAX - 1) = lun_path := truncate_of_le (hlength ▸ by decide)
    have hpush : data.lun_list.length < MAX_LUNS := Nat.lt_of_lt_of_le hroom (by decide)
    rw [update_data.push, dif_pos hpush]
    refine ⟨0, _, rfl, ⟨?_, ?_⟩, ?_⟩
    · simp only [hsame]
      exact List.nodup_append.mpr ⟨hdistinct.nodup, List.nodup_singleton _, by
        intro lun hlun lun' hlun' h
        rw [List.mem_singleton.mp hlun'] at h
        exact hnew (h ▸ hlun)⟩
    · intro lun hlun
      simp only [hsame] at hlun
      rcases List.mem_append.mp hlun with h | h
      · exact hdistinct.strlen_eq lun h
      · rw [List.mem_singleton.mp h, hlength]
    · simp only [List.length_append, List.length_singleton, Nat.le_refl]

theorem add_partition_distinct (hdistinct : data.Distinct)
    (hroom : data.lun_list.length < MAX_LUNS - 1) (ptn_name : Buffer) :
    ∃ data', prepare_boot_update.add_partition env data ptn_name = .ok data' ∧ data'.Distinct ∧
      data'.lun_list.length ≤ data.lun_list.length + 1 := by
  have hkept : ∃ data', (.ok data : Except Fault update_data) = .ok data' ∧ data'.Distinct ∧
      data'.lun_list.length ≤ data.lun_list.length + 1 := ⟨data, rfl, hdistinct, Nat.le_succ _⟩
  unfold prepare_boot_update.add_partition
  split
  · exact hkept
  simp only []
  split
  · exact hkept
  split
  · next real_path _ =>
    split
    · exact hkept
    · next hlength =>
      obtain ⟨r, data', hadd, hdistinct', hlength'⟩ :=
        add_lun_to_update_list_distinct env hdistinct hroom
        (strlen_truncate (Nat.le_of_succ_le (Nat.le_of_not_lt hlength)))
      exact ⟨data', by rw [hadd]; rfl, hdistinct', hlength'⟩
  · exact hkept

/-- The list never overflows, and it names each LUN once. -/
theorem data_distinct : ∃ data, prepare_boot_update.data env = .ok data ∧ data.Distinct := by
  have hfold (names : List Buffer) {data : update_data} (hdistinct : data.Distinct)
      (hroom : data.lun_list.length + names.length < MAX_LUNS) :
      ∃ data', names.foldlM (prepare_boot_update.add_partition env) data = .ok data' ∧
        data'.Distinct := by
    induction names generalizing data with
    | nil => exact ⟨data, rfl, hdistinct⟩
    | cons name names ih =>
      rw [List.length_cons] at hroom
      obtain ⟨data1, hadd, hdistinct1, hlength1⟩ := add_partition_distinct env hdistinct
        (show data.lun_list.length < MAX_LUNS - 1 by omega) name
      obtain ⟨data', hrest, hdistinct'⟩ := ih hdistinct1 (by omega)
      exact ⟨data', by rw [List.foldlM_cons, hadd]; exact hrest, hdistinct'⟩
  exact hfold PTN_SWAP_LIST ⟨List.nodup_nil, by simp [update_data.cleared]⟩ (by decide)

end lists

/-- One turn of the loop of `prepare_boot_update` over the LUNs, on `is_error`. -/
def prepare_boot_update.turn (env : Env) (stage : boot_update_stage) (is_error : Bool)
    (lun : String) : Sys Bool := do
  let rcode ← prepare_partitions env stage lun
  if rcode ≠ 0 then
    return true
  return is_error

/-- Carry out a stage of a failsafe update on all devices that hold boot critical images. -/
def prepare_boot_update (env : Env) (stage : boot_update_stage) : Sys Int := do
  if !gpt_utils_is_ufs_device env then
    prepare_partitions env stage BLK_DEV_FILE
  else
    let data ← mem (prepare_boot_update.data env)
    let is_error ← data.lun_list.foldlM (prepare_boot_update.turn env stage) false
    if is_error then
      return -1
    return 0

end gpt_utils
