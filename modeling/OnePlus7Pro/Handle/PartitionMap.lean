import OnePlus7Pro.Gpt.Format
import OnePlus7Pro.Handle.GptDisk
import OnePlus7Pro.Loops.KeyedVector
import Mathlib.Data.String.Basic

open loops

namespace gpt_utils

/-- The names of the partitions on each device, by the path of the device. -/
abbrev PartitionMap := KeyedVector String (List String)

/-- One turn of the loop of `gpt_utils_get_partition_map`, on `devpath` and the map. -/
def gpt_utils_get_partition_map.turn (env : Env) (state : String × PartitionMap) (ptn : String) :
    String × PartitionMap :=
  let (devpath, partition_map) := state
  match get_dev_path_from_partition_name env ptn devpath PATH_MAX with
  -- not necessarily an error: the partition may just not be present
  | none => state
  | some path =>
    match partition_map.valueFor path with
    | some _ => ("", partition_map.modify path (· ++ [ptn]))
    | none => ("", partition_map.add path [ptn])

/-- Go through the list and enter every partition under the path of the device that holds it. -/
def gpt_utils_get_partition_map (env : Env) (ptn_list : List String) (partition_map : PartitionMap) :
    Int × PartitionMap :=
  if ptn_list.length < 1 then (-1, partition_map)
  else (0, (ptn_list.foldl (gpt_utils_get_partition_map.turn env) ("", partition_map)).2)

/-- The path of a partition's link, which is cut at the size of the buffer for it. -/
def by_name (ptn : String) : String := truncate (BOOT_DEV_DIR ++ "/" ++ ptn) (PATH_MAX - 1)

/-- The device that a partition resolves to: on UFS the first 14 characters of the target of
    its link, if there is a link and it can be read. -/
def device_of (env : Env) (ptn : String) : Option String :=
  if gpt_utils_is_ufs_device env then
    if env.stat (by_name ptn) then (env.readlink (by_name ptn)).map (truncate · PATH_TRUNCATE_LOC)
    else none
  else some BLK_DEV_FILE

/-- On a cleared buffer the path is the one the partition resolves to: there is no old path
    that could show behind a short one. -/
theorem get_dev_path_from_partition_name_cleared (env : Env) (ptn : String) :
    get_dev_path_from_partition_name env ptn "" PATH_MAX = device_of env ptn := by
  unfold get_dev_path_from_partition_name device_of
  rw [if_neg (by decide)]
  change (if gpt_utils_is_ufs_device env = true then _ else _) = _
  cases gpt_utils_is_ufs_device env with
  | false =>
    simp only [Bool.false_eq_true, if_false]
    rw [truncate_of_le (by decide)]
    rfl
  | true =>
    simp only [if_true]
    rw [← by_name]
    cases env.stat (by_name ptn) with
    | false => rfl
    | true =>
      cases env.readlink (by_name ptn) with
      | none => rfl
      | some target =>
        change some (truncate (truncate target PATH_MAX ++ _) PATH_TRUNCATE_LOC) =
          some (truncate target PATH_TRUNCATE_LOC)
        simp only [truncate, String.toList_append, String.toList_ofList, String.toList_empty, List.drop_nil,
          List.append_nil, List.take_take]
        rfl

section grouping

variable (env : Env)

/-- A turn finds the buffer cleared and leaves it so: a path that was not found is not entered,
    and one that was is cleared. -/
theorem gpt_utils_get_partition_map.turn_cleared (ptn : String) (partition_map : PartitionMap) :
    (turn env ("", partition_map) ptn).1 = "" ∧
    ∀ d, (turn env ("", partition_map) ptn).2.valueFor d =
      if device_of env ptn = some d then some ((partition_map.valueFor d).getD [] ++ [ptn])
      else partition_map.valueFor d := by
  unfold turn
  simp only [get_dev_path_from_partition_name_cleared]
  cases device_of env ptn with
  | none => simp
  | some path =>
    cases hold : partition_map.valueFor path with
    | none =>
      simp only [hold]
      refine ⟨trivial, fun d => ?_⟩
      simp only [KeyedVector.valueFor_add, Option.some_inj]
      by_cases hd : d = path
      · simp [hd, hold]
      · simp [hd, Ne.symm hd]
    | some vec =>
      simp only [hold]
      refine ⟨trivial, fun d => ?_⟩
      simp only [KeyedVector.valueFor_modify, Option.some_inj]
      by_cases hd : d = path
      · simp [hd, hold]
      · simp [hd, Ne.symm hd]

/-- Every partition of the list that resolves is entered once, behind what is there already,
    under the device that it resolves to, in the order of the list; nothing else is entered. -/
theorem gpt_utils_get_partition_map_groups {ptn_list : List String} (hlist : ptn_list ≠ [])
    (partition_map : PartitionMap) :
    ∃ partition_map', gpt_utils_get_partition_map env ptn_list partition_map = (0, partition_map') ∧
      ∀ d, partition_map'.valueFor d =
        let names := ptn_list.filter fun ptn => device_of env ptn = some d
        if names = [] then partition_map.valueFor d
        else some ((partition_map.valueFor d).getD [] ++ names) := by
  have hfold (ptns : List String) (partition_map : PartitionMap) (d : String) :
      (ptns.foldl (gpt_utils_get_partition_map.turn env) ("", partition_map)).2.valueFor d =
        let names := ptns.filter fun ptn => device_of env ptn = some d
        if names = [] then partition_map.valueFor d
        else some ((partition_map.valueFor d).getD [] ++ names) := by
    induction ptns generalizing partition_map with
    | nil => rfl
    | cons ptn ptns ih =>
      obtain ⟨hcleared, hturn⟩ := gpt_utils_get_partition_map.turn_cleared env ptn partition_map
      have hstate : gpt_utils_get_partition_map.turn env ("", partition_map) ptn =
          ("", (gpt_utils_get_partition_map.turn env ("", partition_map) ptn).2) := Prod.ext hcleared rfl
      rw [List.foldl_cons, hstate, ih, hturn d]
      by_cases hd : device_of env ptn = some d
      · simp only [hd, if_true, List.filter_cons, decide_true]
        by_cases hnil : ptns.filter (fun ptn => decide (device_of env ptn = some d)) = []
        · simp [hnil]
        · simp [hnil]
      · simp [hd]
  refine ⟨_, if_neg ?_, hfold ptn_list partition_map⟩
  rw [Nat.lt_one_iff, List.length_eq_zero_iff]
  exact hlist

end grouping

/-- A map with an entry, and a list over two devices with a name that comes twice. -/
theorem gpt_utils_get_partition_map_ufs :
    ∃ partition_map', gpt_utils_get_partition_map ufs ["abl", "ablbak", "abl"]
        (KeyedVector.empty.add "/dev/block/sde" ["boot"]) = (0, partition_map') ∧
      ∀ d, partition_map'.valueFor d =
        let names := ["abl", "ablbak", "abl"].filter fun ptn => device_of ufs ptn = some d
        if names = [] then (KeyedVector.empty.add "/dev/block/sde" ["boot"]).valueFor d
        else some (((KeyedVector.empty.add "/dev/block/sde" ["boot"]).valueFor d).getD [] ++ names) :=
  gpt_utils_get_partition_map_groups ufs (by decide) _

end gpt_utils
