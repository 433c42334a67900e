import OnePlus7Pro.Gpt.Entries
import OnePlus7Pro.Gpt.Syscalls

open regions effects

namespace gpt_utils

def XBL_PRIMARY : String := "/dev/block/platform/soc/1d84000.ufshc/by-name/xbl"
def XBL_BACKUP : String := "/dev/block/platform/soc/1d84000.ufshc/by-name/xblbak"
def XBL_AB_PRIMARY : String := "/dev/block/platform/soc/1d84000.ufshc/by-name/xbl_a"
def XBL_AB_SECONDARY : String := "/dev/block/platform/soc/1d84000.ufshc/by-name/xbl_b"

abbrev PATH_TRUNCATE_LOC : Nat := 14
abbrev LUN_NAME_START_LOC : Nat := 11
abbrev BOOT_LUN_A_ID : Nat := 1
abbrev BOOT_LUN_B_ID : Nat := 2

/-- `path[count] = '\0'`. The characters of a path stand for its bytes. -/
def truncate (path : String) (count : Nat) : String := String.ofList (path.toList.take count)

/-- `strlen`. -/
def strlen (path : String) : Nat := path.toList.length

theorem truncate_of_le {path : String} {count : Nat} (h : strlen path ≤ count) :
    truncate path count = path := by
  rw [truncate, List.take_of_length_le h, String.ofList_toList]

/-- The scsi generic device of the LUN that a partition's symlink leads to, `none` for
    a result other than 0. -/
def get_scsi_node_from_bootdevice (env : Env) (bootdev_path : String) : Option String := do
  let real_path ← env.readlink bootdev_path
  if strlen real_path < PATH_TRUNCATE_LOC + 1 then
    none
  -- there may be additional partitions on the XBL lun
  let real_path := truncate real_path PATH_TRUNCATE_LOC
  if strlen real_path < LUN_NAME_START_LOC + 1 then
    none
  let name := String.ofList (real_path.toList.drop LUN_NAME_START_LOC)
  let scsi_dir ← env.readdir ("/sys/block/" ++ name ++ "/device/scsi_generic")
  let d_name ← scsi_dir.find? fun d_name => "sg".toList.isPrefixOf d_name.toList
  return "/dev/" ++ d_name

/-- `open` of a scsi generic device. -/
def open_sg_dev (env : Env) (sg_dev : String) : Sys (Option String) := do
  return if ← attempt env then some sg_dev else none

/-- The query that writes `boot_lun_id` to the boot LUN attribute: whether it succeeds. -/
def ioctl_UFS_IOCTL_QUERY (env : Env) (_fd : String) (boot_lun_id : Nat) : Sys Bool := fun w =>
  if env.call w.calls then .ok true (w.called.record (.boot_lun boot_lun_id)) else .ok false w.called

def set_boot_lun (env : Env) (sg_dev : String) (boot_lun_id : Nat) : Sys Int := do
  if !(← attempt env) then
    return -1
  let some fd ← open_sg_dev env sg_dev | return -1
  if !(← ioctl_UFS_IOCTL_QUERY env fd boot_lun_id) then
    return -1
  return 0

/-- The first of two paths that exists. -/
def first_existing (env : Env) (path path' : String) : Option String :=
  if env.stat path then some path else if env.stat path' then some path' else none

/-- The boot LUN that holds the `xbl` of a chain. -/
def boot_lun_id : boot_chain → Nat
  | .BACKUP_BOOT => BOOT_LUN_B_ID
  | .NORMAL_BOOT => BOOT_LUN_A_ID

/-- The symlink of the `xbl` of a chain, under either naming scheme. -/
def xbl_boot_dev (env : Env) : boot_chain → Option String
  | .BACKUP_BOOT => first_existing env XBL_BACKUP XBL_AB_SECONDARY
  | .NORMAL_BOOT => first_existing env XBL_PRIMARY XBL_AB_PRIMARY

/-- Switch between using either the primary or the backup boot LUN for boot. -/
def gpt_utils_set_xbl_boot_partition (env : Env) (chain : boot_chain) : Sys Int := do
  let some boot_dev := xbl_boot_dev env chain | return -1
  -- either both xbl and xblbak or both xbl_a and xbl_b have to exist at the same time
  if (!env.stat XBL_PRIMARY || !env.stat XBL_BACKUP) &&
      (!env.stat XBL_AB_PRIMARY || !env.stat XBL_AB_SECONDARY) then
    return -1
  let some sg_dev_node := get_scsi_node_from_bootdevice env boot_dev | return -1
  if (← set_boot_lun env sg_dev_node (boot_lun_id chain)) ≠ 0 then
    return -1
  return 0

/-- The target is a UFS one that boots through `xbl` and `xblbak`. -/
def Env.uses_xbl (env : Env) : Bool :=
  gpt_utils_is_ufs_device env && env.stat XBL_PRIMARY && env.stat XBL_BACKUP

/-- The symlink of the `xbl` of a chain leads to a LUN with a scsi generic device. -/
def Env.locates_xbl (env : Env) : boot_chain → Bool
  | .NORMAL_BOOT => (get_scsi_node_from_bootdevice env XBL_PRIMARY).isSome
  | .BACKUP_BOOT => (get_scsi_node_from_bootdevice env XBL_BACKUP).isSome

/-- The steps of setting the boot LUN attribute. -/
def lunScript (chain : boot_chain) : List Step := [.call, .call, .boot_lun (boot_lun_id chain)]

variable {env : Env} {w : World}

theorem open_sg_dev_follows (sg_dev : String) :
    env.steps.Follows (open_sg_dev env sg_dev) w [.call] (some sg_dev) (· = none) := by
  refine Steps.Follows.congr ([.call] ++ []) ?_ rfl
  refine (attempt_follows env w).bind ?_ fun w' _ => Steps.Follows.pure
  rintro a rfl
  exact ⟨none, rfl, rfl⟩

theorem ioctl_UFS_IOCTL_QUERY_follows (fd : String) (id : Nat) :
    env.steps.Follows (ioctl_UFS_IOCTL_QUERY env fd id) w [.boot_lun id] true (· = false) := by
  refine Steps.Follows.step false rfl (fun hgranted => if_pos hgranted) (fun hrefused => ?_)
  exact if_neg (ne_true_of_eq_false hrefused)

theorem set_boot_lun_follows (sg_dev : String) (id : Nat) :
    env.steps.Follows (set_boot_lun env sg_dev id) w [.call, .call, .boot_lun id] 0 (· = -1) := by
  refine Steps.Follows.congr ([.call] ++ ([.call] ++ ([.boot_lun id] ++ []))) ?_ rfl
  refine (attempt_follows env w).bind ?_ fun w1 h1 => ?_
  · rintro a rfl
    exact ⟨-1, rfl, rfl⟩
  refine (open_sg_dev_follows sg_dev).bind ?_ fun w2 h2 => ?_
  · rintro a rfl
    exact ⟨-1, rfl, rfl⟩
  refine (ioctl_UFS_IOCTL_QUERY_follows sg_dev id).bind ?_ fun w3 h3 => Steps.Follows.pure
  rintro a rfl
  exact ⟨-1, rfl, rfl⟩

theorem xbl_boot_dev_eq (huses : env.uses_xbl = true) (chain : boot_chain) :
    ∃ boot_dev, xbl_boot_dev env chain = some boot_dev ∧
      (get_scsi_node_from_bootdevice env boot_dev).isSome = env.locates_xbl chain := by
  simp only [Env.uses_xbl, Bool.and_eq_true] at huses
  cases chain with
  | NORMAL_BOOT => exact ⟨XBL_PRIMARY, if_pos huses.1.2, rfl⟩
  | BACKUP_BOOT => exact ⟨XBL_BACKUP, if_pos huses.2, rfl⟩

/-- On a target with `xbl` and `xblbak`, setting the boot partition sets the boot LUN
    of the chain, unless its scsi generic device is not found. -/
theorem gpt_utils_set_xbl_boot_partition_follows (huses : env.uses_xbl = true) (chain : boot_chain) :
    env.steps.Follows (gpt_utils_set_xbl_boot_partition env chain) w
      (if env.locates_xbl chain then lunScript chain else []) (if env.locates_xbl chain then 0 else -1)
      (· = -1) := by
  obtain ⟨boot_dev, hdev, hlocates⟩ := xbl_boot_dev_eq huses chain
  simp only [Env.uses_xbl, Bool.and_eq_true] at huses
  obtain ⟨⟨_, hprimary⟩, hbackup⟩ := huses
  unfold gpt_utils_set_xbl_boot_partition
  simp only [hdev, hprimary, hbackup, Bool.not_true, Bool.or_self, Bool.false_and,
    Bool.false_eq_true, if_false, ← hlocates]
  cases hnode : get_scsi_node_from_bootdevice env boot_dev with
  | none => exact Steps.Follows.pure
  | some node =>
    refine Steps.Follows.congr (lunScript chain ++ []) ?_ rfl
    refine (set_boot_lun_follows node _).bind ?_ fun w' _ => Steps.Follows.pure
    rintro a rfl
    exact ⟨-1, rfl, rfl⟩

end gpt_utils
