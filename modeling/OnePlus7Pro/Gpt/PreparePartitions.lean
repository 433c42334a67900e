import OnePlus7Pro.Gpt.BootLun
import OnePlus7Pro.Gpt.Header

open regions effects

namespace gpt_utils

/-- The update stage that the states of the GPT headers tell. -/
def prepare_partitions.internal_stage (gpt_prim gpt_second : gpt_state) :
    Option boot_update_stage :=
  if gpt_prim = .GPT_OK ∧ gpt_second = .GPT_OK then some .UPDATE_MAIN
  else if gpt_prim = .GPT_BAD_SIGNATURE then some .UPDATE_BACKUP
  else if gpt_second = .GPT_BAD_SIGNATURE then some .UPDATE_FINALIZE
  else none

/-- Switch the boot LUN on a UFS target that has `xbl` and `xblbak`. -/
def prepare_partitions.switch_boot_lun (env : Env) (chain : boot_chain) : Sys Int := do
  if gpt_utils_is_ufs_device env then
    if !env.stat XBL_PRIMARY || !env.stat XBL_BACKUP then
      -- the target does not use xbl: not an error
      return 0
    gpt_utils_set_xbl_boot_partition env chain
  else
    return 0

def prepare_partitions.update_main (env : Env) (fd : String) : Sys Int := do
  let r ← prepare_partitions.switch_boot_lun env .BACKUP_BOOT
  if r ≠ 0 then
    return r
  -- point the secondary GPT to the backup copy of the boot critical images
  let r ← gpt2_set_boot_chain env fd .BACKUP_BOOT
  if r ≠ 0 then
    if r < 0 then
      return r
    -- no backup partitions: do not corrupt the GPT, do not flag an error
    return 0
  gpt_set_state env fd .PRIMARY_GPT .GPT_BAD_SIGNATURE

def prepare_partitions.update_backup (env : Env) (fd : String) : Sys Int := do
  let r ← prepare_partitions.switch_boot_lun env .NORMAL_BOOT
  if r ≠ 0 then
    return r
  let r ← gpt_set_state env fd .PRIMARY_GPT .GPT_OK
  if r ≠ 0 then
    return r
  gpt_set_state env fd .SECONDARY_GPT .GPT_BAD_SIGNATURE

def prepare_partitions.update_finalize (env : Env) (fd : String) : Sys Int := do
  let r ← gpt2_set_boot_chain env fd .NORMAL_BOOT
  if r < 0 then
    return r
  gpt_set_state env fd .SECONDARY_GPT .GPT_OK

/-- The switch of `prepare_partitions` over the stage. -/
def prepare_partitions.perform (env : Env) (fd : String) : boot_update_stage → Sys Int
  | .UPDATE_MAIN => prepare_partitions.update_main env fd
  | .UPDATE_BACKUP => prepare_partitions.update_backup env fd
  | .UPDATE_FINALIZE => prepare_partitions.update_finalize env fd

/-- Carry out a stage of a failsafe update on the device that holds a GPT: 0 on success. -/
def prepare_partitions (env : Env) (stage : boot_update_stage) (dev_path : String) : Sys Int := do
  let some fd ← open_device env dev_path | return -1
  -- `||` of the two results, which is 1 when one of them is not 0
  let (r, gpt_prim) ← gpt_get_state env fd .PRIMARY_GPT
  if r ≠ 0 then
    return 1
  let (r, gpt_second) ← gpt_get_state env fd .SECONDARY_GPT
  if r ≠ 0 then
    return 1
  if gpt_prim = .GPT_BAD_CRC ∨ gpt_second = .GPT_BAD_CRC then
    return -1
  if gpt_prim = .GPT_BAD_SIGNATURE ∧ gpt_second = .GPT_BAD_SIGNATURE then
    return -1
  let some internal_stage := prepare_partitions.internal_stage gpt_prim gpt_second | return -1
  -- stage already set
  if stage.toInt = internal_stage.toInt - 1 then
    return 0
  if stage ≠ internal_stage then
    return -1
  prepare_partitions.perform env fd stage

end gpt_utils
