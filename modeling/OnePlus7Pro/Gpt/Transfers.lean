import OnePlus7Pro.Effects.Agree
import OnePlus7Pro.Gpt.PreparePartitions

open regions effects

namespace gpt_utils

/-- The same surroundings with other outcomes of `read` and `write`. -/
def Env.withTransfers (env : Env) (transfer : Nat → Transfer) : Env :=
  { env with transfer := transfer }

/-- Two programs do the same as long as they make no transfer whose outcome differs. -/
abbrev Env.Agrees (env : Env) (transfer : Nat → Transfer) {A : Type} (m m' : Sys A) : Prop :=
  Agree World.transfers (fun n => transfer n ≠ env.transfer n) m m'

variable (env : Env) (transfer : Nat → Transfer) {A B : Type}

theorem mem_agrees (access : Except Fault A) : env.Agrees transfer (mem access) (mem access) := by
  refine .still rfl fun w => ?_
  cases access <;> rfl

theorem attempt_agrees : env.Agrees transfer (attempt env) (attempt (env.withTransfers transfer)) :=
  .still rfl fun _ => rfl

theorem malloc_agrees (size : Nat) :
    env.Agrees transfer (malloc env size) (malloc (env.withTransfers transfer) size) :=
  .still rfl fun _ => rfl

theorem calloc_agrees (size : Nat) :
    env.Agrees transfer (calloc env size) (calloc (env.withTransfers transfer) size) :=
  .still rfl fun _ => rfl

theorem open_device_agrees (path : String) :
    env.Agrees transfer (open_device env path) (open_device (env.withTransfers transfer) path) :=
  .still rfl fun _ => rfl

theorem ioctl_BLKSSZGET_agrees (fd : String) :
    env.Agrees transfer (ioctl_BLKSSZGET env fd) (ioctl_BLKSSZGET (env.withTransfers transfer) fd) :=
  .still rfl fun _ => rfl

theorem lseek64_end_agrees (fd : String) :
    env.Agrees transfer (lseek64_end env fd) (lseek64_end (env.withTransfers transfer) fd) :=
  .still rfl fun _ => rfl

theorem lseek64_set_agrees (fd : String) (offset : Nat) :
    env.Agrees transfer (lseek64_set fd offset) (lseek64_set fd offset) := by
  refine .still rfl fun w => ?_
  unfold lseek64_set
  cases w.disks fd <;> rfl

theorem ioctl_UFS_IOCTL_QUERY_agrees (fd : String) (id : Nat) :
    env.Agrees transfer (ioctl_UFS_IOCTL_QUERY env fd id)
      (ioctl_UFS_IOCTL_QUERY (env.withTransfers transfer) fd id) := by
  refine .still rfl fun w => ?_
  unfold ioctl_UFS_IOCTL_QUERY
  split <;> rfl

/-- One transfer is made, and its outcome alone decides what differs. -/
private theorem agrees_of_transfer {m m' : Sys A} {w : World}
    (hclock : (endState (m w)).transfers = w.transfers + 1)
    (hsame : transfer w.transfers = env.transfer w.transfers → m' w = m w) :
    w.transfers ≤ (endState (m w)).transfers ∧ (m' w = m w ∨
      ∃ n, w.transfers ≤ n ∧ n < (endState (m w)).transfers ∧ transfer n ≠ env.transfer n) := by
  rw [hclock]
  refine ⟨Nat.le_succ _, ?_⟩
  by_cases h : transfer w.transfers = env.transfer w.transfers
  · exact .inl (hsame h)
  · exact .inr ⟨w.transfers, Nat.le_refl _, Nat.lt_succ_self _, h⟩

theorem read_agrees (fd : String) (offset : Nat) (buf : Buffer) (len : Nat) :
    env.Agrees transfer (read env fd offset buf len) (read (env.withTransfers transfer) fd offset buf len) := by
  intro w
  by_cases hroom : buf.length < len
  · simp only [read, if_pos hroom]
    exact ⟨Nat.le_refl _, .inl trivial⟩
  · refine agrees_of_transfer env transfer ?_ fun hsame => ?_
    · rw [read, if_neg hroom]
      cases w.disks fd with
      | none => rfl
      | some disk =>
        simp only []
        split <;> rfl
    · simp only [read, Env.withTransfers, hsame]

theorem write_agrees (fd : String) (offset : Nat) (buf : Buffer) (len : Nat) :
    env.Agrees transfer (write env fd offset buf len) (write (env.withTransfers transfer) fd offset buf len) := by
  intro w
  by_cases hroom : buf.length < len
  · simp only [write, if_pos hroom]
    exact ⟨Nat.le_refl _, .inl trivial⟩
  · refine agrees_of_transfer env transfer ?_ fun hsame => ?_
    · rw [write, if_neg hroom]
      cases w.disks fd with
      | none => rfl
      | some disk =>
        simp only []
        split <;> rfl
    · simp only [write, Env.withTransfers, hsame]

theorem blk_rw_agrees (fd : String) (rw : Bool) (offset : Nat) (buf : Buffer) (len : Nat) :
    env.Agrees transfer (blk_rw env fd rw offset buf len)
      (blk_rw (env.withTransfers transfer) fd rw offset buf len) := by
  refine (lseek64_set_agrees env transfer fd offset).bind fun position => .ite (.pure _) ?_
  refine .ite ?_ ?_
  · exact (write_agrees env transfer fd offset buf len).bind fun r => .ite (.pure _) (.pure _)
  · exact (read_agrees env transfer fd offset buf len).bind fun ⟨r, buf⟩ => .ite (.pure _) (.pure _)

theorem gpt_header_offset_agrees (fd : String) (gpt : gpt_instance) (blk_size : Nat) :
    env.Agrees transfer (gpt_header_offset env fd gpt blk_size)
      (gpt_header_offset (env.withTransfers transfer) fd gpt blk_size) := by
  cases gpt with
  | PRIMARY_GPT => exact .pure _
  | SECONDARY_GPT => exact (lseek64_end_agrees env transfer fd).bind fun _ => .ite (.pure _) (.pure _)

theorem read_gpt_header_agrees (fd : String) (gpt : gpt_instance) :
    env.Agrees transfer (read_gpt_header env fd gpt) (read_gpt_header (env.withTransfers transfer) fd gpt) := by
  refine (ioctl_BLKSSZGET_agrees env transfer fd).bind fun blk_size => ?_
  cases blk_size with
  | none => exact .pure _
  | some blk_size => ?_
  refine (malloc_agrees env transfer blk_size).bind fun gpt_header => ?_
  cases gpt_header with
  | none => exact .pure _
  | some gpt_header => ?_
  refine (gpt_header_offset_agrees env transfer fd gpt blk_size).bind fun offset => ?_
  cases offset with
  | none => exact .pure _
  | some offset =>
    refine (blk_rw_agrees env transfer fd false offset gpt_header blk_size).bind fun ⟨r, buf⟩ => ?_
    exact .ite (.pure _) (.pure _)

theorem gpt_get_state_agrees (fd : String) (gpt : gpt_instance) :
    env.Agrees transfer (gpt_get_state env fd gpt) (gpt_get_state (env.withTransfers transfer) fd gpt) := by
  refine (read_gpt_header_agrees env transfer fd gpt).bind fun header => ?_
  cases header with
  | none => exact .pure _
  | some header => ?_
  refine (mem_agrees env transfer _).bind fun signature => ?_
  refine .ite ?_ ?_
  all_goals
    refine (mem_agrees env transfer _).bind fun gpt_header_size => ?_
    refine (mem_agrees env transfer _).bind fun crc => ?_
    refine (mem_agrees env transfer _).bind fun gpt_header => ?_
    exact (mem_agrees env transfer _).bind fun crc' => .ite (.pure _) (.pure _)

theorem gpt_set_state_agrees (fd : String) (gpt : gpt_instance) (state : gpt_state) :
    env.Agrees transfer (gpt_set_state env fd gpt state) (gpt_set_state (env.withTransfers transfer) fd gpt state) := by
  refine (read_gpt_header_agrees env transfer fd gpt).bind fun header => ?_
  cases header with
  | none => exact .pure _
  | some header => ?_
  refine (mem_agrees env transfer _).bind fun marked => ?_
  cases marked with
  | none => exact .pure _
  | some marked => ?_
  refine (mem_agrees env transfer _).bind fun gpt_header_size => ?_
  refine (mem_agrees env transfer _).bind fun cleared => ?_
  refine (mem_agrees env transfer _).bind fun crc => ?_
  refine (mem_agrees env transfer _).bind fun sealed => ?_
  exact (blk_rw_agrees env transfer fd true _ sealed _).bind fun ⟨r, _⟩ => .ite (.pure _) (.pure _)

theorem modify_agrees (fd : String) (boot : boot_chain) :
    env.Agrees transfer (gpt2_set_boot_chain.modify env fd boot)
      (gpt2_set_boot_chain.modify (env.withTransfers transfer) fd boot) := by
  refine (ioctl_BLKSSZGET_agrees env transfer fd).bind fun blk_size => ?_
  cases blk_size with
  | none => exact .pure _
  | some blk_size => ?_
  refine (malloc_agrees env transfer blk_size).bind fun gpt_header => ?_
  cases gpt_header with
  | none => exact .pure _
  | some gpt_header => ?_
  refine (gpt_header_offset_agrees env transfer fd .SECONDARY_GPT blk_size).bind fun gpt2_header_offset => ?_
  cases gpt2_header_offset with
  | none => exact .pure _
  | some gpt2_header_offset => ?_
  refine (blk_rw_agrees env transfer fd false blk_size gpt_header blk_size).bind fun ⟨r, primary⟩ => ?_
  refine .ite (.pure _) ?_
  refine (mem_agrees env transfer _).bind fun pentries_start => ?_
  refine (mem_agrees env transfer _).bind fun pentry_size => ?_
  refine (mem_agrees env transfer _).bind fun partition_count => ?_
  refine (calloc_agrees env transfer _).bind fun pentries => ?_
  cases pentries with
  | none => exact .pure _
  | some pentries => ?_
  refine (blk_rw_agrees env transfer fd false _ pentries _).bind fun ⟨r, pentries⟩ => .ite (.pure _) ?_
  refine (mem_agrees env transfer _).bind fun crc => ?_
  refine (mem_agrees env transfer _).bind fun recorded => .ite (.pure _) ?_
  refine (blk_rw_agrees env transfer fd false _ primary _).bind fun ⟨r, secondary⟩ => .ite (.pure _) ?_
  refine (mem_agrees env transfer _).bind fun gpt_header_size => ?_
  refine (mem_agrees env transfer _).bind fun pentries_start => ?_
  refine (mem_agrees env transfer _).bind fun ⟨r, pentries⟩ => .ite (.pure _) ?_
  refine (mem_agrees env transfer _).bind fun crc => ?_
  refine (mem_agrees env transfer _).bind fun secondary => ?_
  refine (mem_agrees env transfer _).bind fun secondary => ?_
  refine (mem_agrees env transfer _).bind fun crc => ?_
  exact (mem_agrees env transfer _).bind fun secondary => .pure _

theorem write_back_agrees (fd : String) (update : chain_update) :
    env.Agrees transfer (gpt2_set_boot_chain.write_back env fd update)
      (gpt2_set_boot_chain.write_back (env.withTransfers transfer) fd update) := by
  refine (blk_rw_agrees env transfer fd true _ _ _).bind fun ⟨r, _⟩ => .ite (.pure _) ?_
  exact (blk_rw_agrees env transfer fd true _ _ _).bind fun ⟨r, _⟩ => .pure _

theorem gpt2_set_boot_chain_agrees (fd : String) (boot : boot_chain) :
    env.Agrees transfer (gpt2_set_boot_chain env fd boot)
      (gpt2_set_boot_chain (env.withTransfers transfer) fd boot) := by
  refine (modify_agrees env transfer fd boot).bind fun update => ?_
  cases update with
  | error r => exact .pure _
  | ok update => exact write_back_agrees env transfer fd update

theorem set_boot_lun_agrees (sg_dev : String) (id : Nat) :
    env.Agrees transfer (set_boot_lun env sg_dev id) (set_boot_lun (env.withTransfers transfer) sg_dev id) := by
  refine (attempt_agrees env transfer).bind fun ok => .ite (.pure _) ?_
  refine ((attempt_agrees env transfer).bind fun ok => .pure _).bind fun fd => ?_
  cases fd with
  | none => exact .pure _
  | some fd => exact (ioctl_UFS_IOCTL_QUERY_agrees env transfer fd id).bind fun ok => .ite (.pure _) (.pure _)

theorem gpt_utils_set_xbl_boot_partition_agrees (chain : boot_chain) :
    env.Agrees transfer (gpt_utils_set_xbl_boot_partition env chain)
      (gpt_utils_set_xbl_boot_partition (env.withTransfers transfer) chain) := by
  have hdev : xbl_boot_dev (env.withTransfers transfer) chain = xbl_boot_dev env chain := by
    cases chain <;> rfl
  unfold gpt_utils_set_xbl_boot_partition
  rw [hdev]
  cases xbl_boot_dev env chain with
  | none => exact .pure _
  | some boot_dev => ?_
  have hnode : get_scsi_node_from_bootdevice (env.withTransfers transfer) boot_dev =
      get_scsi_node_from_bootdevice env boot_dev := rfl
  simp only [hnode]
  refine .ite (.pure _) ?_
  cases get_scsi_node_from_bootdevice env boot_dev with
  | none => exact .pure _
  | some sg_dev_node =>
    exact (set_boot_lun_agrees env transfer sg_dev_node _).bind fun r => .ite (.pure _) (.pure _)

theorem switch_boot_lun_agrees (chain : boot_chain) :
    env.Agrees transfer (prepare_partitions.switch_boot_lun env chain)
      (prepare_partitions.switch_boot_lun (env.withTransfers transfer) chain) := by
  refine .ite (.ite (.pure _) ?_) (.pure _)
  exact gpt_utils_set_xbl_boot_partition_agrees env transfer chain

theorem perform_agrees (fd : String) (stage : boot_update_stage) :
    env.Agrees transfer (prepare_partitions.perform env fd stage)
      (prepare_partitions.perform (env.withTransfers transfer) fd stage) := by
  cases stage with
  | UPDATE_MAIN =>
    refine (switch_boot_lun_agrees env transfer .BACKUP_BOOT).bind fun r => .ite (.pure _) ?_
    refine (gpt2_set_boot_chain_agrees env transfer fd .BACKUP_BOOT).bind fun r => .ite (.ite (.pure _) (.pure _)) ?_
    exact gpt_set_state_agrees env transfer fd _ _
  | UPDATE_BACKUP =>
    refine (switch_boot_lun_agrees env transfer .NORMAL_BOOT).bind fun r => .ite (.pure _) ?_
    refine (gpt_set_state_agrees env transfer fd _ _).bind fun r => .ite (.pure _) ?_
    exact gpt_set_state_agrees env transfer fd _ _
  | UPDATE_FINALIZE =>
    refine (gpt2_set_boot_chain_agrees env transfer fd .NORMAL_BOOT).bind fun r => .ite (.pure _) ?_
    exact gpt_set_state_agrees env transfer fd _ _

/-- `prepare_partitions` depends on the outcomes of the transfers that it makes, and of no others. -/
theorem prepare_partitions_agrees (stage : boot_update_stage) (dev_path : String) :
    env.Agrees transfer (prepare_partitions env stage dev_path)
      (prepare_partitions (env.withTransfers transfer) stage dev_path) := by
  refine (open_device_agrees env transfer dev_path).bind fun fd => ?_
  cases fd with
  | none => exact .pure _
  | some fd => ?_
  refine (gpt_get_state_agrees env transfer fd .PRIMARY_GPT).bind fun ⟨r, gpt_prim⟩ => .ite (.pure _) ?_
  refine (gpt_get_state_agrees env transfer fd .SECONDARY_GPT).bind fun ⟨r, gpt_second⟩ => .ite (.pure _) ?_
  refine .ite (.pure _) (.ite (.pure _) ?_)
  cases prepare_partitions.internal_stage gpt_prim gpt_second with
  | none => exact .pure _
  | some internal_stage => exact .ite (.pure _) (.ite (.pure _) (perform_agrees env transfer fd stage))

end gpt_utils
