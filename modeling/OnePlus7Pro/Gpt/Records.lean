import OnePlus7Pro.Gpt.PreparePartitions

open regions effects

namespace gpt_utils

/-- Between two states of the machine only events of one kind took effect. -/
def World.Records (kind : Event → Prop) (w w' : World) : Prop :=
  ∃ events, w.After events w' ∧ ∀ event ∈ events, kind event

/-- Wherever a program starts, and also if it faults, it has lasting effects of one kind alone. -/
def Records {A : Type} (kind : Event → Prop) (m : Sys A) : Prop := Leaves m (World.Records kind)

variable {kind : Event → Prop} {A B : Type} {w : World}

theorem World.Records.refl (w : World) : w.Records kind w := ⟨[], .refl w, by simp⟩

theorem World.Records.trans {w' w'' : World} (h : w.Records kind w') (h' : w'.Records kind w'') :
    w.Records kind w'' := by
  obtain ⟨events, hafter, hkind⟩ := h
  obtain ⟨events', hafter', hkind'⟩ := h'
  refine ⟨events ++ events', hafter.trans hafter', fun event hevent => ?_⟩
  exact (List.mem_append.mp hevent).elim (hkind event) (hkind' event)

theorem Records.pure {a : A} : Records kind (Pure.pure a : Sys A) := Leaves.pure World.Records.refl

theorem Records.bind {m : Sys A} {f : A → Sys B} (hm : Records kind m) (hf : ∀ a, Records kind (f a)) :
    Records kind (m >>= f) :=
  Leaves.bind (fun _ _ _ h h' => h.trans h') hm hf

theorem Records.ite {c : Prop} [Decidable c] {m m' : Sys A} (hm : Records kind m) (hm' : Records kind m') :
    Records kind (if c then m else m') :=
  Leaves.ite hm hm'

theorem records_of_after {m : Sys A} (h : ∀ w : World, w.After [] (endState (m w))) : Records kind m :=
  fun w => ⟨[], h w, by simp⟩

/-- An access to the memory has no lasting effect, and neither has what stops at one that fails. -/
theorem mem_records (access : Except Fault A) : Records kind (mem access) := by
  refine records_of_after fun w => ?_
  cases access <;> exact .refl w

section calls

variable (env : Env)

theorem attempt_records : Records kind (attempt env) := records_of_after fun w => .called w

theorem malloc_records (size : Nat) : Records kind (malloc env size) := records_of_after fun w => .called w

theorem ioctl_BLKSSZGET_records (fd : String) : Records kind (ioctl_BLKSSZGET env fd) :=
  records_of_after fun w => .called w

theorem lseek64_end_records (fd : String) : Records kind (lseek64_end env fd) :=
  records_of_after fun w => .called w

theorem lseek64_set_records (fd : String) (offset : Nat) : Records kind (lseek64_set fd offset) := by
  refine records_of_after fun w => ?_
  unfold lseek64_set
  cases w.disks fd <;> exact .refl w

theorem read_records (fd : String) (offset : Nat) (buf : Buffer) (len : Nat) :
    Records kind (read env fd offset buf len) := by
  refine records_of_after fun w => ?_
  unfold read
  by_cases hroom : buf.length < len
  · rw [if_pos hroom]
    exact .refl w
  rw [if_neg hroom]
  cases w.disks fd with
  | none => exact .transferred w len none
  | some disk =>
    simp only []
    split <;> exact .transferred w len _

theorem write_records (hkind : ∀ fd offset len data, kind (.write fd offset len data)) (fd : String)
    (offset : Nat) (buf : Buffer) (len : Nat) : Records kind (write env fd offset buf len) := by
  intro w
  unfold write
  by_cases hroom : buf.length < len
  · rw [if_pos hroom]
    exact .refl w
  rw [if_neg hroom]
  cases w.disks fd with
  | none => exact ⟨[], .transferred w len none, by simp⟩
  | some disk =>
    simp only []
    split
    · exact ⟨[], .transferred w len none, by simp⟩
    · exact ⟨[_], (World.After.transferred w len _).trans (.record _ _), by simp [hkind]⟩

theorem ioctl_UFS_IOCTL_QUERY_records (hkind : ∀ id, kind (.boot_lun id)) (fd : String) (id : Nat) :
    Records kind (ioctl_UFS_IOCTL_QUERY env fd id) := by
  intro w
  unfold ioctl_UFS_IOCTL_QUERY
  split
  · exact ⟨[_], (World.After.called w).trans (.record _ _), by simp [hkind]⟩
  · exact ⟨[], .called w, by simp⟩

/-- Reading from a device has no lasting effect. -/
theorem blk_rw_read_records (fd : String) (offset : Nat) (buf : Buffer) (len : Nat) :
    Records kind (blk_rw env fd false offset buf len) := by
  refine (lseek64_set_records fd offset).bind fun position => .ite .pure ?_
  exact (read_records env fd offset buf len).bind fun ⟨r, buf⟩ => .ite .pure .pure

theorem blk_rw_write_records (hkind : ∀ fd offset len data, kind (.write fd offset len data)) (fd : String)
    (offset : Nat) (buf : Buffer) (len : Nat) : Records kind (blk_rw env fd true offset buf len) := by
  refine (lseek64_set_records fd offset).bind fun position => .ite .pure ?_
  exact (write_records env hkind fd offset buf len).bind fun r => .ite .pure .pure

theorem gpt_header_offset_records (fd : String) (gpt : gpt_instance) (blk_size : Nat) :
    Records kind (gpt_header_offset env fd gpt blk_size) := by
  cases gpt with
  | PRIMARY_GPT => exact .pure
  | SECONDARY_GPT => exact (lseek64_end_records env fd).bind fun _ => .ite .pure .pure

theorem read_gpt_header_records (fd : String) (gpt : gpt_instance) :
    Records kind (read_gpt_header env fd gpt) := by
  refine (ioctl_BLKSSZGET_records env fd).bind fun blk_size => ?_
  cases blk_size with
  | none => exact .pure
  | some blk_size => ?_
  refine (malloc_records env blk_size).bind fun gpt_header => ?_
  cases gpt_header with
  | none => exact .pure
  | some gpt_header => ?_
  refine (gpt_header_offset_records env fd gpt blk_size).bind fun offset => ?_
  cases offset with
  | none => exact .pure
  | some offset =>
    exact (blk_rw_read_records env fd offset gpt_header blk_size).bind fun ⟨r, buf⟩ => .ite .pure .pure

/-- Finding the state of a header has no lasting effect. -/
theorem gpt_get_state_records (fd : String) (gpt : gpt_instance) :
    Records kind (gpt_get_state env fd gpt) := by
  refine (read_gpt_header_records env fd gpt).bind fun header => ?_
  cases header with
  | none => exact .pure
  | some header => ?_
  refine (mem_records _).bind fun signature => .ite ?_ ?_
  all_goals
    refine (mem_records _).bind fun gpt_header_size => (mem_records _).bind fun crc => ?_
    exact (mem_records _).bind fun gpt_header => (mem_records _).bind fun crc' => .ite .pure .pure

theorem gpt_set_state_records (hkind : ∀ fd offset len data, kind (.write fd offset len data)) (fd : String)
    (gpt : gpt_instance) (state : gpt_state) : Records kind (gpt_set_state env fd gpt state) := by
  refine (read_gpt_header_records env fd gpt).bind fun header => ?_
  cases header with
  | none => exact .pure
  | some header => ?_
  refine (mem_records _).bind fun marked => ?_
  cases marked with
  | none => exact .pure
  | some marked => ?_
  refine (mem_records _).bind fun gpt_header_size => (mem_records _).bind fun cleared => ?_
  refine (mem_records _).bind fun crc => (mem_records _).bind fun sealed => ?_
  exact (blk_rw_write_records env hkind fd _ sealed _).bind fun ⟨r, _⟩ => .ite .pure .pure

theorem set_boot_lun_records (hkind : ∀ id, kind (.boot_lun id)) (sg_dev : String) (id : Nat) :
    Records kind (set_boot_lun env sg_dev id) := by
  refine (attempt_records env).bind fun ok => .ite .pure ?_
  refine Records.bind ((attempt_records env).bind fun ok => .pure) fun fd => ?_
  cases fd with
  | none => exact .pure
  | some fd => exact (ioctl_UFS_IOCTL_QUERY_records env hkind fd id).bind fun ok => .ite .pure .pure

/-- Switching the boot LUN writes nothing to a device. -/
theorem switch_boot_lun_records (hkind : ∀ id, kind (.boot_lun id)) (chain : boot_chain) :
    Records kind (prepare_partitions.switch_boot_lun env chain) := by
  refine .ite (.ite .pure ?_) .pure
  unfold gpt_utils_set_xbl_boot_partition
  cases xbl_boot_dev env chain with
  | none => exact .pure
  | some boot_dev => ?_
  refine .ite .pure ?_
  cases get_scsi_node_from_bootdevice env boot_dev with
  | none => exact .pure
  | some sg_dev_node =>
    exact (set_boot_lun_records env hkind sg_dev_node _).bind fun r => .ite .pure .pure

end calls

end gpt_utils
