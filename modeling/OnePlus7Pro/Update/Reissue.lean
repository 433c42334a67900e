import OnePlus7Pro.Effects.Sweep
import OnePlus7Pro.Update.BootUpdate
import OnePlus7Pro.Update.Resume

open regions effects twins

namespace gpt_utils

/-- An earlier call for the stage has returned 0 and left the device so: a call on the
    same target, whose reads and writes each went through in full or failed. -/
def Completed (env : Env) (stage : boot_update_stage) (device : Disk) : Prop :=
  ∃ (env' : Env) (before : Disk) (fd : String) (w w' : World), env'.mended = env.mended ∧
    env'.FullOrFail ∧ DueIn env stage before ∧ w.disks fd = some before ∧
    prepare_partitions env' stage fd w = .ok 0 w' ∧ w'.disks fd = some device

variable {env : Env} {w w' : World} {fd : String} {disk : Disk} {copies : Copies Buffer}

theorem mended_of_working (hworking : env.Working) : env.mended = env := by
  obtain ⟨htransfer, hcall⟩ := hworking
  rw [Env.mended, ← funext htransfer, ← funext hcall]

/-- The event concerns no device but the one behind `fd`. -/
def Event.Targets (fd : String) (event : Event) : Prop :=
  ∀ other, other ≠ fd → ∀ device, event.onDisk other device = device

theorem replay_of_targets {log : List Event} (hlog : ∀ event ∈ log, event.Targets fd)
    {other : String} (hother : other ≠ fd) (device : Disk) : replay other device log = device := by
  induction log with
  | nil => rfl
  | cons event log ih =>
    rw [replay_cons, hlog event List.mem_cons_self other hother]
    exact ih fun event' h => hlog event' (List.mem_cons_of_mem _ h)

theorem targets_lunEvents (env : Env) (fd : String) (stage : boot_update_stage) :
    ∀ event ∈ lunEvents env stage, event.Targets fd := by
  have hlun (chain : boot_chain) : ∀ event ∈ (lunSteps env chain).flatMap Step.events, event.Targets fd := by
    intro event hevent
    rw [lunSteps] at hevent
    split at hevent
    · rw [List.mem_singleton.mp hevent]
      exact fun other _ device => rfl
    · cases hevent
  cases stage with
  | UPDATE_MAIN => exact hlun _
  | UPDATE_BACKUP => exact hlun _
  | UPDATE_FINALIZE => exact fun event h => absurd h List.not_mem_nil

theorem targets_actEvents (crc : Buffer → UInt32) (fd : String) (disk : Disk)
    (copies : Copies Buffer) (acts : List (Act Buffer)) :
    ∀ event ∈ actEvents crc fd disk copies acts, event.Targets fd := by
  induction acts generalizing copies with
  | nil => exact fun event h => absurd h List.not_mem_nil
  | cons act acts ih =>
    intro event hevent
    rw [actEvents, actSteps, List.flatMap_cons, List.mem_append] at hevent
    rcases hevent with h | h
    · obtain ⟨offset, data, hstep⟩ :
          ∃ offset data, actStep crc fd disk (copies.apply act) act = .write fd offset data := by
        cases act <;> exact ⟨_, _, rfl⟩
      rw [hstep, Step.events, List.mem_singleton] at h
      subst h
      exact fun other hother device => if_neg hother.symm
    · exact ih (copies.apply act) event h

/-- A call for one device takes effect on no other one. -/
theorem prepare_partitions_targets (hio : env.FullOrFail) (hvalid : disk.Valid env.crc32)
    (hfits : disk.Fits copies.stored) (hdisk : w.disks fd = some (disk.holding env.crc32 copies))
    (stage : boot_update_stage) :
    Returns (prepare_partitions env stage fd) w fun _ w' => ∃ events, w.After events w' ∧
      ∀ event ∈ events, event.Targets fd := by
  refine (prepare_partitions_follows hio hvalid hfits hdisk stage).state.mono fun _ w' hexec => ?_
  have hafter := exec_after env (stageScript env fd disk copies stage) w
  rw [← hexec] at hafter
  refine ⟨_, hafter, fun event hevent => ?_⟩
  obtain ⟨luns, hluns, hevents⟩ := stageScript_events env fd disk copies stage
  have hmem := (effect_isPrefix env _ w).subset hevent
  rw [hevents, List.mem_append] at hmem
  rcases hmem with h | h
  · exact targets_lunEvents env fd stage event (hluns.subset h)
  · exact targets_actEvents _ _ _ _ _ event h

/-- A call for one device leaves the other ones alone. -/
theorem prepare_partitions_frame (hio : env.FullOrFail) (hvalid : disk.Valid env.crc32)
    (hfits : disk.Fits copies.stored) (hdisk : w.disks fd = some (disk.holding env.crc32 copies))
    (stage : boot_update_stage) :
    Returns (prepare_partitions env stage fd) w fun _ w' => ∀ other, other ≠ fd →
    w'.disks other = w.disks other := by
  refine (prepare_partitions_targets hio hvalid hfits hdisk stage).mono fun _ w' h other hother => ?_
  obtain ⟨events, hafter, htargets⟩ := h
  rw [hafter.disks]
  cases w.disks other with
  | none => rfl
  | some device => exact congrArg some (replay_of_targets htargets hother device)

/-- A successful call for a stage that is due has performed the acts of the stage. -/
theorem disk_of_success (hio : env.FullOrFail) (hlun : env.LunSwitches)
    (hvalid : disk.Valid env.crc32) (hfits : disk.Fits copies.stored) {stage : Stage}
    (hdue : copies.due = some stage) (hdisk : w.disks fd = some (disk.holding env.crc32 copies))
    (hrun : prepare_partitions env (updateStage stage) fd w = .ok 0 w') :
    w'.disks fd = some
      (disk.holding env.crc32 ((performActs env disk (updateStage stage)).foldl Copies.apply copies)) := by
  rcases (prepare_partitions_follows hio hvalid hfits hdisk (updateStage stage)).of_run hrun with
    ⟨hexec, _⟩ | ⟨_, hfailed⟩
  · obtain ⟨w'', hrun', hdisk'⟩ :=
      prepare_partitions_done hio hvalid hfits hdisk (updateStage stage) (by rw [hexec])
    injection hrun.symm.trans hrun' with _ hsame
    rw [hsame, hdisk', dueActs, hdue, if_pos ⟨rfl, hlun.stage _⟩]
  · exact absurd rfl hfailed

/-- Where a stage was completed, calling for it again performs nothing; the call returns 0
    unless the stage is the last one. -/
theorem Completed.holding (hlun : env.LunSwitches) {stage : boot_update_stage} {device : Disk}
    (h : Completed env stage device) :
    ∃ (disk : Disk) (copies : Copies Buffer), disk.Valid env.crc32 ∧
      disk.Fits copies.stored ∧ device = disk.holding env.crc32 copies ∧
      dueActs env disk copies stage = [] ∧
      stageValue env copies stage = if stage = .UPDATE_FINALIZE then -1 else 0 := by
  obtain ⟨env', before, fd, w, w', hsame, hio, hdue, hdisk, hrun, hdisk'⟩ := h
  obtain ⟨disk, due, rfl, hwf, hpairs, rfl⟩ := hdue.holding hlun
  have hcrc : env.mended.crc32 = env'.mended.crc32 := by rw [hsame]
  have hlun' : env'.mended.LunSwitches := hsame ▸ lunSwitches_mended hlun
  have hacts : performActs env'.mended disk (updateStage due) = performActs env.mended disk (updateStage due) := by
    rw [hsame]
  change env.crc32 = env'.crc32 at hcrc
  change performActs env' disk (updateStage due) = performActs env disk (updateStage due) at hacts
  have hvalid := hwf.toValid
  have hfits := @fits_startCopies env _ hvalid due
  have hafter :=
    @disk_of_success env' w w' fd disk _ hio hlun' (hcrc ▸ hvalid) hfits due (startCopies_due env disk due)
    (hcrc ▸ hdisk) hrun
  rw [hdisk', ← hcrc, hacts, performActs_eq] at hafter
  have hdevice := Option.some.inj hafter
  split at hdevice
  · next hnone =>
    obtain ⟨rfl, hnone⟩ := hnone
    refine ⟨disk, _, hvalid, hfits, hdevice, ?_, ?_⟩
    · rw [dueActs, performActs_eq env disk .divert,
        if_pos (⟨rfl, hnone⟩ : Stage.divert = .divert ∧ _), ite_self]
    · exact stageValue_due (startCopies_due env disk .divert) (hlun.stage _)
  · rw [show (due.acts _ _).foldl Copies.apply (disk.startCopies env due) = disk.finishCopies env due from
      foldl_start _ _ due] at hdevice
    refine ⟨disk, _, hvalid, ?_, hdevice, ?_, ?_⟩
    · cases due with
      | divert => exact @fits_startCopies env _ hvalid .restore
      | restore => exact @fits_startCopies env _ hvalid .settle
      | settle => exact @fits_startCopies env _ hvalid .divert
    · cases due with
      | divert => rfl
      | restore => rfl
      | settle => rfl
    · cases due with
      | divert => rfl
      | restore => rfl
      | settle => rfl

/-- A stage that is due on a device is completed there, and nowhere else. -/
theorem issue_due (hworking : env.Working) (hlun : env.LunSwitches) {stage : boot_update_stage}
    {device : Disk} (hdue : DueIn env stage device) (hdisk : w.disks fd = some device) :
    Returns (prepare_partitions env stage fd) w fun r w' => r = 0 ∧
      (∃ after, w'.disks fd = some after ∧ Completes env stage device after) ∧
      ∀ other, other ≠ fd → w'.disks other = w.disks other := by
  obtain ⟨disk, due, rfl, hwf, hpairs, rfl⟩ := hdue.holding hlun
  have hvalid := hwf.toValid
  have hfits := @fits_startCopies env _ hvalid due
  obtain ⟨w', hrun, hdisk'⟩ :=
    prepare_partitions_due hworking hlun hvalid hfits (startCopies_due env disk due) hdisk
  have hframe :=
    Returns.of_run (prepare_partitions_frame hworking.fullOrFail hvalid hfits hdisk _) hrun
  refine ⟨0, w', hrun, rfl, ⟨_, hdisk', fd, w, w', hdisk, ?_, hdisk'⟩, hframe⟩
  rw [mended_of_working hworking]
  exact hrun

/-- A stage that has been completed on a device leaves it as it is, and fails if it is the last stage. -/
theorem reissue_completed (hworking : env.Working) (hlun : env.LunSwitches)
    {stage : boot_update_stage} {device : Disk} (hcompleted : Completed env stage device)
    (hdisk : w.disks fd = some device) :
    Returns (prepare_partitions env stage fd) w fun r w' => r = (if stage = .UPDATE_FINALIZE then -1 else 0) ∧
      w'.disks fd = some device ∧ ∀ other, other ≠ fd → w'.disks other = w.disks other := by
  obtain ⟨disk, copies, hvalid, hfits, rfl, hacts, hvalue⟩ := hcompleted.holding hlun
  obtain ⟨w', hrun, hdisk'⟩ :=
    prepare_partitions_done hworking.fullOrFail hvalid hfits hdisk stage (hworking.exec _ _)
  have hframe :=
    Returns.of_run (prepare_partitions_frame hworking.fullOrFail hvalid hfits hdisk stage) hrun
  rw [hacts] at hdisk'
  exact ⟨_, w', hrun, hvalue, hdisk', hframe⟩

/-- What is asked of a device by a call for a stage that is due on it or was completed before. -/
def Settled (env : Env) (stage : boot_update_stage) (before after : Disk) : Prop :=
  (Completed env stage before → after = before) ∧
  (DueIn env stage before → Completes env stage before after)

/-- One turn of the loop over the LUNs. -/
theorem turn_settles (hworking : env.Working) (hlun : env.LunSwitches) (stage : boot_update_stage) :
    TurnsKeys World.disks (prepare_boot_update.turn env stage)
      (fun device => DueIn env stage device ∨ Completed env stage device)
      (fun device => stage = .UPDATE_FINALIZE ∧ Completed env stage device) (Settled env stage) := by
  intro is_error lun w device hdisk hcase
  have hrun : Returns (prepare_partitions env stage lun) w fun r w' =>
      (r ≠ 0 ↔ stage = .UPDATE_FINALIZE ∧ Completed env stage device) ∧
      (∃ after, w'.disks lun = some after ∧ Settled env stage device after) ∧
      ∀ other, other ≠ lun → w'.disks other = w.disks other := by
    by_cases hcompleted : Completed env stage device
    · obtain ⟨r, w', hrun, hr, hdisk', hframe⟩ := reissue_completed hworking hlun hcompleted hdisk
      refine ⟨r, w', hrun, ?_, ⟨device, hdisk', fun _ => rfl, fun hdue => ?_⟩, hframe⟩
      · rw [hr]
        split
        · next hlast => exact iff_of_true (by decide) ⟨hlast, hcompleted⟩
        · next hearly => exact iff_of_false (by simp) fun h => hearly h.1
      · obtain ⟨_, ⟨after, hdisk'', hcompletes⟩, _⟩ :=
          Returns.of_run (issue_due hworking hlun hdue hdisk) hrun
        rw [hdisk'] at hdisk''
        rwa [← Option.some.inj hdisk''] at hcompletes
    · have hdue := hcase.resolve_right hcompleted
      refine (issue_due hworking hlun hdue hdisk).mono fun r w' h => ?_
      obtain ⟨hr, ⟨after, hdisk', hcompletes⟩, hframe⟩ := h
      refine ⟨iff_of_false (not_not.mpr hr) fun h => hcompleted h.2,
        ⟨after, hdisk', ?_, fun _ => hcompletes⟩, hframe⟩
      exact fun h => absurd h hcompleted
  unfold prepare_boot_update.turn
  refine hrun.bind fun r w' h => ?_
  obtain ⟨hr, hdevice, hframe⟩ := h
  by_cases hfailed : r ≠ 0
  · rw [if_pos hfailed]
    exact .pure ⟨iff_of_true rfl (.inr (hr.mp hfailed)), hdevice, hframe⟩
  · rw [if_neg hfailed]
    refine .pure ⟨?_, hdevice, hframe⟩
    rw [or_iff_left fun h => hfailed (hr.mpr h)]

/-- `prepare_boot_update` makes one turn for each LUN of its list. -/
theorem prepare_boot_update_settles (hworking : env.Working) (hlun : env.LunSwitches)
    (hufs : gpt_utils_is_ufs_device env = true) {stage : boot_update_stage} {data : update_data}
    (hdata : prepare_boot_update.data env = .ok data)
    (hdisks : ∀ lun ∈ data.lun_list, ∃ disk, w.disks lun = some disk ∧
      (DueIn env stage disk ∨ Completed env stage disk)) :
    Returns (prepare_boot_update env stage) w fun r w' =>
      (r = 0 ↔ ¬ (stage = .UPDATE_FINALIZE ∧ ∃ lun ∈ data.lun_list, ∃ disk, w.disks lun = some disk ∧
        Completed env stage disk)) ∧
      ∀ lun ∈ data.lun_list, ∀ disk, w.disks lun = some disk →
        ∃ disk', w'.disks lun = some disk' ∧ Settled env stage disk disk' := by
  obtain ⟨data', hdata', hdistinct⟩ := data_distinct env
  rw [hdata] at hdata'
  cases hdata'
  unfold prepare_boot_update
  rw [hufs, hdata]
  simp only [Bool.not_true, Bool.false_eq_true, if_false, mem_ok_bind]
  refine ((turn_settles hworking hlun stage).foldlM hdistinct.nodup false hdisks).bind fun is_error w' h => ?_
  obtain ⟨hflag, hluns, _⟩ := h
  have hbad : is_error = true ↔ stage = .UPDATE_FINALIZE ∧
      ∃ lun ∈ data.lun_list, ∃ disk, w.disks lun = some disk ∧ Completed env stage disk := by
    rw [hflag]
    constructor
    · rintro (h | ⟨lun, hmem, disk, hdisk, hlast, hcompleted⟩)
      · cases h
      · exact ⟨hlast, lun, hmem, disk, hdisk, hcompleted⟩
    · rintro ⟨hlast, lun, hmem, disk, hdisk, hcompleted⟩
      exact .inr ⟨lun, hmem, disk, hdisk, hlast, hcompleted⟩
  rw [← hbad]
  cases is_error with
  | true => exact .pure ⟨iff_of_false (by decide) (by simp), hluns⟩
  | false => exact .pure ⟨iff_of_true rfl (by simp), hluns⟩

/-- Where nothing fails, `prepare_boot_update` on LUNs on which the stage is due or was
    completed before returns 0, leaves the completed ones as they are and completes the
    stage on the others, exactly when the stage is not `UPDATE_FINALIZE` with one of the
    LUNs completed. -/
theorem reissue_converges_iff (hworking : env.Working) (hlun : env.LunSwitches)
    (hufs : gpt_utils_is_ufs_device env = true) {stage : boot_update_stage} {data : update_data}
    (hdata : prepare_boot_update.data env = .ok data)
    (hdisks : ∀ lun ∈ data.lun_list, ∃ disk, w.disks lun = some disk ∧
      (DueIn env stage disk ∨ Completed env stage disk)) :
    (∃ w', prepare_boot_update env stage w = .ok 0 w' ∧ ∀ lun ∈ data.lun_list, ∀ disk, w.disks lun = some disk →
      (Completed env stage disk → w'.disks lun = some disk) ∧
      (DueIn env stage disk → ∃ disk', w'.disks lun = some disk' ∧ Completes env stage disk disk')) ↔
    ¬ (stage = .UPDATE_FINALIZE ∧ ∃ lun ∈ data.lun_list, ∃ disk, w.disks lun = some disk ∧
      Completed env stage disk) := by
  obtain ⟨r, w', hrun, hr, hluns⟩ := prepare_boot_update_settles hworking hlun hufs hdata hdisks
  rw [← hr]
  constructor
  · rintro ⟨w'', hrun', _⟩
    injection hrun.symm.trans hrun'
  · rintro rfl
    refine ⟨w', hrun, fun lun hmem disk hdisk => ?_⟩
    obtain ⟨disk', hdisk', hkept, hcompletes⟩ := hluns lun hmem disk hdisk
    exact ⟨fun h => hkept h ▸ hdisk', fun h => ⟨disk', hdisk', hcompletes h⟩⟩

/-- The boot critical images of `ufs` are spread over two LUNs. -/
theorem ufs_luns : ∃ data, prepare_boot_update.data ufs = .ok data ∧
    data.lun_list = ["/dev/block/sdb", "/dev/block/sde"] := by
  obtain ⟨data, hdata, _⟩ := data_distinct ufs
  refine ⟨data, hdata, ?_⟩
  have h : (prepare_boot_update.data ufs).toOption.map update_data.lun_list =
      some ["/dev/block/sdb", "/dev/block/sde"] := by decide +kernel
  rw [hdata] at h
  exact Option.some.inj h

/-- A machine with these two LUNs. -/
def twoLuns (sdb sde : Disk) : World :=
  { machine sdb with
    disks := fun fd => if fd = "/dev/block/sdb" then some sdb else if fd = "/dev/block/sde" then some sde else none }

/-- Of the two LUNs the stage is due on one and was completed on the other. -/
def mixedLuns (stage : Stage) : World :=
  twoLuns (pairedDisk.holding zlib_crc32 (pairedDisk.startCopies ufs stage))
    (pairedDisk.holding zlib_crc32 (pairedDisk.finishCopies ufs stage))

theorem mixedLuns_due (stage : Stage) :
    DueIn ufs (updateStage stage) (pairedDisk.holding zlib_crc32 (pairedDisk.startCopies ufs stage)) :=
  @dueIn_cycle ufs _ ufs_lunSwitches pairedDisk_wellFormed pairedDisk_handledPairs_ufs stage

theorem mixedLuns_completed (stage : Stage) :
    Completed ufs (updateStage stage) (pairedDisk.holding zlib_crc32 (pairedDisk.finishCopies ufs stage)) := by
  obtain ⟨fd, w, w', hdisk, hrun, hdisk'⟩ :=
    @completes_cycle ufs _ ufs_lunSwitches pairedDisk_valid pairedDisk_handledPairs_ufs stage
  exact ⟨ufs, _, fd, w, w', rfl, ufs_working.fullOrFail, mixedLuns_due stage, hdisk, hrun, hdisk'⟩

theorem mixedLuns_disks (stage : Stage) : ∀ lun ∈ ["/dev/block/sdb", "/dev/block/sde"],
    ∃ disk, (mixedLuns stage).disks lun = some disk ∧
      (DueIn ufs (updateStage stage) disk ∨ Completed ufs (updateStage stage) disk) := by
  intro lun hlun
  simp only [List.mem_cons, List.not_mem_nil, or_false] at hlun
  rcases hlun with rfl | rfl
  · exact ⟨_, rfl, .inl (mixedLuns_due stage)⟩
  · exact ⟨_, rfl, .inr (mixedLuns_completed stage)⟩

theorem reissue_converges_mixedLuns :
    ∃ data, prepare_boot_update.data ufs = .ok data ∧ data.lun_list ≠ [] ∧
    ((∃ w', prepare_boot_update ufs .UPDATE_MAIN (mixedLuns .divert) = .ok 0 w' ∧
      ∀ lun ∈ data.lun_list, ∀ disk, (mixedLuns .divert).disks lun = some disk →
        (Completed ufs .UPDATE_MAIN disk → w'.disks lun = some disk) ∧
        (DueIn ufs .UPDATE_MAIN disk →
          ∃ disk', w'.disks lun = some disk' ∧ Completes ufs .UPDATE_MAIN disk disk')) ↔
    ¬ (boot_update_stage.UPDATE_MAIN = .UPDATE_FINALIZE ∧ ∃ lun ∈ data.lun_list, ∃ disk,
      (mixedLuns .divert).disks lun = some disk ∧ Completed ufs .UPDATE_MAIN disk)) := by
  obtain ⟨data, hdata, hluns⟩ := ufs_luns
  exact ⟨data, hdata, by simp [hluns], reissue_converges_iff ufs_working ufs_lunSwitches (by decide +kernel) hdata
    (hluns ▸ mixedLuns_disks .divert)⟩

/-- When `UPDATE_FINALIZE` has been completed on one of the two LUNs, it fails although
    nothing goes wrong. -/
theorem finalize_fails_mixedLuns : ufs.Working ∧
    (∃ data, prepare_boot_update.data ufs = .ok data ∧ data.lun_list = ["/dev/block/sdb", "/dev/block/sde"] ∧
      ∀ lun ∈ data.lun_list, ∃ disk, (mixedLuns .settle).disks lun = some disk ∧
        (DueIn ufs .UPDATE_FINALIZE disk ∨ Completed ufs .UPDATE_FINALIZE disk)) ∧
    ∃ r w', prepare_boot_update ufs .UPDATE_FINALIZE (mixedLuns .settle) = .ok r w' ∧ r ≠ 0 := by
  obtain ⟨data, hdata, hluns⟩ := ufs_luns
  have hdisks := mixedLuns_disks .settle
  rw [← hluns] at hdisks
  refine ⟨ufs_working, ⟨data, hdata, hluns, hdisks⟩, ?_⟩
  obtain ⟨r, w', hrun, hr, _⟩ :=
    prepare_boot_update_settles ufs_working ufs_lunSwitches (by decide +kernel) hdata hdisks
  refine ⟨r, w', hrun, fun h => hr.mp h ⟨rfl, "/dev/block/sde", ?_, _, rfl, mixedLuns_completed .settle⟩⟩
  rw [hluns]
  simp

end gpt_utils
