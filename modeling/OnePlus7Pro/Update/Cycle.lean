import OnePlus7Pro.Gpt.Format
import OnePlus7Pro.Gpt.StageRun

open regions effects twins

namespace gpt_utils

/-- Where a target switches its boot LUN, both LUNs are found. -/
def Env.LunSwitches (env : Env) : Prop := ∀ chain, env.lun_fails chain = false

theorem Env.LunSwitches.stage {env : Env} (h : env.LunSwitches) (stage : boot_update_stage) :
    env.stage_fails stage = false := by
  cases stage with
  | UPDATE_MAIN => exact h _
  | UPDATE_BACKUP => exact h _
  | UPDATE_FINALIZE => rfl

/-- The copies of a device when a stage is due in a cycle that began with the device as it is. -/
def Disk.startCopies (env : Env) (disk : Disk) (stage : Stage) : Copies Buffer :=
  stage.start (disk.pentries .PRIMARY_GPT) (disk.backupPentries env)

def Disk.finishCopies (env : Env) (disk : Disk) (stage : Stage) : Copies Buffer :=
  stage.finish (disk.pentries .PRIMARY_GPT) (disk.backupPentries env)

variable {env : Env} {w : World} {fd : String} {disk : Disk} {copies : Copies Buffer}

theorem startCopies_due (env : Env) (disk : Disk) (stage : Stage) :
    (disk.startCopies env stage).due = some stage :=
  start_due _ _ stage

theorem fits_startCopies (hvalid : disk.Valid env.crc32) (stage : Stage) :
    disk.Fits (disk.startCopies env stage).stored := by
  cases stage with
  | divert => exact fits_chainPentries hvalid .NORMAL_BOOT
  | restore => exact fits_chainPentries hvalid .BACKUP_BOOT
  | settle => exact fits_chainPentries hvalid .BACKUP_BOOT

theorem holding_startCopies_divert (hwf : disk.WellFormed env.crc32) :
    disk.holding env.crc32 (disk.startCopies env .divert) = disk :=
  holding_intact hwf

/-- A script that is carried out leaves the device with the acts that are due performed. -/
theorem prepare_partitions_done (hio : env.FullOrFail) (hvalid : disk.Valid env.crc32)
    (hfits : disk.Fits copies.stored) (hdisk : w.disks fd = some (disk.holding env.crc32 copies))
    (stage : boot_update_stage)
    (hgranted : (env.steps.exec (stageScript env fd disk copies stage) w).2 = true) :
    ∃ w', prepare_partitions env stage fd w = .ok (stageValue env copies stage) w' ∧
      w'.disks fd = some (disk.holding env.crc32 ((dueActs env disk copies stage).foldl Copies.apply copies)) := by
  refine ⟨_, (prepare_partitions_follows hio hvalid hfits hdisk stage).done hgranted, ?_⟩
  rw [disk_of_done (Prod.ext rfl hgranted) hdisk]
  obtain ⟨luns, hluns, hevents⟩ := stageScript_events env fd disk copies stage
  rw [hevents, replay_acts hvalid hfits (dueActs_fit hvalid copies stage) hluns]

/-- Where nothing fails, a stage that is due returns 0 with its acts performed. -/
theorem prepare_partitions_due (hworking : env.Working) (hlun : env.LunSwitches)
    (hvalid : disk.Valid env.crc32) (hfits : disk.Fits copies.stored) {stage : Stage}
    (hdue : copies.due = some stage) (hdisk : w.disks fd = some (disk.holding env.crc32 copies)) :
    ∃ w', prepare_partitions env (updateStage stage) fd w = .ok 0 w' ∧ w'.disks fd = some
      (disk.holding env.crc32 ((performActs env disk (updateStage stage)).foldl Copies.apply copies)) := by
  obtain ⟨w', hrun, hdisk'⟩ :=
    prepare_partitions_done hworking.fullOrFail hvalid hfits hdisk (updateStage stage)
    (hworking.exec _ _)
  refine ⟨w', ?_, ?_⟩
  · rw [hrun, stageValue_due hdue (hlun.stage _)]
  · rw [hdisk', dueActs, hdue, if_pos ⟨rfl, hlun.stage _⟩]

/-- Where nothing fails, the stages of a cycle are completed. -/
theorem prepare_partitions_completes (hworking : env.Working) (hlun : env.LunSwitches)
    (hvalid : disk.Valid env.crc32) (stage : Stage)
    (hpairs : stage = .divert → disk.handledPairs env ≠ [])
    (hdisk : w.disks fd = some (disk.holding env.crc32 (disk.startCopies env stage))) :
    ∃ w', prepare_partitions env (updateStage stage) fd w = .ok 0 w' ∧
      w'.disks fd = some (disk.holding env.crc32 (disk.finishCopies env stage)) := by
  obtain ⟨w', hrun, hdisk'⟩ :=
    prepare_partitions_due hworking hlun hvalid (fits_startCopies hvalid stage)
    (start_due _ _ stage) hdisk
  refine ⟨w', hrun, ?_⟩
  rw [hdisk', performActs_eq, if_neg fun h => hpairs h.1 h.2]
  exact congrArg (fun copies => some (disk.holding env.crc32 copies)) (foldl_start _ _ stage)

/-- The headers of a device in the course of a cycle. -/
theorem headerState_startCopies (hvalid : disk.Valid env.crc32) (stage : Stage) (gpt : gpt_instance) :
    headerState env.crc32 ((disk.holding env.crc32 (disk.startCopies env stage)).header gpt) =
      if (stage = .restore ∧ gpt = .PRIMARY_GPT) ∨ (stage = .settle ∧ gpt = .SECONDARY_GPT) then .GPT_BAD_SIGNATURE
      else .GPT_OK := by
  cases gpt with
  | PRIMARY_GPT =>
    rw [headerState_holding_primary hvalid (fits_startCopies hvalid stage)]
    cases stage <;> rfl
  | SECONDARY_GPT =>
    rw [headerState_holding_secondary hvalid (fits_startCopies hvalid stage)]
    cases stage <;> rfl

theorem handledPairs_formatted (env : Env) (crc : Buffer → UInt32) {pentries : Buffer}
    (hlength : pentries.length = 512) :
    (formatted crc pentries).handledPairs env = handledPairs env pentries 128 4 := by
  rw [Disk.handledPairs, pentries_formatted crc hlength, pentry_size_formatted, count_formatted]

theorem pairedDisk_handledPairs : pairedDisk.handledPairs emmc ≠ [] := by
  rw [pairedDisk, handledPairs_formatted _ _ (length_namedEntries _)]
  decide +kernel

theorem pairedDisk_handledPairs_ufs : pairedDisk.handledPairs ufs ≠ [] := by
  rw [pairedDisk, handledPairs_formatted _ _ (length_namedEntries _)]
  decide +kernel

theorem emmc_lunSwitches : emmc.LunSwitches := by
  intro chain
  cases chain <;> decide +kernel

theorem ufs_lunSwitches : ufs.LunSwitches := by
  intro chain
  cases chain <;> decide +kernel

/-- Where nothing fails, the three stages return 0 one after the other. `UPDATE_MAIN`
    leaves only the secondary header with a signature, and its array is the primary one
    with the handled pairs exchanged; `UPDATE_BACKUP` leaves only the primary header with
    one, and the original array; `UPDATE_FINALIZE` restores the whole device. -/
theorem update_cycle (hworking : env.Working) (hlun : env.LunSwitches)
    (hwf : disk.WellFormed env.crc32) (hpairs : disk.handledPairs env ≠ [])
    (hdisk : w.disks fd = some disk) :
    ∃ w1 w2 w3 disk1 disk2,
      (prepare_partitions env .UPDATE_MAIN fd w = .ok 0 w1 ∧ w1.disks fd = some disk1 ∧
        headerState env.crc32 (disk1.header .PRIMARY_GPT) = .GPT_BAD_SIGNATURE ∧
        headerState env.crc32 (disk1.header .SECONDARY_GPT) = .GPT_OK ∧
        ChainSwapped env (field (disk.header .PRIMARY_GPT) PENTRY_SIZE_OFFSET 4)
          (field (disk.header .PRIMARY_GPT) PARTITION_COUNT_OFFSET 4) (disk.pentries .PRIMARY_GPT)
          (disk1.pentries .SECONDARY_GPT)) ∧
      (prepare_partitions env .UPDATE_BACKUP fd w1 = .ok 0 w2 ∧ w2.disks fd = some disk2 ∧
        headerState env.crc32 (disk2.header .PRIMARY_GPT) = .GPT_OK ∧
        headerState env.crc32 (disk2.header .SECONDARY_GPT) = .GPT_BAD_SIGNATURE ∧
        disk2.pentries .PRIMARY_GPT = disk.pentries .PRIMARY_GPT) ∧
      prepare_partitions env .UPDATE_FINALIZE fd w2 = .ok 0 w3 ∧ w3.disks fd = some disk := by
  have hdisk0 : w.disks fd = some (disk.holding env.crc32 (disk.startCopies env .divert)) := by
    rw [holding_startCopies_divert hwf, hdisk]
  obtain ⟨w1, hrun1, hdisk1⟩ :=
    prepare_partitions_completes hworking hlun hwf.toValid .divert (fun _ => hpairs) hdisk0
  obtain ⟨w2, hrun2, hdisk2⟩ :=
    prepare_partitions_completes hworking hlun hwf.toValid .restore (fun _ => hpairs) hdisk1
  obtain ⟨w3, hrun3, hdisk3⟩ :=
    prepare_partitions_completes hworking hlun hwf.toValid .settle (fun _ => hpairs) hdisk2
  refine ⟨w1, w2, w3, _, _, ⟨hrun1, hdisk1, ?_, ?_, ?_⟩, ⟨hrun2, hdisk2, ?_, ?_, ?_⟩, hrun3, ?_⟩
  · exact headerState_startCopies hwf.toValid .restore .PRIMARY_GPT
  · exact headerState_startCopies hwf.toValid .restore .SECONDARY_GPT
  · have hstored := pentries_holding_secondary hwf.toValid (fits_startCopies hwf.toValid .restore)
    exact hstored ▸ chainSwapped_backupPentries hwf.toValid
  · exact headerState_startCopies hwf.toValid .settle .PRIMARY_GPT
  · exact headerState_startCopies hwf.toValid .settle .SECONDARY_GPT
  · exact pentries_holding_primary hwf.toValid (fits_startCopies hwf.toValid .settle)
  · rw [hdisk3]
    exact congrArg some (holding_intact hwf)

theorem update_cycle_pairedDisk : ∃ w1 w2 w3 disk1 disk2,
    (prepare_partitions emmc .UPDATE_MAIN BLK_DEV_FILE (machine pairedDisk) = .ok 0 w1 ∧
      w1.disks BLK_DEV_FILE = some disk1 ∧
      headerState zlib_crc32 (disk1.header .PRIMARY_GPT) = .GPT_BAD_SIGNATURE ∧
      headerState zlib_crc32 (disk1.header .SECONDARY_GPT) = .GPT_OK ∧
      ChainSwapped emmc (field (pairedDisk.header .PRIMARY_GPT) PENTRY_SIZE_OFFSET 4)
        (field (pairedDisk.header .PRIMARY_GPT) PARTITION_COUNT_OFFSET 4) (pairedDisk.pentries .PRIMARY_GPT)
        (disk1.pentries .SECONDARY_GPT)) ∧
    (prepare_partitions emmc .UPDATE_BACKUP BLK_DEV_FILE w1 = .ok 0 w2 ∧ w2.disks BLK_DEV_FILE = some disk2 ∧
      headerState zlib_crc32 (disk2.header .PRIMARY_GPT) = .GPT_OK ∧
      headerState zlib_crc32 (disk2.header .SECONDARY_GPT) = .GPT_BAD_SIGNATURE ∧
      disk2.pentries .PRIMARY_GPT = pairedDisk.pentries .PRIMARY_GPT) ∧
    prepare_partitions emmc .UPDATE_FINALIZE BLK_DEV_FILE w2 = .ok 0 w3 ∧
    w3.disks BLK_DEV_FILE = some pairedDisk :=
  update_cycle emmc_working emmc_lunSwitches pairedDisk_wellFormed pairedDisk_handledPairs rfl

/-- Where nothing fails and there is nothing to exchange, `UPDATE_MAIN` returns 0 and
    leaves the device as it is, so that `UPDATE_BACKUP` is refused. -/
theorem update_main_without_pairs (hworking : env.Working) (hlun : env.LunSwitches)
    (hwf : disk.WellFormed env.crc32) (hpairs : disk.handledPairs env = [])
    (hdisk : w.disks fd = some disk) :
    ∃ w1 w2, prepare_partitions env .UPDATE_MAIN fd w = .ok 0 w1 ∧ w1.disks fd = some disk ∧
      prepare_partitions env .UPDATE_BACKUP fd w1 = .ok (-1) w2 := by
  have hfits := @fits_startCopies env _ hwf.toValid .divert
  have hdisk0 : w.disks fd = some (disk.holding env.crc32 (disk.startCopies env .divert)) := by
    rw [holding_startCopies_divert hwf, hdisk]
  obtain ⟨w1, hrun1, hdisk1⟩ :=
    prepare_partitions_due hworking hlun hwf.toValid hfits (start_due _ _ .divert) hdisk0
  rw [performActs_eq, if_pos ⟨rfl, hpairs⟩] at hdisk1
  obtain ⟨w2, hrun2, _⟩ :=
    prepare_partitions_done hworking.fullOrFail hwf.toValid hfits hdisk1 .UPDATE_BACKUP
    (hworking.exec _ _)
  refine ⟨w1, w2, hrun1, ?_, hrun2⟩
  rw [hdisk1]
  exact congrArg some (holding_startCopies_divert hwf)

end gpt_utils
