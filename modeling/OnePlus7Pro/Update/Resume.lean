import OnePlus7Pro.Gpt.Outcomes
import OnePlus7Pro.Update.Cycle

open regions effects twins

namespace gpt_utils

/-- The same target with working input and output. -/
def Env.mended (env : Env) : Env := { env with transfer := fun _ => .full, call := fun _ => true }

/-- With working input and output, the stage takes a device from one state to another. -/
def Completes (env : Env) (stage : boot_update_stage) (before after : Disk) : Prop :=
  ∃ fd w w', w.disks fd = some before ∧ prepare_partitions env.mended stage fd w = .ok 0 w' ∧
    w'.disks fd = some after

/-- The stage is due on a device, in a cycle that began with a well-formed one. -/
inductive DueIn (env : Env) : boot_update_stage → Disk → Prop where
  | main {disk : Disk} (hwf : disk.WellFormed env.crc32) : DueIn env .UPDATE_MAIN disk
  | backup {disk disk1 : Disk} (hwf : disk.WellFormed env.crc32)
      (hpairs : disk.handledPairs env ≠ []) (hmain : Completes env .UPDATE_MAIN disk disk1) :
      DueIn env .UPDATE_BACKUP disk1
  | finalize {disk disk1 disk2 : Disk} (hwf : disk.WellFormed env.crc32)
      (hpairs : disk.handledPairs env ≠ []) (hmain : Completes env .UPDATE_MAIN disk disk1)
      (hbackup : Completes env .UPDATE_BACKUP disk1 disk2) :
      DueIn env .UPDATE_FINALIZE disk2

variable {env : Env} {w w' : World} {fd : String} {disk : Disk} {copies : Copies Buffer}

theorem mended_working (env : Env) : env.mended.Working := ⟨fun _ => rfl, fun _ => rfl⟩

theorem startCopies_mended (env : Env) (disk : Disk) (stage : Stage) :
    disk.startCopies env.mended stage = disk.startCopies env stage := rfl

theorem lunSwitches_mended (hlun : env.LunSwitches) : env.mended.LunSwitches := hlun

/-- Completing a stage of a cycle leads to the next state of the cycle. -/
theorem Completes.after (hlun : env.LunSwitches) (hvalid : disk.Valid env.crc32)
    (hpairs : disk.handledPairs env ≠ []) (stage : Stage) {disk' : Disk}
    (h : Completes env (updateStage stage) (disk.holding env.crc32 (disk.startCopies env stage)) disk') :
    disk' = disk.holding env.crc32 (disk.finishCopies env stage) := by
  obtain ⟨fd, w, w', hdisk, hrun, hdisk'⟩ := h
  obtain ⟨w'', hrun', hdisk''⟩ :=
    prepare_partitions_completes (mended_working env) (lunSwitches_mended hlun) hvalid stage
    (fun _ => hpairs) hdisk
  rw [hrun] at hrun'
  cases hrun'
  exact Option.some.inj (hdisk'.symm.trans hdisk'')

/-- Each stage of a cycle can be completed. -/
theorem completes_cycle (hlun : env.LunSwitches) (hvalid : disk.Valid env.crc32)
    (hpairs : disk.handledPairs env ≠ []) (stage : Stage) :
    Completes env (updateStage stage) (disk.holding env.crc32 (disk.startCopies env stage))
      (disk.holding env.crc32 (disk.finishCopies env stage)) := by
  obtain ⟨w', hrun, hdisk'⟩ :=
    prepare_partitions_completes (mended_working env) (lunSwitches_mended hlun) hvalid stage
    (fun _ => hpairs) (machine_disk (disk.holding env.crc32 (disk.startCopies env stage)))
  exact ⟨BLK_DEV_FILE, _, w', machine_disk _, hrun, hdisk'⟩

/-- Each stage of a cycle is due on the device with which it starts. -/
theorem dueIn_cycle (hlun : env.LunSwitches) (hwf : disk.WellFormed env.crc32)
    (hpairs : disk.handledPairs env ≠ []) (stage : Stage) :
    DueIn env (updateStage stage) (disk.holding env.crc32 (disk.startCopies env stage)) := by
  have hmain := completes_cycle hlun hwf.toValid hpairs .divert
  have hbackup := completes_cycle hlun hwf.toValid hpairs .restore
  rw [holding_startCopies_divert hwf] at hmain
  cases stage with
  | divert =>
    rw [holding_startCopies_divert hwf]
    exact .main hwf
  | restore => exact .backup hwf hpairs hmain
  | settle => exact .finalize hwf hpairs hmain hbackup

/-- A device on which a stage is due is described by the copies with which it starts. -/
theorem DueIn.holding (hlun : env.LunSwitches) {stage : boot_update_stage} {disk' : Disk}
    (h : DueIn env stage disk') :
    ∃ (disk : Disk) (due : Stage), stage = updateStage due ∧ disk.WellFormed env.crc32 ∧
      (due = .divert ∨ disk.handledPairs env ≠ []) ∧
      disk' = disk.holding env.crc32 (disk.startCopies env due) := by
  cases h with
  | main hwf => exact ⟨disk', .divert, rfl, hwf, .inl rfl, (holding_startCopies_divert hwf).symm⟩
  | backup hwf hpairs hmain =>
    rw [← holding_startCopies_divert hwf] at hmain
    exact ⟨_, .restore, rfl, hwf, .inr hpairs, Completes.after hlun hwf.toValid hpairs .divert hmain⟩
  | finalize hwf hpairs hmain hbackup =>
    rw [← holding_startCopies_divert hwf] at hmain
    rw [Completes.after hlun hwf.toValid hpairs .divert hmain] at hbackup
    exact ⟨_, .settle, rfl, hwf, .inr hpairs, Completes.after hlun hwf.toValid hpairs .restore hbackup⟩

/-- The script of a stage that is due ends with the write of its last act. -/
theorem stageScript_last (fd : String) (hlun : env.LunSwitches) (stage : Stage)
    (hpairs : stage = .divert → disk.handledPairs env ≠ []) (hdue : copies.due = some stage) :
    ∃ init last luns, stageScript env fd disk copies (updateStage stage) = init ++ [last] ∧
      luns <+: lunEvents env (updateStage stage) ∧ init.flatMap Step.events = luns ++
        actEvents env.crc32 fd disk copies
          (stage.acts (disk.pentries .PRIMARY_GPT) (disk.backupPentries env)).dropLast := by
  have hluns := List.prefix_refl (lunEvents env (updateStage stage))
  rw [stageScript_due hdue (hlun.stage _)]
  cases stage with
  | divert =>
    have hnothing : ¬ disk.NothingToDo env .BACKUP_BOOT := fun h => hpairs rfl h.2
    refine ⟨openScript disk ++ (stageLun env .UPDATE_MAIN ++ ((chainReads disk ++ actSteps env.crc32 fd disk copies
      (chainActs env disk .BACKUP_BOOT)) ++ readScript disk .PRIMARY_GPT)), actStep env.crc32 fd disk
      (((chainActs env disk .BACKUP_BOOT).foldl Copies.apply copies).apply (.mark_primary false)) (.mark_primary false),
      _, ?_, hluns, ?_⟩
    · rw [updateStage, performScript, if_neg hnothing]
      simp only [actSteps, List.append_assoc]
    · rw [List.flatMap_append, openScript_events, List.flatMap_append, List.flatMap_append,
        List.flatMap_append, chainReads_events, readScript_events, chainActs, if_neg hnothing, List.append_nil]
      rfl
  | restore =>
    refine ⟨openScript disk ++ (stageLun env .UPDATE_BACKUP ++ ((readScript disk .PRIMARY_GPT ++ actSteps env.crc32 fd
      disk copies [.mark_primary true]) ++ readScript disk .SECONDARY_GPT)), actStep env.crc32 fd disk
      ((copies.apply (.mark_primary true)).apply (.mark_secondary false)) (.mark_secondary false), _, ?_, hluns, ?_⟩
    · rw [updateStage, performScript]
      simp only [actSteps, List.append_assoc]
    · rw [List.flatMap_append, openScript_events, List.flatMap_append, List.flatMap_append,
        List.flatMap_append, readScript_events, readScript_events, List.append_nil]
      rfl
  | settle =>
    refine ⟨openScript disk ++ (stageLun env .UPDATE_FINALIZE ++ ((chainReads disk ++ actSteps env.crc32 fd disk copies
      (chainActs env disk .NORMAL_BOOT)) ++ readScript disk .SECONDARY_GPT)), actStep env.crc32 fd disk
      (((chainActs env disk .NORMAL_BOOT).foldl Copies.apply copies).apply (.mark_secondary true))
      (.mark_secondary true),
      _, ?_, hluns, ?_⟩
    · rw [updateStage, performScript]
      simp only [actSteps, List.append_assoc]
    · rw [List.flatMap_append, openScript_events, List.flatMap_append, List.flatMap_append,
        List.flatMap_append, chainReads_events, readScript_events, List.append_nil]
      rfl

/-- The device after a script, which may have been cut short. -/
theorem disk_of_exec (env : Env) (script : List Step) {device : Disk}
    (hdisk : w.disks fd = some device) :
    (env.steps.exec script w).1.disks fd = some (replay fd device (env.effect script w)) :=
  (exec_after env script w).disk hdisk

/-- A stage that was cut short has performed its acts up to some point before the last. -/
theorem disk_of_refused (hlun : env.LunSwitches) (hvalid : disk.Valid env.crc32)
    (hfits : disk.Fits copies.stored) {stage : Stage}
    (hpairs : stage = .divert → disk.handledPairs env ≠ []) (hdue : copies.due = some stage)
    (hdisk : w.disks fd = some (disk.holding env.crc32 copies))
    (hexec : env.steps.exec (stageScript env fd disk copies (updateStage stage)) w = (w', false)) :
    ∃ acts, acts <+: (stage.acts (disk.pentries .PRIMARY_GPT) (disk.backupPentries env)).dropLast ∧
      w'.disks fd = some (disk.holding env.crc32 (acts.foldl Copies.apply copies)) := by
  obtain ⟨init, last, luns, hscript, hluns, hevents⟩ := stageScript_last fd hlun stage hpairs hdue
  have hdisk' := disk_of_exec env (stageScript env fd disk copies (updateStage stage)) hdisk
  have heffect := @effect_of_refused env w init last (by rw [← hscript, hexec])
  rw [hexec, hscript] at hdisk'
  rw [hevents] at heffect
  have hfit : ∀ act ∈ stage.acts (disk.pentries .PRIMARY_GPT) (disk.backupPentries env), disk.ActFits act := by
    have h := performActs_fit hvalid (updateStage stage)
    rwa [performActs_eq, if_neg fun h => hpairs h.1 h.2] at h
  obtain ⟨acts, hacts, hreplay⟩ := acts_of_start hvalid hfits
    (fun act hact => hfit act (List.mem_of_mem_dropLast hact)) hluns heffect
  refine ⟨acts, hacts, ?_⟩
  rw [hdisk', hreplay]

theorem transferCount_update_backup (hlun : env.LunSwitches) (hdue : copies.due = some .restore) :
    transferCount (stageScript env fd disk copies .UPDATE_BACKUP) = 6 := by
  rw [show boot_update_stage.UPDATE_BACKUP = updateStage .restore from rfl,
    stageScript_due hdue (hlun.stage _)]
  simp only [updateStage, stageLun, performScript, transferCount_append, transferCount_openScript,
    transferCount_lunSteps, transferCount_readScript]
  rfl

/-- The steps of `UPDATE_BACKUP` before it writes the primary header. -/
def restoreInit (env : Env) (disk : Disk) : List Step :=
  openScript disk ++ (lunSteps env .NORMAL_BOOT ++ readScript disk .PRIMARY_GPT)

theorem restoreInit_onDisk (env : Env) (disk : Disk) {luns : List Event}
    (hluns : luns <+: (restoreInit env disk).flatMap Step.events) (fd : String) (device : Disk) :
    replay fd device luns = device := by
  rw [restoreInit, List.flatMap_append, openScript_events, List.flatMap_append, readScript_events,
    List.append_nil] at hluns
  exact lunEvents_onDisk env .UPDATE_BACKUP hluns fd device

/-- `UPDATE_BACKUP` marks the primary copy with its fourth transfer. -/
theorem disk_of_refused_restore (hlun : env.LunSwitches) (hvalid : disk.Valid env.crc32)
    (hfits : disk.Fits copies.stored) (hdue : copies.due = some .restore)
    (hdisk : w.disks fd = some (disk.holding env.crc32 copies)) {k : Nat}
    (hgrants : ∀ calls transfers, env.Grants w calls transfers ↔ transfers ≤ k)
    (hexec : env.steps.exec (stageScript env fd disk copies .UPDATE_BACKUP) w = (w', false)) :
    w'.disks fd = some (disk.holding env.crc32 (if k < 4 then copies else copies.apply (.mark_primary true))) := by
  have hscript : stageScript env fd disk copies .UPDATE_BACKUP =
      (restoreInit env disk ++ actSteps env.crc32 fd disk copies [.mark_primary true]) ++
        (readScript disk .SECONDARY_GPT ++ actSteps env.crc32 fd disk (copies.apply (.mark_primary true))
          [.mark_secondary false]) := by
    refine (stageScript_due hdue (hlun.stage _)).trans ?_
    simp only [updateStage, performScript, restoreInit, List.append_assoc]
    rfl
  have hmarked :
      transferCount (restoreInit env disk ++ actSteps env.crc32 fd disk copies [.mark_primary true]) = 4 := by
    simp only [restoreInit, transferCount_append, transferCount_openScript, transferCount_lunSteps,
      transferCount_readScript]
    rfl
  have hfirst : (env.steps.exec (restoreInit env disk ++ actSteps env.crc32 fd disk copies [.mark_primary true]) w).2 =
      true ↔ 4 ≤ k := by
    rw [exec_iff, hgrants, hmarked]
  have hdisk' := disk_of_exec env (stageScript env fd disk copies .UPDATE_BACKUP) hdisk
  rw [hexec, hscript, effect_append] at hdisk'
  by_cases hk : k < 4
  · have hrefused := mt hfirst.mp (Nat.not_le.mpr hk)
    rw [if_neg hrefused] at hdisk'
    rw [if_pos hk, hdisk']
    exact congrArg some (restoreInit_onDisk env disk (effect_of_refused (Bool.eq_false_iff.mpr hrefused)) fd _)
  · have hdone := hfirst.mpr (Nat.le_of_not_lt hk)
    have hsecond : env.effect (readScript disk .SECONDARY_GPT ++ actSteps env.crc32 fd disk
        (copies.apply (.mark_primary true)) [.mark_secondary false])
        (env.steps.exec (restoreInit env disk ++ actSteps env.crc32 fd disk copies [.mark_primary true]) w).1 = [] := by
      rw [hscript, Steps.exec_append, if_pos hdone] at hexec
      have h := @effect_of_refused env _ (readScript disk .SECONDARY_GPT) _ (congrArg Prod.snd hexec)
      rw [readScript_events] at h
      exact List.prefix_nil.mp h
    rw [if_pos hdone, hsecond, List.append_nil, List.flatMap_append, replay_append,
      restoreInit_onDisk env disk (List.prefix_refl _)] at hdisk'
    rw [if_neg hk, hdisk']
    have hfit : ∀ act ∈ [Act.mark_primary true], disk.ActFits act := by simp [Disk.ActFits]
    exact congrArg some (replay_actEvents hvalid hfits hfit)

/-- When only the transfer number `k` of an attempt fails, the calls and transfers before it succeed. -/
theorem grants_of_single_failure {k : Nat} (hcalls : ∀ n, env.call n = true)
    (htransfers : ∀ n, env.transfer n = if n = w.transfers + k then .error else .full)
    (calls transfers : Nat) :
    env.Grants w calls transfers ↔ transfers ≤ k := by
  constructor
  · intro h
    by_contra hk
    have hfull := h.2 k (by omega)
    rw [htransfers, if_pos rfl] at hfull
    cases hfull
  · intro h
    refine ⟨fun n _ => hcalls _, fun n hn => ?_⟩
    rw [htransfers, if_neg (by omega)]

/-- Once `UPDATE_BACKUP` has made the primary copy valid again and failed, it is refused. -/
theorem restore_refused (hlun : env.LunSwitches) (hvalid : disk.Valid env.crc32)
    (hfits : disk.Fits copies.stored) (hdue : copies.due = some .restore)
    (hdisk : w.disks fd = some (disk.holding env.crc32 copies)) {k : Nat}
    (hgrants : ∀ calls transfers, env.Grants w calls transfers ↔ transfers ≤ k) (hk : 4 ≤ k)
    (hexec : env.steps.exec (stageScript env fd disk copies .UPDATE_BACKUP) w = (w', false)) :
    ∃ w'', prepare_partitions env.mended .UPDATE_BACKUP fd w' = .ok (-1) w'' := by
  have hdisk' := disk_of_refused_restore hlun hvalid hfits hdue hdisk hgrants hexec
  rw [if_neg (Nat.not_lt.mpr hk)] at hdisk'
  have hfits' : disk.Fits (copies.apply (.mark_primary true)).stored := hfits
  obtain ⟨w'', hrun, _⟩ :=
    prepare_partitions_done (mended_working env).fullOrFail hvalid hfits' hdisk' .UPDATE_BACKUP
    ((mended_working env).exec _ _)
  have hsecondary : copies.secondary = true := (due_eq_some_iff.mp hdue).2
  have hmain : (copies.apply (.mark_primary true)).due = some .divert := by
    rw [Copies.due, show (copies.apply (.mark_primary true)).secondary = true from hsecondary]
    rfl
  refine ⟨w'', ?_⟩
  rw [hrun, stageValue, hmain]
  rfl

/-- Two attempts that leave as good a copy end with the same device. -/
theorem retries_alike (hlun : env.LunSwitches) (hvalid : disk.Valid env.crc32) {w1 : World}
    {copies' : Copies Buffer} {due : Stage} (hfits : disk.Fits copies.stored) (hdue : copies.due = some due)
    (hdisk : w.disks fd = some (disk.holding env.crc32 copies)) (hfits' : disk.Fits copies'.stored)
    (hdue' : copies'.due = some due) (hdisk' : w1.disks fd = some (disk.holding env.crc32 copies'))
    (hsame : (performActs env disk (updateStage due)).foldl Copies.apply copies' =
      (performActs env disk (updateStage due)).foldl Copies.apply copies) :
    ∃ w2 w3, prepare_partitions env.mended (updateStage due) fd w1 = .ok 0 w2 ∧
      prepare_partitions env.mended (updateStage due) fd w = .ok 0 w3 ∧ w2.disks fd = w3.disks fd := by
  obtain ⟨w2, hrun2, hdisk2⟩ :=
    prepare_partitions_due (mended_working env) (lunSwitches_mended hlun) hvalid hfits' hdue' hdisk'
  obtain ⟨w3, hrun3, hdisk3⟩ :=
    prepare_partitions_due (mended_working env) (lunSwitches_mended hlun) hvalid hfits hdue hdisk
  refine ⟨w2, w3, hrun2, hrun3, ?_⟩
  rw [hdisk2, hdisk3]
  exact congrArg (fun copies => some (disk.holding env.crc32 copies)) hsame

/-- A stage that performs no acts leaves the device as it was. -/
theorem disk_of_no_acts (hio : env.FullOrFail) (hvalid : disk.Valid env.crc32)
    (hfits : disk.Fits copies.stored) (hdisk : w.disks fd = some (disk.holding env.crc32 copies))
    {stage : boot_update_stage} (hacts : performActs env disk stage = []) {r : Int}
    (hrun : prepare_partitions env stage fd w = .ok r w') :
    w'.disks fd = some (disk.holding env.crc32 copies) := by
  obtain ⟨events, hafter, hmoments⟩ := Returns.of_run
    (prepare_partitions_moments hio hvalid hfits hdisk stage) hrun
  obtain ⟨acts, hacts', hreplay⟩ := hmoments events (List.prefix_refl _)
  have hnothing : dueActs env disk copies stage = [] := by
    rw [dueActs, hacts, ite_self]
  rw [hnothing] at hacts'
  rw [List.prefix_nil.mp hacts'] at hreplay
  rw [hafter.disk hdisk, hreplay]
  rfl

/-- A stage other than `UPDATE_BACKUP` that was refused can start again from the copies that it left. -/
theorem copies_of_refused (hlun : env.LunSwitches) (hvalid : disk.Valid env.crc32) {due : Stage}
    (hrestore : due ≠ .restore) (hhandled : due = .divert → disk.handledPairs env ≠ [])
    (hdisk : w.disks fd = some (disk.holding env.crc32 (disk.startCopies env due)))
    (hexec : env.steps.exec (stageScript env fd disk (disk.startCopies env due) (updateStage due)) w = (w', false)) :
    ∃ copies, disk.Fits copies.stored ∧ copies.due = some due ∧
      w'.disks fd = some (disk.holding env.crc32 copies) ∧
      (performActs env disk (updateStage due)).foldl Copies.apply copies =
        (performActs env disk (updateStage due)).foldl Copies.apply (disk.startCopies env due) := by
  have hfits := @fits_startCopies env _ hvalid due
  obtain ⟨acts, hacts, hdisk1⟩ :=
    disk_of_refused hlun hvalid hfits hhandled (startCopies_due env disk due) hdisk hexec
  have hperform := performActs_eq env disk due
  rw [if_neg fun h => hhandled h.1 h.2] at hperform
  have hnonempty : due.acts (disk.pentries .PRIMARY_GPT) (disk.backupPentries env) ≠ [] := by
    cases due <;> simp [Stage.acts]
  have hcut : acts ≠ due.acts (disk.pentries .PRIMARY_GPT) (disk.backupPentries env) := by
    rintro rfl
    have hlength := hacts.length_le
    rw [List.length_dropLast] at hlength
    have hpositive := List.length_pos_iff.mpr hnonempty
    omega
  have hacts' := hacts.trans (List.dropLast_prefix _)
  obtain ⟨hdue', hfinish⟩ := (resume_iff hacts' hcut).mpr fun h => hrestore h.1
  refine ⟨_, fits_foldl hfits fun act hact => ?_, hdue', hdisk1, ?_⟩
  · exact performActs_fit hvalid (updateStage due) act (hperform ▸ hacts'.subset hact)
  · rw [hperform]
    exact hfinish.trans (foldl_start _ _ due).symm

/-- An attempt at a stage that is due, of which one block read or write failed, can be
    repeated as if it had not been made, unless it was `UPDATE_BACKUP` and had already
    made the primary copy valid again. -/
theorem resumable_iff (hlun : env.LunSwitches) {stage : boot_update_stage} {device : Disk}
    (hdue : DueIn env stage device) (hdisk : w.disks fd = some device) {k : Nat}
    (hcalls : ∀ n, env.call n = true)
    (htransfers : ∀ n, env.transfer n = if n = w.transfers + k then .error else .full) {r : Int}
    {w1 : World} (hrun : prepare_partitions env stage fd w = .ok r w1) (hfailed : r ≠ 0) :
    (∃ w2 w3, prepare_partitions env.mended stage fd w1 = .ok 0 w2 ∧
      prepare_partitions env.mended stage fd w = .ok 0 w3 ∧ w2.disks fd = w3.disks fd) ↔
    ¬ (stage = .UPDATE_BACKUP ∧ 4 ≤ k) := by
  have hio : env.FullOrFail := fun n => by rw [htransfers]; split <;> simp
  obtain ⟨disk, due, rfl, hwf, hpairs, rfl⟩ := hdue.holding hlun
  have hvalid := hwf.toValid
  have hfits := @fits_startCopies env _ hvalid due
  have hstart := startCopies_due env disk due
  have hexec : env.steps.exec (stageScript env fd disk (disk.startCopies env due) (updateStage due)) w =
      (w1, false) := by
    have hfollows := prepare_partitions_follows hio hvalid hfits hdisk (updateStage due)
    rcases hfollows.of_run hrun with ⟨_, hr⟩ | ⟨hexec, _⟩
    · exact absurd (hr.trans (stageValue_due hstart (hlun.stage _))) hfailed
    · exact hexec
  have hretry {copies : Copies Buffer} (hcopies : disk.Fits copies.stored) (hdue : copies.due = some due)
      (hdisk1 : w1.disks fd = some (disk.holding env.crc32 copies)) :=
    retries_alike hlun hvalid hfits hstart hdisk hcopies hdue hdisk1
  by_cases hrestore : due = .restore
  · subst hrestore
    have hgrants := grants_of_single_failure hcalls htransfers
    by_cases hk : k < 4
    · have hdisk1 := disk_of_refused_restore hlun hvalid hfits hstart hdisk hgrants hexec
      rw [if_pos hk] at hdisk1
      exact iff_of_true (hretry hfits hstart hdisk1 rfl) fun h => absurd h.2 (Nat.not_le.mpr hk)
    · refine iff_of_false ?_ (not_not.mpr ⟨rfl, Nat.le_of_not_lt hk⟩)
      rintro ⟨w2, _, hrun2, _⟩
      obtain ⟨w2', hrun2'⟩ :=
        restore_refused hlun hvalid hfits hstart hdisk hgrants (Nat.le_of_not_lt hk) hexec
      rw [show prepare_partitions env.mended .UPDATE_BACKUP fd w1 = _ from hrun2] at hrun2'
      cases hrun2'
  · refine iff_of_true ?_ fun h => hrestore (by cases due <;> first | rfl | cases h.1)
    by_cases hnone : due = .divert ∧ disk.handledPairs env = []
    · have hacts : performActs env disk (updateStage due) = [] := by
        rw [performActs_eq, if_pos hnone]
      exact hretry hfits hstart (disk_of_no_acts hio hvalid hfits hdisk hacts hrun) rfl
    · obtain ⟨copies, hcopies, hdue', hdisk1, hsame⟩ :=
        copies_of_refused hlun hvalid hrestore (fun h h' => hnone ⟨h, h'⟩) hdisk hexec
      exact hretry hcopies hdue' hdisk1 hsame

/-- A target on which only the transfer number `k` fails. -/
def failing (k : Nat) : Env := { emmc with transfer := fun n => if n = k then .error else .full }

/-- Counted from the start of the machine. -/
theorem failing_transfer (k : Nat) (disk : Disk) (n : Nat) :
    (failing k).transfer n = if n = (machine disk).transfers + k then .error else .full := by
  rw [show (machine disk).transfers = 0 from rfl, Nat.zero_add]
  rfl

theorem failing_lunSwitches (k : Nat) : (failing k).LunSwitches := emmc_lunSwitches

/-- The device on which `UPDATE_BACKUP` is due after `UPDATE_MAIN`. -/
def divertedDisk : Disk := pairedDisk.holding zlib_crc32 (pairedDisk.startCopies emmc .restore)

theorem divertedDisk_due (k : Nat) : DueIn (failing k) .UPDATE_BACKUP divertedDisk := by
  have hcopies : pairedDisk.startCopies (failing k) .restore = pairedDisk.startCopies emmc .restore :=
    (startCopies_mended (failing k) pairedDisk .restore).symm
  have h := @dueIn_cycle (failing k) pairedDisk (failing_lunSwitches k) pairedDisk_wellFormed pairedDisk_handledPairs
    .restore
  rw [hcopies] at h
  exact h

theorem divertedDisk_disk (k : Nat) : (machine divertedDisk).disks BLK_DEV_FILE =
    some (pairedDisk.holding (failing k).crc32 (pairedDisk.startCopies emmc .restore)) := rfl

theorem divertedDisk_fits : pairedDisk.Fits (pairedDisk.startCopies emmc .restore).stored :=
  @fits_startCopies emmc _ pairedDisk_valid .restore

/-- One of the six transfers of `UPDATE_BACKUP` fails. -/
theorem failing_update_backup {k : Nat} (hk : k < 6) :
    ∃ r w1, prepare_partitions (failing k) .UPDATE_BACKUP BLK_DEV_FILE (machine divertedDisk) = .ok r w1 ∧
      r ≠ 0 ∧
      (failing k).steps.exec (stageScript (failing k) BLK_DEV_FILE pairedDisk
        (pairedDisk.startCopies emmc .restore) .UPDATE_BACKUP) (machine divertedDisk) = (w1, false) := by
  have hvalid : pairedDisk.Valid (failing k).crc32 := pairedDisk_valid
  have hio : (failing k).FullOrFail := fun n => by
    change (if n = k then Transfer.error else .full) = _ ∨
      (if n = k then Transfer.error else .full) = _
    split <;> simp
  have hgrants := grants_of_single_failure (fun _ => rfl) (failing_transfer k divertedDisk)
  obtain ⟨r, w1, hrun, ⟨hexec, _⟩ | ⟨hexec, hr⟩⟩ := prepare_partitions_follows hio hvalid
    (divertedDisk_fits) (divertedDisk_disk k) .UPDATE_BACKUP
  · have hgranted := (exec_iff _ _ _).mp (congrArg Prod.snd hexec)
    have hcount := (hgrants _ _).mp hgranted
    rw [transferCount_update_backup (failing_lunSwitches k) (startCopies_due _ _ .restore)] at hcount
    omega
  · exact ⟨r, w1, hrun, hr, hexec⟩

theorem resumable_divertedDisk : ∃ r w1,
    prepare_partitions (failing 3) .UPDATE_BACKUP BLK_DEV_FILE (machine divertedDisk) = .ok r w1 ∧
    r ≠ 0 ∧ ((∃ w2 w3, prepare_partitions (failing 3).mended .UPDATE_BACKUP BLK_DEV_FILE w1 = .ok 0 w2 ∧
      prepare_partitions (failing 3).mended .UPDATE_BACKUP BLK_DEV_FILE (machine divertedDisk) = .ok 0 w3 ∧
      w2.disks BLK_DEV_FILE = w3.disks BLK_DEV_FILE) ↔
    ¬ (boot_update_stage.UPDATE_BACKUP = .UPDATE_BACKUP ∧ 4 ≤ 3)) := by
  obtain ⟨r, w1, hrun, hr, _⟩ := failing_update_backup (k := 3) (by decide)
  exact ⟨r, w1, hrun, hr, resumable_iff (failing_lunSwitches 3) (divertedDisk_due 3) (machine_disk divertedDisk)
    (fun _ => rfl) (failing_transfer 3 divertedDisk) hrun hr⟩

/-- When the read of the secondary header, the fifth transfer of `UPDATE_BACKUP`, fails,
    repeating `UPDATE_BACKUP` with working input and output returns -1. -/
theorem not_resumable_divertedDisk : DueIn (failing 4) .UPDATE_BACKUP divertedDisk ∧ ∃ r w1 w2,
    prepare_partitions (failing 4) .UPDATE_BACKUP BLK_DEV_FILE (machine divertedDisk) = .ok r w1 ∧
    r ≠ 0 ∧ prepare_partitions (failing 4).mended .UPDATE_BACKUP BLK_DEV_FILE w1 = .ok (-1) w2 := by
  have hvalid : pairedDisk.Valid (failing 4).crc32 := pairedDisk_valid
  obtain ⟨r, w1, hrun, hr, hexec⟩ := failing_update_backup (k := 4) (by decide)
  obtain ⟨w2, hrun2⟩ := restore_refused (failing_lunSwitches 4) hvalid (divertedDisk_fits)
    (startCopies_due _ _ .restore) (divertedDisk_disk 4)
    (grants_of_single_failure (fun _ => rfl) (failing_transfer 4 divertedDisk)) (Nat.le_refl 4) hexec
  exact ⟨divertedDisk_due 4, r, w1, w2, hrun, hr, hrun2⟩

end gpt_utils
