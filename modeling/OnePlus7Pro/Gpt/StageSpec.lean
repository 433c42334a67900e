import OnePlus7Pro.Gpt.CopySteps
import OnePlus7Pro.Gpt.PreparePartitions

open regions effects twins

namespace gpt_utils

/-- The target switches its boot LUN, but the one of the chain is not found. -/
def Env.lun_fails (env : Env) (chain : boot_chain) : Bool := env.uses_xbl && !env.locates_xbl chain

/-- The steps of switching the boot LUN, if the target has one to switch. -/
def lunSteps (env : Env) (chain : boot_chain) : List Step :=
  if env.uses_xbl && env.locates_xbl chain then lunScript chain else []

/-- The acts of a stage that is due. -/
def performActs (env : Env) (disk : Disk) : boot_update_stage → List (Act Buffer)
  | .UPDATE_MAIN =>
    chainActs env disk .BACKUP_BOOT ++ if disk.NothingToDo env .BACKUP_BOOT then [] else [.mark_primary false]
  | .UPDATE_BACKUP => [.mark_primary true] ++ [.mark_secondary false]
  | .UPDATE_FINALIZE => chainActs env disk .NORMAL_BOOT ++ [.mark_secondary true]

/-- The steps of a stage that is due, once the boot LUN is switched. -/
def performScript (env : Env) (fd : String) (disk : Disk) (copies : Copies Buffer) :
    boot_update_stage → List Step
  | .UPDATE_MAIN =>
    (chainReads disk ++ actSteps env.crc32 fd disk copies (chainActs env disk .BACKUP_BOOT)) ++
      if disk.NothingToDo env .BACKUP_BOOT then []
      else readScript disk .PRIMARY_GPT ++ actSteps env.crc32 fd disk
        ((chainActs env disk .BACKUP_BOOT).foldl Copies.apply copies) [.mark_primary false]
  | .UPDATE_BACKUP =>
    (readScript disk .PRIMARY_GPT ++ actSteps env.crc32 fd disk copies [.mark_primary true]) ++
      (readScript disk .SECONDARY_GPT ++ actSteps env.crc32 fd disk (copies.apply (.mark_primary true))
        [.mark_secondary false])
  | .UPDATE_FINALIZE =>
    (chainReads disk ++ actSteps env.crc32 fd disk copies (chainActs env disk .NORMAL_BOOT)) ++
      (readScript disk .SECONDARY_GPT ++ actSteps env.crc32 fd disk
        ((chainActs env disk .NORMAL_BOOT).foldl Copies.apply copies) [.mark_secondary true])

/-- The boot LUN is to be switched for a stage, and this fails. -/
def Env.stage_fails (env : Env) : boot_update_stage → Bool
  | .UPDATE_MAIN => env.lun_fails .BACKUP_BOOT
  | .UPDATE_BACKUP => env.lun_fails .NORMAL_BOOT
  | .UPDATE_FINALIZE => false

/-- The steps of switching the boot LUN for a stage. -/
def stageLun (env : Env) : boot_update_stage → List Step
  | .UPDATE_MAIN => lunSteps env .BACKUP_BOOT
  | .UPDATE_BACKUP => lunSteps env .NORMAL_BOOT
  | .UPDATE_FINALIZE => []

/-- The steps of opening a device and reading the states of its headers. -/
def openScript (disk : Disk) : List Step :=
  [.call] ++ (readScript disk .PRIMARY_GPT ++ readScript disk .SECONDARY_GPT)

/-- The stage of the update that a stage of the protocol of the two copies is. -/
def updateStage : Stage → boot_update_stage
  | .divert => .UPDATE_MAIN
  | .restore => .UPDATE_BACKUP
  | .settle => .UPDATE_FINALIZE

theorem updateStage_injective : Function.Injective updateStage := by
  intro stage stage' h
  cases stage <;> cases stage' <;> first | rfl | cases h

/-- The steps of `prepare_partitions`. -/
def stageScript (env : Env) (fd : String) (disk : Disk) (copies : Copies Buffer)
    (stage : boot_update_stage) :
    List Step :=
  openScript disk ++
    if copies.due.map updateStage = some stage then
      stageLun env stage ++ if env.stage_fails stage then [] else performScript env fd disk copies stage
    else []

/-- The result of `prepare_partitions` when no call fails. -/
def stageValue (env : Env) (copies : Copies Buffer) (stage : boot_update_stage) : Int :=
  match copies.due.map updateStage with
  | none => -1
  | some due =>
    if stage.toInt = due.toInt - 1 then 0
    else if stage ≠ due then -1
    else if env.stage_fails stage then -1 else 0

variable {env : Env} {w w' : World} {fd : String} {disk : Disk} {copies : Copies Buffer}

theorem switch_boot_lun_follows (env : Env) (w : World) (chain : boot_chain) :
    env.steps.Follows (prepare_partitions.switch_boot_lun env chain) w (lunSteps env chain)
      (if env.lun_fails chain then -1 else 0) (· = -1) := by
  unfold prepare_partitions.switch_boot_lun lunSteps Env.lun_fails
  cases huses : env.uses_xbl with
  | true =>
    have h := gpt_utils_set_xbl_boot_partition_follows (w := w) huses chain
    simp only [Env.uses_xbl, Bool.and_eq_true] at huses
    rw [if_pos huses.1.1, huses.1.2, huses.2]
    simp only [Bool.not_true, Bool.or_self, Bool.false_eq_true, if_false, Bool.true_and]
    cases hlocates : env.locates_xbl chain <;> simpa [hlocates] using h
  | false =>
    simp only [Bool.false_and, Bool.false_eq_true, if_false]
    split
    · next hufs =>
      have hmissing : (!env.stat XBL_PRIMARY || !env.stat XBL_BACKUP) = true := by
        simp only [Env.uses_xbl, hufs, Bool.true_and, Bool.and_eq_false_iff] at huses
        simpa using huses
      rw [if_pos hmissing]
      exact Steps.Follows.pure
    · exact Steps.Follows.pure

theorem lunSteps_events_onDisk (env : Env) (chain : boot_chain) (fd : String) (disk : Disk) :
    replay fd disk ((lunSteps env chain).flatMap Step.events) = disk := by
  unfold lunSteps
  split <;> rfl

/-- The device once some acts are carried out. -/
theorem disk_after_acts (hvalid : disk.Valid env.crc32) (hfits : disk.Fits copies.stored)
    {reads : List Step} {acts : List (Act Buffer)} (hacts : ∀ act ∈ acts, disk.ActFits act)
    (hreads : reads.flatMap Step.events = [])
    (hexec : env.steps.exec (reads ++ actSteps env.crc32 fd disk copies acts) w = (w', true))
    (hdisk : w.disks fd = some (disk.holding env.crc32 copies)) :
    w'.disks fd = some (disk.holding env.crc32 (acts.foldl Copies.apply copies)) := by
  rw [disk_of_done hexec hdisk, List.flatMap_append, hreads, List.nil_append]
  exact congrArg some (replay_actEvents hvalid hfits hacts)

theorem chainActs_fit (hvalid : disk.Valid env.crc32) (chain : boot_chain) :
    ∀ act ∈ chainActs env disk chain, disk.ActFits act := by
  intro act hact
  unfold chainActs at hact
  split at hact
  · cases hact
  · simp only [List.mem_cons, List.not_mem_nil, or_false] at hact
    rcases hact with rfl | rfl
    · trivial
    · exact fits_chainPentries hvalid chain

/-- Where the boot LUN cannot be switched, nothing else is done. -/
private theorem after_switch {device : Disk} {chain : boot_chain} {rest : Sys Int}
    {script : List Step} (hdisk : w.disks fd = some device)
    (hrest : ∀ w', w'.disks fd = some device → env.steps.Follows rest w' script 0 (· = -1)) :
    env.steps.Follows (prepare_partitions.switch_boot_lun env chain >>= fun r => if r ≠ 0 then pure r else rest) w
      (lunSteps env chain ++ if env.lun_fails chain then [] else script) (if env.lun_fails chain then -1 else 0)
      (· = -1) := by
  refine (switch_boot_lun_follows env w chain).bind ?_ fun w' hexec => ?_
  · rintro a rfl
    exact ⟨-1, rfl, rfl⟩
  by_cases hfails : env.lun_fails chain = true
  · rw [if_pos hfails, if_pos hfails, if_pos (by decide)]
    exact Steps.Follows.pure
  · rw [if_neg hfails, if_neg hfails, if_neg (by decide)]
    refine hrest w' ?_
    rw [disk_of_done hexec hdisk, lunSteps_events_onDisk]

theorem signatures_of_due_none (hdue : copies.due = none) :
    signature copies.primary = .GPT_BAD_SIGNATURE ∧
    signature copies.secondary = .GPT_BAD_SIGNATURE := by
  obtain ⟨primary, secondary, recorded, stored⟩ := copies
  cases primary <;> cases secondary <;> simp_all [Copies.due]

/-- The stage that the program infers from the headers is the one that is due. -/
theorem internal_stage_of_due {due : Stage} (hdue : copies.due = some due) :
    ¬ (signature copies.primary = .GPT_BAD_SIGNATURE ∧ signature copies.secondary = .GPT_BAD_SIGNATURE) ∧
      prepare_partitions.internal_stage (signature copies.primary) (signature copies.secondary) =
        some (updateStage due) := by
  obtain ⟨primary, secondary, recorded, stored⟩ := copies
  cases primary <;> cases secondary <;> cases hdue <;> exact ⟨by simp [signature], rfl⟩

section perform

variable (hio : env.FullOrFail) (hvalid : disk.Valid env.crc32) (hfits : disk.Fits copies.stored)
  (hdisk : w.disks fd = some (disk.holding env.crc32 copies))

include hio hvalid hfits hdisk

theorem update_main_follows :
    env.steps.Follows (prepare_partitions.update_main env fd) w
      (lunSteps env .BACKUP_BOOT ++
        if env.lun_fails .BACKUP_BOOT then [] else performScript env fd disk copies .UPDATE_MAIN)
      (if env.lun_fails .BACKUP_BOOT then -1 else 0) (· = -1) := by
  refine after_switch hdisk fun w' hdisk' => ?_
  rw [performScript]
  refine (gpt2_set_boot_chain_copies_follows hio hvalid hfits hdisk' .BACKUP_BOOT).bind ?_ fun w'' hexec => ?_
  · rintro a rfl
    exact ⟨-1, rfl, rfl⟩
  by_cases hnothing : disk.NothingToDo env .BACKUP_BOOT
  · rw [if_pos hnothing, if_pos hnothing]
    exact Steps.Follows.pure
  · rw [if_neg hnothing, if_neg hnothing]
    exact gpt_set_state_primary_follows hio hvalid (fits_foldl hfits (chainActs_fit hvalid _))
      (disk_after_acts hvalid hfits (chainActs_fit hvalid _) (chainReads_events _) hexec hdisk') false

theorem update_backup_follows :
    env.steps.Follows (prepare_partitions.update_backup env fd) w
      (lunSteps env .NORMAL_BOOT ++
        if env.lun_fails .NORMAL_BOOT then [] else performScript env fd disk copies .UPDATE_BACKUP)
      (if env.lun_fails .NORMAL_BOOT then -1 else 0) (· = -1) := by
  refine after_switch hdisk fun w' hdisk' => ?_
  rw [performScript]
  refine (gpt_set_state_primary_follows hio hvalid hfits hdisk' true).bind ?_ fun w'' hexec => ?_
  · rintro a rfl
    exact ⟨-1, rfl, rfl⟩
  have hfits' : disk.Fits (copies.apply (.mark_primary true)).stored := hfits
  have hfit : ∀ act ∈ [Act.mark_primary true], disk.ActFits act := by simp [Disk.ActFits]
  have hdisk'' := disk_after_acts hvalid hfits hfit (readScript_events _ _) hexec hdisk'
  exact gpt_set_state_secondary_follows hio hvalid hfits' hdisk'' false

theorem update_finalize_follows :
    env.steps.Follows (prepare_partitions.update_finalize env fd) w
      (performScript env fd disk copies .UPDATE_FINALIZE) 0 (· = -1) := by
  rw [performScript]
  refine (gpt2_set_boot_chain_copies_follows hio hvalid hfits hdisk .NORMAL_BOOT).bind ?_ fun w' hexec => ?_
  · rintro a rfl
    exact ⟨-1, rfl, rfl⟩
  have hnothing : ¬ disk.NothingToDo env .NORMAL_BOOT := fun h => absurd h.1 (by decide)
  rw [if_neg hnothing]
  exact gpt_set_state_secondary_follows hio hvalid (fits_foldl hfits (chainActs_fit hvalid _))
    (disk_after_acts hvalid hfits (chainActs_fit hvalid _) (chainReads_events _) hexec hdisk) true

theorem perform_follows (stage : boot_update_stage) :
    env.steps.Follows (prepare_partitions.perform env fd stage) w
      (stageLun env stage ++ if env.stage_fails stage then [] else performScript env fd disk copies stage)
      (if env.stage_fails stage then -1 else 0) (· = -1) := by
  cases stage with
  | UPDATE_MAIN => exact update_main_follows hio hvalid hfits hdisk
  | UPDATE_BACKUP => exact update_backup_follows hio hvalid hfits hdisk
  | UPDATE_FINALIZE => exact update_finalize_follows hio hvalid hfits hdisk

/-- `prepare_partitions` carries out the stage that is due, and leaves the device alone
    when it is asked for another one. -/
theorem prepare_partitions_follows (stage : boot_update_stage) :
    env.steps.Follows (prepare_partitions env stage fd) w (stageScript env fd disk copies stage)
      (stageValue env copies stage) (· ≠ 0) := by
  have hsame (script : List Step) (hevents : script.flatMap Step.events = []) {w w' : World}
      (hexec : env.steps.exec script w = (w', true)) (hw : w.disks fd = some (disk.holding env.crc32 copies)) :
      w'.disks fd = some (disk.holding env.crc32 copies) := by
    rw [disk_of_done hexec hw, hevents, replay_nil]
  unfold stageScript openScript
  simp only [List.append_assoc]
  refine (open_device_follows env hdisk).bind ?_ fun w1 h1 => ?_
  · rintro a rfl
    exact ⟨-1, rfl, by decide⟩
  have hdisk1 := hsame _ rfl h1 hdisk
  refine (gpt_get_state_copies_follows hio hvalid hfits hdisk1 .PRIMARY_GPT).bind ?_ fun w2 h2 => ?_
  · rintro ⟨r, state⟩ hr
    exact ⟨1, if_pos (by simp_all), by decide⟩
  have hdisk2 := hsame _ (readScript_events _ _) h2 hdisk1
  refine (gpt_get_state_copies_follows hio hvalid hfits hdisk2 .SECONDARY_GPT).bind ?_ fun w3 h3 => ?_
  · rintro ⟨r, state⟩ hr
    exact ⟨1, if_pos (by simp_all), by decide⟩
  have hdisk3 := hsame _ (readScript_events _ _) h3 hdisk2
  have hfailed (a : Int) (ha : a = -1) : a ≠ 0 := by omega
  have hperform := (perform_follows hio hvalid hfits hdisk3 stage).mono hfailed
  simp only []
  rw [if_neg (not_not.mpr rfl), if_neg (not_or.mpr ⟨signature_ne_bad_crc _, signature_ne_bad_crc _⟩)]
  cases hdue : copies.due with
  | none =>
    rw [if_pos (signatures_of_due_none hdue), stageValue, hdue]
    exact Steps.Follows.pure
  | some due =>
    obtain ⟨hone, hinternal⟩ := internal_stage_of_due hdue
    rw [if_neg hone, hinternal, stageValue, hdue]
    simp only [Option.map_some, Option.some.injEq]
    by_cases hset : stage.toInt = (updateStage due).toInt - 1
    · rw [if_pos hset, if_pos hset, if_neg]
      · exact Steps.Follows.pure
      · rintro rfl
        omega
    · rw [if_neg hset, if_neg hset]
      by_cases hstage : stage = updateStage due
      · rw [if_neg (not_not.mpr hstage), if_neg (not_not.mpr hstage), if_pos hstage.symm]
        exact hperform
      · rw [if_pos hstage, if_pos hstage, if_neg fun h => hstage h.symm]
        exact Steps.Follows.pure

end perform

end gpt_utils
