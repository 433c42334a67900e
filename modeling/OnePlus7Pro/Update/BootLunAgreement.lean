import OnePlus7Pro.Update.Resume

open regions effects twins

namespace gpt_utils

/-- The boot LUN is B exactly when the primary header of the device is not valid. -/
def World.Agrees (crc : Buffer → UInt32) (fd : String) (w : World) : Prop :=
  ∃ device, w.disks fd = some device ∧
    (w.boot_lun = BOOT_LUN_B_ID ↔ headerState crc (device.header .PRIMARY_GPT) ≠ .GPT_OK)

/-- A stage that is due and gets as far as switching the boot LUN, which takes nine calls
    and two transfers, goes on to write the primary header. -/
def Env.KeepsAgreement (env : Env) (fd : String) (w : World) (stage : boot_update_stage) : Prop :=
  ∀ device, w.disks fd = some device →
    headerState env.crc32 (device.header .SECONDARY_GPT) = .GPT_OK → env.Grants w 9 2 →
    match stage with
    | .UPDATE_MAIN =>
      headerState env.crc32 (device.header .PRIMARY_GPT) = .GPT_OK →
      env.locates_xbl .BACKUP_BOOT = true → device.handledPairs env ≠ [] ∧ env.Grants w 15 9
    | .UPDATE_BACKUP =>
      headerState env.crc32 (device.header .PRIMARY_GPT) = .GPT_BAD_SIGNATURE →
        env.locates_xbl .NORMAL_BOOT = true → env.Grants w 11 4
    | .UPDATE_FINALIZE => True

/-- The device is described by copies of which the primary one bears the given mark. -/
def World.Marked (crc : Buffer → UInt32) (fd : String) (disk : Disk) (w : World) (primary : Bool) :
    Prop :=
  ∃ copies : Copies Buffer, disk.Fits copies.stored ∧ w.disks fd = some (disk.holding crc copies) ∧
    copies.primary = primary

variable {env : Env} {w w' : World} {fd : String} {disk : Disk} {copies : Copies Buffer}

theorem World.Marked.agrees_iff {crc : Buffer → UInt32} (hvalid : disk.Valid crc) {primary : Bool}
    (hmarked : w.Marked crc fd disk primary) :
    w.Agrees crc fd ↔ (w.boot_lun = BOOT_LUN_B_ID ↔ primary = false) := by
  obtain ⟨copies, hfits, hdisk, rfl⟩ := hmarked
  have hstate : headerState crc ((disk.holding crc copies).header .PRIMARY_GPT) ≠ .GPT_OK ↔
      copies.primary = false := by
    rw [headerState_holding_primary hvalid hfits, ne_eq, signature_eq_ok_iff, Bool.not_eq_true]
  rw [← hstate]
  constructor
  · rintro ⟨device, hdevice, h⟩
    rw [hdisk] at hdevice
    cases hdevice
    exact h
  · exact fun h => ⟨_, hdisk, h⟩

theorem marked_of_valid {crc : Buffer → UInt32} (hvalid : disk.Valid crc)
    (hdisk : w.disks fd = some disk) :
    w.Marked crc fd disk true :=
  ⟨disk.ownCopies, hvalid.length_pentries _, hdisk.trans (congrArg some (holding_ownCopies hvalid).symm), rfl⟩

theorem handledPairs_holding (hvalid : disk.Valid env.crc32) (hfits : disk.Fits copies.stored) :
    (disk.holding env.crc32 copies).handledPairs env = disk.handledPairs env := by
  have hlayout := sameLayout_holding hvalid hfits .PRIMARY_GPT
  rw [Disk.handledPairs, pentries_holding_primary hvalid hfits, hlayout.pentry_size, hlayout.count,
    Disk.handledPairs]

/-- Fewer calls and transfers than are granted are granted too. -/
theorem Env.Grants.mono {calls transfers calls' transfers' : Nat} (h : env.Grants w calls transfers)
    (hcalls : calls' ≤ calls) (htransfers : transfers' ≤ transfers) :
    env.Grants w calls' transfers' :=
  ⟨fun n hn => h.1 n (Nat.lt_of_lt_of_le hn hcalls), fun n hn => h.2 n (Nat.lt_of_lt_of_le hn htransfers)⟩

/-- Writing to a device leaves the boot LUN alone. -/
theorem replayLun_actEvents (crc : Buffer → UInt32) (fd : String) (disk : Disk) (lun : Nat)
    (copies : Copies Buffer) (acts : List (Act Buffer)) :
    replayLun lun (actEvents crc fd disk copies acts) = lun := by
  induction acts generalizing copies with
  | nil => rfl
  | cons act acts ih =>
    rw [actEvents, actSteps, List.flatMap_cons, replayLun_append]
    have hact : replayLun lun (actStep crc fd disk (copies.apply act) act).events = lun := by
      cases act <;> rfl
    rw [hact]
    exact ih (copies.apply act)

theorem replayLun_of_start {acts : List (Act Buffer)} {done : List Event}
    (hdone : done <+: actEvents env.crc32 fd disk copies acts) (lun : Nat) :
    replayLun lun done = lun := by
  obtain ⟨acts', _, rfl⟩ := prefix_actEvents hdone
  exact replayLun_actEvents _ _ _ _ _ acts'

/-- The boot LUN after a script that switches it and then writes to the device. -/
theorem boot_lun_after {init rest : List Step} {id : Nat} {acts : List (Act Buffer)}
    (hinit : init.flatMap Step.events = [])
    (hrest : rest.flatMap Step.events = actEvents env.crc32 fd disk copies acts)
    {calls transfers : Nat} (hcalls : callCount (init ++ [.boot_lun id]) = calls)
    (htransfers : transferCount (init ++ [.boot_lun id]) = transfers)
    (hexec : w' = (env.steps.exec ((init ++ [.boot_lun id]) ++ rest) w).1) :
    (env.Grants w calls transfers → w'.boot_lun = id) ∧
    (¬ env.Grants w calls transfers → w'.boot_lun = w.boot_lun) := by
  have hafter := (exec_after env ((init ++ [.boot_lun id]) ++ rest) w).boot_lun
  have hgrants := exec_iff env (init ++ [.boot_lun id]) w
  rw [← hexec] at hafter
  rw [hcalls, htransfers] at hgrants
  rw [← hgrants, hafter]
  rcases effect_cases env init rest (.boot_lun id) w with ⟨hgranted, done, hdone, heffect⟩ | ⟨hrefused, heffect⟩
  · refine ⟨fun _ => ?_, fun h => absurd hgranted h⟩
    rw [heffect, List.flatMap_append, hinit, List.nil_append, replayLun_append]
    exact replayLun_of_start (hrest ▸ hdone) id
  · refine ⟨fun h => absurd h (by rw [hrefused]; simp), fun _ => ?_⟩
    rw [hinit] at heffect
    rw [List.prefix_nil.mp heffect]
    rfl

section marks

variable (hvalid : disk.Valid env.crc32) (hfits : disk.Fits copies.stored)
  (hdisk : w.disks fd = some (disk.holding env.crc32 copies))

include hvalid hfits hdisk

/-- Acts that leave the mark of the primary copy alone keep it, wherever they stop. -/
theorem marked_of_start {acts : List (Act Buffer)} {stage : boot_update_stage}
    {luns events : List Event} (hacts : ∀ act ∈ acts, disk.ActFits act)
    (hmarks : ∀ good, .mark_primary good ∉ acts) (hluns : luns <+: lunEvents env stage)
    (hstart : events <+: luns ++ actEvents env.crc32 fd disk copies acts)
    (hafter : w.After events w') : w'.Marked env.crc32 fd disk copies.primary := by
  obtain ⟨acts', hfirst, hreplay⟩ := acts_of_start hvalid hfits hacts hluns hstart
  refine ⟨_, fits_foldl hfits fun act hact => hacts act (hfirst.subset hact), ?_,
    primary_foldl fun good h => hmarks good (hfirst.subset h)⟩
  rw [hafter.disk hdisk, hreplay]

omit hvalid in
/-- A script without lasting effect. -/
theorem marked_of_silent {script : List Step} (hscript : script.flatMap Step.events = [])
    (hexec : w' = (env.steps.exec script w).1) :
    w'.boot_lun = w.boot_lun ∧ w'.Marked env.crc32 fd disk copies.primary := by
  have hafter := exec_after env script w
  have heffect := effect_isPrefix env script w
  rw [hscript] at heffect
  rw [← hexec, List.prefix_nil.mp heffect] at hafter
  exact ⟨hafter.boot_lun, copies, hfits, hafter.disk hdisk, rfl⟩

/-- The mark of the primary copy, and the boot LUN, when no act that is due sets them. -/
theorem marked_of_dueActs {stage : boot_update_stage}
    (hmarks : ∀ good, .mark_primary good ∉ dueActs env disk copies stage)
    (hexec : w' = (env.steps.exec (stageScript env fd disk copies stage) w).1) :
    w'.Marked env.crc32 fd disk copies.primary ∧
    (lunEvents env stage = [] → w'.boot_lun = w.boot_lun) := by
  have hafter := exec_after env (stageScript env fd disk copies stage) w
  have hstart := effect_isPrefix env (stageScript env fd disk copies stage) w
  obtain ⟨luns, hluns, hevents⟩ := stageScript_events env fd disk copies stage
  rw [← hexec] at hafter
  rw [hevents] at hstart
  refine ⟨marked_of_start hvalid hfits hdisk (dueActs_fit hvalid copies stage) hmarks hluns hstart hafter,
    fun hlun => ?_⟩
  rw [hlun] at hluns
  rw [List.prefix_nil.mp hluns, List.nil_append] at hstart
  rw [hafter.boot_lun, replayLun_of_start hstart]

/-- The mark of the primary copy after a script that sets it. -/
theorem marked_after (init rest : List Step) (good : Bool) (acts acts' : List (Act Buffer))
    (stage : boot_update_stage) (hacts : ∀ act ∈ acts, disk.ActFits act)
    (hmarks : ∀ good, .mark_primary good ∉ acts) (hacts' : ∀ act ∈ acts', disk.ActFits act)
    (hmarks' : ∀ good, .mark_primary good ∉ acts')
    (hinit : init.flatMap Step.events = lunEvents env stage ++ actEvents env.crc32 fd disk copies acts)
    (hrest : rest.flatMap Step.events = actEvents env.crc32 fd disk
      ((acts.foldl Copies.apply copies).apply (.mark_primary good)) acts') {step : Step}
    (hstep : step = actStep env.crc32 fd disk ((acts.foldl Copies.apply copies).apply (.mark_primary good))
      (.mark_primary good)) {calls transfers : Nat} (hcalls : callCount (init ++ [step]) = calls)
    (htransfers : transferCount (init ++ [step]) = transfers)
    (hexec : w' = (env.steps.exec ((init ++ [step]) ++ rest) w).1) :
    (env.Grants w calls transfers → w'.Marked env.crc32 fd disk good) ∧
      (¬ env.Grants w calls transfers → w'.Marked env.crc32 fd disk copies.primary) := by
  have hafter := exec_after env ((init ++ [step]) ++ rest) w
  have hgrants := exec_iff env (init ++ [step]) w
  have hfits' := fits_foldl hfits hacts
  have hluns := List.prefix_refl (lunEvents env stage)
  rw [← hexec] at hafter
  rw [hcalls, htransfers] at hgrants
  rw [← hgrants]
  rcases effect_cases env init rest step w with ⟨hgranted, done, hdone, heffect⟩ | ⟨hrefused, heffect⟩
  · refine ⟨fun _ => ?_, fun h => absurd hgranted h⟩
    obtain ⟨acts'', hfirst, rfl⟩ := prefix_actEvents (hrest ▸ hdone)
    have hacts'' : ∀ act ∈ acts'', disk.ActFits act :=
      fun act hact => hacts' act (hfirst.subset hact)
    have hfits'' : disk.Fits ((acts.foldl Copies.apply copies).apply (.mark_primary good)).stored :=
      hfits'
    have hmark : replay fd (disk.holding env.crc32 (acts.foldl Copies.apply copies)) step.events =
        disk.holding env.crc32 ((acts.foldl Copies.apply copies).apply (.mark_primary good)) := by
      rw [hstep]
      exact replay_actStep hvalid hfits' trivial
    refine ⟨_, fits_foldl hfits'' hacts'', ?_, primary_foldl fun good h => hmarks' good (hfirst.subset h)⟩
    rw [hafter.disk hdisk, heffect, List.flatMap_append, hinit, replay_append, replay_append,
      replay_append, lunEvents_onDisk env stage hluns, replay_actEvents hvalid hfits hacts,
      List.flatMap_singleton, hmark,
      replay_actEvents hvalid hfits'' hacts'']
  · refine ⟨fun h => absurd h (by rw [hrefused]; simp), fun _ => ?_⟩
    rw [hinit] at heffect
    exact marked_of_start hvalid hfits hdisk hacts hmarks hluns heffect hafter

end marks

section stages

variable (huses : env.uses_xbl = true)

include huses

theorem lunSteps_located {chain : boot_chain} (hlocates : env.locates_xbl chain = true) :
    lunSteps env chain = [.call, .call] ++ [.boot_lun (boot_lun_id chain)] := by
  rw [lunSteps, huses, hlocates]
  rfl

theorem lun_fails_eq (chain : boot_chain) : env.lun_fails chain = !env.locates_xbl chain := by
  rw [Env.lun_fails, huses, Bool.true_and]

/-- A stage for which the boot LUN is not found does not switch it. -/
theorem lunEvents_unlocated {stage : boot_update_stage} (hfails : env.stage_fails stage = true) :
    lunEvents env stage = [] := by
  have hlun (chain : boot_chain) (h : env.lun_fails chain = true) : lunSteps env chain = [] := by
    rw [lun_fails_eq huses, Bool.not_eq_true'] at h
    rw [lunSteps, h, Bool.and_false]
    rfl
  cases stage with
  | UPDATE_MAIN => rw [lunEvents, stageLun, hlun _ hfails]; rfl
  | UPDATE_BACKUP => rw [lunEvents, stageLun, hlun _ hfails]; rfl
  | UPDATE_FINALIZE => rfl

/-- The boot LUN after `UPDATE_MAIN` or `UPDATE_BACKUP`, which switch it with their ninth
    call, after two transfers. -/
theorem boot_lun_after_stage {stage : Stage} {chain : boot_chain} (hdue : copies.due = some stage)
    (hchain : stageLun env (updateStage stage) = lunSteps env chain)
    (hlocates : env.locates_xbl chain = true) (hfails : env.stage_fails (updateStage stage) = false)
    (hexec : w' = (env.steps.exec (stageScript env fd disk copies (updateStage stage)) w).1) :
    (env.Grants w 9 2 → w'.boot_lun = boot_lun_id chain) ∧
    (¬ env.Grants w 9 2 → w'.boot_lun = w.boot_lun) := by
  have hscript : stageScript env fd disk copies (updateStage stage) =
      ((openScript disk ++ [.call, .call]) ++ [.boot_lun (boot_lun_id chain)]) ++
        performScript env fd disk copies (updateStage stage) := by
    rw [stageScript_due hdue hfails, hchain, lunSteps_located huses hlocates]
    simp only [List.append_assoc]
  refine boot_lun_after ?_ (performScript_events env fd disk copies _) rfl rfl (hscript ▸ hexec)
  rw [List.flatMap_append, openScript_events]
  rfl

section due

variable (hvalid : disk.Valid env.crc32) (hfits : disk.Fits copies.stored)
  (hdisk : w.disks fd = some (disk.holding env.crc32 copies))

include hvalid hfits hdisk

/-- `UPDATE_MAIN` marks the primary copy with its ninth transfer, when there is a pair to exchange. -/
theorem marked_after_update_main (hdue : copies.due = some .divert)
    (hlocates : env.locates_xbl .BACKUP_BOOT = true) (hpairs : disk.handledPairs env ≠ [])
    (hexec : w' = (env.steps.exec (stageScript env fd disk copies .UPDATE_MAIN) w).1) :
    (env.Grants w 15 9 → w'.Marked env.crc32 fd disk false) ∧
      (¬ env.Grants w 15 9 → w'.Marked env.crc32 fd disk copies.primary) := by
  have hnothing : ¬ disk.NothingToDo env .BACKUP_BOOT := fun h => hpairs h.2
  have hacts : chainActs env disk .BACKUP_BOOT =
      [.record (disk.backupPentries env), .store (disk.backupPentries env)] := if_neg hnothing
  have hscript : stageScript env fd disk copies .UPDATE_MAIN =
      ((openScript disk ++ (([.call, .call] ++ [.boot_lun BOOT_LUN_B_ID]) ++ (chainReads disk ++
        (actSteps env.crc32 fd disk copies (chainActs env disk .BACKUP_BOOT) ++ readScript disk .PRIMARY_GPT)))) ++
        [actStep env.crc32 fd disk (((chainActs env disk .BACKUP_BOOT).foldl Copies.apply copies).apply
          (.mark_primary false)) (.mark_primary false)]) ++ [] := by
    refine (stageScript_due hdue (by rw [updateStage, Env.stage_fails, lun_fails_eq huses, hlocates]; rfl)).trans ?_
    rw [updateStage, stageLun, lunSteps_located huses hlocates, performScript, if_neg hnothing]
    simp only [actSteps, List.append_assoc, List.append_nil]
    rfl
  have hmarks (good : Bool) : Act.mark_primary good ∉ chainActs env disk .BACKUP_BOOT := by
    rw [hacts]
    simp
  have hlength : (chainActs env disk .BACKUP_BOOT).length = 2 := by
    rw [hacts]
    rfl
  refine marked_after hvalid hfits hdisk _ [] false (chainActs env disk .BACKUP_BOOT) [] .UPDATE_MAIN
    (chainActs_fit hvalid _) hmarks (by simp) (by simp) ?_ rfl rfl ?_ ?_ (hscript ▸ hexec)
  · rw [List.flatMap_append, openScript_events, List.flatMap_append, List.flatMap_append,
      List.flatMap_append, List.flatMap_append, chainReads_events, readScript_events, List.append_nil,
      lunEvents, stageLun,
      lunSteps_located huses hlocates]
    rfl
  · simp only [callCount_append, callCount_openScript, counts_chainReads, counts_actSteps,
      callCount_readScript_primary]
    rfl
  · simp only [transferCount_append, transferCount_openScript, counts_chainReads, counts_actSteps,
      transferCount_readScript, hlength]
    rfl

/-- `UPDATE_BACKUP` marks the primary copy with its fourth transfer. -/
theorem marked_after_update_backup (hdue : copies.due = some .restore)
    (hlocates : env.locates_xbl .NORMAL_BOOT = true)
    (hexec : w' = (env.steps.exec (stageScript env fd disk copies .UPDATE_BACKUP) w).1) :
    (env.Grants w 11 4 → w'.Marked env.crc32 fd disk true) ∧
      (¬ env.Grants w 11 4 → w'.Marked env.crc32 fd disk copies.primary) := by
  have hscript : stageScript env fd disk copies .UPDATE_BACKUP =
      ((openScript disk ++ (([.call, .call] ++ [.boot_lun BOOT_LUN_A_ID]) ++ readScript disk .PRIMARY_GPT)) ++
        [actStep env.crc32 fd disk (copies.apply (.mark_primary true)) (.mark_primary true)]) ++
        (readScript disk .SECONDARY_GPT ++ actSteps env.crc32 fd disk (copies.apply (.mark_primary true))
          [.mark_secondary false]) := by
    refine (stageScript_due hdue (by rw [updateStage, Env.stage_fails, lun_fails_eq huses, hlocates]; rfl)).trans ?_
    rw [updateStage, stageLun, lunSteps_located huses hlocates, performScript]
    simp only [actSteps, List.append_assoc]
    rfl
  refine marked_after hvalid hfits hdisk _ (readScript disk .SECONDARY_GPT ++ actSteps env.crc32 fd disk
    (copies.apply (.mark_primary true)) [.mark_secondary false]) true [] [.mark_secondary false] .UPDATE_BACKUP
    (by simp) (by simp) (by simp [Disk.ActFits]) (by simp) ?_ ?_ rfl ?_ ?_ (hscript ▸ hexec)
  · rw [List.flatMap_append, openScript_events, List.flatMap_append, readScript_events, lunEvents,
      stageLun, lunSteps_located huses hlocates]
    rfl
  · rw [List.flatMap_append, readScript_events]
    rfl
  · simp only [callCount_append, callCount_openScript, callCount_readScript_primary]
    rfl
  · simp only [transferCount_append, transferCount_openScript, transferCount_readScript]
    rfl

omit huses in
/-- A stage that neither switches the boot LUN nor marks the primary copy keeps the agreement. -/
theorem agreement_kept {stage : boot_update_stage}
    (hmarks : ∀ good, .mark_primary good ∉ dueActs env disk copies stage)
    (hlun : lunEvents env stage = [])
    (hagrees : w.boot_lun = BOOT_LUN_B_ID ↔ copies.primary = false)
    (hexec : w' = (env.steps.exec (stageScript env fd disk copies stage) w).1) :
    ∃ primary, w'.Marked env.crc32 fd disk primary ∧
      (w'.boot_lun = BOOT_LUN_B_ID ↔ primary = false) := by
  obtain ⟨hmarked, hkept⟩ := marked_of_dueActs hvalid hfits hdisk hmarks hexec
  exact ⟨_, hmarked, by rw [hkept hlun]; exact hagrees⟩

omit huses hvalid hfits hdisk in
/-- A stage switches the boot LUN before it marks the primary copy: the two agree after it unless
    only the switch is reached. -/
theorem agreement_of_switch {boot_lun : Nat} {good : Bool} {reached marked : Prop}
    (hlun : boot_lun = BOOT_LUN_B_ID ↔ good = false)
    (hagrees : w.boot_lun = BOOT_LUN_B_ID ↔ (!good) = false) (hlater : marked → reached)
    (hswitched : reached → w'.boot_lun = boot_lun) (hkept : ¬ reached → w'.boot_lun = w.boot_lun)
    (hmarked : marked → w'.Marked env.crc32 fd disk good)
    (hunmarked : ¬ marked → w'.Marked env.crc32 fd disk !good) :
    ∃ primary, w'.Marked env.crc32 fd disk primary ∧
      ((w'.boot_lun = BOOT_LUN_B_ID ↔ primary = false) ↔ (reached → marked)) := by
  by_cases hmark : marked
  · refine ⟨good, hmarked hmark, ?_⟩
    rw [hswitched (hlater hmark)]
    exact iff_of_true hlun fun _ => hmark
  · refine ⟨!good, hunmarked hmark, ?_⟩
    by_cases hreached : reached
    · rw [hswitched hreached, hlun]
      exact iff_of_false (by cases good <;> decide) fun h => hmark (h hreached)
    · rw [hkept hreached]
      exact iff_of_true hagrees fun h => absurd h hreached

/-- `UPDATE_MAIN`, when it is due, keeps the agreement exactly when it either does not
    reach the switch of the boot LUN or goes on to mark the primary copy. -/
theorem agreement_of_update_main (hdue : copies.due = some .divert)
    (hlocates : env.locates_xbl .BACKUP_BOOT = true)
    (hagrees : w.boot_lun = BOOT_LUN_B_ID ↔ copies.primary = false)
    (hexec : w' = (env.steps.exec (stageScript env fd disk copies .UPDATE_MAIN) w).1) :
    ∃ primary, w'.Marked env.crc32 fd disk primary ∧
      ((w'.boot_lun = BOOT_LUN_B_ID ↔ primary = false) ↔
        (env.Grants w 9 2 → disk.handledPairs env ≠ [] ∧ env.Grants w 15 9)) := by
  have hprimary : copies.primary = true := (due_eq_some_iff.mp hdue).1
  have hfails : env.stage_fails .UPDATE_MAIN = false := by
    rw [Env.stage_fails, lun_fails_eq huses, hlocates]
    rfl
  obtain ⟨hswitched, hkept⟩ := boot_lun_after_stage huses hdue rfl hlocates hfails hexec
  rw [hprimary] at hagrees
  refine agreement_of_switch (iff_of_true rfl rfl) hagrees (fun h => h.2.mono (by decide) (by decide))
    hswitched hkept (fun h => ?_) fun h => ?_
  · exact (marked_after_update_main huses hvalid hfits hdisk hdue hlocates h.1 hexec).1 h.2
  · rw [Bool.not_false, ← hprimary]
    by_cases hpairs : disk.handledPairs env = []
    · have hacts : dueActs env disk copies .UPDATE_MAIN = [] := by
        have hnothing := performActs_eq env disk .divert
        rw [if_pos ⟨rfl, hpairs⟩] at hnothing
        rw [dueActs, show performActs env disk .UPDATE_MAIN = [] from hnothing, ite_self]
      exact (marked_of_dueActs hvalid hfits hdisk (by simp [hacts]) hexec).1
    · exact (marked_after_update_main huses hvalid hfits hdisk hdue hlocates hpairs hexec).2
        fun hgrants => h ⟨hpairs, hgrants⟩

/-- `UPDATE_BACKUP` does likewise. -/
theorem agreement_of_update_backup (hdue : copies.due = some .restore)
    (hlocates : env.locates_xbl .NORMAL_BOOT = true)
    (hagrees : w.boot_lun = BOOT_LUN_B_ID ↔ copies.primary = false)
    (hexec : w' = (env.steps.exec (stageScript env fd disk copies .UPDATE_BACKUP) w).1) :
    ∃ primary, w'.Marked env.crc32 fd disk primary ∧
      ((w'.boot_lun = BOOT_LUN_B_ID ↔ primary = false) ↔ (env.Grants w 9 2 → env.Grants w 11 4)) := by
  have hprimary : copies.primary = false := (due_eq_some_iff.mp hdue).1
  have hfails : env.stage_fails .UPDATE_BACKUP = false := by
    rw [Env.stage_fails, lun_fails_eq huses, hlocates]
    rfl
  obtain ⟨hswitched, hkept⟩ := boot_lun_after_stage huses hdue rfl hlocates hfails hexec
  obtain ⟨hmarked, hunmarked⟩ :=
    marked_after_update_backup huses hvalid hfits hdisk hdue hlocates hexec
  rw [hprimary] at hagrees hunmarked
  exact agreement_of_switch (iff_of_false (by decide) (by decide)) hagrees
    (fun h => h.mono (by decide) (by decide)) hswitched hkept hmarked hunmarked

omit huses in
theorem keepsAgreement_update_main_iff : env.KeepsAgreement fd w .UPDATE_MAIN ↔
    (copies.due = some .divert → env.locates_xbl .BACKUP_BOOT = true → env.Grants w 9 2 →
      disk.handledPairs env ≠ [] ∧ env.Grants w 15 9) := by
  simp only [Env.KeepsAgreement, hdisk, Option.some.injEq, forall_eq',
    headerState_holding_primary hvalid hfits, headerState_holding_secondary hvalid hfits,
    handledPairs_holding hvalid hfits, signature_eq_ok_iff]
  rw [due_eq_some_iff]
  exact ⟨fun h hdue hlocates hgrants => h hdue.2 hgrants hdue.1 hlocates,
    fun h hsecondary hgrants hprimary hlocates => h ⟨hprimary, hsecondary⟩ hlocates hgrants⟩

omit huses in
theorem keepsAgreement_update_backup_iff : env.KeepsAgreement fd w .UPDATE_BACKUP ↔
    (copies.due = some .restore → env.locates_xbl .NORMAL_BOOT = true → env.Grants w 9 2 → env.Grants w 11 4) := by
  simp only [Env.KeepsAgreement, hdisk, Option.some.injEq, forall_eq',
    headerState_holding_primary hvalid hfits, headerState_holding_secondary hvalid hfits,
    signature_eq_ok_iff, signature_eq_bad_iff]
  rw [due_eq_some_iff]
  exact ⟨fun h hdue hlocates hgrants => h hdue.2 hgrants hdue.1 hlocates,
    fun h hsecondary hgrants hprimary hlocates => h ⟨hprimary, hsecondary⟩ hlocates hgrants⟩

/-- What a stage does to the agreement. -/
theorem agreement_of_stage (stage : boot_update_stage)
    (hagrees : w.boot_lun = BOOT_LUN_B_ID ↔ copies.primary = false)
    (hexec : w' = (env.steps.exec (stageScript env fd disk copies stage) w).1) :
    ∃ primary, w'.Marked env.crc32 fd disk primary ∧
      ((w'.boot_lun = BOOT_LUN_B_ID ↔ primary = false) ↔ env.KeepsAgreement fd w stage) := by
  have hkept (hmarks : ∀ good, .mark_primary good ∉ dueActs env disk copies stage) (hlun : lunEvents env stage = [])
      (hkeeps : env.KeepsAgreement fd w stage) : ∃ primary, w'.Marked env.crc32 fd disk primary ∧
        ((w'.boot_lun = BOOT_LUN_B_ID ↔ primary = false) ↔ env.KeepsAgreement fd w stage) := by
    obtain ⟨primary, hmarked, hagrees'⟩ :=
      agreement_kept hvalid hfits hdisk hmarks hlun hagrees hexec
    exact ⟨primary, hmarked, iff_of_true hagrees' hkeeps⟩
  have hidle (hdue : ¬ copies.due.map updateStage = some stage) (hkeeps : env.KeepsAgreement fd w stage) :
      ∃ primary, w'.Marked env.crc32 fd disk primary ∧
        ((w'.boot_lun = BOOT_LUN_B_ID ↔ primary = false) ↔ env.KeepsAgreement fd w stage) := by
    have hsilent : (stageScript env fd disk copies stage).flatMap Step.events = [] := by
      rw [stageScript, if_neg hdue, List.append_nil, openScript_events]
    obtain ⟨hlun, hmarked⟩ := marked_of_silent hfits hdisk hsilent hexec
    exact ⟨_, hmarked, iff_of_true (hlun ▸ hagrees) hkeeps⟩
  have hunlocated (hfails : env.stage_fails stage = true) (hkeeps : env.KeepsAgreement fd w stage) :
      ∃ primary, w'.Marked env.crc32 fd disk primary ∧
        ((w'.boot_lun = BOOT_LUN_B_ID ↔ primary = false) ↔ env.KeepsAgreement fd w stage) := by
    refine hkept ?_ (lunEvents_unlocated huses hfails) hkeeps
    rw [dueActs, if_neg fun h => absurd h.2 (by simp [hfails])]
    simp
  -- a stage that is due switches the boot LUN if it finds it
  have hswitching {due : Stage} {chain : boot_chain} {granted : Prop} (hstage : updateStage due = stage)
      (hfails : env.stage_fails stage = !env.locates_xbl chain)
      (hkeeps : env.KeepsAgreement fd w stage ↔
        (copies.due = some due → env.locates_xbl chain = true → granted))
      (hswitches : copies.due = some due → env.locates_xbl chain = true →
        ∃ primary, w'.Marked env.crc32 fd disk primary ∧
          ((w'.boot_lun = BOOT_LUN_B_ID ↔ primary = false) ↔ granted)) :
      ∃ primary, w'.Marked env.crc32 fd disk primary ∧
        ((w'.boot_lun = BOOT_LUN_B_ID ↔ primary = false) ↔ env.KeepsAgreement fd w stage) := by
    by_cases hdue : copies.due = some due
    · cases hlocates : env.locates_xbl chain with
      | true =>
        obtain ⟨primary, hmarked, h⟩ := hswitches hdue hlocates
        refine ⟨primary, hmarked, h.trans ?_⟩
        rw [hkeeps]
        exact ⟨fun h _ _ => h, fun h => h hdue hlocates⟩
      | false =>
        refine hunlocated (by rw [hfails, hlocates]; rfl) (hkeeps.mpr fun _ h => ?_)
        rw [hlocates] at h
        cases h
    · refine hidle (fun h => hdue ?_) (hkeeps.mpr fun h => absurd h hdue)
      exact Option.map_injective updateStage_injective (h.trans (congrArg some hstage.symm))
  cases stage with
  | UPDATE_MAIN =>
    exact hswitching rfl (lun_fails_eq huses _) (keepsAgreement_update_main_iff hvalid hfits hdisk)
      fun hdue hlocates => agreement_of_update_main huses hvalid hfits hdisk hdue hlocates hagrees hexec
  | UPDATE_BACKUP =>
    exact hswitching rfl (lun_fails_eq huses _) (keepsAgreement_update_backup_iff hvalid hfits hdisk)
      fun hdue hlocates => agreement_of_update_backup huses hvalid hfits hdisk hdue hlocates hagrees hexec
  | UPDATE_FINALIZE =>
    refine hkept (fun good hmark => ?_) rfl fun _ _ _ _ => trivial
    rw [dueActs] at hmark
    split at hmark
    · simp [performActs, chainActs, Disk.NothingToDo] at hmark
    · cases hmark

end due

end stages

/-- Each call keeps the agreement of a device in the course of updates exactly under the condition. -/
theorem prepare_partitions_agreement (huses : env.uses_xbl = true) (hio : env.FullOrFail)
    (hvalid : disk.Valid env.crc32) {primary : Bool} (hmarked : w.Marked env.crc32 fd disk primary)
    (hagrees : w.Agrees env.crc32 fd) (stage : boot_update_stage) :
    Returns (prepare_partitions env stage fd) w fun _ w' =>
      ∃ primary', w'.Marked env.crc32 fd disk primary' ∧
        (w'.Agrees env.crc32 fd ↔ env.KeepsAgreement fd w stage) := by
  rw [hmarked.agrees_iff hvalid] at hagrees
  obtain ⟨copies, hfits, hdisk, rfl⟩ := hmarked
  refine (prepare_partitions_follows hio hvalid hfits hdisk stage).state.mono fun _ w' hexec => ?_
  obtain ⟨primary', hmarked', h⟩ := agreement_of_stage huses hvalid hfits hdisk stage hagrees hexec
  exact ⟨primary', hmarked', (hmarked'.agrees_iff hvalid).trans h⟩

/-- On a target with `xbl` and `xblbak`, the boot LUN and the primary header of a valid
    device agree after every run of calls that each meet the condition, and the next call
    keeps them so exactly when it meets the condition too. -/
theorem boot_lun_agrees_iff (huses : env.uses_xbl = true) (hio : env.FullOrFail)
    (hvalid : disk.Valid env.crc32) (hdisk : w.disks fd = some disk)
    (hlun : w.boot_lun = BOOT_LUN_A_ID) {stages : List boot_update_stage}
    (hrun : Run (fun stage => prepare_partitions env stage fd) (env.KeepsAgreement fd) w stages w') :
    w'.Agrees env.crc32 fd ∧ ∀ stage, Returns (prepare_partitions env stage fd) w' fun _ w'' =>
      (w''.Agrees env.crc32 fd ↔ env.KeepsAgreement fd w' stage) := by
  have hstart := marked_of_valid hvalid hdisk
  have hagrees : w.Agrees env.crc32 fd := by
    rw [hstart.agrees_iff hvalid, hlun]
    decide
  have hinv :=
    Run.invariant (I := fun w => (∃ primary, w.Marked env.crc32 fd disk primary) ∧ w.Agrees env.crc32 fd)
    (fun w1 stage r w2 h1 hkeeps hstep => ?_) hrun ⟨⟨true, hstart⟩, hagrees⟩
  · obtain ⟨⟨primary, hmarked⟩, hagrees'⟩ := hinv
    refine ⟨hagrees', fun stage => ?_⟩
    refine (prepare_partitions_agreement huses hio hvalid hmarked hagrees' stage).mono fun _ w'' h => ?_
    obtain ⟨_, _, hiff⟩ := h
    exact hiff
  · obtain ⟨⟨primary, hmarked⟩, hagrees'⟩ := h1
    obtain ⟨primary', hmarked', hiff⟩ := Returns.of_run
      (prepare_partitions_agreement huses hio hvalid hmarked hagrees' stage) hstep
    exact ⟨⟨primary', hmarked'⟩, hiff.mpr hkeeps⟩

theorem ufs_uses_xbl : ufs.uses_xbl = true := by decide +kernel

theorem ufs_locates_xbl (chain : boot_chain) : ufs.locates_xbl chain = true := by
  cases chain <;> decide +kernel

theorem ufs_grants (w : World) (calls transfers : Nat) : ufs.Grants w calls transfers :=
  ⟨fun _ _ => rfl, fun _ _ => rfl⟩

theorem singleDisk_handledPairs_ufs : singleDisk.handledPairs ufs = [] := by
  rw [singleDisk, handledPairs_formatted _ _ (length_namedEntries _)]
  decide +kernel

theorem boot_lun_agrees_pairedDisk : ∃ w',
    Run (fun stage => prepare_partitions ufs stage BLK_DEV_FILE) (ufs.KeepsAgreement BLK_DEV_FILE) (machine pairedDisk)
      [.UPDATE_MAIN] w' ∧
    w'.Agrees zlib_crc32 BLK_DEV_FILE ∧
    ∀ stage, Returns (prepare_partitions ufs stage BLK_DEV_FILE) w' fun _ w'' =>
      (w''.Agrees zlib_crc32 BLK_DEV_FILE ↔ ufs.KeepsAgreement BLK_DEV_FILE w' stage) := by
  have hwf : pairedDisk.WellFormed ufs.crc32 := pairedDisk_wellFormed
  have hdisk : (machine pairedDisk).disks BLK_DEV_FILE = some (pairedDisk.holding ufs.crc32
      (pairedDisk.startCopies ufs .divert)) := congrArg some (holding_startCopies_divert hwf).symm
  obtain ⟨w', hmain, _⟩ :=
    prepare_partitions_completes ufs_working ufs_lunSwitches hwf.toValid .divert
    (fun _ => pairedDisk_handledPairs_ufs) hdisk
  have hkeeps : ufs.KeepsAgreement BLK_DEV_FILE (machine pairedDisk) .UPDATE_MAIN := by
    intro device hdevice _ _ _ _
    cases hdevice
    exact ⟨pairedDisk_handledPairs_ufs, ufs_grants _ _ _⟩
  have hrun : Run (fun stage => prepare_partitions ufs stage BLK_DEV_FILE) (ufs.KeepsAgreement BLK_DEV_FILE)
      (machine pairedDisk) [.UPDATE_MAIN] w' := .cons hkeeps hmain (.nil w')
  exact ⟨w', hrun, boot_lun_agrees_iff ufs_uses_xbl ufs_working.fullOrFail hwf.toValid rfl rfl hrun⟩

/-- On a device without backup partitions `UPDATE_MAIN` switches the boot LUN and returns 0,
    and leaves the primary header valid. -/
theorem boot_lun_disagrees_singleDisk :
    ufs.uses_xbl = true ∧ ufs.FullOrFail ∧ singleDisk.WellFormed zlib_crc32 ∧
    (machine singleDisk).boot_lun = BOOT_LUN_A_ID ∧
    ∃ w', prepare_partitions ufs .UPDATE_MAIN BLK_DEV_FILE (machine singleDisk) = .ok 0 w' ∧
      ¬ w'.Agrees zlib_crc32 BLK_DEV_FILE := by
  have hwf : singleDisk.WellFormed ufs.crc32 := singleDisk_wellFormed
  refine ⟨ufs_uses_xbl, ufs_working.fullOrFail, hwf, rfl, ?_⟩
  obtain ⟨w', _, hmain, _⟩ :=
    update_main_without_pairs ufs_working ufs_lunSwitches hwf singleDisk_handledPairs_ufs
    (machine_disk singleDisk)
  refine ⟨w', hmain, fun hagrees => ?_⟩
  have hmarked := marked_of_valid hwf.toValid (machine_disk singleDisk)
  have hstart : (machine singleDisk).Agrees ufs.crc32 BLK_DEV_FILE := by
    rw [hmarked.agrees_iff hwf.toValid]
    decide
  obtain ⟨_, _, hiff⟩ :=
    Returns.of_run (prepare_partitions_agreement ufs_uses_xbl ufs_working.fullOrFail hwf.toValid
    hmarked hstart .UPDATE_MAIN) hmain
  have hpairs :=
    hiff.mp hagrees singleDisk rfl (hwf.state _) (ufs_grants _ _ _) (hwf.state _) (ufs_locates_xbl _)
  exact hpairs.1 singleDisk_handledPairs_ufs

end gpt_utils
