import OnePlus7Pro.Gpt.Outcomes
import OnePlus7Pro.Gpt.StageSpec

open regions effects twins

namespace gpt_utils

/-- The acts that a call of `prepare_partitions` sets out to perform. -/
def dueActs (env : Env) (disk : Disk) (copies : Copies Buffer) (stage : boot_update_stage) :
    List (Act Buffer) :=
  if copies.due.map updateStage = some stage ∧ env.stage_fails stage = false then performActs env disk stage else []

variable {env : Env} {w w' : World} {fd : String} {disk : Disk} {copies : Copies Buffer}

/-- The acts of a stage are those of the protocol, unless there is nothing to exchange. -/
theorem performActs_eq (env : Env) (disk : Disk) (stage : Stage) :
    performActs env disk (updateStage stage) =
      if stage = .divert ∧ disk.handledPairs env = [] then []
      else stage.acts (disk.pentries .PRIMARY_GPT) (disk.backupPentries env) := by
  cases stage with
  | divert =>
    simp only [updateStage, performActs, chainActs, Disk.NothingToDo, true_and]
    split <;> rfl
  | restore => rfl
  | settle => rfl

theorem performActs_fit (hvalid : disk.Valid env.crc32) (stage : boot_update_stage) :
    ∀ act ∈ performActs env disk stage, disk.ActFits act := by
  intro act hact
  cases stage with
  | UPDATE_MAIN =>
    rcases List.mem_append.mp hact with h | h
    · exact chainActs_fit hvalid _ act h
    · split at h
      · cases h
      · rw [List.mem_singleton.mp h]
        trivial
  | UPDATE_BACKUP =>
    rcases List.mem_append.mp hact with h | h <;> rw [List.mem_singleton.mp h] <;> trivial
  | UPDATE_FINALIZE =>
    rcases List.mem_append.mp hact with h | h
    · exact chainActs_fit hvalid _ act h
    · rw [List.mem_singleton.mp h]
      trivial

theorem dueActs_fit (hvalid : disk.Valid env.crc32) (copies : Copies Buffer)
    (stage : boot_update_stage) :
    ∀ act ∈ dueActs env disk copies stage, disk.ActFits act := by
  intro act hact
  rw [dueActs] at hact
  split at hact
  · exact performActs_fit hvalid stage act hact
  · cases hact

/-- Copies that are safe stay so through the acts that are due, wherever they stop. -/
theorem safe_dueActs {stage : boot_update_stage} {acts : List (Act Buffer)} (hsafe : copies.Safe)
    (hacts : acts <+: dueActs env disk copies stage) : (acts.foldl Copies.apply copies).Safe := by
  rw [dueActs] at hacts
  split at hacts
  · next h =>
    obtain ⟨due, hdue, rfl⟩ := Option.map_eq_some_iff.mp h.1
    rw [performActs_eq] at hacts
    split at hacts
    · rw [List.prefix_nil.mp hacts]
      exact hsafe
    · exact safe_moments hsafe hdue ((mem_moments_iff _ _ _ _).mpr ⟨acts, hacts, rfl⟩)
  · rw [List.prefix_nil.mp hacts]
    exact hsafe

theorem actEvents_append (crc : Buffer → UInt32) (acts acts' : List (Act Buffer)) :
    actEvents crc fd disk copies (acts ++ acts') =
      actEvents crc fd disk copies acts ++ actEvents crc fd disk (acts.foldl Copies.apply copies) acts' := by
  rw [actEvents, actSteps_append, List.flatMap_append]
  rfl

/-- The lasting effects of a stage are those of its acts. -/
theorem performScript_events (env : Env) (fd : String) (disk : Disk) (copies : Copies Buffer)
    (stage : boot_update_stage) :
    (performScript env fd disk copies stage).flatMap Step.events =
      actEvents env.crc32 fd disk copies (performActs env disk stage) := by
  cases stage with
  | UPDATE_MAIN =>
    rw [performScript, performActs, actEvents_append, List.flatMap_append, List.flatMap_append,
      chainReads_events]
    split
    · rfl
    · rw [List.flatMap_append, readScript_events]
      rfl
  | UPDATE_BACKUP =>
    rw [performScript, performActs, actEvents_append, List.flatMap_append, List.flatMap_append,
      List.flatMap_append, readScript_events, readScript_events]
    rfl
  | UPDATE_FINALIZE =>
    rw [performScript, performActs, actEvents_append, List.flatMap_append, List.flatMap_append,
      List.flatMap_append, chainReads_events, readScript_events]
    rfl

/-- The lasting effects of switching the boot LUN for a stage. -/
def lunEvents (env : Env) (stage : boot_update_stage) : List Event :=
  (stageLun env stage).flatMap Step.events

theorem stageValue_due {stage : Stage} (hdue : copies.due = some stage)
    (hfails : env.stage_fails (updateStage stage) = false) :
    stageValue env copies (updateStage stage) = 0 := by
  rw [stageValue, hdue]
  simp only [Option.map_some, hfails, ne_eq, not_true_eq_false, if_false, Bool.false_eq_true,
    ite_self]

@[simp] theorem openScript_events (disk : Disk) : (openScript disk).flatMap Step.events = [] := by
  rw [openScript, List.flatMap_append, List.flatMap_append, readScript_events, readScript_events]
  rfl

/-- The steps of a stage that is due. -/
theorem stageScript_due {stage : Stage} (hdue : copies.due = some stage)
    (hfails : env.stage_fails (updateStage stage) = false) :
    stageScript env fd disk copies (updateStage stage) = openScript disk ++
      (stageLun env (updateStage stage) ++ performScript env fd disk copies (updateStage stage)) := by
  rw [stageScript, hdue, Option.map_some, if_pos rfl, hfails]
  rfl

/-- The lasting effects of a stage: the boot LUN is switched or not, and the acts that
    are due are performed. -/
theorem stageScript_events (env : Env) (fd : String) (disk : Disk) (copies : Copies Buffer)
    (stage : boot_update_stage) :
    ∃ luns, luns <+: lunEvents env stage ∧
      (stageScript env fd disk copies stage).flatMap Step.events =
      luns ++ actEvents env.crc32 fd disk copies (dueActs env disk copies stage) := by
  rw [stageScript, List.flatMap_append, openScript_events, List.nil_append, dueActs]
  by_cases hdue : copies.due.map updateStage = some stage
  · refine ⟨lunEvents env stage, List.prefix_refl _, ?_⟩
    rw [if_pos hdue, List.flatMap_append]
    cases hfails : env.stage_fails stage with
    | true => simp [hdue, lunEvents, actEvents, actSteps]
    | false =>
      rw [if_neg (by simp), if_pos ⟨hdue, rfl⟩, performScript_events]
      rfl
  · refine ⟨[], List.nil_prefix, ?_⟩
    rw [if_neg hdue, if_neg fun h => hdue h.1]
    rfl

theorem lunEvents_onDisk (env : Env) (stage : boot_update_stage) {luns : List Event}
    (hluns : luns <+: lunEvents env stage) (fd : String) (disk : Disk) :
    replay fd disk luns = disk := by
  have hlun (chain : boot_chain) {luns : List Event} (h : luns <+: (lunSteps env chain).flatMap Step.events) :
      replay fd disk luns = disk := by
    unfold lunSteps at h
    split at h
    · change luns <+: [Event.boot_lun (boot_lun_id chain)] at h
      rcases List.prefix_cons_iff.mp h with rfl | ⟨rest, rfl, hrest⟩
      · rfl
      · rw [List.prefix_nil.mp hrest]
        rfl
    · rw [List.prefix_nil.mp h]
      rfl
  cases stage with
  | UPDATE_MAIN => exact hlun _ hluns
  | UPDATE_BACKUP => exact hlun _ hluns
  | UPDATE_FINALIZE =>
    rw [List.prefix_nil.mp hluns]
    rfl

/-- The effects of a stage are cut short at the switch of the boot LUN, or after a first part of its acts. -/
theorem start_cases {acts : List (Act Buffer)} {luns done : List Event}
    (hdone : done <+: luns ++ actEvents env.crc32 fd disk copies acts) :
    done <+: luns ∨ ∃ acts', acts' <+: acts ∧
    done = luns ++ actEvents env.crc32 fd disk copies acts' := by
  rcases List.prefix_or_prefix_of_prefix hdone (List.prefix_append luns _) with hearly | ⟨rest, rfl⟩
  · exact .inl hearly
  · obtain ⟨acts', hacts', rfl⟩ := prefix_actEvents ((List.prefix_append_right_inj luns).mp hdone)
    exact .inr ⟨acts', hacts', rfl⟩

theorem replay_acts {acts : List (Act Buffer)} {stage : boot_update_stage} {luns : List Event}
    (hvalid : disk.Valid env.crc32) (hfits : disk.Fits copies.stored)
    (hacts : ∀ act ∈ acts, disk.ActFits act) (hluns : luns <+: lunEvents env stage) :
    replay fd (disk.holding env.crc32 copies) (luns ++ actEvents env.crc32 fd disk copies acts) =
      disk.holding env.crc32 (acts.foldl Copies.apply copies) := by
  rw [replay_append, lunEvents_onDisk env stage hluns, replay_actEvents hvalid hfits hacts]

/-- When the effects of a stage are cut short, a first part of its acts has been carried out. -/
theorem acts_of_start {acts : List (Act Buffer)} {stage : boot_update_stage}
    {luns done : List Event} (hvalid : disk.Valid env.crc32) (hfits : disk.Fits copies.stored)
    (hacts : ∀ act ∈ acts, disk.ActFits act) (hluns : luns <+: lunEvents env stage)
    (hdone : done <+: luns ++ actEvents env.crc32 fd disk copies acts) :
    ∃ acts', acts' <+: acts ∧
      replay fd (disk.holding env.crc32 copies) done = disk.holding env.crc32 (acts'.foldl Copies.apply copies) := by
  rcases start_cases hdone with hearly | ⟨acts', hacts', rfl⟩
  · exact ⟨[], List.nil_prefix, lunEvents_onDisk env stage (hearly.trans hluns) fd _⟩
  · exact ⟨acts', hacts', replay_acts hvalid hfits (fun act hact => hacts act (hacts'.subset hact)) hluns⟩

/-- At each moment of a call of `prepare_partitions` a first part of the acts that are
    due has been carried out. -/
theorem prepare_partitions_moments (hio : env.FullOrFail) (hvalid : disk.Valid env.crc32)
    (hfits : disk.Fits copies.stored) (hdisk : w.disks fd = some (disk.holding env.crc32 copies))
    (stage : boot_update_stage) :
    Returns (prepare_partitions env stage fd) w fun _ w' => ∃ events, w.After events w' ∧
      ∀ done, done <+: events → ∃ acts, acts <+: dueActs env disk copies stage ∧
        replay fd (disk.holding env.crc32 copies) done = disk.holding env.crc32 (acts.foldl Copies.apply copies) := by
  have hfit := dueActs_fit hvalid copies stage
  refine (prepare_partitions_follows hio hvalid hfits hdisk stage).state.mono fun r w' h => ?_
  have hafter := exec_after env (stageScript env fd disk copies stage) w
  rw [← h] at hafter
  refine ⟨_, hafter, fun done hdone => ?_⟩
  obtain ⟨luns, hluns, hevents⟩ := stageScript_events env fd disk copies stage
  have hstart := hdone.trans (effect_isPrefix env (stageScript env fd disk copies stage) w)
  rw [hevents] at hstart
  exact acts_of_start hvalid hfits hfit hluns hstart

theorem transferCount_lunSteps (env : Env) (chain : boot_chain) :
    transferCount (lunSteps env chain) = 0 := by
  unfold lunSteps
  split <;> rfl

theorem transferCount_readScript (disk : Disk) (gpt : gpt_instance) :
    transferCount (readScript disk gpt) = 1 := by
  cases gpt <;> rfl

theorem transferCount_openScript (disk : Disk) : transferCount (openScript disk) = 2 := rfl

theorem callCount_openScript (disk : Disk) : callCount (openScript disk) = 6 := rfl

theorem callCount_readScript_primary (disk : Disk) : callCount (readScript disk .PRIMARY_GPT) = 2 :=
  rfl

theorem counts_chainReads (disk : Disk) :
    callCount (chainReads disk) = 4 ∧ transferCount (chainReads disk) = 3 :=
  ⟨rfl, rfl⟩

/-- Each act is one transfer. -/
theorem counts_actSteps (crc : Buffer → UInt32) (fd : String) (disk : Disk) (copies : Copies Buffer)
    (acts : List (Act Buffer)) : callCount (actSteps crc fd disk copies acts) = 0 ∧
      transferCount (actSteps crc fd disk copies acts) = acts.length := by
  induction acts generalizing copies with
  | nil => exact ⟨rfl, rfl⟩
  | cons act acts ih =>
    obtain ⟨hcalls, htransfers⟩ := ih (copies.apply act)
    have hstep : (actStep crc fd disk (copies.apply act) act).calls = 0 ∧
        (actStep crc fd disk (copies.apply act) act).transfers = 1 := by
        cases act <;> exact ⟨rfl, rfl⟩
    simp only [callCount, transferCount] at hcalls htransfers ⊢
    simp only [actSteps, List.map_cons, List.sum_cons, hstep, hcalls, htransfers, List.length_cons,
      Nat.add_comm, Nat.zero_add, and_self]

end gpt_utils
