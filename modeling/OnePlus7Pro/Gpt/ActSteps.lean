import OnePlus7Pro.Gpt.CopyWrites

open regions effects twins

namespace gpt_utils

/-- The write that carries out an act on the copies, which are `copies` afterwards. -/
def actStep (crc : Buffer → UInt32) (fd : String) (disk : Disk) (copies : Copies Buffer) :
    Act Buffer → Step
  | .mark_primary _ => .write fd (disk.headerOffset .PRIMARY_GPT) (disk.primaryHeader crc copies)
  | .mark_secondary _ => .write fd (disk.headerOffset .SECONDARY_GPT) (disk.secondaryHeader crc copies)
  | .record _ => .write fd (disk.headerOffset .SECONDARY_GPT) (disk.secondaryHeader crc copies)
  | .store table => .write fd (disk.pentriesOffset .SECONDARY_GPT) table

/-- The writes that carry out some acts one after the other. -/
def actSteps (crc : Buffer → UInt32) (fd : String) (disk : Disk) (copies : Copies Buffer) :
    List (Act Buffer) → List Step
  | [] => []
  | act :: acts => actStep crc fd disk (copies.apply act) act :: actSteps crc fd disk (copies.apply act) acts

/-- The lasting effects of carrying out some acts. -/
def actEvents (crc : Buffer → UInt32) (fd : String) (disk : Disk) (copies : Copies Buffer)
    (acts : List (Act Buffer)) :
    List Event :=
  (actSteps crc fd disk copies acts).flatMap Step.events

/-- An act that stores a table stores one that fits the device. -/
def Disk.ActFits (disk : Disk) : Act Buffer → Prop
  | .store table => disk.Fits table
  | _ => True

variable {crc : Buffer → UInt32} {fd : String} {disk : Disk} {copies : Copies Buffer}
    {acts : List (Act Buffer)}

theorem actSteps_append (acts acts' : List (Act Buffer)) :
    actSteps crc fd disk copies (acts ++ acts') =
      actSteps crc fd disk copies acts ++ actSteps crc fd disk (acts.foldl Copies.apply copies) acts' := by
  induction acts generalizing copies with
  | nil => rfl
  | cons act acts ih =>
    rw [List.cons_append, actSteps, actSteps, List.cons_append, ih]
    rfl

theorem fits_apply {act : Act Buffer} (hfits : disk.Fits copies.stored) (hact : disk.ActFits act) :
    disk.Fits (copies.apply act).stored := by
  cases act with
  | mark_primary good => exact hfits
  | mark_secondary good => exact hfits
  | record table => exact hfits
  | store table => exact hact

theorem fits_foldl (hfits : disk.Fits copies.stored) (hacts : ∀ act ∈ acts, disk.ActFits act) :
    disk.Fits (acts.foldl Copies.apply copies).stored := by
  induction acts generalizing copies with
  | nil => exact hfits
  | cons act acts ih =>
    exact ih (fits_apply hfits (hacts act List.mem_cons_self)) fun act' h => hacts act' (List.mem_cons_of_mem _ h)

/-- Each act is carried out by its write. -/
theorem replay_actStep (hvalid : disk.Valid crc) (hfits : disk.Fits copies.stored)
    {act : Act Buffer} (hact : disk.ActFits act) :
    replay fd (disk.holding crc copies) (actStep crc fd disk (copies.apply act) act).events =
      disk.holding crc (copies.apply act) := by
  cases act with
  | mark_primary good =>
    rw [actStep, Step.events, replay_cons, onDisk_write_self, replay_nil]
    exact write_primaryHeader hvalid hfits good
  | mark_secondary good =>
    rw [actStep, Step.events, replay_cons, onDisk_write_self, replay_nil]
    exact write_secondaryHeader hvalid hfits rfl rfl
  | record table =>
    rw [actStep, Step.events, replay_cons, onDisk_write_self, replay_nil]
    exact write_secondaryHeader hvalid hfits rfl rfl
  | store table =>
    rw [actStep, Step.events, replay_cons, onDisk_write_self, replay_nil]
    exact write_stored hfits hact

/-- The writes of a list of acts carry them out on the device. -/
theorem replay_actEvents (hvalid : disk.Valid crc) (hfits : disk.Fits copies.stored)
    (hacts : ∀ act ∈ acts, disk.ActFits act) :
    replay fd (disk.holding crc copies) (actEvents crc fd disk copies acts) =
      disk.holding crc (acts.foldl Copies.apply copies) := by
  induction acts generalizing copies with
  | nil => rfl
  | cons act acts ih =>
    have hact := hacts act List.mem_cons_self
    rw [actEvents, actSteps, List.flatMap_cons, replay_append, replay_actStep hvalid hfits hact]
    exact ih (fits_apply hfits hact) fun act' h => hacts act' (List.mem_cons_of_mem _ h)

/-- When the writes of a list of acts are cut short, a first part of the acts has been carried out. -/
theorem prefix_actEvents {done : List Event} (hdone : done <+: actEvents crc fd disk copies acts) :
    ∃ acts', acts' <+: acts ∧ done = actEvents crc fd disk copies acts' := by
  induction acts generalizing copies done with
  | nil => exact ⟨[], List.prefix_refl _, List.prefix_nil.mp hdone⟩
  | cons act acts ih =>
    obtain ⟨event, hevent⟩ : ∃ event, (actStep crc fd disk (copies.apply act) act).events = [event] := by
      cases act <;> exact ⟨_, rfl⟩
    rw [actEvents, actSteps, List.flatMap_cons, hevent, List.singleton_append,
      List.prefix_cons_iff] at hdone
    rcases hdone with rfl | ⟨done', rfl, hdone'⟩
    · exact ⟨[], List.nil_prefix, rfl⟩
    · obtain ⟨acts', hacts', rfl⟩ := ih hdone'
      refine ⟨act :: acts', (List.prefix_cons_inj act).mpr hacts', ?_⟩
      rw [actEvents, actEvents, actSteps, List.flatMap_cons, hevent]
      rfl

end gpt_utils
