import OnePlus7Pro.Policy.InputRequests
import OnePlus7Pro.Policy.SuspendBalance

open loops runs

namespace policy_hal

/-- The output that a call is about. -/
def ClientCall.output : ClientCall → Option audio_io_handle_t
  | .suspendOutput output => some output
  | .restoreOutput output => some output
  | .closeOutput output => some output
  | .openDescriptor output => some output
  | .closeDescriptor output => some output
  | _ => none

namespace SwAudioOutputDescriptor

def isPrimary (desc : SwAudioOutputDescriptor) : Bool :=
  desc.mProfile.any fun profile => !desc.isDuplicated && hasFlag profile.flags AUDIO_OUTPUT_FLAG_PRIMARY

/-- One of the loops may close the output. -/
def isClosable (desc : SwAudioOutputDescriptor) : Bool :=
  isVoipOutput desc ||
    desc.mProfile.any fun profile =>
      hasFlag profile.flags AUDIO_OUTPUT_FLAG_COMPRESS_OFFLOAD ||
        hasFlag profile.flags AUDIO_OUTPUT_FLAG_VOIP_RX ||
        hasFlag profile.flags AUDIO_OUTPUT_FLAG_DIRECT ||
        hasFlag desc.mFlags AUDIO_OUTPUT_FLAG_COMPRESS_OFFLOAD && desc.format = AUDIO_FORMAT_DSD

/-- The output as it was opened: its clients, its devices and its counts may differ. -/
structure SameOutput (before after : SwAudioOutputDescriptor) : Prop where
  mProfile : after.mProfile = before.mProfile
  mFlags : after.mFlags = before.mFlags
  format : after.format = before.format
  isDuplicated : after.isDuplicated = before.isDuplicated

end SwAudioOutputDescriptor

/-- The open outputs, and what the manager has told. -/
abbrev Custody := SwAudioOutputCollection × List ClientCall

def AudioPolicyManagerCustom.custody (self : AudioPolicyManagerCustom) : Custody :=
  (self.mOutputs, self.told)

/-- What the base class does by itself: how it changes the open outputs, which handles it lists for
    a device, and what it tells. -/
structure OthersPart where
  changes : SwAudioOutputCollection → SwAudioOutputCollection → Prop
  lists : audio_io_handle_t → Prop
  tells : ClientCall → Prop

/-- What may be done with outputs: only an open one is closed, suspended or restored, only a primary
    one is suspended or restored, and only a closable one or one listed for a device is closed. -/
inductive OutputStep (others : OthersPart) : Custody → Custody → Prop where
  | tells {mOutputs told} (call : ClientCall) (hother : call.output = none ∨ others.tells call) :
      OutputStep others (mOutputs, told) (mOutputs, told ++ [call])
  | suspends {mOutputs : SwAudioOutputCollection} {told output desc}
      (hopen : mOutputs.valueFor output = some desc) (hprimary : desc.isPrimary = true) :
      OutputStep others (mOutputs, told) (mOutputs, told ++ [.suspendOutput output])
  | restores {mOutputs : SwAudioOutputCollection} {told output desc}
      (hopen : mOutputs.valueFor output = some desc) (hprimary : desc.isPrimary = true) :
      OutputStep others (mOutputs, told) (mOutputs, told ++ [.restoreOutput output])
  | closes {mOutputs : SwAudioOutputCollection} {told output desc}
      (hopen : mOutputs.valueFor output = some desc)
      (hclosable : desc.isClosable = true ∨ others.lists output) :
      OutputStep others (mOutputs, told) (mOutputs.removeItem output, told ++ [.closeOutput output])
  | opens {mOutputs : SwAudioOutputCollection} {told output} (desc : SwAudioOutputDescriptor)
      (hfresh : output ∉ mOutputs.keys) :
      OutputStep others (mOutputs, told) (mOutputs.add output desc, told ++ [.openDescriptor output])
  | givesUp {mOutputs : SwAudioOutputCollection} {told output} (hfresh : output ∉ mOutputs.keys) :
      OutputStep others (mOutputs, told)
        (mOutputs, told ++ [.openDescriptor output, .closeDescriptor output])
  | uses {mOutputs : SwAudioOutputCollection} {told output}
      (f : SwAudioOutputDescriptor → SwAudioOutputDescriptor)
      (hsame : ∀ desc, mOutputs.valueFor output = some desc → desc.SameOutput (f desc)) :
      OutputStep others (mOutputs, told) (mOutputs.modify output f, told)
  | changes {mOutputs mOutputs' told} (hchange : others.changes mOutputs mOutputs') :
      OutputStep others (mOutputs, told) (mOutputs', told)

abbrev OutputSteps (others : OthersPart) : Custody → Custody → Prop :=
  Relation.ReflTransGen (OutputStep others)

/-- What the base class does during a call for a device is its part: the handles that it lists are
    open, and remain open when it has looked at the outputs again. -/
structure ConnectionAnswers.Within (others : OthersPart) (answers : ConnectionAnswers) : Prop where
  checkOutputs : ∀ mOutputs, others.changes mOutputs (answers.checkOutputsForDevice mOutputs).2.2
  listed : ∀ mOutputs, ∀ output ∈ (answers.checkOutputsForDevice mOutputs).2.1.keys,
    others.lists output ∧ output ∈ (answers.checkOutputsForDevice mOutputs).2.2.keys
  changes : ∀ mOutputs, others.changes mOutputs (answers.checkForDeviceAndOutputChanges mOutputs)
  remain : ∀ (mOutputs : SwAudioOutputCollection) output, others.lists output → output ∈ mOutputs.keys →
    output ∈ (answers.checkForDeviceAndOutputChanges mOutputs).keys

/-- What others do during a call of the manager is their part. -/
def Within (others : OthersPart) (self : AudioPolicyManagerCustom) : ManagerCall → Prop
  | .startInput _ _ answers => answers.connection.Within others
  | .stopInput _ _ answers => ∀ call ∈ answers.told, call.output = none ∨ others.tells call
  | .callEvent (.setPhoneState call) =>
    ∀ mOutputs, others.changes mOutputs (call.answers.checkForDeviceAndOutputChanges mOutputs)
  | .callEvent (.getOutputForDevices _ answers) => OpensFresh self.mOutputs answers
  | .callEvent (.getInputForAttr _ _) => True
  | .sourceEvent _ => True
  | .setDeviceConnectionStateInt call => call.answers.Within others
  | .inherited mOutputs _ => others.changes self.mOutputs mOutputs

variable {others : OthersPart} {configs : APMConfigHelper} {self : AudioPolicyManagerCustom}

section steps

theorem steps_tell {calls : List ClientCall}
    (hother : ∀ call ∈ calls, call.output = none ∨ others.tells call)
    (mOutputs : SwAudioOutputCollection) (told : List ClientCall) :
    OutputSteps others (mOutputs, told) (mOutputs, told ++ calls) := by
  induction calls generalizing told with
  | nil =>
    rw [List.append_nil]
  | cons call calls ih =>
    rw [List.forall_mem_cons] at hother
    have hrest := ih hother.2 (told ++ [call])
    rw [List.append_assoc, List.singleton_append] at hrest
    exact .head (.tells call hother.1) hrest

theorem custody_tell {calls : List ClientCall} (hother : ∀ call ∈ calls, call.output = none) :
    OutputSteps others self.custody (self.tell calls).custody :=
  steps_tell (fun call hcall => .inl (hother call hcall)) _ _

/-- What the body of a loop does at an open output are steps. -/
def Permitted (others : OthersPart) (output : audio_io_handle_t) (desc : SwAudioOutputDescriptor)
    (visit : Visit ClientCall) : Prop :=
  ∀ (mOutputs : SwAudioOutputCollection) told, mOutputs.valueFor output = some desc →
    OutputSteps others (mOutputs, told)
      (if visit.removed then mOutputs.removeItem output else mOutputs, told ++ visit.told)

theorem custody_run_loop (visit : audio_io_handle_t → SwAudioOutputDescriptor → Visit ClientCall)
    (hvisit : ∀ output desc, Permitted others output desc (visit output desc)) :
    OutputSteps others self.custody (self.run_loop fun mOutputs => mOutputs.walk visit 0).custody :=
  KeyedVector.walk_steps (fun mOutputs told output desc => hvisit output desc mOutputs told)
    self.mOutputs 0 self.told

variable {output : audio_io_handle_t} {desc : SwAudioOutputDescriptor}

theorem permitted_passing : Permitted others output desc passing := fun mOutputs told _ => by
  rw [passing, List.append_nil]
  exact .refl

theorem permitted_closing (hclosable : desc.isClosable = true) :
    Permitted others output desc (closing output) := fun _ _ hopen =>
  .single (.closes hopen (.inl hclosable))

end steps

section loops

/-- When a voice call begins primary outputs are suspended and closable ones closed. -/
theorem permitted_voice_call_visit (mFallBackflag : audio_output_flags_t) (output : audio_io_handle_t)
    (desc : SwAudioOutputDescriptor) :
    Permitted others output desc (voice_call_visit configs mFallBackflag output desc) := by
  unfold voice_call_visit
  cases hprofile : desc.mProfile with
  | none => exact permitted_passing
  | some profile =>
    have hclosable (h : hasFlag profile.flags AUDIO_OUTPUT_FLAG_COMPRESS_OFFLOAD = true ∨
        hasFlag profile.flags AUDIO_OUTPUT_FLAG_VOIP_RX = true ∨
        hasFlag profile.flags AUDIO_OUTPUT_FLAG_DIRECT = true) : desc.isClosable = true := by
      rw [SwAudioOutputDescriptor.isClosable, hprofile]
      obtain h | h | h := h <;> simp [h]
    dsimp only
    split_ifs with hfast hprimary hcompress hvoip hdeep hrx hconc hdirect
    · rw [Bool.and_eq_true] at hprimary
      have hdesc : desc.isPrimary = true := by
        rw [SwAudioOutputDescriptor.isPrimary, hprofile]
        exact hprimary.1
      exact fun _ _ hopen => .single (.suspends hopen hdesc)
    · exact permitted_closing (hclosable (.inl (Bool.and_eq_true_iff.mp hcompress).1))
    · exact permitted_closing (hclosable (.inr (.inl (Bool.and_eq_true_iff.mp hvoip).1)))
    · exact permitted_passing
    · exact permitted_closing (hclosable (.inr (.inl hrx)))
    · exact permitted_passing
    · exact permitted_closing (hclosable (.inr (.inr (Bool.and_eq_true_iff.mp hdirect).2)))
    · exact permitted_passing
    · exact permitted_passing

theorem permitted_restore_visit (output : audio_io_handle_t) (desc : SwAudioOutputDescriptor) :
    Permitted others output desc (restore_visit output desc) := by
  unfold restore_visit
  cases hprofile : desc.mProfile with
  | none => exact permitted_passing
  | some profile =>
    dsimp only
    split_ifs with hprimary
    · have hdesc : desc.isPrimary = true := by
        rw [SwAudioOutputDescriptor.isPrimary, hprofile]
        exact hprimary
      exact fun _ _ hopen => .single (.restores hopen hdesc)
    · exact permitted_passing

theorem permitted_dsd_visit (output : audio_io_handle_t) (desc : SwAudioOutputDescriptor) :
    Permitted others output desc (dsd_visit configs output desc) := by
  unfold dsd_visit
  split_ifs with hnone hdsd
  · exact permitted_passing
  · rw [Bool.and_eq_true, Bool.and_eq_true] at hdsd
    rw [Option.isNone_iff_eq_none] at hnone
    obtain ⟨profile, hprofile⟩ := Option.ne_none_iff_exists'.mp hnone
    have hclosable : desc.isClosable = true := by
      simp [SwAudioOutputDescriptor.isClosable, hprofile, hdsd.1.2, of_decide_eq_true hdsd.2]
    intro mOutputs told hopen
    have hclosed : OutputStep others (mOutputs, told)
        (mOutputs.removeItem output, told ++ [.closeOutput output]) := .closes hopen (.inl hclosable)
    have htold : OutputStep others (mOutputs.removeItem output, told ++ [.closeOutput output])
        (mOutputs.removeItem output, told ++ [.closeOutput output] ++ [.invalidateStream AUDIO_STREAM_MUSIC]) :=
      .tells _ (.inl rfl)
    rw [List.append_assoc] at htold
    exact .head hclosed (.single htold)
  · exact permitted_passing

theorem permitted_compress_visit (output : audio_io_handle_t) (desc : SwAudioOutputDescriptor) :
    Permitted others output desc (compress_visit output desc) := by
  unfold compress_visit
  cases hprofile : desc.mProfile with
  | none => exact permitted_passing
  | some profile =>
    dsimp only
    split_ifs with hcompress
    · exact permitted_closing (by simp [SwAudioOutputDescriptor.isClosable, hprofile, hcompress])
    · exact permitted_passing

/-- The loop over the handles listed for a device closes open VoIP outputs, and takes what it closes
    off the list. -/
theorem steps_voip_loop (others : OthersPart) (outputs : KeyedVector audio_io_handle_t Unit)
    (mOutputs : SwAudioOutputCollection) (i : Nat) (told : List ClientCall) :
    OutputSteps others (mOutputs, told)
      ((voip_loop outputs mOutputs i).2.1, told ++ (voip_loop outputs mOutputs i).2.2) := by
  induction outputs, mOutputs, i using voip_loop.induct generalizing told with
  | case1 outputs mOutputs i h output hvoip ih =>
    obtain ⟨desc, hopen, hdesc⟩ := (Option.any_eq_true _ _).mp hvoip
    have hclosed : OutputStep others (mOutputs, told)
        (mOutputs.removeItem output, told ++ [.closeOutput output]) :=
      .closes hopen (.inl (by simp [SwAudioOutputDescriptor.isClosable, hdesc]))
    have hrest := ih (told ++ [.closeOutput output])
    rw [List.append_assoc] at hrest
    rw [voip_loop, dif_pos h, if_pos hvoip]
    exact .head hclosed hrest
  | case2 outputs mOutputs i h output hvoip ih =>
    rw [voip_loop, dif_pos h, if_neg hvoip]
    exact ih told
  | case3 outputs mOutputs i h =>
    rw [voip_loop, dif_neg h, List.append_nil]

theorem listed_voip_loop (outputs : KeyedVector audio_io_handle_t Unit) (mOutputs : SwAudioOutputCollection)
    (i : Nat) (hopen : ∀ output ∈ outputs.keys, output ∈ mOutputs.keys) :
    ∀ output ∈ (voip_loop outputs mOutputs i).1.keys,
      output ∈ outputs.keys ∧ output ∈ (voip_loop outputs mOutputs i).2.1.keys := by
  induction outputs, mOutputs, i using voip_loop.induct with
  | case1 outputs mOutputs i h output hvoip ih =>
    rw [voip_loop, dif_pos h, if_pos hvoip]
    intro other hother
    have hrest := ih (fun another hanother => by
      rw [KeyedVector.mem_keys_removeItem] at hanother ⊢
      exact ⟨hopen another hanother.1, hanother.2⟩) other hother
    exact ⟨(KeyedVector.mem_keys_removeItem.mp hrest.1).1, hrest.2⟩
  | case2 outputs mOutputs i h output hvoip ih =>
    rw [voip_loop, dif_pos h, if_neg hvoip]
    exact ih hopen
  | case3 outputs mOutputs i h =>
    rw [voip_loop, dif_neg h]
    exact fun output houtput => ⟨houtput, hopen output houtput⟩

/-- Listed outputs that are open are closed one after the other. -/
theorem steps_unused {unused : List audio_io_handle_t} (hdistinct : unused.Nodup)
    (hlisted : ∀ output ∈ unused, others.lists output) (mOutputs : SwAudioOutputCollection)
    (told : List ClientCall) (hopen : ∀ output ∈ unused, output ∈ mOutputs.keys) :
    OutputSteps others (mOutputs, told)
      (unused.foldl KeyedVector.removeItem mOutputs, told ++ unused.map ClientCall.closeOutput) := by
  induction unused generalizing mOutputs told with
  | nil => rw [List.map_nil, List.append_nil]; exact .refl
  | cons output unused ih =>
    rw [List.forall_mem_cons] at hlisted hopen
    rw [List.nodup_cons] at hdistinct
    obtain ⟨desc, hdesc⟩ := KeyedVector.mem_keys_iff.mp hopen.1
    have hclosed : OutputStep others (mOutputs, told)
        (mOutputs.removeItem output, told ++ [.closeOutput output]) :=
      .closes (KeyedVector.valueFor_eq_some_iff.mpr hdesc) (.inr hlisted.1)
    have hrest := ih hdistinct.2 hlisted.2 (mOutputs.removeItem output) (told ++ [.closeOutput output])
      fun other hother => KeyedVector.mem_keys_removeItem.mpr
        ⟨hopen.2 other hother, fun heq => hdistinct.1 (heq ▸ hother)⟩
    rw [List.append_assoc] at hrest
    exact .head hclosed hrest

end loops

section connections

variable {call : ConnectionCall}

@[simp] theorem custody_keep_hdmi (connected : Bool) :
    (self.keep_hdmi configs call connected).custody = self.custody := by
  unfold AudioPolicyManagerCustom.keep_hdmi
  split_ifs <;> rfl

theorem custody_broadcast (device : DeviceDescriptor) (state : audio_policy_dev_state_t) :
    OutputSteps others self.custody (self.tell [.broadcastDeviceConnectionState device state]).custody :=
  custody_tell (by simp [ClientCall.output])

theorem custody_connect_output (hwithin : call.answers.Within others) :
    OutputSteps others self.custody (self.connect_output configs call).2.1.custody := by
  unfold AudioPolicyManagerCustom.connect_output
  dsimp only
  generalize hkept : ({ self with
    mAvailableOutputDevices := self.mAvailableOutputDevices ++ [call.device] }).keep_hdmi configs call true = kept
  have hsame : kept.custody = self.custody := by
    rw [← hkept, custody_keep_hdmi]
    rfl
  have hchecked : OutputSteps others self.custody ((call.answers.checkOutputsForDevice kept.mOutputs).2.2,
      kept.told ++ [.broadcastDeviceConnectionState call.device call.state]) := by
    rw [← hsame]
    exact .tail (custody_broadcast _ _) (.changes (hwithin.checkOutputs _))
  split_ifs
  · rw [custody_keep_hdmi]
  · exact .refl
  · exact hsame ▸ .refl
  · exact hchecked.tail (.tells _ (.inl rfl))
  · exact hchecked

theorem custody_disconnect_output (hwithin : call.answers.Within others) :
    OutputSteps others self.custody (self.disconnect_output configs call).2.1.custody := by
  unfold AudioPolicyManagerCustom.disconnect_output
  dsimp only
  split_ifs
  · generalize hkept : AudioPolicyManagerCustom.keep_hdmi _ configs call false = kept
    have hsame : kept.custody =
        (self.tell [.broadcastDeviceConnectionState call.device call.state]).custody := by
      rw [← hkept, custody_keep_hdmi]
      rfl
    have htold : OutputSteps others self.custody kept.custody := hsame ▸ custody_broadcast _ _
    exact htold.tail (.changes (hwithin.checkOutputs _))
  · rw [custody_keep_hdmi]

theorem custody_change_output (hwithin : call.answers.Within others) :
    OutputSteps others self.custody (self.change_output configs call).2.1.custody := by
  unfold AudioPolicyManagerCustom.change_output
  split
  · exact custody_connect_output hwithin
  · exact custody_disconnect_output hwithin
  · exact .refl

/-- The handles listed for a device are those of open outputs. -/
theorem listed_change_output (hwithin : call.answers.Within others) :
    ∀ output ∈ (self.change_output configs call).2.2.keys,
      others.lists output ∧ output ∈ (self.change_output configs call).2.1.mOutputs.keys := by
  have hempty : ∀ output, output ∉ (KeyedVector.empty : KeyedVector audio_io_handle_t Unit).keys := by
    simp [KeyedVector.empty, KeyedVector.keys]
  unfold AudioPolicyManagerCustom.change_output AudioPolicyManagerCustom.connect_output
    AudioPolicyManagerCustom.disconnect_output
  dsimp only
  split
  · split_ifs
    · exact fun output h => absurd h (hempty output)
    · exact fun output h => absurd h (hempty output)
    · exact fun output h => absurd h (hempty output)
    · exact fun output h => absurd h (hempty output)
    · exact hwithin.listed _
  · split_ifs
    · exact hwithin.listed _
    · exact fun output h => absurd h (hempty output)
  · exact fun output h => absurd h (hempty output)

theorem custody_output_changed (hwithin : call.answers.Within others)
    {outputs : KeyedVector audio_io_handle_t Unit}
    (hlisted : ∀ output ∈ outputs.keys, others.lists output ∧ output ∈ self.mOutputs.keys) :
    OutputSteps others self.custody (self.output_changed call outputs).custody := by
  unfold AudioPolicyManagerCustom.output_changed
  dsimp only
  have hclosed := steps_voip_loop others outputs self.mOutputs 0 self.told
  have hleft := listed_voip_loop outputs self.mOutputs 0 fun output h => (hlisted output h).2
  generalize voip_loop outputs self.mOutputs 0 = closed at hclosed hleft ⊢
  generalize hchecked : (if doCheckForDeviceAndOutputChanges call closed.1 closed.2.1 = true then
    call.answers.checkForDeviceAndOutputChanges closed.2.1 else closed.2.1) = checked
  have hopen : ∀ output ∈ closed.1.keys, others.lists output ∧ output ∈ checked.keys := by
    intro output houtput
    obtain ⟨houtputs, hmOutputs⟩ := hleft output houtput
    have hlists := (hlisted output houtputs).1
    rw [← hchecked]
    split_ifs
    · exact ⟨hlists, hwithin.remain _ output hlists hmOutputs⟩
    · exact ⟨hlists, hmOutputs⟩
  have hchanged : OutputSteps others (closed.2.1, self.told ++ closed.2.2)
      (checked, self.told ++ closed.2.2) := by
    rw [← hchecked]
    split_ifs
    · exact .single (.changes (hwithin.changes _))
    · exact .refl
  have hsub : (checkCloseOutputs call.state closed.1 checked).Sublist closed.1.keys :=
    List.filter_sublist
  have hunused := steps_unused (closed.1.nodup_keys.sublist hsub)
    (fun output h => (hopen output (hsub.subset h)).1) checked (self.told ++ closed.2.2)
    fun output h => (hopen output (hsub.subset h)).2
  have hend := ((hclosed.trans hchanged).trans hunused).tail (.tells .onAudioPortListUpdate (.inl rfl))
  simp only [List.append_assoc] at hend ⊢
  exact hend

theorem custody_change_input : OutputSteps others self.custody (self.change_input call).2.custody := by
  unfold AudioPolicyManagerCustom.change_input AudioPolicyManagerCustom.connect_input
    AudioPolicyManagerCustom.disconnect_input
  dsimp only
  split
  · split_ifs
    · exact .refl
    · exact .refl
    · exact (custody_broadcast _ _).trans (custody_broadcast _ _)
    · exact custody_broadcast _ _
  · split_ifs
    · exact custody_broadcast _ _
    · exact .refl
  · exact .refl

theorem custody_setDeviceConnectionStateInt
    (hwithin : call.answers.tests.audio_is_output_device call.deviceType = true → call.answers.Within others) :
    OutputSteps others self.custody (self.setDeviceConnectionStateInt configs call).2.custody := by
  unfold AudioPolicyManagerCustom.setDeviceConnectionStateInt
  dsimp only
  split_ifs with hneither hfound houtput hconnected hconnected
  · exact .refl
  · exact .refl
  · have hanswers := hwithin houtput
    exact (custody_change_output hanswers).trans
      (custody_output_changed hanswers (listed_change_output hanswers))
  · exact custody_change_output (hwithin houtput)
  · exact custody_change_input.tail (.tells .onAudioPortListUpdate (.inl rfl))
  · exact custody_change_input

end connections

section events

theorem custody_invalidations (streams : List audio_stream_type_t) :
    OutputSteps others self.custody (self.tell (streams.map .invalidateStream)).custody :=
  custody_tell (List.forall_mem_map.mpr fun _ _ => rfl)

theorem output_close_inputs_on_call {mInputs : AudioInputCollection} :
    ∀ call ∈ close_inputs_on_call configs mInputs, call.output = none := by
  have hclients (input : AudioInputDescriptor) : ∀ call ∈ input.closeClients, call.output = none :=
    List.forall_mem_map.mpr fun _ _ => rfl
  intro call hcall
  unfold close_inputs_on_call at hcall
  simp only [apply_ite (call ∈ ·), List.not_mem_nil] at hcall
  grind

theorem output_invalidate_for_call {mFallBackflag : audio_output_flags_t} :
    ∀ call ∈ invalidate_for_call mFallBackflag, call.output = none := by
  intro call hcall
  obtain ⟨stream, -, hcall⟩ := List.mem_flatMap.mp hcall
  split_ifs at hcall
  · rw [List.mem_singleton.mp hcall]
    rfl
  · exact absurd hcall List.not_mem_nil
  · rw [List.mem_singleton.mp hcall]
    rfl
  · exact absurd hcall List.not_mem_nil

theorem custody_enter_call (configs : APMConfigHelper) (self : AudioPolicyManagerCustom)
    (oldState state : audio_mode_t) :
    OutputSteps others self.custody (self.enter_call configs oldState state).custody := by
  unfold AudioPolicyManagerCustom.enter_call
  dsimp only
  split_ifs
  · exact ((custody_tell output_close_inputs_on_call).trans (custody_tell output_invalidate_for_call)).trans
      (custody_run_loop _ (permitted_voice_call_visit _))
  · exact (custody_tell output_close_inputs_on_call).trans
      (custody_run_loop _ (permitted_voice_call_visit _))
  · exact .refl

theorem custody_exit_call (configs : APMConfigHelper) (self : AudioPolicyManagerCustom)
    (oldState state : audio_mode_t) :
    OutputSteps others self.custody (self.exit_call configs oldState state).custody := by
  unfold AudioPolicyManagerCustom.exit_call
  dsimp only
  split_ifs
  · exact (custody_run_loop _ permitted_restore_visit).trans (custody_tell output_invalidate_for_call)
  · exact custody_tell output_invalidate_for_call
  · exact .refl

theorem custody_record_play_conc (configs : APMConfigHelper) (self : AudioPolicyManagerCustom)
    (oldState : audio_mode_t) :
    OutputSteps others self.custody (self.record_play_conc configs oldState).custody := by
  unfold AudioPolicyManagerCustom.record_play_conc
  split_ifs
  · exact (custody_invalidations [AUDIO_STREAM_VOICE_CALL, AUDIO_STREAM_MUSIC]).trans
      (custody_run_loop _ permitted_compress_visit)
  · exact custody_invalidations [AUDIO_STREAM_MUSIC]
  · exact .refl
  · exact .refl

theorem custody_accessibility (answers : PhoneStateAnswers) (state : audio_mode_t) :
    OutputSteps others self.custody (self.tell (answers.accessibility_calls state)).custody := by
  unfold PhoneStateAnswers.accessibility_calls
  split_ifs
  · exact custody_invalidations [AUDIO_STREAM_ACCESSIBILITY]
  · exact custody_invalidations []

theorem custody_receive {call : PhoneStateCall}
    (hchanges : ∀ mOutputs, others.changes mOutputs (call.answers.checkForDeviceAndOutputChanges mOutputs)) :
    OutputSteps others self.custody (self.receive configs call).custody := by
  unfold AudioPolicyManagerCustom.receive AudioPolicyManagerCustom.setPhoneState
  by_cases haccepted : call.answers.accepted = true
  · rw [if_pos haccepted]
    dsimp only
    have hchanged : OutputSteps others self.custody (self.change_state call.state call.answers).custody :=
      .single (.changes (hchanges _))
    have htold := hchanged.trans (custody_accessibility call.answers self.mEngine.phoneState)
    generalize (self.change_state call.state call.answers).tell
      (call.answers.accessibility_calls self.mEngine.phoneState) = start at htold ⊢
    have hcalled : OutputSteps others start.custody (if configs.isVoiceConcEnabled = true then
        (start.enter_call configs self.mEngine.phoneState call.state).exit_call configs
          self.mEngine.phoneState call.state else start).custody := by
      split_ifs
      · exact (custody_enter_call configs start _ _).trans (custody_exit_call configs _ _ _)
      · exact .refl
    have hlooped := (htold.trans hcalled).trans
      (custody_run_loop (dsd_visit configs) permitted_dsd_visit)
    exact (hlooped.trans (custody_record_play_conc configs _ _)).trans (custody_accessibility call.answers call.state)
  · rw [if_neg haccepted]

section requests

variable {request : OutputRequest} {answers : OutputAnswers} {chosen : ChosenFlags}

theorem custody_open_direct (hopens : OpensFresh self.mOutputs answers) (profile : IOProfile) :
    OutputSteps others self.custody (self.open_direct request answers chosen profile).2.custody := by
  unfold AudioPolicyManagerCustom.open_direct
  dsimp only
  split_ifs with hfailed hpcm hstatus hstatus
  · exact .single (.givesUp (hopens chosen.flags hstatus).2)
  · exact .refl
  · exact .single (.givesUp (hopens chosen.flags hstatus).2)
  · exact .refl
  · rw [not_or, not_not] at hfailed
    have hopened (desc : SwAudioOutputDescriptor) : OutputSteps others self.custody
        (self.mOutputs.add (answers.open_output chosen.flags).output desc,
          self.told ++ [.openDescriptor (answers.open_output chosen.flags).output, .onAudioPortListUpdate]) := by
      have hadded : OutputStep others self.custody
          (self.mOutputs.add (answers.open_output chosen.flags).output desc,
            self.told ++ [.openDescriptor (answers.open_output chosen.flags).output]) :=
        .opens desc (hopens chosen.flags hfailed.1).2
      have htold := (Relation.ReflTransGen.single hadded).tail (.tells .onAudioPortListUpdate (.inl rfl))
      rwa [List.append_assoc] at htold
    exact hopened _

theorem custody_direct_output (hopens : OpensFresh self.mOutputs answers) (profile : IOProfile) :
    OutputSteps others self.custody
      (self.direct_output configs request answers chosen profile).2.custody := by
  unfold AudioPolicyManagerCustom.direct_output
  dsimp only
  split_ifs
  · exact .single (.uses (fun desc => { desc with mDirectOpenCount := desc.mDirectOpenCount + 1 })
      fun _ _ => ⟨rfl, rfl, rfl, rfl⟩)
  · exact .refl
  · exact custody_open_direct hopens profile
  · exact .refl

theorem custody_getOutputForDevices (hopens : OpensFresh self.mOutputs answers) :
    OutputSteps others self.custody (self.getOutputForDevices configs request answers).2.custody := by
  rw [getOutputForDevices_eq]
  cases self.rewrite_flags configs request answers with
  | none => exact .refl
  | some chosen =>
    dsimp only
    unfold AudioPolicyManagerCustom.select
    split_ifs
    · exact .refl
    · exact .refl
    · split
      · exact .refl
      · split_ifs
        · exact .refl
        · exact custody_direct_output hopens _

end requests

theorem custody_take {event : CallEvent} (hwithin : Within others self (.callEvent event)) :
    OutputSteps others self.custody (self.take configs event).custody := by
  cases event with
  | setPhoneState call => exact custody_receive hwithin
  | getOutputForDevices request answers => exact custody_getOutputForDevices hwithin
  | getInputForAttr request base =>
    rw [AudioPolicyManagerCustom.take]
    unfold AudioPolicyManagerCustom.getInputForAttr
    split_ifs <;> exact .refl

end events

section clients

variable {outputDesc : SwAudioOutputDescriptor} {client : TrackClientDescriptor}

theorem sameOutput_setClientActive (outputDesc : SwAudioOutputDescriptor) (client : TrackClientDescriptor)
    (active : Bool) :
    outputDesc.SameOutput (outputDesc.setClientActive client active) := by
  unfold SwAudioOutputDescriptor.setClientActive
  split_ifs <;> exact ⟨rfl, rfl, rfl, rfl⟩

theorem sameOutput_startedOutput (answers : SourceAnswers) :
    outputDesc.SameOutput (self.startedOutput outputDesc client answers) := by
  obtain ⟨hprofile, hflags, hformat, hduplicated⟩ := sameOutput_setClientActive outputDesc client true
  unfold AudioPolicyManagerCustom.startedOutput
  dsimp only
  split_ifs <;> exact ⟨hprofile, hflags, hformat, hduplicated⟩

theorem sameOutput_stoppedOutput (answers : SourceAnswers) :
    outputDesc.SameOutput (self.stoppedOutput outputDesc client answers) := by
  obtain ⟨hprofile, hflags, hformat, hduplicated⟩ := sameOutput_setClientActive outputDesc client false
  unfold AudioPolicyManagerCustom.stoppedOutput
  dsimp only
  split_ifs <;> exact ⟨hprofile, hflags, hformat, hduplicated⟩

/-- A submix input that comes or goes is none of the outputs' business. -/
theorem custody_connect_submix (configs : APMConfigHelper) (self : AudioPolicyManagerCustom)
    (policyMix : Option AudioPolicyMix) (state : audio_policy_dev_state_t) (answers : ConnectionAnswers) :
    OutputSteps others self.custody (self.connect_submix configs policyMix state answers).custody := by
  unfold AudioPolicyManagerCustom.connect_submix
  split
  · exact .refl
  · exact custody_setDeviceConnectionStateInt fun houtput => absurd houtput (by simp [answers.tests.submix_not_output])

theorem custody_startSource (output : audio_io_handle_t) (client : TrackClientDescriptor)
    (answers : SourceAnswers) :
    OutputSteps others self.custody (self.startSource configs output client answers).2.custody := by
  unfold AudioPolicyManagerCustom.startSource
  cases hopen : self.mOutputs.valueFor output with
  | none => exact .refl
  | some outputDesc =>
    dsimp only
    split_ifs
    · exact .refl
    · exact .refl
    · have hused : OutputStep others self.custody
          (self.mOutputs.modify output fun _ => self.startedOutput outputDesc client answers, self.told) :=
        .uses _ fun desc hdesc => Option.some.inj (hopen.symm.trans hdesc) ▸ sameOutput_startedOutput answers
      let started := { self with
        mOutputs := self.mOutputs.modify output fun _ => self.startedOutput outputDesc client answers }
      exact .head hused (custody_connect_submix configs started _ _ _)

theorem custody_stopSource (output : audio_io_handle_t) (client : TrackClientDescriptor)
    (answers : SourceAnswers) :
    OutputSteps others self.custody (self.stopSource configs output client answers).2.custody := by
  unfold AudioPolicyManagerCustom.stopSource
  cases hopen : self.mOutputs.valueFor output with
  | none => exact .refl
  | some outputDesc =>
    dsimp only
    have hused (manager : AudioPolicyManagerCustom) (houtputs : manager.mOutputs = self.mOutputs) :
        OutputStep others manager.custody
          (manager.mOutputs.modify output fun _ => manager.stoppedOutput outputDesc client answers,
            manager.told) := by
      refine .uses _ fun desc hdesc => ?_
      rw [houtputs, hopen] at hdesc
      exact Option.some.inj hdesc ▸ sameOutput_stoppedOutput answers
    split_ifs
    · exact .refl
    · exact .refl
    · have houtputs := congrArg Prod.fst (outputFields_connect_submix configs self
        (recorderMix outputDesc.devices outputDesc.mPolicyMix) .AUDIO_POLICY_DEVICE_STATE_UNAVAILABLE
        answers.connection)
      exact (custody_connect_submix configs self _ _ _).tail (hused _ houtputs)
    · exact .single (hused self rfl)

theorem custody_onSource (event : SourceEvent) :
    OutputSteps others self.custody (self.onSource configs event).custody := by
  cases event with
  | startSource output client answers => exact custody_startSource output client answers
  | stopSource output client answers => exact custody_stopSource output client answers
  | setForceUse usage config accepted =>
    rw [AudioPolicyManagerCustom.onSource]
    unfold AudioPolicyManagerCustom.setForceUse
    split
    · split_ifs
      · exact .refl
      · exact custody_invalidations [AUDIO_STREAM_SYSTEM, AUDIO_STREAM_ENFORCED_AUDIBLE]
    · exact .refl

variable {primaryInputDevices : DeviceVector} {portId : audio_port_handle_t}

theorem custody_start_rec_play (others : OthersPart) (self : AudioPolicyManagerCustom)
    (configs : APMConfigHelper) (primaryInputDevices : DeviceVector) :
    OutputSteps others self.custody (self.start_rec_play configs primaryInputDevices).custody := by
  unfold AudioPolicyManagerCustom.start_rec_play
  dsimp only
  split_ifs
  · exact (custody_tell (List.forall_mem_cons.mpr ⟨rfl, List.forall_mem_map.mpr fun _ _ => rfl⟩)).trans
      (custody_run_loop _ permitted_compress_visit)
  · exact .refl
  · exact .refl

theorem custody_capture_started (self : AudioPolicyManagerCustom) (configs : APMConfigHelper)
    (primaryInputDevices : DeviceVector) (device : DeviceDescriptor) :
    OutputSteps others self.custody
      (self.tell (self.capture_started configs primaryInputDevices device)).custody := by
  refine custody_tell ?_
  unfold AudioPolicyManagerCustom.capture_started
  dsimp only
  split_ifs <;> simp [ClientCall.output]

theorem custody_input_activated {inputDesc : AudioInputDescriptor} {answers : StartInputAnswers}
    (hwithin : answers.connection.Within others) :
    OutputSteps others self.custody
      (self.input_activated configs primaryInputDevices inputDesc answers).custody := by
  unfold AudioPolicyManagerCustom.input_activated
  dsimp only
  generalize hnotified : self.tell ((inputDesc.mPolicyMix.filter AudioPolicyMix.notifyActivity).toList.map
    fun policyMix => .onDynamicPolicyMixStateUpdate policyMix.mDeviceAddress) = notified
  have htold : OutputSteps others self.custody notified.custody := by
    rw [← hnotified]
    exact custody_tell (List.forall_mem_map.mpr fun _ _ => rfl)
  have hcaptured := htold.trans
    (custody_capture_started notified configs primaryInputDevices inputDesc.device)
  split_ifs
  · exact hcaptured.trans (custody_setDeviceConnectionStateInt fun _ => hwithin)
  · exact hcaptured

theorem custody_startInput {answers : StartInputAnswers} (hwithin : answers.connection.Within others) :
    OutputSteps others self.custody
      (self.startInput configs primaryInputDevices portId answers).2.custody := by
  unfold AudioPolicyManagerCustom.startInput
  cases getInputForClient self.mInputs portId with
  | none => exact .refl
  | some found =>
    dsimp only
    have hstarted := custody_start_rec_play others self configs primaryInputDevices
    generalize self.start_rec_play configs primaryInputDevices = started at hstarted ⊢
    generalize ({ found.2.setClientActive portId true with device := answers.getNewInputDevice } :
      AudioInputDescriptor) = inputDesc
    generalize hused : { started with mInputs := _ } = used
    have hsame : used.custody = started.custody := by
      rw [← hused]
      rfl
    have hactivated : OutputSteps others used.custody (if inputDesc.activeCount = 1 then
        used.input_activated configs primaryInputDevices inputDesc answers else used).custody := by
      split_ifs
      · exact custody_input_activated hwithin
      · exact .refl
    generalize (if inputDesc.activeCount = 1 then
      used.input_activated configs primaryInputDevices inputDesc answers else used) = activated at hactivated ⊢
    rw [hsame] at hactivated
    by_cases hactive : found.2.clients.valueFor portId = some true
    · rw [if_pos hactive]
    · rw [if_neg hactive]
      by_cases hfails : answers.start ≠ NO_ERROR
      · rw [if_pos hfails]
        exact hstarted
      · rw [if_neg hfails]
        dsimp only
        split_ifs
        · exact hstarted.trans hactivated
        · exact hstarted.trans hactivated

theorem custody_stopInput {answers : StopInputAnswers}
    (htells : ∀ call ∈ answers.told, call.output = none ∨ others.tells call) :
    OutputSteps others self.custody (self.stopInput configs primaryInputDevices portId answers).2.custody := by
  have hbase : OutputSteps others self.custody (self.base_stopInput portId answers).custody := by
    unfold AudioPolicyManagerCustom.base_stopInput
    split
    · exact .refl
    · exact steps_tell htells _ _
  have hstopped (manager : AudioPolicyManagerCustom) : OutputSteps others manager.custody
      (manager.stop_rec_play configs primaryInputDevices).custody := by
    unfold AudioPolicyManagerCustom.stop_rec_play
    split_ifs
    · exact custody_tell (List.forall_mem_cons.mpr ⟨rfl, List.forall_mem_map.mpr fun _ _ => rfl⟩)
    · exact .refl
  have hcaptured (manager : AudioPolicyManagerCustom) (device : DeviceDescriptor) :
      OutputSteps others manager.custody
        (manager.tell (manager.capture_stopped configs primaryInputDevices device)).custody := by
    refine custody_tell ?_
    unfold AudioPolicyManagerCustom.capture_stopped
    dsimp only
    split_ifs <;> simp [ClientCall.output]
  unfold AudioPolicyManagerCustom.stopInput
  dsimp only
  split
  · exact hbase
  · exact (hbase.trans (hcaptured _ _)).trans (hstopped _)

end clients

/-- A call of the manager takes steps, where others keep to their part. -/
theorem custody_perform {call : ManagerCall} (hwithin : Within others self call) :
    OutputSteps others self.custody (self.perform configs call).custody := by
  cases call with
  | startInput primaryInputDevices portId answers => exact custody_startInput hwithin
  | stopInput primaryInputDevices portId answers => exact custody_stopInput hwithin
  | callEvent event => exact custody_take hwithin
  | sourceEvent event => exact custody_onSource event
  | setDeviceConnectionStateInt call => exact custody_setDeviceConnectionStateInt fun _ => hwithin
  | inherited mOutputs mInputs => exact .single (.changes hwithin)

theorem custody_performs {calls : List ManagerCall} {start : AudioPolicyManagerCustom}
    (hothers : Taken (AudioPolicyManagerCustom.perform configs) (Within others) start calls) :
    OutputSteps others start.custody (calls.foldl (AudioPolicyManagerCustom.perform configs) start).custody := by
  induction calls generalizing start with
  | nil => exact .refl
  | cons call calls ih => exact (custody_perform hothers.1).trans (ih hothers.2)

/-- Where others keep to their part the calls of a run are made of steps: no output is closed that
    is not open, none twice, and none but those that may be. -/
theorem outputs_in_custody (others : OthersPart) (configs : APMConfigHelper)
    (start : AudioPolicyManagerCustom) (calls : List ManagerCall)
    (hothers : Taken (AudioPolicyManagerCustom.perform configs) (Within others) start calls) :
    OutputSteps others start.custody (calls.foldl (AudioPolicyManagerCustom.perform configs) start).custody :=
  custody_performs hothers

/-- Others leave an output as it was opened, and neither list it nor tell of it. -/
def OthersPart.leaving (output : audio_io_handle_t) : OthersPart where
  changes before after := ∀ desc, before.valueFor output = some desc →
    ∃ desc', after.valueFor output = some desc' ∧ desc.SameOutput desc'
  lists other := other ≠ output
  tells call := call.output ≠ some output

theorem SwAudioOutputDescriptor.SameOutput.trans {a b c : SwAudioOutputDescriptor} (h : a.SameOutput b)
    (h' : b.SameOutput c) : a.SameOutput c :=
  ⟨h'.1.trans h.1, h'.2.trans h.2, h'.3.trans h.3, h'.4.trans h.4⟩

namespace SwAudioOutputDescriptor.SameOutput

variable {before after : SwAudioOutputDescriptor}

theorem isPrimary (hsame : before.SameOutput after) : after.isPrimary = before.isPrimary := by
  rw [SwAudioOutputDescriptor.isPrimary, SwAudioOutputDescriptor.isPrimary, hsame.mProfile,
    hsame.isDuplicated]

theorem isClosable (hsame : before.SameOutput after) : after.isClosable = before.isClosable := by
  rw [SwAudioOutputDescriptor.isClosable, SwAudioOutputDescriptor.isClosable, isVoipOutput, isVoipOutput,
    hsame.mProfile, hsame.mFlags, hsame.format]

end SwAudioOutputDescriptor.SameOutput

/-- An output is open as it was, and what has been told of it since is that it, a primary one, is
    suspended or restored. -/
structure KeptOpen (output : audio_io_handle_t) (desc : SwAudioOutputDescriptor) (told : List ClientCall)
    (now : Custody) : Prop where
  stays : ∃ desc', now.1.valueFor output = some desc' ∧ desc.SameOutput desc'
  told : ∃ calls, now.2 = told ++ calls ∧ ∀ call ∈ calls, call.output = some output →
    desc.isPrimary = true ∧ (call = .suspendOutput output ∨ call = .restoreOutput output)

theorem keptOpen_step {output : audio_io_handle_t} {desc : SwAudioOutputDescriptor} {told : List ClientCall}
    (hordinary : desc.isClosable = false) {now next : Custody} (hkept : KeptOpen output desc told now)
    (hstep : OutputStep (.leaving output) now next) : KeptOpen output desc told next := by
  obtain ⟨⟨desc', hopen', hsame⟩, calls, hcalls, htold⟩ := hkept
  have hmore (more : List ClientCall) (hmore : ∀ call ∈ more, call.output = some output →
      desc.isPrimary = true ∧ (call = .suspendOutput output ∨ call = .restoreOutput output)) :
      ∃ calls, now.2 ++ more = told ++ calls ∧ ∀ call ∈ calls, call.output = some output →
        desc.isPrimary = true ∧ (call = .suspendOutput output ∨ call = .restoreOutput output) :=
    ⟨calls ++ more, by rw [hcalls, List.append_assoc], List.forall_mem_append.mpr ⟨htold, hmore⟩⟩
  cases hstep with
  | tells call hother =>
    refine ⟨⟨desc', hopen', hsame⟩, hmore _ (List.forall_mem_singleton.mpr fun hcall => ?_)⟩
    obtain hnone | hother := hother
    · rw [hnone] at hcall
      cases hcall
    · exact absurd hcall hother
  | @suspends _ _ output' desc'' hopen hprimary =>
    refine ⟨⟨desc', hopen', hsame⟩, hmore _ (List.forall_mem_singleton.mpr fun hcall => ?_)⟩
    obtain rfl : output' = output := Option.some.inj hcall
    obtain rfl : desc' = desc'' := Option.some.inj (hopen'.symm.trans hopen)
    exact ⟨hsame.isPrimary ▸ hprimary, .inl rfl⟩
  | @restores _ _ output' desc'' hopen hprimary =>
    refine ⟨⟨desc', hopen', hsame⟩, hmore _ (List.forall_mem_singleton.mpr fun hcall => ?_)⟩
    obtain rfl : output' = output := Option.some.inj hcall
    obtain rfl : desc' = desc'' := Option.some.inj (hopen'.symm.trans hopen)
    exact ⟨hsame.isPrimary ▸ hprimary, .inr rfl⟩
  | @closes _ _ output' desc'' hopen hclosable =>
    -- the closed output is another one: this one is neither closable nor listed
    have hne : output' ≠ output := by
      rintro rfl
      obtain rfl : desc' = desc'' := Option.some.inj (hopen'.symm.trans hopen)
      rw [hsame.isClosable, hordinary] at hclosable
      exact hclosable.elim Bool.false_ne_true fun h => h rfl
    refine ⟨⟨desc', ?_, hsame⟩, hmore _ (List.forall_mem_singleton.mpr fun hcall => ?_)⟩
    · rw [KeyedVector.valueFor_removeItem_of_ne hne.symm]
      exact hopen'
    · exact absurd (Option.some.inj hcall) hne
  | @opens mOutputs _ output' opened hfresh =>
    have hne : output ≠ output' := by
      rintro rfl
      exact hfresh (KeyedVector.mem_keys_iff.mpr ⟨desc', KeyedVector.valueFor_eq_some_iff.mp hopen'⟩)
    refine ⟨⟨desc', ?_, hsame⟩, hmore _ (List.forall_mem_singleton.mpr fun hcall => ?_)⟩
    · rw [KeyedVector.valueFor_add, if_neg hne]
      exact hopen'
    · exact absurd (Option.some.inj hcall).symm hne
  | @givesUp mOutputs _ output' hfresh =>
    have hne : output' ≠ output := by
      rintro rfl
      exact hfresh (KeyedVector.mem_keys_iff.mpr ⟨desc', KeyedVector.valueFor_eq_some_iff.mp hopen'⟩)
    refine ⟨⟨desc', hopen', hsame⟩, hmore _ ?_⟩
    rw [List.forall_mem_cons, List.forall_mem_singleton]
    exact ⟨fun hcall => absurd (Option.some.inj hcall) hne, fun hcall => absurd (Option.some.inj hcall) hne⟩
  | @uses mOutputs _ output' f hused =>
    refine ⟨?_, calls, hcalls, htold⟩
    rw [KeyedVector.valueFor_modify]
    split_ifs with heq
    · rw [← heq, hopen']
      exact ⟨f desc', rfl, hsame.trans (hused desc' (heq ▸ hopen'))⟩
    · exact ⟨desc', hopen', hsame⟩
  | changes hchange =>
    obtain ⟨desc'', hopen'', hsame'⟩ := hchange desc' hopen'
    exact ⟨⟨desc'', hopen'', hsame.trans hsame'⟩, calls, hcalls, htold⟩

theorem keptOpen_steps {output : audio_io_handle_t} {desc : SwAudioOutputDescriptor} {told : List ClientCall}
    (hordinary : desc.isClosable = false) {start now : Custody} (hstart : KeptOpen output desc told start)
    (hsteps : OutputSteps (.leaving output) start now) : KeptOpen output desc told now := by
  induction hsteps with
  | refl => exact hstart
  | tail _ hstep ih => exact keptOpen_step hordinary ih hstep

/-- In every run in which others leave it alone, an output that no loop may close is open to the
    end, and is told of only when it is a primary one, to be suspended or restored. -/
theorem ordinary_output_kept (configs : APMConfigHelper) (start : AudioPolicyManagerCustom)
    {output : audio_io_handle_t} {desc : SwAudioOutputDescriptor}
    (hopen : start.mOutputs.valueFor output = some desc) (hordinary : desc.isClosable = false)
    (calls : List ManagerCall)
    (hothers : Taken (AudioPolicyManagerCustom.perform configs) (Within (.leaving output)) start calls) :
    KeptOpen output desc start.told (calls.foldl (AudioPolicyManagerCustom.perform configs) start).custody :=
  keptOpen_steps hordinary
    ⟨⟨desc, hopen, ⟨rfl, rfl, rfl, rfl⟩⟩, [], (List.append_nil _).symm, List.forall_mem_nil _⟩
    (custody_performs hothers)

/-- The base class does nothing by itself. -/
def OthersPart.idle : OthersPart where
  changes before after := after = before
  lists _ := False
  tells _ := False

def besidePrimary : AudioPolicyManagerCustom :=
  { AudioPolicyManagerCustom.init fastConfigs 0 with
    mOutputs := KeyedVector.empty.add 13 primaryOutput }

/-- Music is offloaded when a voice call begins. -/
def callDuringMusic : List ManagerCall :=
  [.callEvent (.getOutputForDevices offloadRequest openingAnswers),
    .callEvent (.setPhoneState ⟨.AUDIO_MODE_IN_CALL, .accepting id⟩)]

theorem opensFresh_besidePrimary : OpensFresh besidePrimary.mOutputs openingAnswers := by
  have hfresh : (29 : audio_io_handle_t) ≠ AUDIO_IO_HANDLE_NONE ∧ 29 ∉ besidePrimary.mOutputs.keys := by
    decide
  exact fun _ _ => hfresh

theorem outputs_in_custody_callDuringMusic :
    OutputSteps .idle besidePrimary.custody
      (callDuringMusic.foldl (AudioPolicyManagerCustom.perform fastConfigs) besidePrimary).custody :=
  outputs_in_custody .idle fastConfigs besidePrimary callDuringMusic
    ⟨opensFresh_besidePrimary, fun _ => rfl, trivial⟩

theorem ordinary_output_kept_callDuringMusic :
    KeptOpen 13 primaryOutput besidePrimary.told
      (callDuringMusic.foldl (AudioPolicyManagerCustom.perform fastConfigs) besidePrimary).custody :=
  ordinary_output_kept fastConfigs besidePrimary (by decide) (by decide) callDuringMusic
    ⟨opensFresh_besidePrimary, fun _ desc hdesc => ⟨desc, hdesc, ⟨rfl, rfl, rfl, rfl⟩⟩, trivial⟩

end policy_hal
