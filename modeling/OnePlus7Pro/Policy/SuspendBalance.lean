import OnePlus7Pro.Effects.Balance
import OnePlus7Pro.Policy.CompleteClosing
import OnePlus7Pro.Policy.PhoneState
import OnePlus7Pro.Runs.Taken

open effects loops runs

namespace policy_hal

variable {configs : APMConfigHelper} {output key : audio_io_handle_t}
  {desc : SwAudioOutputDescriptor} {self : AudioPolicyManagerCustom}

/-- How often an output was suspended more than it was restored. -/
def suspensions (output : audio_io_handle_t) (told : List ClientCall) : Int :=
  balance (.suspendOutput output) (.restoreOutput output) told

/-- An output that the loop of a beginning voice call suspends, with the fast fallback. -/
structure IsSuspendable (desc : SwAudioOutputDescriptor) : Prop where
  notDuplicated : desc.isDuplicated = false
  flags : ∃ profile, desc.mProfile = some profile ∧
    hasFlag (AUDIO_OUTPUT_FLAG_DEEP_BUFFER ||| AUDIO_OUTPUT_FLAG_COMPRESS_OFFLOAD |||
      AUDIO_OUTPUT_FLAG_DIRECT_PCM) profile.flags = true ∧
    hasFlag profile.flags AUDIO_OUTPUT_FLAG_PRIMARY = true

/-- The loop of a beginning voice call closes the output. -/
def isClosedByCall (configs : APMConfigHelper)
    (entry : audio_io_handle_t × SwAudioOutputDescriptor) : Bool :=
  (voice_call_visit configs AUDIO_OUTPUT_FLAG_FAST entry.1 entry.2).removed

/-- An even number of outputs that the loop of a beginning voice call closes stand directly
    before the output. -/
def IsReachedByCall (configs : APMConfigHelper) (output : audio_io_handle_t)
    (mOutputs : SwAudioOutputCollection) : Prop :=
  Even (trailing (isClosedByCall configs)
    (mOutputs.entries.takeWhile fun entry => entry.1 ≠ output))

instance (configs : APMConfigHelper) (output : audio_io_handle_t)
    (mOutputs : SwAudioOutputCollection) : Decidable (IsReachedByCall configs output mOutputs) :=
  inferInstanceAs (Decidable (Even _))

/-- What a loop over the outputs tells about an open output. -/
theorem suspensions_walk (visit : audio_io_handle_t → SwAudioOutputDescriptor → Visit ClientCall)
    {mOutputs : SwAudioOutputCollection} (hmem : (output, desc) ∈ mOutputs.entries)
    (hother : ∀ key desc, key ≠ output → suspensions output (visit key desc).told = 0) :
    suspensions output (mOutputs.walk visit 0).2 =
      if (output, desc) ∈ reached (fun entry => (visit entry.1 entry.2).removed) mOutputs.entries
      then suspensions output (visit output desc).told else 0 := by
  have hsublist := reached_sublist (fun entry => (visit entry.1 entry.2).removed) mOutputs.entries
  have hothers : ∀ entry ∈ reached (fun entry => (visit entry.1 entry.2).removed) mOutputs.entries,
      entry ≠ (output, desc) → suspensions output (visit entry.1 entry.2).told = 0 := by
    intro entry hentry hne
    refine hother entry.1 entry.2 fun hkey => hne ?_
    have hopen := hsublist.mem hentry
    rw [← hkey] at hmem
    exact Prod.ext hkey (mOutputs.value_unique hopen hmem)
  rw [(mOutputs.walk_eq visit).2]
  exact balance_flatMap_of_unique (hsublist.nodup mOutputs.nodup_entries) hothers

theorem voice_call_other (hne : key ≠ output) :
    suspensions output (voice_call_visit configs AUDIO_OUTPUT_FLAG_FAST key desc).told = 0 := by
  have hdeep : AUDIO_OUTPUT_FLAG_DEEP_BUFFER ≠ AUDIO_OUTPUT_FLAG_FAST := by decide
  unfold voice_call_visit
  split
  · rfl
  · simp only [hdeep, if_false, true_and]
    split_ifs <;> simp [suspensions, closing, passing, hne]

theorem restore_other (hne : key ≠ output) :
    suspensions output (restore_visit key desc).told = 0 := by
  unfold restore_visit
  split
  · rfl
  · split_ifs <;> simp [suspensions, passing, hne]

theorem voice_call_suspends (hdesc : IsSuspendable desc)
    (hplay : configs.isVoicePlayConcDisabled = true) :
    voice_call_visit configs AUDIO_OUTPUT_FLAG_FAST output desc =
      ⟨false, [.suspendOutput output]⟩ := by
  obtain ⟨hsingle, profile, hprofile, hfast, hprimary⟩ := hdesc
  simp [voice_call_visit, hprofile, hfast, hsingle, hprimary, hplay]

theorem restore_restores (hdesc : IsSuspendable desc) :
    restore_visit output desc = ⟨false, [.restoreOutput output]⟩ := by
  obtain ⟨hsingle, profile, hprofile, _, hprimary⟩ := hdesc
  simp [restore_visit, hprofile, hsingle, hprimary]

/-- The loop of a beginning voice call suspends the output that it reaches. -/
theorem suspensions_voice_call_loop {mOutputs : SwAudioOutputCollection}
    (hmem : (output, desc) ∈ mOutputs.entries) (hdesc : IsSuspendable desc)
    (hplay : configs.isVoicePlayConcDisabled = true) :
    suspensions output (voice_call_loop configs AUDIO_OUTPUT_FLAG_FAST mOutputs).2 =
      if IsReachedByCall configs output mOutputs then 1 else 0 := by
  obtain ⟨before, after, hsplit⟩ := List.append_of_mem hmem
  have hnodup := mOutputs.nodup_entries
  rw [hsplit] at hnodup
  have hreached : (output, desc) ∈ reached (isClosedByCall configs) mOutputs.entries ↔
      IsReachedByCall configs output mOutputs := by
    rw [IsReachedByCall, KeyedVector.takeWhile_of_split hsplit, hsplit]
    exact mem_reached_iff hnodup
  have hwalk := suspensions_walk (voice_call_visit configs AUDIO_OUTPUT_FLAG_FAST) hmem
    fun key desc hne => voice_call_other hne
  rw [voice_call_loop, hwalk, voice_call_suspends hdesc hplay]
  refine (if_congr hreached ?_ rfl)
  simp [suspensions]

theorem restore_keeps : (restore_visit key desc).removed = false := by
  unfold restore_visit
  split
  · rfl
  · split_ifs <;> rfl

/-- The loop of an ending voice call restores the output. -/
theorem suspensions_restore_loop {mOutputs : SwAudioOutputCollection}
    (hmem : (output, desc) ∈ mOutputs.entries) (hdesc : IsSuspendable desc) :
    suspensions output (restore_loop mOutputs).2 = -1 := by
  have hwalk := suspensions_walk restore_visit hmem fun key desc hne => restore_other hne
  have hall : reached (fun entry => (restore_visit entry.1 entry.2).removed) mOutputs.entries =
      mOutputs.entries := reached_of_kept fun entry _ => restore_keeps
  rw [restore_loop, hwalk, hall, if_pos hmem, restore_restores hdesc]
  simp [suspensions]

@[simp] theorem suspensions_append (told more : List ClientCall) :
    suspensions output (told ++ more) = suspensions output told + suspensions output more :=
  balance_append told more

theorem suspensions_walk_eq_zero
    {visit : audio_io_handle_t → SwAudioOutputDescriptor → Visit ClientCall}
    (hvisit : ∀ key desc, suspensions output (visit key desc).told = 0)
    (mOutputs : SwAudioOutputCollection) : suspensions output (mOutputs.walk visit 0).2 = 0 := by
  rw [(mOutputs.walk_eq visit).2]
  exact balance_flatMap_eq_zero fun entry _ => hvisit entry.1 entry.2

theorem suspensions_dsd_loop (mOutputs : SwAudioOutputCollection) :
    suspensions output (dsd_loop configs mOutputs).2 = 0 := by
  refine suspensions_walk_eq_zero (fun key desc => ?_) mOutputs
  unfold dsd_visit
  split_ifs <;> simp [suspensions, passing, balance]

theorem suspensions_record_play_loop (mOutputs : SwAudioOutputCollection) :
    suspensions output (record_play_loop mOutputs).2 = 0 := by
  refine suspensions_walk_eq_zero (fun key desc => ?_) mOutputs
  unfold compress_visit
  split
  · rfl
  · split_ifs <;> simp [suspensions, passing, closing]

theorem suspensions_invalidate_for_call (flag : audio_output_flags_t) :
    suspensions output (invalidate_for_call flag) = 0 := by
  refine balance_flatMap_eq_zero fun stream _ => ?_
  split_ifs <;> simp

theorem suspensions_closeClients (input : AudioInputDescriptor) :
    suspensions output input.closeClients = 0 := by
  refine balance_eq_zero ?_ ?_ <;> simp [AudioInputDescriptor.closeClients]

theorem suspensions_close_inputs_on_call (mInputs : AudioInputCollection) :
    suspensions output (close_inputs_on_call configs mInputs) = 0 := by
  unfold close_inputs_on_call
  dsimp only
  by_cases hrecord : configs.isVoiceRecConcDisabled
  · rw [if_pos hrecord]
    refine balance_flatMap_eq_zero fun input _ => ?_
    split_ifs <;> first | rfl | exact suspensions_closeClients input
  · rw [if_neg hrecord]
    by_cases hvoip : configs.isVoiceVOIPConcDisabled
    · rw [if_pos hvoip]
      refine balance_flatMap_eq_zero fun input _ => ?_
      split_ifs <;> first | rfl | exact suspensions_closeClients input
    · rw [if_neg hvoip]
      rfl

theorem suspensions_accessibility_calls (answers : PhoneStateAnswers) (state : audio_mode_t) :
    suspensions output (answers.accessibility_calls state) = 0 := by
  unfold PhoneStateAnswers.accessibility_calls
  split_ifs <;> simp [suspensions]

/-- The call begins a voice call, and the output is suspended by it. -/
def Suspends (configs : APMConfigHelper) (output : audio_io_handle_t)
    (self : AudioPolicyManagerCustom) (call : PhoneStateCall) : Prop :=
  call.answers.accepted = true ∧ self.mEngine.phoneState ≠ .AUDIO_MODE_IN_CALL ∧
    call.state = .AUDIO_MODE_IN_CALL ∧
    IsReachedByCall configs output (call.answers.checkForDeviceAndOutputChanges self.mOutputs)

/-- The states that a voice call ends in. -/
def LeavesCall (oldState : audio_mode_t) : Prop :=
  oldState = .AUDIO_MODE_IN_CALL ∨ oldState = .AUDIO_MODE_IN_COMMUNICATION

instance (oldState : audio_mode_t) : Decidable (LeavesCall oldState) :=
  inferInstanceAs (Decidable (_ ∨ _))

/-- The call ends a voice call, and the outputs are restored by it. -/
def Restores (self : AudioPolicyManagerCustom) (call : PhoneStateCall) : Prop :=
  call.answers.accepted = true ∧ LeavesCall self.mEngine.phoneState ∧
    call.state = .AUDIO_MODE_NORMAL ∧ self.mvoice_call_state ≠ 0

instance (configs : APMConfigHelper) (output : audio_io_handle_t)
    (self : AudioPolicyManagerCustom) (call : PhoneStateCall) :
    Decidable (Suspends configs output self call) :=
  inferInstanceAs (Decidable (_ ∧ _))

instance (self : AudioPolicyManagerCustom) (call : PhoneStateCall) :
    Decidable (Restores self call) :=
  inferInstanceAs (Decidable (_ ∧ _))

theorem suspensions_enter_call (hmem : (output, desc) ∈ self.mOutputs.entries)
    (hdesc : IsSuspendable desc) (hplay : configs.isVoicePlayConcDisabled = true)
    (hfast : self.mFallBackflag = AUDIO_OUTPUT_FLAG_FAST) (oldState state : audio_mode_t) :
    suspensions output (self.enter_call configs oldState state).told =
      suspensions output self.told + if oldState ≠ .AUDIO_MODE_IN_CALL ∧
        state = .AUDIO_MODE_IN_CALL ∧ IsReachedByCall configs output self.mOutputs
      then 1 else 0 := by
  unfold AudioPolicyManagerCustom.enter_call
  by_cases hbegin : .AUDIO_MODE_IN_CALL ≠ oldState ∧ .AUDIO_MODE_IN_CALL = state
  · have hloop := suspensions_voice_call_loop hmem hdesc hplay
    have hreached : (oldState ≠ .AUDIO_MODE_IN_CALL ∧ state = .AUDIO_MODE_IN_CALL ∧
        IsReachedByCall configs output self.mOutputs) ↔
        IsReachedByCall configs output self.mOutputs := by
      simp [hbegin.1.symm, ← hbegin.2]
    rw [if_pos hbegin, if_congr hreached rfl rfl]
    simp only [hplay, if_true, run_loop_told, tell_told, tell_mFallBackflag, tell_mOutputs,
      suspensions_append, suspensions_close_inputs_on_call, suspensions_invalidate_for_call,
      hfast, hloop, add_zero]
  · have hnot : ¬ (oldState ≠ .AUDIO_MODE_IN_CALL ∧ state = .AUDIO_MODE_IN_CALL ∧
        IsReachedByCall configs output self.mOutputs) := fun h => hbegin ⟨h.1.symm, h.2.1.symm⟩
    rw [if_neg hbegin, if_neg hnot, add_zero]

theorem suspensions_exit_call (hmem : (output, desc) ∈ self.mOutputs.entries)
    (hdesc : IsSuspendable desc) (hplay : configs.isVoicePlayConcDisabled = true)
    (hfast : self.mFallBackflag = AUDIO_OUTPUT_FLAG_FAST) (oldState state : audio_mode_t) :
    suspensions output (self.exit_call configs oldState state).told =
      suspensions output self.told - if LeavesCall oldState ∧
        state = .AUDIO_MODE_NORMAL ∧ self.mvoice_call_state ≠ 0 then 1 else 0 := by
  have hloop := suspensions_restore_loop hmem hdesc
  have hends : ((.AUDIO_MODE_IN_CALL = oldState ∨ .AUDIO_MODE_IN_COMMUNICATION = oldState) ∧
      .AUDIO_MODE_NORMAL = state ∧ configs.isVoicePlayConcDisabled = true ∧
      self.mvoice_call_state ≠ 0) ↔ LeavesCall oldState ∧
        state = .AUDIO_MODE_NORMAL ∧ self.mvoice_call_state ≠ 0 := by
    cases oldState <;> cases state <;> simp [LeavesCall, hplay]
  unfold AudioPolicyManagerCustom.exit_call
  rw [if_congr hends rfl rfl]
  by_cases hrestores : LeavesCall oldState ∧ state = .AUDIO_MODE_NORMAL ∧
      self.mvoice_call_state ≠ 0
  · rw [if_pos hrestores, if_pos hrestores, sub_eq_add_neg]
    rw [tell_told, suspensions_append, suspensions_invalidate_for_call, add_zero,
      if_pos hfast.symm, run_loop_told, suspensions_append, hloop]
  · rw [if_neg hrestores, if_neg hrestores, sub_zero]

theorem suspensions_record_play_conc (oldState : audio_mode_t) :
    suspensions output (self.record_play_conc configs oldState).told =
      suspensions output self.told := by
  have hstreams (streams : List audio_stream_type_t) :
      suspensions output (streams.map ClientCall.invalidateStream) = 0 := by
    refine balance_eq_zero ?_ ?_ <;> simp
  have hmusic := hstreams [AUDIO_STREAM_MUSIC]
  have hboth := hstreams [AUDIO_STREAM_VOICE_CALL, AUDIO_STREAM_MUSIC]
  unfold AudioPolicyManagerCustom.record_play_conc
  rw [List.map_cons, List.map_nil] at hmusic
  rw [List.map_cons, List.map_cons, List.map_nil] at hboth
  split_ifs
  · rw [run_loop_told, tell_told, suspensions_append, suspensions_append, hboth,
      suspensions_record_play_loop, add_zero, add_zero]
  · rw [tell_told, suspensions_append, hmusic, add_zero]
  · rfl
  · rfl

/-- A voice call does not begin and end in one call of `setPhoneState`. -/
theorem enter_call_of_normal (oldState : audio_mode_t) :
    self.enter_call configs oldState .AUDIO_MODE_NORMAL = self := by
  unfold AudioPolicyManagerCustom.enter_call
  exact if_neg fun h => by simp at h

theorem exit_call_of_not_normal {state : audio_mode_t} (hstate : state ≠ .AUDIO_MODE_NORMAL)
    (oldState : audio_mode_t) : self.exit_call configs oldState state = self := by
  unfold AudioPolicyManagerCustom.exit_call
  exact if_neg fun h => hstate h.2.1.symm

theorem suspensions_enter_exit (hmem : (output, desc) ∈ self.mOutputs.entries)
    (hdesc : IsSuspendable desc) (hplay : configs.isVoicePlayConcDisabled = true)
    (hfast : self.mFallBackflag = AUDIO_OUTPUT_FLAG_FAST) (oldState state : audio_mode_t) :
    suspensions output
        ((self.enter_call configs oldState state).exit_call configs oldState state).told =
      suspensions output self.told +
        (if oldState ≠ .AUDIO_MODE_IN_CALL ∧ state = .AUDIO_MODE_IN_CALL ∧
          IsReachedByCall configs output self.mOutputs then 1 else 0) -
        if LeavesCall oldState ∧ state = .AUDIO_MODE_NORMAL ∧
          self.mvoice_call_state ≠ 0 then 1 else 0 := by
  by_cases hstate : state = .AUDIO_MODE_NORMAL
  · subst hstate
    rw [enter_call_of_normal, suspensions_exit_call hmem hdesc hplay hfast]
    simp
  · rw [exit_call_of_not_normal hstate, suspensions_enter_call hmem hdesc hplay hfast]
    simp [hstate]

/-- The output is open as one that a voice call suspends, whenever an accepted call looks at the
    outputs. Whatever else it does meanwhile is left open. -/
def StaysOpen (output : audio_io_handle_t) (self : AudioPolicyManagerCustom)
    (call : PhoneStateCall) : Prop :=
  call.answers.accepted = true → ∃ desc, IsSuspendable desc ∧
    (output, desc) ∈ (call.answers.checkForDeviceAndOutputChanges self.mOutputs).entries

/-- One call of `setPhoneState` moves the balance of an open output by what the call
    suspends and restores. -/
theorem suspensions_receive {call : PhoneStateCall} (hconc : configs.isVoiceConcEnabled = true)
    (hplay : configs.isVoicePlayConcDisabled = true)
    (hfast : self.mFallBackflag = AUDIO_OUTPUT_FLAG_FAST) (hopen : StaysOpen output self call) :
    suspensions output (self.receive configs call).told = suspensions output self.told +
      (if Suspends configs output self call then 1 else 0) -
      (if Restores self call then 1 else 0) := by
  unfold AudioPolicyManagerCustom.receive AudioPolicyManagerCustom.setPhoneState
  by_cases haccepted : call.answers.accepted
  · obtain ⟨desc, hdesc, hentry⟩ := hopen haccepted
    have hmem : (output, desc) ∈ ((self.change_state call.state call.answers).tell
        (call.answers.accessibility_calls self.mEngine.phoneState)).mOutputs.entries := hentry
    have hcalls := suspensions_enter_exit hmem hdesc hplay hfast self.mEngine.phoneState call.state
    simp only [haccepted, hconc, if_true]
    rw [tell_told, suspensions_append, suspensions_accessibility_calls, add_zero]
    dsimp only
    rw [suspensions_record_play_conc, run_loop_told, suspensions_append, suspensions_dsd_loop,
      hcalls, tell_told, suspensions_append, suspensions_accessibility_calls]
    have hsuspends : Suspends configs output self call ↔
        self.mEngine.phoneState ≠ .AUDIO_MODE_IN_CALL ∧ call.state = .AUDIO_MODE_IN_CALL ∧
        IsReachedByCall configs output
          (call.answers.checkForDeviceAndOutputChanges self.mOutputs) := and_iff_right haccepted
    have hrestores : Restores self call ↔ LeavesCall self.mEngine.phoneState ∧
        call.state = .AUDIO_MODE_NORMAL ∧ self.mvoice_call_state ≠ 0 := and_iff_right haccepted
    rw [if_congr hsuspends rfl rfl, if_congr hrestores rfl rfl, add_zero, add_zero]
    rfl
  · simp [haccepted, Suspends, Restores]

/-- The suspensions and restorations of an output are in balance. -/
structure SuspendBalanced (output : audio_io_handle_t) (manager : AudioPolicyManagerCustom) :
    Prop where
  zero_or_one : suspensions output manager.told = 0 ∨ suspensions output manager.told = 1
  zero_in_normal : manager.mEngine.phoneState = .AUDIO_MODE_NORMAL →
    suspensions output manager.told = 0

/-- The manager, and whether a voice call that suspended the output has begun since the
    phone state was last `AUDIO_MODE_NORMAL`. -/
structure Watched where
  manager : AudioPolicyManagerCustom
  suspended : Bool

def Watched.receive (configs : APMConfigHelper) (output : audio_io_handle_t) (watched : Watched)
    (call : PhoneStateCall) : Watched where
  manager := watched.manager.receive configs call
  suspended :=
    if Suspends configs output watched.manager call then true
    else if call.answers.accepted && call.state = .AUDIO_MODE_NORMAL then false
    else watched.suspended

/-- No voice call suspends the output a second time, and the phone state goes to
    `AUDIO_MODE_NORMAL` by a call that restores the output exactly when one has suspended it. -/
structure Matched (configs : APMConfigHelper) (output : audio_io_handle_t) (watched : Watched)
    (call : PhoneStateCall) : Prop where
  begins_once : Suspends configs output watched.manager call → watched.suspended = false
  ends_restored : call.answers.accepted = true → call.state = .AUDIO_MODE_NORMAL →
    (Restores watched.manager call ↔ watched.suspended = true)

/-- What the balance counts is whether the output is suspended. -/
structure Counted (output : audio_io_handle_t) (watched : Watched) : Prop where
  fast : watched.manager.mFallBackflag = AUDIO_OUTPUT_FLAG_FAST
  count : suspensions output watched.manager.told = if watched.suspended then 1 else 0

theorem balanced_receive_iff {watched : Watched} {call : PhoneStateCall}
    (hconc : configs.isVoiceConcEnabled = true) (hplay : configs.isVoicePlayConcDisabled = true)
    (hcounted : Counted output watched)
    (hbalanced : SuspendBalanced output watched.manager)
    (hopen : StaysOpen output watched.manager call) :
    SuspendBalanced output (watched.receive configs output call).manager ↔
      Matched configs output watched call := by
  have hafter := suspensions_receive hconc hplay hcounted.fast hopen
  have hphone := receive_phoneState configs watched.manager call
  rw [hcounted.count] at hafter
  by_cases haccepted : call.answers.accepted = true
  · rw [if_pos haccepted] at hphone
    by_cases hnormal : call.state = .AUDIO_MODE_NORMAL
    · have hnever : ¬ Suspends configs output watched.manager call := fun h => by
        simp [Suspends, hnormal] at h
      rw [if_neg hnever, add_zero] at hafter
      have hmatched : Matched configs output watched call ↔
          (Restores watched.manager call ↔ watched.suspended = true) :=
        ⟨fun h => h.ends_restored haccepted hnormal,
          fun h => ⟨fun hs => absurd hs hnever, fun _ _ => h⟩⟩
      have hzero : SuspendBalanced output (watched.receive configs output call).manager ↔
          suspensions output (watched.manager.receive configs call).told = 0 :=
        ⟨fun h => h.zero_in_normal (hphone.trans hnormal), fun h => ⟨Or.inl h, fun _ => h⟩⟩
      rw [hmatched, hzero, hafter]
      by_cases hrestores : Restores watched.manager call <;> cases watched.suspended <;>
        simp [hrestores]
    · have hnever : ¬ Restores watched.manager call := fun h => hnormal h.2.2.1
      rw [if_neg hnever, sub_zero] at hafter
      have hmatched : Matched configs output watched call ↔
          (Suspends configs output watched.manager call → watched.suspended = false) :=
        ⟨fun h => h.begins_once, fun h => ⟨h, fun _ hstate => absurd hstate hnormal⟩⟩
      have hone : SuspendBalanced output (watched.receive configs output call).manager ↔
          suspensions output (watched.manager.receive configs call).told = 0 ∨
            suspensions output (watched.manager.receive configs call).told = 1 :=
        ⟨fun h => h.zero_or_one,
          fun h => ⟨h, fun hstate => absurd (hphone.symm.trans hstate) hnormal⟩⟩
      rw [hmatched, hone, hafter]
      by_cases hsuspends : Suspends configs output watched.manager call <;>
        cases watched.suspended <;> simp [hsuspends]
  · have hnosuspend : ¬ Suspends configs output watched.manager call := fun h => haccepted h.1
    have hnorestore : ¬ Restores watched.manager call := fun h => haccepted h.1
    rw [if_neg hnosuspend, if_neg hnorestore, add_zero, sub_zero, ← hcounted.count] at hafter
    rw [if_neg haccepted] at hphone
    refine iff_of_true ⟨?_, ?_⟩ ⟨fun h => absurd h hnosuspend, fun h => absurd h haccepted⟩
    · exact hafter ▸ hbalanced.zero_or_one
    · intro hstate
      exact hafter.trans (hbalanced.zero_in_normal (hphone.symm.trans hstate))

theorem counted_receive {watched : Watched} {call : PhoneStateCall}
    (hconc : configs.isVoiceConcEnabled = true) (hplay : configs.isVoicePlayConcDisabled = true)
    (hcounted : Counted output watched)
    (hopen : StaysOpen output watched.manager call)
    (hmatched : Matched configs output watched call) :
    Counted output (watched.receive configs output call) where
  fast := (receive_mFallBackflag call).trans hcounted.fast
  count := by
    have hafter := suspensions_receive hconc hplay hcounted.fast hopen
    obtain ⟨hbegins, hends⟩ := hmatched
    rw [hcounted.count] at hafter
    refine hafter.trans ?_
    by_cases hsuspends : Suspends configs output watched.manager call
    · have hnever : ¬ Restores watched.manager call := fun h => by
        have hstate := hsuspends.2.2.1.symm.trans h.2.2.1
        simp at hstate
      simp [Watched.receive, hsuspends, hnever, hbegins hsuspends]
    · by_cases hnormal : call.answers.accepted = true ∧ call.state = .AUDIO_MODE_NORMAL
      · have hrestores := hends hnormal.1 hnormal.2
        cases hwas : watched.suspended <;>
          simp_all [Watched.receive]
      · have hnever : ¬ Restores watched.manager call := fun h => hnormal ⟨h.1, h.2.2.1⟩
        simp [Watched.receive, hsuspends, hnever, hnormal]

/-- Over any run of calls, with the voice concurrency configured so and an output that stays
    open, the suspensions and restorations of the output are always in balance if and only if
    every call of the run is matched. -/
theorem suspend_balanced_iff (configs : APMConfigHelper) (mvoice_call_state : Int)
    (output : audio_io_handle_t) (calls : List PhoneStateCall)
    (hconc : configs.isVoiceConcEnabled = true) (hplay : configs.isVoicePlayConcDisabled = true)
    (hpath : getFallBackPath configs = AUDIO_OUTPUT_FLAG_FAST)
    (hopen : Taken (AudioPolicyManagerCustom.receive configs) (StaysOpen output)
      (.init configs mvoice_call_state) calls) :
    (∀ moment ∈ moments (AudioPolicyManagerCustom.receive configs)
        (.init configs mvoice_call_state) calls, SuspendBalanced output moment) ↔
      Taken (Watched.receive configs output) (Matched configs output)
        ⟨.init configs mvoice_call_state, false⟩ calls := by
  have hmoments := moments_map (AudioPolicyManagerCustom.receive configs)
    (Watched.receive configs output) Watched.manager (fun _ _ => rfl)
    ⟨.init configs mvoice_call_state, false⟩ calls
  have hlegal : Taken (Watched.receive configs output)
      (fun watched => StaysOpen output watched.manager)
      ⟨.init configs mvoice_call_state, false⟩ calls :=
    (taken_map Watched.manager fun _ _ => rfl).mpr hopen
  have hstart : Counted output ⟨.init configs mvoice_call_state, false⟩ :=
    ⟨by simp [AudioPolicyManagerCustom.init, hconc, hpath], rfl⟩
  rw [← hmoments, List.forall_mem_map]
  exact always_iff_taken (I := Counted output)
    (P := fun watched => SuspendBalanced output watched.manager)
    (fun _ _ hcounted hbalanced hopen =>
      balanced_receive_iff hconc hplay hcounted hbalanced hopen)
    (fun _ _ hcounted _ hopen hmatched =>
      counted_receive hconc hplay hcounted hopen hmatched)
    hlegal hstart ⟨Or.inl rfl, fun _ => rfl⟩

/-- The voice concurrency feature with playback restricted and the fast fallback. -/
def fastConfigs : APMConfigHelper :=
  { APMConfigHelper.default with isVoiceConcEnabled := true, isVoicePlayConcDisabled := true }

/-- A primary output with a deep buffer. -/
def primaryOutput : SwAudioOutputDescriptor :=
  { offloadOutput with
    mProfile := some ⟨"primary_output", AUDIO_OUTPUT_FLAG_PRIMARY ||| AUDIO_OUTPUT_FLAG_DEEP_BUFFER⟩
    mFlags := AUDIO_OUTPUT_FLAG_PRIMARY ||| AUDIO_OUTPUT_FLAG_DEEP_BUFFER
    format := AUDIO_FORMAT_PCM_16_BIT }

theorem isSuspendable_primaryOutput : IsSuspendable primaryOutput :=
  ⟨rfl, _, rfl, by decide, by decide⟩

/-- An accepted state while the primary output is the one output that is open. -/
def phoneStateCall (state : audio_mode_t) : PhoneStateCall :=
  ⟨state, .accepting fun _ => ⟨[(13, primaryOutput)], List.pairwise_singleton _ _⟩⟩

theorem staysOpen_phoneStateCall (self : AudioPolicyManagerCustom) (state : audio_mode_t) :
    StaysOpen 13 self (phoneStateCall state) :=
  fun _ => ⟨primaryOutput, isSuspendable_primaryOutput, List.mem_cons_self⟩

theorem taken_staysOpen (self : AudioPolicyManagerCustom) (states : List audio_mode_t) :
    Taken (AudioPolicyManagerCustom.receive configs) (StaysOpen 13) self
      (states.map phoneStateCall) := by
  induction states generalizing self with
  | nil => trivial
  | cons state states ih => exact ⟨staysOpen_phoneStateCall self state, ih _⟩

theorem suspend_balanced_call :
    (∀ moment ∈ moments (AudioPolicyManagerCustom.receive fastConfigs) (.init fastConfigs 0)
        ([.AUDIO_MODE_IN_CALL, .AUDIO_MODE_NORMAL].map phoneStateCall), SuspendBalanced 13 moment) ↔
      Taken (Watched.receive fastConfigs 13) (Matched fastConfigs 13)
        ⟨.init fastConfigs 0, false⟩
        ([.AUDIO_MODE_IN_CALL, .AUDIO_MODE_NORMAL].map phoneStateCall) :=
  suspend_balanced_iff fastConfigs 0 13 _ rfl rfl (by decide) (taken_staysOpen _ _)

/-- A call that is put aside for another one and taken up again suspends the primary output
    a second time. -/
theorem suspended_twice :
    ¬ ∀ (configs : APMConfigHelper) (mvoice_call_state : Int) (output : audio_io_handle_t)
        (calls : List PhoneStateCall),
      configs.isVoiceConcEnabled = true → configs.isVoicePlayConcDisabled = true →
      getFallBackPath configs = AUDIO_OUTPUT_FLAG_FAST →
      Taken (AudioPolicyManagerCustom.receive configs) (StaysOpen output)
        (.init configs mvoice_call_state) calls →
      ∀ moment ∈ moments (AudioPolicyManagerCustom.receive configs)
        (.init configs mvoice_call_state) calls, SuspendBalanced output moment := by
  intro hbalanced
  let start := AudioPolicyManagerCustom.init fastConfigs 0
  let first := start.receive fastConfigs (phoneStateCall .AUDIO_MODE_IN_CALL)
  let second := first.receive fastConfigs (phoneStateCall .AUDIO_MODE_IN_COMMUNICATION)
  let third := second.receive fastConfigs (phoneStateCall .AUDIO_MODE_IN_CALL)
  have hlast := hbalanced fastConfigs 0 13
    ([.AUDIO_MODE_IN_CALL, .AUDIO_MODE_IN_COMMUNICATION, .AUDIO_MODE_IN_CALL].map phoneStateCall)
    rfl rfl (by decide) (taken_staysOpen _ _) third
    (by simp [moments, third, second, first, start])
  have hfast : start.mFallBackflag = AUDIO_OUTPUT_FLAG_FAST := by decide
  have hconc : fastConfigs.isVoiceConcEnabled = true := rfl
  have hplay : fastConfigs.isVoicePlayConcDisabled = true := rfl
  have hfirst := suspensions_receive hconc hplay hfast
    (staysOpen_phoneStateCall start .AUDIO_MODE_IN_CALL)
  have hfastFirst : first.mFallBackflag = AUDIO_OUTPUT_FLAG_FAST :=
    (receive_mFallBackflag _).trans hfast
  have hsecond := suspensions_receive hconc hplay hfastFirst
    (staysOpen_phoneStateCall first .AUDIO_MODE_IN_COMMUNICATION)
  have hfastSecond : second.mFallBackflag = AUDIO_OUTPUT_FLAG_FAST :=
    (receive_mFallBackflag _).trans hfastFirst
  have hthird := suspensions_receive hconc hplay hfastSecond
    (staysOpen_phoneStateCall second .AUDIO_MODE_IN_CALL)
  rw [if_pos (by decide), if_neg (by decide)] at hfirst hthird
  rw [if_neg (by decide), if_neg (by decide)] at hsecond
  have hstart : suspensions 13 start.told = 0 := rfl
  have htwo : suspensions 13 third.told = 2 := by
    rw [hthird, hsecond, hfirst, hstart]
    norm_num
  obtain hzero | hone := hlast.zero_or_one
  · omega
  · omega

end policy_hal
