import OnePlus7Pro.Policy.ClosingLoops

open loops

namespace policy_hal

/-- The fallback output for a voice call, from a property of the configuration. -/
def getFallBackPath (configs : APMConfigHelper) : audio_output_flags_t :=
  if "deep-buffer".toList.isPrefixOf configs.getVoiceConcFallbackPath.toList then
    AUDIO_OUTPUT_FLAG_DEEP_BUFFER
  else AUDIO_OUTPUT_FLAG_FAST

/-- The manager when it has been constructed: `mvoice_call_state` is not initialized. -/
def AudioPolicyManagerCustom.init (configs : APMConfigHelper) (mvoice_call_state : Int) :
    AudioPolicyManagerCustom where
  mFallBackflag :=
    if configs.isVoiceConcEnabled then getFallBackPath configs else AUDIO_OUTPUT_FLAG_NONE
  mHdmiAudioDisabled := false
  mHdmiAudioEvent := false
  mPrevPhoneState := 0
  mvoice_call_state := mvoice_call_state
  mIsInputRequestOnProgress := false
  mEngine := ⟨.AUDIO_MODE_NORMAL, .AUDIO_POLICY_FORCE_NONE⟩
  mOutputs := .empty
  mInputs := .empty
  mAvailableOutputDevices := []
  mAvailableInputDevices := []
  told := []

def AudioPolicyManagerCustom.tell (self : AudioPolicyManagerCustom) (calls : List ClientCall) :
    AudioPolicyManagerCustom :=
  { self with told := self.told ++ calls }

/-- A loop over the open outputs, run on the outputs of the manager. -/
def AudioPolicyManagerCustom.run_loop (self : AudioPolicyManagerCustom) (loop : OutputLoop) :
    AudioPolicyManagerCustom :=
  { self with mOutputs := (loop self.mOutputs).1 }.tell (loop self.mOutputs).2

@[simp] theorem tell_told (self : AudioPolicyManagerCustom) (calls : List ClientCall) :
    (self.tell calls).told = self.told ++ calls := rfl

@[simp] theorem tell_mFallBackflag (self : AudioPolicyManagerCustom) (calls : List ClientCall) :
    (self.tell calls).mFallBackflag = self.mFallBackflag := rfl

@[simp] theorem tell_mvoice_call_state (self : AudioPolicyManagerCustom) (calls : List ClientCall) :
    (self.tell calls).mvoice_call_state = self.mvoice_call_state := rfl

@[simp] theorem tell_mOutputs (self : AudioPolicyManagerCustom) (calls : List ClientCall) :
    (self.tell calls).mOutputs = self.mOutputs := rfl

@[simp] theorem run_loop_told (self : AudioPolicyManagerCustom) (loop : OutputLoop) :
    (self.run_loop loop).told = self.told ++ (loop self.mOutputs).2 := rfl

@[simp] theorem run_loop_mvoice_call_state (self : AudioPolicyManagerCustom) (loop : OutputLoop) :
    (self.run_loop loop).mvoice_call_state = self.mvoice_call_state := rfl

def AudioInputDescriptor.isActive (input : AudioInputDescriptor) : Bool :=
  input.clients.entries.any Prod.snd

def AudioInputDescriptor.closeClients (input : AudioInputDescriptor) : List ClientCall :=
  (input.clients.entries.filter Prod.snd).map fun client => .closeClient client.1

/-- The calls by which the active inputs are closed when a voice call begins. -/
def close_inputs_on_call (configs : APMConfigHelper) (mInputs : AudioInputCollection) :
    List ClientCall :=
  let activeInputs := (mInputs.entries.map Prod.snd).filter AudioInputDescriptor.isActive
  if configs.isVoiceRecConcDisabled then
    activeInputs.flatMap fun activeInput =>
      if activeInput.source = AUDIO_SOURCE_VOICE_UPLINK ∨
          activeInput.source = AUDIO_SOURCE_VOICE_DOWNLINK ∨
          activeInput.source = AUDIO_SOURCE_VOICE_CALL then []
      else if activeInput.source = AUDIO_SOURCE_VOICE_COMMUNICATION then
        if configs.isVoiceVOIPConcDisabled then activeInput.closeClients else []
      else activeInput.closeClients
  else if configs.isVoiceVOIPConcDisabled then
    activeInputs.flatMap fun activeInput =>
      if AUDIO_SOURCE_VOICE_COMMUNICATION = activeInput.source then activeInput.closeClients else []
  else []

/-- The streams from `AUDIO_STREAM_SYSTEM` to `AUDIO_STREAM_FOR_POLICY_CNT`, exclusively. -/
def policyStreams : List audio_stream_type_t :=
  (List.range (AUDIO_STREAM_FOR_POLICY_CNT - AUDIO_STREAM_SYSTEM).toNat).map fun i =>
    AUDIO_STREAM_SYSTEM + i

/-- The streams invalidated when a voice call begins or ends. -/
def invalidate_for_call (mFallBackflag : audio_output_flags_t) : List ClientCall :=
  policyStreams.flatMap fun i =>
    if AUDIO_OUTPUT_FLAG_DEEP_BUFFER = mFallBackflag then
      if AUDIO_STREAM_MUSIC = i ∨ AUDIO_STREAM_VOICE_CALL = i then [.invalidateStream i] else []
    else if AUDIO_OUTPUT_FLAG_FAST = mFallBackflag then [.invalidateStream i]
    else []

/-- `setPhoneState` where a voice call may begin. -/
def AudioPolicyManagerCustom.enter_call (self : AudioPolicyManagerCustom)
    (configs : APMConfigHelper) (oldState state : audio_mode_t) : AudioPolicyManagerCustom :=
  if .AUDIO_MODE_IN_CALL ≠ oldState ∧ .AUDIO_MODE_IN_CALL = state then
    let self := { self with mvoice_call_state := state.value }
    let self := self.tell (close_inputs_on_call configs self.mInputs)
    let self :=
      if configs.isVoicePlayConcDisabled then self.tell (invalidate_for_call self.mFallBackflag)
      else self
    self.run_loop (voice_call_loop configs self.mFallBackflag)
  else self

/-- `setPhoneState` where a voice call may end. -/
def AudioPolicyManagerCustom.exit_call (self : AudioPolicyManagerCustom)
    (configs : APMConfigHelper) (oldState state : audio_mode_t) : AudioPolicyManagerCustom :=
  if (.AUDIO_MODE_IN_CALL = oldState ∨ .AUDIO_MODE_IN_COMMUNICATION = oldState) ∧
      .AUDIO_MODE_NORMAL = state ∧ configs.isVoicePlayConcDisabled = true ∧
      self.mvoice_call_state ≠ 0 then
    let self := { self with mvoice_call_state := 0 }
    let self :=
      if AUDIO_OUTPUT_FLAG_FAST = self.mFallBackflag then self.run_loop restore_loop else self
    self.tell (invalidate_for_call self.mFallBackflag)
  else self

/-- `setPhoneState` where record concurrency is looked after. -/
def AudioPolicyManagerCustom.record_play_conc (self : AudioPolicyManagerCustom)
    (configs : APMConfigHelper) (oldState : audio_mode_t) : AudioPolicyManagerCustom :=
  if configs.isRecPlayConcEnabled && configs.isRecPlayConcDisabled then
    if .AUDIO_MODE_IN_COMMUNICATION = self.mEngine.phoneState then
      (self.tell [.invalidateStream AUDIO_STREAM_VOICE_CALL,
        .invalidateStream AUDIO_STREAM_MUSIC]).run_loop record_play_loop
    else if oldState = .AUDIO_MODE_IN_COMMUNICATION ∧
        self.mEngine.phoneState = .AUDIO_MODE_NORMAL then
      self.tell [.invalidateStream AUDIO_STREAM_MUSIC]
    else self
  else self

/-- What the engine and the base class do during a call of `setPhoneState`: which states are
    those of a call, whether the engine accepts the state, and what `checkForDeviceAndOutputChanges` makes of the open
    outputs. -/
structure PhoneStateAnswers where
  isStateInCall : audio_mode_t → Bool
  accepted : Bool
  checkForDeviceAndOutputChanges : SwAudioOutputCollection → SwAudioOutputCollection

/-- The state is accepted, and what becomes of the open outputs is given. -/
def PhoneStateAnswers.accepting
    (checkForDeviceAndOutputChanges : SwAudioOutputCollection → SwAudioOutputCollection) :
    PhoneStateAnswers where
  isStateInCall := fun state => state = .AUDIO_MODE_IN_CALL || state = .AUDIO_MODE_IN_COMMUNICATION
  accepted := true
  checkForDeviceAndOutputChanges := checkForDeviceAndOutputChanges

/-- Accessibility routing is looked at again when a call begins or ends. -/
def PhoneStateAnswers.accessibility_calls (answers : PhoneStateAnswers) (state : audio_mode_t) :
    List ClientCall :=
  if answers.isStateInCall state then [.invalidateStream AUDIO_STREAM_ACCESSIBILITY] else []

def AudioPolicyManagerCustom.change_state (self : AudioPolicyManagerCustom) (state : audio_mode_t)
    (answers : PhoneStateAnswers) : AudioPolicyManagerCustom where
  __ := self
  mEngine := { self.mEngine with phoneState := state }
  mOutputs := answers.checkForDeviceAndOutputChanges self.mOutputs

/-- The muting and the routing that follow in the base class are left out. -/
def AudioPolicyManagerCustom.setPhoneState (self : AudioPolicyManagerCustom)
    (configs : APMConfigHelper) (state : audio_mode_t) (answers : PhoneStateAnswers) :
    AudioPolicyManagerCustom :=
  let oldState := self.mEngine.phoneState
  if answers.accepted then
    let self := (self.change_state state answers).tell (answers.accessibility_calls oldState)
    let self :=
      if configs.isVoiceConcEnabled then
        (self.enter_call configs oldState state).exit_call configs oldState state
      else self
    let self := self.run_loop (dsd_loop configs)
    let self := self.record_play_conc configs oldState
    { self with mPrevPhoneState := oldState.value }.tell (answers.accessibility_calls state)
  else self

/-- A call of `setPhoneState`, with what the engine and the base class do during it. -/
structure PhoneStateCall where
  state : audio_mode_t
  answers : PhoneStateAnswers

def AudioPolicyManagerCustom.receive (configs : APMConfigHelper) (self : AudioPolicyManagerCustom)
    (call : PhoneStateCall) : AudioPolicyManagerCustom :=
  self.setPhoneState configs call.state call.answers

variable {configs : APMConfigHelper} {self : AudioPolicyManagerCustom}

/-- What a call changes on its way: the state of voice calls, the open outputs and what the clients
    have been told. -/
def CallChange (before after : AudioPolicyManagerCustom) : Prop :=
  ∃ mvoice_call_state mOutputs told, after = { before with
    mvoice_call_state := mvoice_call_state
    mOutputs := mOutputs
    told := told }

theorem CallChange.trans {before mid after : AudioPolicyManagerCustom} (h : CallChange before mid)
    (h' : CallChange mid after) : CallChange before after := by
  obtain ⟨_, _, _, rfl⟩ := h
  obtain ⟨_, _, _, rfl⟩ := h'
  exact ⟨_, _, _, rfl⟩

theorem callChange_enter_call (self : AudioPolicyManagerCustom) (configs : APMConfigHelper)
    (oldState state : audio_mode_t) : CallChange self (self.enter_call configs oldState state) := by
  unfold AudioPolicyManagerCustom.enter_call
  dsimp only
  split_ifs <;> exact ⟨_, _, _, rfl⟩

theorem callChange_exit_call (self : AudioPolicyManagerCustom) (configs : APMConfigHelper)
    (oldState state : audio_mode_t) : CallChange self (self.exit_call configs oldState state) := by
  unfold AudioPolicyManagerCustom.exit_call
  dsimp only
  split_ifs <;> exact ⟨_, _, _, rfl⟩

theorem callChange_record_play_conc (self : AudioPolicyManagerCustom) (configs : APMConfigHelper)
    (oldState : audio_mode_t) : CallChange self (self.record_play_conc configs oldState) := by
  unfold AudioPolicyManagerCustom.record_play_conc
  split_ifs <;> exact ⟨_, _, _, rfl⟩

/-- A call whose state is accepted stores it, and the one before, and changes nothing else than on
    its way. -/
theorem callChange_receive (configs : APMConfigHelper) (self : AudioPolicyManagerCustom)
    (call : PhoneStateCall) : CallChange
      (if call.answers.accepted then { self with
        mEngine := { self.mEngine with phoneState := call.state }
        mPrevPhoneState := self.mEngine.phoneState.value }
      else self) (self.receive configs call) := by
  unfold AudioPolicyManagerCustom.receive AudioPolicyManagerCustom.setPhoneState
  by_cases haccepted : call.answers.accepted = true
  · rw [if_pos haccepted, if_pos haccepted]
    dsimp only
    generalize hstart : (self.change_state call.state call.answers).tell
      (call.answers.accessibility_calls self.mEngine.phoneState) = start
    have hentered : CallChange start (if configs.isVoiceConcEnabled = true then
        (start.enter_call configs self.mEngine.phoneState call.state).exit_call configs
          self.mEngine.phoneState call.state else start) := by
      split_ifs
      · exact (callChange_enter_call _ _ _ _).trans (callChange_exit_call _ _ _ _)
      · exact ⟨_, _, _, rfl⟩
    have hlooped {mid : AudioPolicyManagerCustom} : CallChange mid (mid.run_loop (dsd_loop configs)) :=
      ⟨_, _, _, rfl⟩
    obtain ⟨_, _, _, hend⟩ := (hentered.trans hlooped).trans
      (callChange_record_play_conc _ configs self.mEngine.phoneState)
    rw [hend, ← hstart]
    exact ⟨_, _, _, rfl⟩
  · rw [if_neg haccepted, if_neg haccepted]
    exact ⟨_, _, _, rfl⟩

theorem receive_mFallBackflag (call : PhoneStateCall) :
    (self.receive configs call).mFallBackflag = self.mFallBackflag := by
  obtain ⟨_, _, _, hreceive⟩ := callChange_receive configs self call
  rw [hreceive]
  split_ifs <;> rfl

theorem receive_phoneState (configs : APMConfigHelper) (self : AudioPolicyManagerCustom)
    (call : PhoneStateCall) :
    (self.receive configs call).mEngine.phoneState =
      if call.answers.accepted then call.state else self.mEngine.phoneState := by
  obtain ⟨_, _, _, hreceive⟩ := callChange_receive configs self call
  rw [hreceive]
  split_ifs <;> rfl

@[simp] theorem record_play_conc_mvoice_call_state (oldState : audio_mode_t) :
    (self.record_play_conc configs oldState).mvoice_call_state = self.mvoice_call_state := by
  unfold AudioPolicyManagerCustom.record_play_conc
  split_ifs <;> rfl

theorem enter_call_mvoice_call_state (oldState state : audio_mode_t) :
    (self.enter_call configs oldState state).mvoice_call_state =
      if .AUDIO_MODE_IN_CALL ≠ oldState ∧ .AUDIO_MODE_IN_CALL = state then state.value
      else self.mvoice_call_state := by
  unfold AudioPolicyManagerCustom.enter_call
  dsimp only
  split_ifs <;> rfl

/-- The end of a voice call is the one place where `mvoice_call_state` is cleared. -/
theorem exit_call_mvoice_call_state {state : audio_mode_t} (hstate : state ≠ .AUDIO_MODE_NORMAL)
    (oldState : audio_mode_t) :
    (self.exit_call configs oldState state).mvoice_call_state = self.mvoice_call_state := by
  unfold AudioPolicyManagerCustom.exit_call
  rw [if_neg fun h => hstate h.2.1.symm]

theorem receive_mvoice_call_state {call : PhoneStateCall}
    (hconc : configs.isVoiceConcEnabled = true) (haccepted : call.answers.accepted = true)
    (hstate : call.state ≠ .AUDIO_MODE_NORMAL) :
    (self.receive configs call).mvoice_call_state =
      if .AUDIO_MODE_IN_CALL ≠ self.mEngine.phoneState ∧ .AUDIO_MODE_IN_CALL = call.state then
        call.state.value
      else self.mvoice_call_state := by
  unfold AudioPolicyManagerCustom.receive AudioPolicyManagerCustom.setPhoneState
  rw [if_pos haccepted, tell_mvoice_call_state]
  dsimp only
  rw [record_play_conc_mvoice_call_state, run_loop_mvoice_call_state, if_pos hconc,
    exit_call_mvoice_call_state hstate, enter_call_mvoice_call_state, tell_mvoice_call_state]
  rfl

theorem receive_mPrevPhoneState (configs : APMConfigHelper) (self : AudioPolicyManagerCustom)
    (call : PhoneStateCall) :
    (self.receive configs call).mPrevPhoneState =
      if call.answers.accepted then self.mEngine.phoneState.value else self.mPrevPhoneState := by
  obtain ⟨_, _, _, hreceive⟩ := callChange_receive configs self call
  rw [hreceive]
  split_ifs <;> rfl

end policy_hal
