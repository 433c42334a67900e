import OnePlus7Pro.Policy.PhoneState

open loops

namespace policy_hal

/-- What the HAL and the base class do during a call of `setDeviceConnectionStateInt`. -/
structure ConnectionAnswers where
  tests : DeviceTests
  /-- `getDeviceDescriptor` finds a descriptor for the type and the address, or makes one. -/
  getDeviceDescriptor : Bool
  /-- There is memory for another available device. -/
  add : Bool
  /-- The status, the handles in `outputs`, and what becomes of the open outputs. -/
  checkOutputsForDevice : SwAudioOutputCollection →
    status_t × KeyedVector audio_io_handle_t Unit × SwAudioOutputCollection
  checkForDeviceAndOutputChanges : SwAudioOutputCollection → SwAudioOutputCollection
  checkInputsForDevice : AudioInputCollection → status_t × AudioInputCollection
  checkCloseInputs : AudioInputCollection → AudioInputCollection

structure ConnectionCall where
  deviceType : audio_devices_t
  state : audio_policy_dev_state_t
  device_address : String
  answers : ConnectionAnswers

/-- The strings agree in their first characters. -/
def strncmp_eq (a b : String) (n : Nat) : Bool := a.toList.take n = b.toList.take n

def AUDIO_DEVICE_MAX_ADDRESS_LEN : Nat := 32

def ConnectionCall.device (call : ConnectionCall) : DeviceDescriptor :=
  ⟨call.deviceType, call.device_address⟩

def ConnectionCall.isHdmi (configs : APMConfigHelper) (call : ConnectionCall) : Bool :=
  configs.isHDMISpkEnabled && popcount call.deviceType = 1 &&
    hasFlag call.deviceType AUDIO_DEVICE_OUT_AUX_DIGITAL

/-- The address is that of the HDMI speakers, not of a sink. -/
def ConnectionCall.isHdmiSpeaker (call : ConnectionCall) : Bool :=
  strncmp_eq call.device_address "hdmi_spkr" 9

/-- Whether the HDMI speakers are enabled, or whether a sink is plugged in, is kept. -/
def AudioPolicyManagerCustom.keep_hdmi (self : AudioPolicyManagerCustom)
    (configs : APMConfigHelper) (call : ConnectionCall) (connected : Bool) :
    AudioPolicyManagerCustom :=
  if call.isHdmi configs then
    if call.isHdmiSpeaker then { self with mHdmiAudioDisabled := !connected }
    else { self with mHdmiAudioEvent := connected }
  else self

/-- The status, the manager, and the handles in `outputs`. -/
abbrev Connected := status_t × AudioPolicyManagerCustom × KeyedVector audio_io_handle_t Unit

/-- `setDeviceConnectionStateInt` where an output device is connected. -/
def AudioPolicyManagerCustom.connect_output (self : AudioPolicyManagerCustom)
    (configs : APMConfigHelper) (call : ConnectionCall) : Connected :=
  if call.device ∈ self.mAvailableOutputDevices then
    (INVALID_OPERATION, self.keep_hdmi configs call true, .empty)
  else if call.answers.add = false then (NO_MEMORY, self, .empty)
  else
    let registered :=
      { self with mAvailableOutputDevices := self.mAvailableOutputDevices ++ [call.device] }
    let kept := registered.keep_hdmi configs call true
    if call.isHdmi configs && (kept.mHdmiAudioDisabled || !kept.mHdmiAudioEvent) then
      (INVALID_OPERATION,
        { kept with
          mAvailableOutputDevices := DeviceVector.remove kept.mAvailableOutputDevices call.device },
        .empty)
    else
      let told := kept.tell [.broadcastDeviceConnectionState call.device call.state]
      let checked := call.answers.checkOutputsForDevice told.mOutputs
      let opened := { told with mOutputs := checked.2.2 }
      if checked.1 ≠ NO_ERROR then
        (INVALID_OPERATION,
          { opened with
            mAvailableOutputDevices :=
              DeviceVector.remove opened.mAvailableOutputDevices call.device }.tell
            [.broadcastDeviceConnectionState call.device .AUDIO_POLICY_DEVICE_STATE_UNAVAILABLE],
          .empty)
      else (NO_ERROR, opened, checked.2.1)

/-- `setDeviceConnectionStateInt` where an output device is disconnected. -/
def AudioPolicyManagerCustom.disconnect_output (self : AudioPolicyManagerCustom)
    (configs : APMConfigHelper) (call : ConnectionCall) : Connected :=
  if call.device ∈ self.mAvailableOutputDevices then
    let told := self.tell [.broadcastDeviceConnectionState call.device call.state]
    let removed :=
      { told with
        mAvailableOutputDevices := DeviceVector.remove told.mAvailableOutputDevices call.device }
    let kept := removed.keep_hdmi configs call false
    let checked := call.answers.checkOutputsForDevice kept.mOutputs
    (NO_ERROR, { kept with mOutputs := checked.2.2 }, checked.2.1)
  else (INVALID_OPERATION, self.keep_hdmi configs call false, .empty)

/-- Playback is not routed anew for a remote submix that a recorder's mix uses. -/
def doCheckForDeviceAndOutputChanges (call : ConnectionCall)
    (outputs : KeyedVector audio_io_handle_t Unit) (mOutputs : SwAudioOutputCollection) : Bool :=
  !(call.deviceType = AUDIO_DEVICE_OUT_REMOTE_SUBMIX &&
    !strncmp_eq call.device_address "0" AUDIO_DEVICE_MAX_ADDRESS_LEN &&
    outputs.keys.any fun output =>
      ((mOutputs.valueFor output).bind SwAudioOutputDescriptor.mPolicyMix).any fun policyMix =>
        policyMix.mMixType = .MIX_TYPE_RECORDERS &&
          strncmp_eq call.device_address policyMix.mDeviceAddress AUDIO_DEVICE_MAX_ADDRESS_LEN)

/-- The outputs among `outputs` that are closed when a device has come or gone. -/
def checkCloseOutputs (state : audio_policy_dev_state_t)
    (outputs : KeyedVector audio_io_handle_t Unit) (mOutputs : SwAudioOutputCollection) :
    List audio_io_handle_t :=
  outputs.keys.filter fun output =>
    state = .AUDIO_POLICY_DEVICE_STATE_UNAVAILABLE ||
      (mOutputs.valueFor output).any fun desc =>
        hasFlag desc.mFlags AUDIO_OUTPUT_FLAG_DIRECT && desc.mDirectOpenCount = 0

/-- What follows in `setDeviceConnectionStateInt` when an output device has been connected or
    disconnected. The routing of the outputs in the base class is left out. -/
def AudioPolicyManagerCustom.output_changed (self : AudioPolicyManagerCustom)
    (call : ConnectionCall) (outputs : KeyedVector audio_io_handle_t Unit) :
    AudioPolicyManagerCustom :=
  let closed := voip_loop outputs self.mOutputs 0
  let checked :=
    if doCheckForDeviceAndOutputChanges call closed.1 closed.2.1 then
      call.answers.checkForDeviceAndOutputChanges closed.2.1
    else closed.2.1
  let unused := checkCloseOutputs call.state closed.1 checked
  { self with mOutputs := unused.foldl KeyedVector.removeItem checked }.tell
    (closed.2.2 ++ unused.map ClientCall.closeOutput ++
      [ClientCall.onAudioPortListUpdate])

/-- `setDeviceConnectionStateInt` where an input device is connected. -/
def AudioPolicyManagerCustom.connect_input (self : AudioPolicyManagerCustom)
    (call : ConnectionCall) : status_t × AudioPolicyManagerCustom :=
  if call.device ∈ self.mAvailableInputDevices then (INVALID_OPERATION, self)
  else if call.answers.add = false then (NO_MEMORY, self)
  else
    let registered :=
      { self with mAvailableInputDevices := self.mAvailableInputDevices ++ [call.device] }
    let told := registered.tell [.broadcastDeviceConnectionState call.device call.state]
    let checked := call.answers.checkInputsForDevice told.mInputs
    let opened := { told with mInputs := checked.2 }
    if checked.1 ≠ NO_ERROR then
      (INVALID_OPERATION,
        { opened with
          mAvailableInputDevices :=
            DeviceVector.remove opened.mAvailableInputDevices call.device }.tell
          [.broadcastDeviceConnectionState call.device .AUDIO_POLICY_DEVICE_STATE_UNAVAILABLE])
    else (NO_ERROR, opened)

/-- `setDeviceConnectionStateInt` where an input device is disconnected. -/
def AudioPolicyManagerCustom.disconnect_input (self : AudioPolicyManagerCustom)
    (call : ConnectionCall) : status_t × AudioPolicyManagerCustom :=
  if call.device ∈ self.mAvailableInputDevices then
    let told := self.tell [.broadcastDeviceConnectionState call.device call.state]
    let removed :=
      { told with
        mAvailableInputDevices := DeviceVector.remove told.mAvailableInputDevices call.device }
    (NO_ERROR, { removed with mInputs := (call.answers.checkInputsForDevice removed.mInputs).2 })
  else (INVALID_OPERATION, self)

/-- The `switch` over the requested state of an output device. -/
def AudioPolicyManagerCustom.change_output (self : AudioPolicyManagerCustom)
    (configs : APMConfigHelper) (call : ConnectionCall) : Connected :=
  match call.state with
  | .AUDIO_POLICY_DEVICE_STATE_AVAILABLE => self.connect_output configs call
  | .AUDIO_POLICY_DEVICE_STATE_UNAVAILABLE => self.disconnect_output configs call
  | .other _ => (BAD_VALUE, self, .empty)

/-- The `switch` over the requested state of an input device. -/
def AudioPolicyManagerCustom.change_input (self : AudioPolicyManagerCustom)
    (call : ConnectionCall) : status_t × AudioPolicyManagerCustom :=
  match call.state with
  | .AUDIO_POLICY_DEVICE_STATE_AVAILABLE => self.connect_input call
  | .AUDIO_POLICY_DEVICE_STATE_UNAVAILABLE => self.disconnect_input call
  | .other _ => (BAD_VALUE, self)

def AudioPolicyManagerCustom.setDeviceConnectionStateInt (self : AudioPolicyManagerCustom)
    (configs : APMConfigHelper) (call : ConnectionCall) : status_t × AudioPolicyManagerCustom :=
  if call.answers.tests.audio_is_output_device call.deviceType = false ∧
      call.answers.tests.audio_is_input_device call.deviceType = false then
    (BAD_VALUE, self)
  else if call.answers.getDeviceDescriptor = false then (INVALID_OPERATION, self)
  else if call.answers.tests.audio_is_output_device call.deviceType then
    let connected := self.change_output configs call
    if connected.1 = NO_ERROR then (NO_ERROR, connected.2.1.output_changed call connected.2.2)
    else (connected.1, connected.2.1)
  else
    let connected := self.change_input call
    if connected.1 = NO_ERROR then
      (NO_ERROR, { connected.2 with
        mInputs := call.answers.checkCloseInputs connected.2.mInputs }.tell
        [.onAudioPortListUpdate])
    else connected

/-- A descriptor is found, and the base class opens and closes nothing. -/
def ConnectionAnswers.quiet : ConnectionAnswers where
  tests := .byBits
  getDeviceDescriptor := true
  add := true
  checkOutputsForDevice := fun mOutputs => (NO_ERROR, .empty, mOutputs)
  checkForDeviceAndOutputChanges := id
  checkInputsForDevice := fun mInputs => (NO_ERROR, mInputs)
  checkCloseInputs := id

variable {configs : APMConfigHelper} {self : AudioPolicyManagerCustom} {call : ConnectionCall}

/-- The fields of a manager that an input device which comes or goes leaves as they are. -/
def AudioPolicyManagerCustom.outputFields (self : AudioPolicyManagerCustom) :
    SwAudioOutputCollection × Engine :=
  (self.mOutputs, self.mEngine)

theorem outputFields_change_input :
    (self.change_input call).2.outputFields = self.outputFields := by
  unfold AudioPolicyManagerCustom.change_input AudioPolicyManagerCustom.connect_input
    AudioPolicyManagerCustom.disconnect_input
  dsimp only
  split
  · split_ifs <;> rfl
  · split_ifs <;> rfl
  · rfl

theorem outputFields_setDeviceConnectionStateInt
    (hinput : call.answers.tests.audio_is_output_device call.deviceType = false) :
    (self.setDeviceConnectionStateInt configs call).2.outputFields = self.outputFields := by
  have hnot : ¬ call.answers.tests.audio_is_output_device call.deviceType = true := by simp [hinput]
  unfold AudioPolicyManagerCustom.setDeviceConnectionStateInt
  simp only [if_neg hnot]
  split_ifs
  · rfl
  · rfl
  · exact outputFields_change_input
  · exact outputFields_change_input

/-- The input devices that are available after a call for one are those after its `switch`. -/
theorem available_setDeviceConnectionStateInt (configs : APMConfigHelper)
    (self : AudioPolicyManagerCustom) (call : ConnectionCall)
    (hinput : call.answers.tests.audio_is_input_device call.deviceType = true)
    (houtput : call.answers.tests.audio_is_output_device call.deviceType = false)
    (hfound : call.answers.getDeviceDescriptor = true) :
    (self.setDeviceConnectionStateInt configs call).2.mAvailableInputDevices =
      (self.change_input call).2.mAvailableInputDevices := by
  unfold AudioPolicyManagerCustom.setDeviceConnectionStateInt
  rw [if_neg (by simp [hinput]), if_neg (by simp [hfound]), if_neg (by simp [houtput])]
  dsimp only
  split_ifs <;> rfl

end policy_hal
