import OnePlus7Pro.Policy.DeviceConnection
import OnePlus7Pro.Policy.Requests

open loops

namespace policy_hal

def AudioInputDescriptor.activeCount (input : AudioInputDescriptor) : Nat :=
  input.clients.entries.countP Prod.snd

def AudioInputDescriptor.setClientActive (input : AudioInputDescriptor)
    (portId : audio_port_handle_t) (active : Bool) : AudioInputDescriptor :=
  { input with clients := input.clients.modify portId fun _ => active }

/-- The input with a client, and its handle. -/
def getInputForClient (mInputs : AudioInputCollection) (portId : audio_port_handle_t) :
    Option (audio_io_handle_t × AudioInputDescriptor) :=
  mInputs.entries.find? fun entry => portId ∈ entry.2.clients.keys

/-- The input counts among the active ones on a mask of devices that are not for sound
    triggers. -/
def isCounted (devices : audio_devices_t) (input : AudioInputDescriptor) : Bool :=
  input.isActive && !input.isSoundTrigger &&
    (devices = AUDIO_DEVICE_IN_DEFAULT ||
      hasFlag (input.device.type &&& devices) (~~~AUDIO_DEVICE_BIT_IN))

def activeNonSoundTriggerInputsCountOnDevices (mInputs : AudioInputCollection)
    (devices : audio_devices_t) : Nat :=
  mInputs.entries.countP fun entry => isCounted devices entry.2

/-- What others do during a call of `startInput`. -/
structure StartInputAnswers where
  start : status_t
  getNewInputDevice : DeviceDescriptor
  connection : ConnectionAnswers

/-- `startInput` where record concurrency is looked after. -/
def AudioPolicyManagerCustom.start_rec_play (self : AudioPolicyManagerCustom)
    (configs : APMConfigHelper) (primaryInputDevices : DeviceVector) : AudioPolicyManagerCustom :=
  if configs.isRecPlayConcEnabled then
    let self := { self with mIsInputRequestOnProgress := true }
    if configs.isRecPlayConcDisabled && self.activeInputsCountOnDevices primaryInputDevices = 0 then
      (self.tell (.setParameters "rec_play_conc_on" "true" ::
        (policyStreams.filter fun i => i ≠ AUDIO_STREAM_ENFORCED_AUDIBLE).map
          .invalidateStream)).run_loop start_input_loop
    else self
  else self

/-- What the sound triggers are told when an input has become active. -/
def AudioPolicyManagerCustom.capture_started (self : AudioPolicyManagerCustom)
    (configs : APMConfigHelper) (primaryInputDevices : DeviceVector) (device : DeviceDescriptor) :
    List ClientCall :=
  if device ∈ primaryInputDevices ∧ hasFlag device.type (~~~AUDIO_DEVICE_BIT_IN) then
    let count :=
      if configs.isVAConcEnabled then
        activeNonSoundTriggerInputsCountOnDevices self.mInputs
          (deviceTypesToBitMask primaryInputDevices.types)
      else self.activeInputsCountOnDevices primaryInputDevices
    if count = 1 then [.setSoundTriggerCaptureState true] else []
  else []

/-- The address at which the remote submix output is enabled for an input: none when it is
    used by the mix of a recorder. -/
def submixAddress (policyMix : Option AudioPolicyMix) : String :=
  match policyMix with
  | none => "0"
  | some policyMix =>
    if policyMix.mMixType = .MIX_TYPE_PLAYERS then policyMix.mDeviceAddress else ""

/-- `startInput` when its client is the first active one of the input. -/
def AudioPolicyManagerCustom.input_activated (self : AudioPolicyManagerCustom)
    (configs : APMConfigHelper) (primaryInputDevices : DeviceVector)
    (inputDesc : AudioInputDescriptor) (answers : StartInputAnswers) : AudioPolicyManagerCustom :=
  let self := self.tell
    ((inputDesc.mPolicyMix.filter AudioPolicyMix.notifyActivity).toList.map fun policyMix =>
      .onDynamicPolicyMixStateUpdate policyMix.mDeviceAddress)
  let self := self.tell (self.capture_started configs primaryInputDevices inputDesc.device)
  let address := submixAddress inputDesc.mPolicyMix
  if audio_is_remote_submix_device inputDesc.device.type ∧ address ≠ "" then
    (self.setDeviceConnectionStateInt configs
      { deviceType := AUDIO_DEVICE_OUT_REMOTE_SUBMIX
        state := .AUDIO_POLICY_DEVICE_STATE_AVAILABLE
        device_address := address
        answers := answers.connection }).2
  else self

def AudioPolicyManagerCustom.startInput (self : AudioPolicyManagerCustom)
    (configs : APMConfigHelper) (primaryInputDevices : DeviceVector)
    (portId : audio_port_handle_t) (answers : StartInputAnswers) :
    status_t × AudioPolicyManagerCustom :=
  match getInputForClient self.mInputs portId with
  | none => (BAD_VALUE, self)
  | some (input, inputDesc) =>
    if inputDesc.clients.valueFor portId = some true then (INVALID_OPERATION, self)
    else
      let self := self.start_rec_play configs primaryInputDevices
      if answers.start ≠ NO_ERROR then (answers.start, self)
      else
        let inputDesc : AudioInputDescriptor :=
          { inputDesc.setClientActive portId true with device := answers.getNewInputDevice }
        let self := { self with mInputs := self.mInputs.modify input fun _ => inputDesc }
        let self :=
          if inputDesc.activeCount = 1 then
            self.input_activated configs primaryInputDevices inputDesc answers
          else self
        (NO_ERROR,
          if configs.isRecPlayConcEnabled then { self with mIsInputRequestOnProgress := false }
          else self)

/-- What `stopInput` of the base class returns and tells. -/
structure StopInputAnswers where
  status : status_t
  told : List ClientCall

/-- `stopInput` of the base class deactivates the client. -/
def AudioPolicyManagerCustom.base_stopInput (self : AudioPolicyManagerCustom)
    (portId : audio_port_handle_t) (answers : StopInputAnswers) : AudioPolicyManagerCustom :=
  match getInputForClient self.mInputs portId with
  | none => self
  | some (input, inputDesc) =>
    { self with
      mInputs := self.mInputs.modify input fun _ => inputDesc.setClientActive portId false }.tell
        answers.told

/-- What the sound triggers are told when a client of an input has been stopped. -/
def AudioPolicyManagerCustom.capture_stopped (self : AudioPolicyManagerCustom)
    (configs : APMConfigHelper) (primaryInputDevices : DeviceVector) (device : DeviceDescriptor) :
    List ClientCall :=
  if configs.isVAConcEnabled then
    let count := activeNonSoundTriggerInputsCountOnDevices self.mInputs
      (deviceTypesToBitMask primaryInputDevices.types)
    -- the comparison with 0 is of the conjunction, not of the count
    if (device ∈ primaryInputDevices && count ≠ 0) = false then [.setSoundTriggerCaptureState false]
    else []
  else []

/-- The streams from `AUDIO_STREAM_SYSTEM` to `AUDIO_STREAM_CNT`, exclusively. -/
def systemStreams : List audio_stream_type_t :=
  (List.range (AUDIO_STREAM_CNT - AUDIO_STREAM_SYSTEM).toNat).map fun i => AUDIO_STREAM_SYSTEM + i

/-- `stopInput` where record concurrency is looked after. -/
def AudioPolicyManagerCustom.stop_rec_play (self : AudioPolicyManagerCustom)
    (configs : APMConfigHelper) (primaryInputDevices : DeviceVector) : AudioPolicyManagerCustom :=
  if configs.isRecPlayConcEnabled && configs.isRecPlayConcDisabled &&
      self.activeInputsCountOnDevices primaryInputDevices = 0 then
    self.tell (.setParameters "rec_play_conc_on" "false" ::
      (systemStreams.filter fun i => i ≠ AUDIO_STREAM_ENFORCED_AUDIBLE ∧ i ≠ AUDIO_STREAM_PATCH).map
        .invalidateStream)
  else self

def AudioPolicyManagerCustom.stopInput (self : AudioPolicyManagerCustom)
    (configs : APMConfigHelper) (primaryInputDevices : DeviceVector)
    (portId : audio_port_handle_t) (answers : StopInputAnswers) :
    status_t × AudioPolicyManagerCustom :=
  let self := self.base_stopInput portId answers
  match getInputForClient self.mInputs portId with
  | none => (BAD_VALUE, self)
  | some (_, inputDesc) =>
    let self := self.tell (self.capture_stopped configs primaryInputDevices inputDesc.device)
    (answers.status, self.stop_rec_play configs primaryInputDevices)

end policy_hal
