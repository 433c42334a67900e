import OnePlus7Pro.Policy.DeviceConnection

open loops

namespace policy_hal

/-- How many active clients of the output play at a volume. -/
def SwAudioOutputDescriptor.getActivityCount (outputDesc : SwAudioOutputDescriptor)
    (volumeSource : VolumeSource) : Nat :=
  outputDesc.mActiveClients.countP fun client => client.volumeSource = volumeSource

/-- A change that changes nothing is ignored. -/
def SwAudioOutputDescriptor.setClientActive (outputDesc : SwAudioOutputDescriptor)
    (client : TrackClientDescriptor) (active : Bool) : SwAudioOutputDescriptor :=
  if active = decide (client ∈ outputDesc.mActiveClients) then outputDesc
  else if active then
    { outputDesc with mActiveClients := outputDesc.mActiveClients ++ [client] }
  else { outputDesc with mActiveClients := outputDesc.mActiveClients.erase client }

/-- `setStrategyMute` of the base class for the alarm strategy. -/
def SwAudioOutputDescriptor.muteAlarm (outputDesc : SwAudioOutputDescriptor) (on : Bool) :
    SwAudioOutputDescriptor :=
  { outputDesc with
    alarmMuteCount :=
      if on then outputDesc.alarmMuteCount + 1 else outputDesc.alarmMuteCount - 1 }

/-- What the base class and the HAL do during a call of `startSource` or `stopSource`. -/
structure SourceAnswers where
  /-- There is no output for beacons alone, and another output is active. -/
  beaconRefused : Bool
  /-- The devices for a client that prefers one. -/
  preferredDevices : Option DeviceVector
  getNewOutputDevices : DeviceVector
  /-- The devices of the output when it has been routed. -/
  setOutputDevices : DeviceVector
  connection : ConnectionAnswers

/-- No other output is in the way, and no device is changed. -/
def SourceAnswers.quiet (devices : DeviceVector) : SourceAnswers where
  beaconRefused := false
  preferredDevices := none
  getNewOutputDevices := devices
  setOutputDevices := devices
  connection := .quiet

def isValidStream (stream : audio_stream_type_t) : Bool := 0 ≤ stream && stream < AUDIO_STREAM_CNT

/-- The alarm strategy is muted for the client while the system is enforced. -/
def AudioPolicyManagerCustom.mutesAlarm (self : AudioPolicyManagerCustom)
    (client : TrackClientDescriptor) : Bool :=
  client.stream = AUDIO_STREAM_ENFORCED_AUDIBLE &&
    self.mEngine.forceUseForSystem = .AUDIO_POLICY_FORCE_SYSTEM_ENFORCED

/-- The mix of a recorder through which an output with these devices is captured. -/
def recorderMix (devices : DeviceVector) (policyMix : Option AudioPolicyMix) :
    Option AudioPolicyMix :=
  if isSingleDeviceType devices.types audio_is_remote_submix_device then
    policyMix.filter fun policyMix => policyMix.mMixType = .MIX_TYPE_RECORDERS
  else none

/-- The submix input of a recorder's mix is connected or disconnected. -/
def AudioPolicyManagerCustom.connect_submix (self : AudioPolicyManagerCustom)
    (configs : APMConfigHelper) (policyMix : Option AudioPolicyMix)
    (state : audio_policy_dev_state_t) (answers : ConnectionAnswers) : AudioPolicyManagerCustom :=
  match policyMix with
  | none => self
  | some policyMix =>
    (self.setDeviceConnectionStateInt configs
      { deviceType := AUDIO_DEVICE_IN_REMOTE_SUBMIX
        state := state
        device_address := policyMix.mDeviceAddress
        answers := answers }).2

/-- The device to which a policy mix routes its output. -/
def AudioPolicyMix.device (policyMix : AudioPolicyMix) : DeviceDescriptor :=
  ⟨if policyMix.loopBack then AUDIO_DEVICE_OUT_REMOTE_SUBMIX else policyMix.mDeviceType,
    policyMix.mDeviceAddress⟩

/-- The devices with which `startSource` goes on when the client has been activated. -/
def startDevices (outputDesc : SwAudioOutputDescriptor) (client : TrackClientDescriptor)
    (answers : SourceAnswers) : DeviceVector :=
  let devices := answers.preferredDevices.getD
    (outputDesc.mPolicyMix.map AudioPolicyMix.device).toList
  if outputDesc.getActivityCount client.volumeSource = 1 && devices.isEmpty then
    answers.getNewOutputDevices
  else devices

/-- What `startSource` makes of its output. -/
def AudioPolicyManagerCustom.startedOutput (self : AudioPolicyManagerCustom)
    (outputDesc : SwAudioOutputDescriptor) (client : TrackClientDescriptor)
    (answers : SourceAnswers) : SwAudioOutputDescriptor :=
  let outputDesc := outputDesc.setClientActive client true
  let outputDesc :=
    if outputDesc.getActivityCount client.volumeSource = 1 ||
        !(startDevices outputDesc client answers).isEmpty then
      { outputDesc with devices := answers.setOutputDevices }
    else outputDesc
  if self.mutesAlarm client then outputDesc.muteAlarm true else outputDesc

/-- Latencies, volumes and the routing of other outputs are left out. -/
def AudioPolicyManagerCustom.startSource (self : AudioPolicyManagerCustom)
    (configs : APMConfigHelper) (output : audio_io_handle_t) (client : TrackClientDescriptor)
    (answers : SourceAnswers) : status_t × AudioPolicyManagerCustom :=
  match self.mOutputs.valueFor output with
  | none => (BAD_VALUE, self)
  | some outputDesc =>
    if isValidStream client.stream = false then (INVALID_OPERATION, self)
    else if client.stream = AUDIO_STREAM_TTS ∧ answers.beaconRefused then (INVALID_OPERATION, self)
    else
      let devices := startDevices (outputDesc.setClientActive client true) client answers
      let self := { self with
        mOutputs := self.mOutputs.modify output fun _ =>
          self.startedOutput outputDesc client answers }
      (NO_ERROR, self.connect_submix configs (recorderMix devices outputDesc.mPolicyMix)
        .AUDIO_POLICY_DEVICE_STATE_AVAILABLE answers.connection)

/-- What `stopSource` makes of its output. -/
def AudioPolicyManagerCustom.stoppedOutput (self : AudioPolicyManagerCustom)
    (outputDesc : SwAudioOutputDescriptor) (client : TrackClientDescriptor)
    (answers : SourceAnswers) : SwAudioOutputDescriptor :=
  let outputDesc := outputDesc.setClientActive client false
  let outputDesc :=
    if outputDesc.getActivityCount client.volumeSource = 0 || answers.preferredDevices.isSome then
      { outputDesc with devices := answers.setOutputDevices }
    else outputDesc
  if self.mutesAlarm client then outputDesc.muteAlarm false else outputDesc

def AudioPolicyManagerCustom.stopSource (self : AudioPolicyManagerCustom)
    (configs : APMConfigHelper) (output : audio_io_handle_t) (client : TrackClientDescriptor)
    (answers : SourceAnswers) : status_t × AudioPolicyManagerCustom :=
  match self.mOutputs.valueFor output with
  | none => (BAD_VALUE, self)
  | some outputDesc =>
    if isValidStream client.stream = false then (INVALID_OPERATION, self)
    else if outputDesc.getActivityCount client.volumeSource = 0 then (INVALID_OPERATION, self)
    else
      let self :=
        if outputDesc.getActivityCount client.volumeSource = 1 then
          self.connect_submix configs (recorderMix outputDesc.devices outputDesc.mPolicyMix)
            .AUDIO_POLICY_DEVICE_STATE_UNAVAILABLE answers.connection
        else self
      (NO_ERROR, { self with
        mOutputs := self.mOutputs.modify output fun _ =>
          self.stoppedOutput outputDesc client answers })

/-- What a force use is set for: the system, or something else. -/
inductive audio_policy_force_use_t where
  | AUDIO_POLICY_FORCE_FOR_SYSTEM
  | other (value : Nat)
  deriving DecidableEq

/-- `setForceUse`, with whether the engine takes the configuration. The routing that follows is
    left out. -/
def AudioPolicyManagerCustom.setForceUse (self : AudioPolicyManagerCustom)
    (usage : audio_policy_force_use_t) (config : audio_policy_forced_cfg_t) (accepted : Bool) :
    AudioPolicyManagerCustom :=
  match usage with
  | .AUDIO_POLICY_FORCE_FOR_SYSTEM =>
    if config = self.mEngine.forceUseForSystem ∨ accepted = false then self
    else
      { self with mEngine := { self.mEngine with forceUseForSystem := config } }.tell
        [.invalidateStream AUDIO_STREAM_SYSTEM, .invalidateStream AUDIO_STREAM_ENFORCED_AUDIBLE]
  | .other _ => self

variable {configs : APMConfigHelper} {self : AudioPolicyManagerCustom}
  {output : audio_io_handle_t} {outputDesc : SwAudioOutputDescriptor}
  {client other : TrackClientDescriptor}

theorem mem_activated : other ∈ (outputDesc.setClientActive client true).mActiveClients ↔
    other ∈ outputDesc.mActiveClients ∨ other = client := by
  unfold SwAudioOutputDescriptor.setClientActive
  by_cases hclient : client ∈ outputDesc.mActiveClients
  · rw [if_pos (by simp [hclient]), or_iff_left_of_imp fun h => h ▸ hclient]
  · rw [if_neg (by simp [hclient])]
    simp

theorem mActiveClients_deactivated : (outputDesc.setClientActive client false).mActiveClients =
    outputDesc.mActiveClients.erase client := by
  unfold SwAudioOutputDescriptor.setClientActive
  by_cases hclient : client ∈ outputDesc.mActiveClients
  · rw [if_neg (by simp [hclient]), if_neg (by decide)]
  · rw [if_pos (by simp [hclient]), List.erase_of_not_mem hclient]

@[simp] theorem setClientActive_alarmMuteCount (active : Bool) :
    (outputDesc.setClientActive client active).alarmMuteCount = outputDesc.alarmMuteCount := by
  unfold SwAudioOutputDescriptor.setClientActive
  split_ifs <;> rfl

@[simp] theorem setClientActive_mPolicyMix (outputDesc : SwAudioOutputDescriptor)
    (client : TrackClientDescriptor) (active : Bool) :
    (outputDesc.setClientActive client active).mPolicyMix = outputDesc.mPolicyMix := by
  unfold SwAudioOutputDescriptor.setClientActive
  split_ifs <;> rfl

@[simp] theorem setClientActive_devices (outputDesc : SwAudioOutputDescriptor)
    (client : TrackClientDescriptor) (active : Bool) :
    (outputDesc.setClientActive client active).devices = outputDesc.devices := by
  unfold SwAudioOutputDescriptor.setClientActive
  split_ifs <;> rfl

theorem outputFields_connect_submix (configs : APMConfigHelper) (self : AudioPolicyManagerCustom)
    (policyMix : Option AudioPolicyMix)
    (state : audio_policy_dev_state_t) (answers : ConnectionAnswers) :
    (self.connect_submix configs policyMix state answers).outputFields = self.outputFields := by
  unfold AudioPolicyManagerCustom.connect_submix
  split
  · rfl
  · exact outputFields_setDeviceConnectionStateInt answers.tests.submix_not_output

theorem startedOutput_mActiveClients (answers : SourceAnswers) :
    (self.startedOutput outputDesc client answers).mActiveClients =
      (outputDesc.setClientActive client true).mActiveClients := by
  unfold AudioPolicyManagerCustom.startedOutput
  dsimp only
  split_ifs <;> rfl

theorem startedOutput_alarmMuteCount (answers : SourceAnswers) :
    (self.startedOutput outputDesc client answers).alarmMuteCount =
      outputDesc.alarmMuteCount + if self.mutesAlarm client then 1 else 0 := by
  unfold AudioPolicyManagerCustom.startedOutput SwAudioOutputDescriptor.muteAlarm
  dsimp only
  split_ifs <;> simp_all

theorem stoppedOutput_mActiveClients (answers : SourceAnswers) :
    (self.stoppedOutput outputDesc client answers).mActiveClients =
      outputDesc.mActiveClients.erase client := by
  rw [← mActiveClients_deactivated]
  unfold AudioPolicyManagerCustom.stoppedOutput
  dsimp only
  split_ifs <;> rfl

theorem stoppedOutput_alarmMuteCount (answers : SourceAnswers) :
    (self.stoppedOutput outputDesc client answers).alarmMuteCount =
      outputDesc.alarmMuteCount - if self.mutesAlarm client then 1 else 0 := by
  unfold AudioPolicyManagerCustom.stoppedOutput SwAudioOutputDescriptor.muteAlarm
  dsimp only
  split_ifs <;> simp_all

theorem stoppedOutput_congr {manager : AudioPolicyManagerCustom}
    (hengine : manager.mEngine = self.mEngine) (answers : SourceAnswers) :
    manager.stoppedOutput outputDesc client answers =
      self.stoppedOutput outputDesc client answers := by
  have hmutes : manager.mutesAlarm client = self.mutesAlarm client := by
    rw [AudioPolicyManagerCustom.mutesAlarm, AudioPolicyManagerCustom.mutesAlarm, hengine]
  unfold AudioPolicyManagerCustom.stoppedOutput
  rw [hmutes]

/-- What a start makes of the outputs. A start of enforced sound is refused only where the
    output is not open. -/
theorem startSource_cases (configs : APMConfigHelper) (self : AudioPolicyManagerCustom)
    (output : audio_io_handle_t) (client : TrackClientDescriptor) (answers : SourceAnswers) :
    ((self.startSource configs output client answers).2 = self ∧
      (client.stream = AUDIO_STREAM_ENFORCED_AUDIBLE → self.mOutputs.valueFor output = none)) ∨
    ∃ outputDesc, self.mOutputs.valueFor output = some outputDesc ∧
      (self.startSource configs output client answers).2.outputFields =
        (self.mOutputs.modify output fun _ => self.startedOutput outputDesc client answers,
          self.mEngine) ∧
      (self.startSource configs output client answers).2.mAvailableInputDevices =
        ({ self with
          mOutputs := self.mOutputs.modify output fun _ =>
            self.startedOutput outputDesc client answers }.connect_submix configs
          (recorderMix (startDevices (outputDesc.setClientActive client true) client answers)
            outputDesc.mPolicyMix)
          .AUDIO_POLICY_DEVICE_STATE_AVAILABLE answers.connection).mAvailableInputDevices := by
  unfold AudioPolicyManagerCustom.startSource
  cases hopen : self.mOutputs.valueFor output with
  | none => exact Or.inl ⟨rfl, fun _ => rfl⟩
  | some outputDesc =>
    dsimp only
    split_ifs with hinvalid hrefused
    · refine Or.inl ⟨rfl, fun hstream => ?_⟩
      rw [hstream] at hinvalid
      exact absurd hinvalid (by decide)
    · refine Or.inl ⟨rfl, fun hstream => ?_⟩
      exact absurd (hstream.symm.trans hrefused.1) (by decide)
    · exact Or.inr ⟨outputDesc, rfl, outputFields_connect_submix _ _ _ _ _, rfl⟩

/-- What a stop makes of the outputs. -/
theorem stopSource_cases (configs : APMConfigHelper) (self : AudioPolicyManagerCustom)
    (output : audio_io_handle_t) (client : TrackClientDescriptor) (answers : SourceAnswers) :
    ((self.stopSource configs output client answers).2 = self ∧
      (isValidStream client.stream = true → ∀ outputDesc,
        self.mOutputs.valueFor output = some outputDesc →
        outputDesc.getActivityCount client.volumeSource = 0)) ∨
    ∃ outputDesc, self.mOutputs.valueFor output = some outputDesc ∧
      isValidStream client.stream = true ∧
      outputDesc.getActivityCount client.volumeSource ≠ 0 ∧
      (self.stopSource configs output client answers).2.outputFields =
        (self.mOutputs.modify output fun _ => self.stoppedOutput outputDesc client answers,
          self.mEngine) ∧
      (self.stopSource configs output client answers).2.mAvailableInputDevices =
        if outputDesc.getActivityCount client.volumeSource = 1 then
          (self.connect_submix configs (recorderMix outputDesc.devices outputDesc.mPolicyMix)
            .AUDIO_POLICY_DEVICE_STATE_UNAVAILABLE answers.connection).mAvailableInputDevices
        else self.mAvailableInputDevices := by
  unfold AudioPolicyManagerCustom.stopSource
  cases hopen : self.mOutputs.valueFor output with
  | none => exact Or.inl ⟨rfl, fun _ outputDesc h => by simp at h⟩
  | some outputDesc =>
    dsimp only
    by_cases hinvalid : isValidStream client.stream = false
    · rw [if_pos hinvalid]
      exact Or.inl ⟨rfl, fun h => absurd (hinvalid.symm.trans h) Bool.false_ne_true⟩
    · rw [if_neg hinvalid]
      by_cases hidle : outputDesc.getActivityCount client.volumeSource = 0
      · rw [if_pos hidle]
        exact Or.inl ⟨rfl, fun _ other hother => Option.some.inj hother ▸ hidle⟩
      · rw [if_neg hidle]
        have hsubmix := outputFields_connect_submix configs self
          (recorderMix outputDesc.devices outputDesc.mPolicyMix)
          .AUDIO_POLICY_DEVICE_STATE_UNAVAILABLE answers.connection
        rw [AudioPolicyManagerCustom.outputFields, AudioPolicyManagerCustom.outputFields,
          Prod.mk.injEq] at hsubmix
        refine Or.inr ⟨outputDesc, rfl, by simpa using hinvalid, hidle, ?_, ?_⟩
        · dsimp only
          split_ifs
          · rw [AudioPolicyManagerCustom.outputFields]
            dsimp only
            rw [hsubmix.1, hsubmix.2, stoppedOutput_congr hsubmix.2]
          · rfl
        · dsimp only
          split_ifs <;> rfl

theorem startedOutput_mPolicyMix (answers : SourceAnswers) :
    (self.startedOutput outputDesc client answers).mPolicyMix = outputDesc.mPolicyMix := by
  have hmix := setClientActive_mPolicyMix outputDesc client true
  unfold AudioPolicyManagerCustom.startedOutput
  dsimp only
  split_ifs <;> exact hmix

theorem stoppedOutput_mPolicyMix (answers : SourceAnswers) :
    (self.stoppedOutput outputDesc client answers).mPolicyMix = outputDesc.mPolicyMix := by
  have hmix := setClientActive_mPolicyMix outputDesc client false
  unfold AudioPolicyManagerCustom.stoppedOutput
  dsimp only
  split_ifs <;> exact hmix

/-- After a start or a stop the output has the devices it had or those it was routed to. -/
theorem startedOutput_devices {answers : SourceAnswers} {routed : DeviceVector → Bool}
    (hrouted : routed answers.setOutputDevices = true)
    (hbefore : routed outputDesc.devices = true) :
    routed (self.startedOutput outputDesc client answers).devices = true := by
  rw [← setClientActive_devices outputDesc client true] at hbefore
  unfold AudioPolicyManagerCustom.startedOutput
  dsimp only
  split_ifs <;> assumption

theorem stoppedOutput_devices {answers : SourceAnswers} {routed : DeviceVector → Bool}
    (hrouted : routed answers.setOutputDevices = true)
    (hbefore : routed outputDesc.devices = true) :
    routed (self.stoppedOutput outputDesc client answers).devices = true := by
  rw [← setClientActive_devices outputDesc client false] at hbefore
  unfold AudioPolicyManagerCustom.stoppedOutput
  dsimp only
  split_ifs <;> assumption

theorem setForceUse_mOutputs {usage : audio_policy_force_use_t}
    {config : audio_policy_forced_cfg_t} {accepted : Bool} :
    (self.setForceUse usage config accepted).mOutputs = self.mOutputs := by
  unfold AudioPolicyManagerCustom.setForceUse
  split
  · split_ifs <;> rfl
  · rfl

theorem setForceUse_mAvailableInputDevices {usage : audio_policy_force_use_t}
    {config : audio_policy_forced_cfg_t} {accepted : Bool} :
    (self.setForceUse usage config accepted).mAvailableInputDevices =
      self.mAvailableInputDevices := by
  unfold AudioPolicyManagerCustom.setForceUse
  split
  · split_ifs <;> rfl
  · rfl

end policy_hal
