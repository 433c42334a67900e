import OnePlus7Pro.Policy.PhoneState

open loops

namespace policy_hal

structure audio_config_t where
  sample_rate : Nat
  format : audio_format_t
  channel_mask : audio_channel_mask_t
  /-- The usage in the information for offload. -/
  usage : Nat
  deriving DecidableEq

/-- The arguments of `getOutputForDevices`. -/
structure OutputRequest where
  devices : DeviceVector
  session : audio_session_t
  stream : audio_stream_type_t
  config : audio_config_t
  flags : audio_output_flags_t
  forceMutingHaptic : Bool

/-- What opening an output comes to. -/
structure OpenedOutput where
  status : status_t
  output : audio_io_handle_t
  mFlags : audio_output_flags_t
  samplingRate : Nat
  format : audio_format_t
  channelMask : audio_channel_mask_t

/-- What the HAL and the base class answer during a call of `getOutputForDevices`. A
    parameter that the HAL does not have is `none`. -/
structure OutputAnswers where
  isStateInCall : audio_mode_t → Bool
  voip_out_stream_count : Option Int
  voip_sample_rate : Option Int
  vr_audio_mode_on : Option Bool
  availablePrimaryModuleInputDevices : DeviceVector
  /-- An effect that keeps from offload is enabled, or the output is mono. -/
  nonOffloadable : Bool
  audio_channel_count_from_out_mask : audio_channel_mask_t → Nat
  getProfileForOutput : audio_output_flags_t → Option IOProfile
  canOpenNewIo : Bool
  open_output : audio_output_flags_t → OpenedOutput
  selectOutput : SwAudioOutputCollection → audio_output_flags_t → audio_io_handle_t

def voip_sample_rates : List Nat := [8000, 16000, 32000, 48000]

/-- An `int` kept in a `uint32_t`. -/
def uint32_t (value : Int) : Nat := (value % 2 ^ 32).toNat

def OutputRequest.channelMask (request : OutputRequest) : audio_channel_mask_t :=
  if request.forceMutingHaptic then request.config.channel_mask &&& ~~~AUDIO_CHANNEL_HAPTIC_ALL
  else request.config.channel_mask

/-- Voice goes directly to the output for VoIP, where compressed VoIP is built in. -/
def direct_voip (configs : APMConfigHelper) (request : OutputRequest) (answers : OutputAnswers) :
    Bool :=
  let voipOutCount := (answers.voip_out_stream_count.map uint32_t).getD 1
  let voipSampleRate := (answers.voip_sample_rate.map uint32_t).getD 1
  request.channelMask = 1 && request.config.sample_rate ∈ voip_sample_rates &&
    voipOutCount = 0 &&
    (voipSampleRate = 0 || voipSampleRate = request.config.sample_rate) &&
    configs.useVoicePathForPCMVOIP && request.config.format = AUDIO_FORMAT_PCM_16_BIT

/-- The flags after the VoIP override. -/
def voip_override (configs : APMConfigHelper) (phoneState : audio_mode_t)
    (request : OutputRequest) (answers : OutputAnswers) : audio_output_flags_t :=
  let voip := AUDIO_OUTPUT_FLAG_VOIP_RX ||| AUDIO_OUTPUT_FLAG_DIRECT
  if request.stream = AUDIO_STREAM_VOICE_CALL ∧ audio_is_linear_pcm request.config.format ∧
      request.devices.onlyContainsDevicesWithType AUDIO_DEVICE_OUT_TELEPHONY_TX = false then
    if configs.isCompressVOIPEnabled then
      if direct_voip configs request answers then voip
      else AUDIO_OUTPUT_FLAG_FAST ||| AUDIO_OUTPUT_FLAG_PRIMARY
    else if (request.config.channel_mask = 1 ∨ request.config.channel_mask = 3) ∧
        request.config.sample_rate ∈ voip_sample_rates ∧ phoneState ≠ .AUDIO_MODE_IN_CALL then
      voip
    else request.flags
  else request.flags

/-- In virtual reality a request for the fast output is one for the primary output. -/
def vr_flags (answers : OutputAnswers) (flags : audio_output_flags_t) : audio_output_flags_t :=
  if answers.vr_audio_mode_on = some true then
    flags &&& ~~~(AUDIO_OUTPUT_FLAG_FAST ||| AUDIO_OUTPUT_FLAG_RAW)
  else flags

/-- A voice call is active, or runs in the background of a call of another application. -/
def AudioPolicyManagerCustom.inVoiceCall (self : AudioPolicyManagerCustom) : Bool :=
  self.mEngine.phoneState = .AUDIO_MODE_IN_CALL ||
    (self.mPrevPhoneState = audio_mode_t.AUDIO_MODE_IN_CALL.value &&
      self.mEngine.phoneState = .AUDIO_MODE_IN_COMMUNICATION)

/-- The flags with which the request goes on beside a voice call: `none` where there is no
    output for it. -/
def AudioPolicyManagerCustom.voice_conc_flags (self : AudioPolicyManagerCustom)
    (configs : APMConfigHelper) (stream : audio_stream_type_t) (flags : audio_output_flags_t) :
    Option audio_output_flags_t :=
  let isDeepBufferFallBackNeeded :=
    hasFlag (AUDIO_OUTPUT_FLAG_COMPRESS_OFFLOAD ||| AUDIO_OUTPUT_FLAG_DIRECT_PCM) flags
  let isFastFallBackNeeded := hasFlag (AUDIO_OUTPUT_FLAG_DEEP_BUFFER |||
    AUDIO_OUTPUT_FLAG_COMPRESS_OFFLOAD ||| AUDIO_OUTPUT_FLAG_DIRECT_PCM) flags
  if configs.isVoicePlayConcDisabled = true ∧ self.mvoice_call_state ≠ 0 then
    if self.inVoiceCall then
      if hasFlag AUDIO_OUTPUT_FLAG_VOIP_RX flags then
        if configs.isVoiceVOIPConcDisabled then none else some flags
      else if isFastFallBackNeeded ∧ AUDIO_OUTPUT_FLAG_FAST = self.mFallBackflag then
        some AUDIO_OUTPUT_FLAG_FAST
      else if isDeepBufferFallBackNeeded ∧ AUDIO_OUTPUT_FLAG_DEEP_BUFFER = self.mFallBackflag then
        if AUDIO_STREAM_MUSIC = stream then some AUDIO_OUTPUT_FLAG_DEEP_BUFFER
        else some AUDIO_OUTPUT_FLAG_FAST
      else some flags
    else some flags
  else if configs.isVoiceVOIPConcDisabled = true ∧ self.mvoice_call_state ≠ 0 then
    if self.inVoiceCall then
      if hasFlag AUDIO_OUTPUT_FLAG_VOIP_RX flags then none else some flags
    else some flags
  else some flags

def AudioPolicyManagerCustom.activeInputsCountOnDevices (self : AudioPolicyManagerCustom)
    (devices : DeviceVector) : Nat :=
  self.mInputs.entries.countP fun input =>
    input.2.isActive && (devices.isEmpty || input.2.device ∈ devices)

/-- The flags after record concurrency has been looked at. -/
def AudioPolicyManagerCustom.rec_play_flags (self : AudioPolicyManagerCustom)
    (configs : APMConfigHelper) (answers : OutputAnswers) (stream : audio_stream_type_t)
    (flags : audio_output_flags_t) : audio_output_flags_t :=
  if configs.isRecPlayConcEnabled && configs.isRecPlayConcDisabled then
    let primaryInputDevices := answers.availablePrimaryModuleInputDevices
    let deep :=
      if hasFlag flags AUDIO_OUTPUT_FLAG_FAST then flags else AUDIO_OUTPUT_FLAG_DEEP_BUFFER
    let flags :=
      if self.mIsInputRequestOnProgress ||
          self.activeInputsCountOnDevices primaryInputDevices > 0 then
        if .AUDIO_MODE_IN_COMMUNICATION = self.mEngine.phoneState then
          if hasFlag AUDIO_OUTPUT_FLAG_VOIP_RX flags then flags else deep
        else deep
      else flags
    if stream = AUDIO_STREAM_ENFORCED_AUDIBLE then AUDIO_OUTPUT_FLAG_FAST else flags
  else flags

/-- The flags for sound that a wireless display takes through the proxy. -/
def AudioPolicyManagerCustom.afe_proxy_flags (self : AudioPolicyManagerCustom)
    (configs : APMConfigHelper) (stream : audio_stream_type_t) (flags : audio_output_flags_t) :
    audio_output_flags_t :=
  if configs.isAFEProxyEnabled &&
      hasFlag (deviceTypesToBitMask self.mAvailableOutputDevices.types) AUDIO_DEVICE_OUT_PROXY &&
      stream ≠ AUDIO_STREAM_MUSIC then
    if hasFlag flags AUDIO_OUTPUT_FLAG_DIRECT then AUDIO_OUTPUT_FLAG_DIRECT
    else AUDIO_OUTPUT_FLAG_FAST
  else flags

/-- The flags where a direct output is asked for, or given without having been asked for. -/
def direct_flags (configs : APMConfigHelper) (request : OutputRequest)
    (flags : audio_output_flags_t) : audio_output_flags_t :=
  let flags :=
    if hasFlag flags AUDIO_OUTPUT_FLAG_COMPRESS_OFFLOAD then flags ||| AUDIO_OUTPUT_FLAG_DIRECT
    else flags
  let flags :=
    if hasFlag flags AUDIO_OUTPUT_FLAG_HW_AV_SYNC then flags ||| AUDIO_OUTPUT_FLAG_DIRECT else flags
  let offload_disabled := configs.isAudioOffloadDisabled
  if flags = AUDIO_OUTPUT_FLAG_NONE ∧ request.stream = AUDIO_STREAM_MUSIC ∧
      offload_disabled = false ∧
      (request.config.usage = AUDIO_USAGE_MEDIA ∨ request.config.usage = AUDIO_USAGE_GAME) then
    AUDIO_OUTPUT_FLAG_DIRECT
  else if flags = AUDIO_OUTPUT_FLAG_DIRECT ∧
      (offload_disabled = true ∨ request.stream ≠ AUDIO_STREAM_MUSIC) then
    AUDIO_OUTPUT_FLAG_NONE
  else flags

/-- The flags with which an output is selected, and what was found on the way to them. -/
structure ChosenFlags where
  flags : audio_output_flags_t
  direct_pcm_already_in_use : Bool
  compress_offload_already_in_use : Bool
  forced_deep : Bool

def AudioPolicyManagerCustom.choose_flags (self : AudioPolicyManagerCustom)
    (configs : APMConfigHelper) (request : OutputRequest) (answers : OutputAnswers)
    (flags : audio_output_flags_t) : ChosenFlags :=
  let isInCall := answers.isStateInCall self.mEngine.phoneState
  let descriptors := self.mOutputs.entries.map Prod.snd
  let isDirect := hasFlag flags AUDIO_OUTPUT_FLAG_DIRECT
  let direct_pcm_already_in_use := isDirect &&
    descriptors.any fun desc => desc.mFlags = AUDIO_OUTPUT_FLAG_DIRECT
  let compress_offload_already_in_use := isDirect &&
    descriptors.any fun desc => hasFlag desc.mFlags AUDIO_OUTPUT_FLAG_COMPRESS_OFFLOAD
  -- direct PCM is one at a time for streams other than music
  let flags :=
    if direct_pcm_already_in_use && request.stream ≠ AUDIO_STREAM_MUSIC &&
        !hasFlag flags AUDIO_OUTPUT_FLAG_VOIP_RX then
      AUDIO_OUTPUT_FLAG_NONE
    else flags
  let forced_deep := request.stream = AUDIO_STREAM_MUSIC &&
    (flags = AUDIO_OUTPUT_FLAG_NONE || flags = AUDIO_OUTPUT_FLAG_DIRECT ||
      hasFlag flags AUDIO_OUTPUT_FLAG_COMPRESS_OFFLOAD) &&
    configs.isAudioDeepbufferMediaEnabled && !isInCall
  let flags :=
    if request.stream ≠ AUDIO_STREAM_MUSIC then flags &&& ~~~AUDIO_OUTPUT_FLAG_DEEP_BUFFER
    else flags
  let flags :=
    if request.stream = AUDIO_STREAM_TTS then AUDIO_OUTPUT_FLAG_TTS
    else if request.devices.onlyContainsDevicesWithType AUDIO_DEVICE_OUT_TELEPHONY_TX &&
        request.stream = AUDIO_STREAM_MUSIC && audio_is_linear_pcm request.config.format &&
        isInCall then
      AUDIO_OUTPUT_FLAG_INCALL_MUSIC
    else flags
  ⟨flags, direct_pcm_already_in_use, compress_offload_already_in_use, forced_deep⟩

/-- `getOutputForDevices` from the label `non_direct_output` on. -/
def AudioPolicyManagerCustom.non_direct_output (self : AudioPolicyManagerCustom)
    (request : OutputRequest) (answers : OutputAnswers) (chosen : ChosenFlags) :
    audio_io_handle_t :=
  if hasFlag chosen.flags (AUDIO_OUTPUT_FLAG_HW_AV_SYNC ||| AUDIO_OUTPUT_FLAG_MMAP_NOIRQ) then
    AUDIO_IO_HANDLE_NONE
  else if audio_is_linear_pcm request.config.format then
    let flags := chosen.flags &&& ~~~AUDIO_OUTPUT_FLAG_DIRECT
    let flags :=
      if chosen.forced_deep then AUDIO_OUTPUT_FLAG_DEEP_BUFFER
      else if flags = AUDIO_OUTPUT_FLAG_NONE then AUDIO_OUTPUT_FLAG_PRIMARY
      else flags
    answers.selectOutput self.mOutputs flags
  else AUDIO_IO_HANDLE_NONE

/-- A direct output of the profile, which another request may have opened. -/
def hasProfile (profile : IOProfile) (desc : SwAudioOutputDescriptor) : Bool :=
  !desc.isDuplicated && desc.mProfile = some profile

/-- A direct output that is open for the same client with the same parameters. -/
def isReusable (request : OutputRequest) (profile : IOProfile) (desc : SwAudioOutputDescriptor) :
    Bool :=
  hasProfile profile desc && request.config.sample_rate = desc.samplingRate &&
    request.config.format = desc.format && request.channelMask = desc.channelMask &&
    request.session = desc.mDirectClientSession

/-- The opened output has the parameters that were requested. -/
def isAsRequested (request : OutputRequest) (opened : OpenedOutput) : Bool :=
  (request.config.sample_rate = 0 || request.config.sample_rate = opened.samplingRate) &&
    (request.config.format = AUDIO_FORMAT_DEFAULT || request.config.format = opened.format) &&
    (request.channelMask = 0 || request.channelMask = opened.channelMask)

/-- `getOutputForDevices` where a direct output of a profile is opened. -/
def AudioPolicyManagerCustom.open_direct (self : AudioPolicyManagerCustom)
    (request : OutputRequest) (answers : OutputAnswers) (chosen : ChosenFlags)
    (profile : IOProfile) : audio_io_handle_t × AudioPolicyManagerCustom :=
  let opened := answers.open_output chosen.flags
  if opened.status ≠ NO_ERROR ∨ isAsRequested request opened = false then
    let self :=
      if opened.status = NO_ERROR then
        self.tell [.openDescriptor opened.output, .closeDescriptor opened.output]
      else self
    if audio_is_linear_pcm request.config.format &&
        request.config.sample_rate ≤ SAMPLE_RATE_HZ_MAX then
      (self.non_direct_output request answers chosen, self)
    else (AUDIO_IO_HANDLE_NONE, self)
  else
    let outputDesc : SwAudioOutputDescriptor :=
      { mProfile := some profile
        mFlags := opened.mFlags
        samplingRate := opened.samplingRate
        format := opened.format
        channelMask := opened.channelMask
        isDuplicated := false
        mDirectOpenCount := 1
        mDirectClientSession := request.session
        mPolicyMix := none
        devices := request.devices
        mActiveClients := []
        alarmMuteCount := 0 }
    (opened.output, { self with mOutputs := self.mOutputs.add opened.output outputDesc }.tell
      [.openDescriptor opened.output, .onAudioPortListUpdate])

/-- `getOutputForDevices` where a direct output of a profile is looked for. -/
def AudioPolicyManagerCustom.direct_output (self : AudioPolicyManagerCustom)
    (configs : APMConfigHelper) (request : OutputRequest) (answers : OutputAnswers)
    (chosen : ChosenFlags) (profile : IOProfile) : audio_io_handle_t × AudioPolicyManagerCustom :=
  let mayReuse := !(configs.isAudioMultipleOffloadEnable &&
    hasFlag chosen.flags AUDIO_OUTPUT_FLAG_DIRECT &&
    !hasFlag chosen.flags AUDIO_OUTPUT_FLAG_MMAP_NOIRQ)
  let reused := self.mOutputs.entries.find? fun entry => isReusable request profile entry.2
  let outputDesc := (self.mOutputs.entries.reverse.find? fun entry =>
    hasProfile profile entry.2).map Prod.snd
  let mayNotShare :=
    (chosen.flags = AUDIO_OUTPUT_FLAG_DIRECT && chosen.direct_pcm_already_in_use) ||
    (hasFlag chosen.flags AUDIO_OUTPUT_FLAG_COMPRESS_OFFLOAD &&
      chosen.compress_offload_already_in_use)
  if mayReuse ∧ reused.isSome then
    let output := (reused.map Prod.fst).getD AUDIO_IO_HANDLE_NONE
    (output, { self with
      mOutputs := self.mOutputs.modify output fun desc =>
        { desc with mDirectOpenCount := desc.mDirectOpenCount + 1 } })
  else if mayReuse ∧ mayNotShare ∧
      outputDesc.any (fun desc => request.session ≠ desc.mDirectClientSession) then
    (self.non_direct_output request answers chosen, self)
  else if answers.canOpenNewIo then self.open_direct request answers chosen profile
  else (self.non_direct_output request answers chosen, self)

/-- `getOutputForDevices` when the flags have been chosen. -/
def AudioPolicyManagerCustom.select (self : AudioPolicyManagerCustom) (configs : APMConfigHelper)
    (request : OutputRequest) (answers : OutputAnswers) (chosen : ChosenFlags) :
    audio_io_handle_t × AudioPolicyManagerCustom :=
  if hasFlag chosen.flags AUDIO_OUTPUT_FLAG_DIRECT = false ∧
      audio_is_linear_pcm request.config.format ∧
      request.config.sample_rate ≤ SAMPLE_RATE_HZ_MAX ∧
      answers.audio_channel_count_from_out_mask request.channelMask ≤ 2 then
    (self.non_direct_output request answers chosen, self)
  else if hasFlag chosen.flags (AUDIO_OUTPUT_FLAG_COMPRESS_OFFLOAD ||| AUDIO_OUTPUT_FLAG_DIRECT) ∧
      answers.nonOffloadable then
    (self.non_direct_output request answers chosen, self)
  else
    match answers.getProfileForOutput chosen.flags with
    | none => (self.non_direct_output request answers chosen, self)
    | some profile =>
      if hasFlag chosen.flags AUDIO_OUTPUT_FLAG_DIRECT = false ∧
          hasFlag profile.flags AUDIO_OUTPUT_FLAG_DIRECT then
        (self.non_direct_output request answers chosen, self)
      else self.direct_output configs request answers chosen profile

def AudioPolicyManagerCustom.getOutputForDevices (self : AudioPolicyManagerCustom)
    (configs : APMConfigHelper) (request : OutputRequest) (answers : OutputAnswers) :
    audio_io_handle_t × AudioPolicyManagerCustom :=
  if request.stream < AUDIO_STREAM_MIN ∨ AUDIO_STREAM_CNT ≤ request.stream then
    (AUDIO_IO_HANDLE_NONE, self)
  else if hasFlag request.flags AUDIO_OUTPUT_FLAG_COMPRESS_OFFLOAD ∧
      request.stream ≠ AUDIO_STREAM_MUSIC then
    (AUDIO_IO_HANDLE_NONE, self)
  else
    let flags := vr_flags answers (voip_override configs self.mEngine.phoneState request answers)
    let allowed :=
      if configs.isVoiceConcEnabled then self.voice_conc_flags configs request.stream flags
      else some flags
    match allowed with
    | none => (AUDIO_IO_HANDLE_NONE, self)
    | some flags =>
      let flags := self.rec_play_flags configs answers request.stream flags
      let flags := self.afe_proxy_flags configs request.stream flags
      let flags := direct_flags configs request flags
      self.select configs request answers (self.choose_flags configs request answers flags)

/-- The arguments of `getInputForAttr` that it looks at itself. -/
structure InputRequest where
  source : audio_source_t
  /-- The session is among those for sound triggers. -/
  isSoundTriggerSession : Bool

/-- `getInputForAttr` of the base class: its status, and what it makes of the inputs. -/
abbrev BaseInput := AudioPolicyManagerCustom → status_t × AudioInputCollection

/-- A request for an input that is refused beside a voice call. -/
def AudioPolicyManagerCustom.blocks_input (self : AudioPolicyManagerCustom)
    (configs : APMConfigHelper) (inputSource : audio_source_t) : Bool :=
  if configs.isVoiceRecConcDisabled = true ∧ self.mvoice_call_state ≠ 0 then
    if self.inVoiceCall then
      if inputSource = AUDIO_SOURCE_VOICE_UPLINK ∨ inputSource = AUDIO_SOURCE_VOICE_DOWNLINK ∨
          inputSource = AUDIO_SOURCE_VOICE_CALL then false
      else if inputSource = AUDIO_SOURCE_VOICE_COMMUNICATION then configs.isVoiceVOIPConcDisabled
      else true
    else false
  else if configs.isVoiceVOIPConcDisabled = true ∧ self.mvoice_call_state ≠ 0 then
    if self.inVoiceCall then inputSource = AUDIO_SOURCE_VOICE_COMMUNICATION else false
  else false

def AudioPolicyManagerCustom.getInputForAttr (self : AudioPolicyManagerCustom)
    (configs : APMConfigHelper) (request : InputRequest) (base : BaseInput) :
    status_t × AudioPolicyManagerCustom :=
  if configs.isVoiceConcEnabled && self.blocks_input configs request.source then (NO_INIT, self)
  else
    -- sound triggers are not captured from an USB headset
    let isSoundTrigger := request.source = AUDIO_SOURCE_HOTWORD && request.isSoundTriggerSession
    let USBDevices := DeviceVector.getDevicesFromType self.mAvailableInputDevices
      AUDIO_DEVICE_IN_USB_HEADSET
    let offered :=
      if isSoundTrigger then
        { self with
          mAvailableInputDevices :=
            USBDevices.foldl DeviceVector.remove self.mAvailableInputDevices }
      else self
    let answer := base offered
    let devices :=
      if isSoundTrigger then USBDevices.foldl DeviceVector.add offered.mAvailableInputDevices
      else offered.mAvailableInputDevices
    (answer.1, { self with mInputs := answer.2, mAvailableInputDevices := devices })

end policy_hal
