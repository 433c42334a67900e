import OnePlus7Pro.Policy.Types

open loops

namespace policy_hal

/-- `closeOutput` of the base class takes the output out of the collection. -/
def closing (output : audio_io_handle_t) : Visit ClientCall := ⟨true, [.closeOutput output]⟩

def passing : Visit ClientCall := ⟨false, []⟩

/-- The body of the loop over the outputs when a voice call begins. -/
def voice_call_visit (configs : APMConfigHelper) (mFallBackflag : audio_output_flags_t)
    (key : audio_io_handle_t) (outputDesc : SwAudioOutputDescriptor) : Visit ClientCall :=
  match outputDesc.mProfile with
  | none => passing
  | some profile =>
    let isFastFallBackNeeded := hasFlag (AUDIO_OUTPUT_FLAG_DEEP_BUFFER |||
      AUDIO_OUTPUT_FLAG_COMPRESS_OFFLOAD ||| AUDIO_OUTPUT_FLAG_DIRECT_PCM) profile.flags
    if AUDIO_OUTPUT_FLAG_FAST = mFallBackflag ∧ isFastFallBackNeeded then
      if (!outputDesc.isDuplicated && hasFlag profile.flags AUDIO_OUTPUT_FLAG_PRIMARY) &&
          configs.isVoicePlayConcDisabled then
        ⟨false, [.suspendOutput key]⟩
      else if hasFlag profile.flags AUDIO_OUTPUT_FLAG_COMPRESS_OFFLOAD &&
          configs.isVoicePlayConcDisabled then
        closing key
      else if hasFlag profile.flags AUDIO_OUTPUT_FLAG_VOIP_RX &&
          configs.isVoiceVOIPConcDisabled then
        closing key
      else passing
    else if AUDIO_OUTPUT_FLAG_DEEP_BUFFER = mFallBackflag then
      if hasFlag profile.flags AUDIO_OUTPUT_FLAG_VOIP_RX then
        if configs.isVoiceVOIPConcDisabled then closing key else passing
      else if configs.isVoicePlayConcDisabled &&
          hasFlag profile.flags AUDIO_OUTPUT_FLAG_DIRECT then
        closing key
      else passing
    else passing

/-- The body of the loop that closes the outputs for compressed DSD. -/
def dsd_visit (configs : APMConfigHelper) (key : audio_io_handle_t)
    (outputDesc : SwAudioOutputDescriptor) : Visit ClientCall :=
  if outputDesc.mProfile.isNone then passing
  else if configs.isVoiceDSDConcDisabled &&
      hasFlag outputDesc.mFlags AUDIO_OUTPUT_FLAG_COMPRESS_OFFLOAD &&
      outputDesc.format = AUDIO_FORMAT_DSD then
    ⟨true, [.closeOutput key, .invalidateStream AUDIO_STREAM_MUSIC]⟩
  else passing

/-- The body of the loops that close the compress outputs for record concurrency, in
    `setPhoneState` and in `startInput`. -/
def compress_visit (key : audio_io_handle_t) (outputDesc : SwAudioOutputDescriptor) :
    Visit ClientCall :=
  match outputDesc.mProfile with
  | none => passing
  | some profile =>
    if hasFlag profile.flags AUDIO_OUTPUT_FLAG_COMPRESS_OFFLOAD then closing key else passing

/-- The body of the loop over the outputs when a voice call ends. -/
def restore_visit (key : audio_io_handle_t) (outputDesc : SwAudioOutputDescriptor) :
    Visit ClientCall :=
  match outputDesc.mProfile with
  | none => passing
  | some profile =>
    if !outputDesc.isDuplicated && hasFlag profile.flags AUDIO_OUTPUT_FLAG_PRIMARY then
      ⟨false, [.restoreOutput key]⟩
    else passing

/-- A loop over the open outputs, with what it leaves open and what it tells. -/
abbrev OutputLoop := SwAudioOutputCollection → SwAudioOutputCollection × List ClientCall

def voice_call_loop (configs : APMConfigHelper) (mFallBackflag : audio_output_flags_t) :
    OutputLoop := fun mOutputs => mOutputs.walk (voice_call_visit configs mFallBackflag) 0

def restore_loop : OutputLoop := fun mOutputs => mOutputs.walk restore_visit 0

def dsd_loop (configs : APMConfigHelper) : OutputLoop :=
  fun mOutputs => mOutputs.walk (dsd_visit configs) 0

/-- The loop of `setPhoneState` for record concurrency. -/
def record_play_loop : OutputLoop := fun mOutputs => mOutputs.walk compress_visit 0

/-- The loop of `startInput`. -/
def start_input_loop : OutputLoop := fun mOutputs => mOutputs.walk compress_visit 0

def isVoipOutput (desc : SwAudioOutputDescriptor) : Bool :=
  desc.mFlags = AUDIO_OUTPUT_FLAG_DIRECT ||| AUDIO_OUTPUT_FLAG_VOIP_RX

/-- The loop of `setDeviceConnectionStateInt` over the handles `outputs`, from index `i`. -/
def voip_loop (outputs : KeyedVector audio_io_handle_t Unit) (mOutputs : SwAudioOutputCollection)
    (i : Nat) : KeyedVector audio_io_handle_t Unit × SwAudioOutputCollection × List ClientCall :=
  if h : i < outputs.entries.length then
    let output := outputs.entries[i].1
    -- every handle in `outputs` is open: `valueFor` finds its descriptor
    if (mOutputs.valueFor output).any isVoipOutput then
      let rest := voip_loop (outputs.removeItem output) (mOutputs.removeItem output) (i + 1)
      (rest.1, rest.2.1, .closeOutput output :: rest.2.2)
    else voip_loop outputs mOutputs (i + 1)
  else (outputs, mOutputs, [])
termination_by outputs.entries.length - i
decreasing_by
  · have hle : (outputs.removeItem outputs.entries[i].1).entries.length ≤
        outputs.entries.length := List.length_filter_le _ _
    omega
  · omega

end policy_hal
