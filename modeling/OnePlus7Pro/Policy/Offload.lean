import OnePlus7Pro.Policy.Requests

open loops

namespace policy_hal

def AUDIO_FORMAT_MP3 : audio_format_t := 0x01000000
def AUDIO_FORMAT_AAC : audio_format_t := 0x04000000
def AUDIO_FORMAT_VORBIS : audio_format_t := 0x07000000
def AUDIO_FORMAT_WMA : audio_format_t := 0x12000000
def AUDIO_FORMAT_WMA_PRO : audio_format_t := 0x13000000
def AUDIO_FORMAT_FLAC : audio_format_t := 0x1B000000
def AUDIO_FORMAT_ALAC : audio_format_t := 0x1C000000
def AUDIO_FORMAT_APE : audio_format_t := 0x1D000000
def AUDIO_FORMAT_AAC_ADTS : audio_format_t := 0x1E000000

def OFFLOAD_DEFAULT_MIN_DURATION_SECS : Int := 60
def MAX_BITRATE_WMA_PRO : Nat := 1536000
def MAX_BITRATE_WMA_LOSSLESS : Nat := 1152000

def wmaStdSampleRateTbl : List Nat := [8000, 11025, 16000, 22050, 32000, 44100, 48000]

/-- The least bit rates, for one channel and for two. -/
def wmaStdMinAvgByteRateTbl : List (Nat × Nat) :=
  [(128, 12000), (8016, 8016), (10000, 16000), (16016, 20008), (20000, 24000), (20008, 31960),
    (63000, 63000)]

def wmaStdMaxAvgByteRateTbl : List (Nat × Nat) :=
  [(8000, 12000), (10168, 10168), (16000, 20000), (20008, 32048), (20000, 48000), (48024, 320032),
    (256008, 256008)]

/-- The system properties, with what is taken for one that is not set. -/
structure Properties where
  property_get_bool : String → Bool → Bool
  property_get_int32 : String → BitVec 32 → BitVec 32
  property_get : String → String

/-- The features that are built in. -/
structure Features where
  AUDIO_EXTN_HDMI_SPK_ENABLED : Bool
  AUDIO_EXTN_FORMATS_ENABLED : Bool
  AUDIO_EXTN_AFE_PROXY_ENABLED : Bool
  COMPRESS_VOIP_ENABLED : Bool
  VOICE_CONCURRENCY : Bool
  RECORD_PLAY_CONCURRENCY : Bool

/-- What the configuration answers, also where offload is asked about. -/
structure OffloadConfigs extends APMConfigHelper where
  isAudioOffloadVideoEnabled : Bool
  isAVStreamingOffloadEnabled : Bool
  isExtnFormatsEnabled : Bool
  getAudioOffloadMinDuration : BitVec 32

/-- The constructor of `APMConfigHelper`. -/
def OffloadConfigs.create (properties : Properties) (features : Features) : OffloadConfigs where
  isAudioOffloadVideoEnabled := properties.property_get_bool "audio.offload.video" true
  isAudioOffloadDisabled := properties.property_get_bool "audio.offload.disable" false
  isAudioDeepbufferMediaEnabled := properties.property_get_bool "audio.deep_buffer.media" true
  isAVStreamingOffloadEnabled :=
    properties.property_get_bool "vendor.audio.av.streaming.offload.enable" false
  isAudioMultipleOffloadEnable :=
    properties.property_get_bool "vendor.audio.offload.multiple.enabled" false
  isVoiceDSDConcDisabled := properties.property_get_bool "vendor.voice.dsd.playback.conc.disabled" true
  isVAConcEnabled := properties.property_get_bool "persist.vendor.audio.va_concurrency_enabled" false
  isRecPlayConcDisabled := properties.property_get_bool "vendor.audio.rec.playback.conc.disabled" false
  useVoicePathForPCMVOIP := properties.property_get_bool "vendor.voice.path.for.pcm.voip" true
  isVoicePlayConcDisabled := properties.property_get_bool "vendor.voice.playback.conc.disabled" false
  isVoiceRecConcDisabled := properties.property_get_bool "vendor.voice.record.conc.disabled" false
  isVoiceVOIPConcDisabled := properties.property_get_bool "vendor.voice.voip.conc.disabled" false
  -- the cast to `uint32_t` keeps the bits
  getAudioOffloadMinDuration := properties.property_get_int32 "audio.offload.min.duration.secs" 0
  getVoiceConcFallbackPath := properties.property_get "vendor.voice.conc.fallbackpath"
  isHDMISpkEnabled := features.AUDIO_EXTN_HDMI_SPK_ENABLED
  isExtnFormatsEnabled := features.AUDIO_EXTN_FORMATS_ENABLED
  isAFEProxyEnabled := features.AUDIO_EXTN_AFE_PROXY_ENABLED
  isCompressVOIPEnabled := features.COMPRESS_VOIP_ENABLED
  isVoiceConcEnabled := features.VOICE_CONCURRENCY
  isRecPlayConcEnabled := features.RECORD_PLAY_CONCURRENCY

/-- The stream that is to be offloaded. -/
structure audio_offload_info_t where
  sample_rate : Nat
  channel_mask : audio_channel_mask_t
  format : audio_format_t
  stream_type : audio_stream_type_t
  bit_rate : Nat
  duration_us : BitVec 64
  has_video : Bool
  is_streaming : Bool

def audio_offload_info_t.mainFormat (offloadInfo : audio_offload_info_t) : audio_format_t :=
  offloadInfo.format &&& AUDIO_FORMAT_MAIN_MASK

/-- What the base class and the HAL answer during a call of `isOffloadSupported`. -/
structure OffloadAnswers where
  isStateInCall : audio_mode_t → Bool
  mMasterMono : Bool
  availablePrimaryModuleInputDevices : DeviceVector
  isNonOffloadableEffectEnabled : Bool
  /-- By the sample rate, the format and the channel mask of the stream. -/
  getProfileForOutput : Nat → audio_format_t → audio_channel_mask_t → Option IOProfile

/-- `isOffloadSupported` where it looks at what else goes on: the stream is kept from offload. -/
def AudioPolicyManagerCustom.offload_blocked (self : AudioPolicyManagerCustom)
    (configs : OffloadConfigs) (offloadInfo : audio_offload_info_t) (answers : OffloadAnswers) :
    Bool :=
  let isInCall := answers.isStateInCall self.mEngine.phoneState
  if answers.mMasterMono then true
  else if configs.isVoiceConcEnabled && (configs.isVoicePlayConcDisabled && isInCall) then true
  else if configs.isVoiceDSDConcDisabled && isInCall && offloadInfo.format = AUDIO_FORMAT_DSD then true
  else if configs.isRecPlayConcEnabled then
    configs.isRecPlayConcDisabled && (self.mIsInputRequestOnProgress ||
      self.activeInputsCountOnDevices answers.availablePrimaryModuleInputDevices > 0)
  else false

/-- Several channels in a format that is then not offloaded. -/
def multichannel_refused (offloadInfo : audio_offload_info_t) : Bool :=
  popcount offloadInfo.channel_mask > 2 &&
    (offloadInfo.mainFormat = AUDIO_FORMAT_AAC || offloadInfo.mainFormat = AUDIO_FORMAT_VORBIS)

def extn_multichannel_refused (offloadInfo : audio_offload_info_t) : Bool :=
  let fast := decide (offloadInfo.sample_rate > 48000)
  popcount offloadInfo.channel_mask > 2 &&
    (offloadInfo.mainFormat = AUDIO_FORMAT_FLAC ||
      offloadInfo.mainFormat = AUDIO_FORMAT_ALAC && fast ||
      offloadInfo.mainFormat = AUDIO_FORMAT_WMA && fast ||
      offloadInfo.mainFormat = AUDIO_FORMAT_WMA_PRO && fast ||
      offloadInfo.mainFormat = AUDIO_FORMAT_AAC_ADTS)

/-- The bit rate of a table for a number of channels that is 1 or 2. -/
def wma_bit_rate (table : List (Nat × Nat)) (sr_id channels : Nat) : Nat :=
  let row := table.getD sr_id (0, 0)
  if channels = 1 then row.1 else row.2

/-- A sample rate, a number of channels or a bit rate that WMA is not offloaded with. -/
def wma_refused (offloadInfo : audio_offload_info_t) : Bool :=
  let channels := popcount offloadInfo.channel_mask
  if offloadInfo.mainFormat = AUDIO_FORMAT_WMA then
    match wmaStdSampleRateTbl.findIdx? fun rate => offloadInfo.sample_rate = rate with
    | none => true
    | some sr_id =>
      if channels > 2 || channels ≤ 0 then true
      else offloadInfo.bit_rate > wma_bit_rate wmaStdMaxAvgByteRateTbl sr_id channels ||
        offloadInfo.bit_rate < wma_bit_rate wmaStdMinAvgByteRateTbl sr_id channels
  else false

def wma_pro_refused (offloadInfo : audio_offload_info_t) : Bool :=
  offloadInfo.mainFormat = AUDIO_FORMAT_WMA_PRO && offloadInfo.bit_rate > MAX_BITRATE_WMA_PRO ||
    offloadInfo.mainFormat = AUDIO_FORMAT_WMA_PRO && offloadInfo.bit_rate > MAX_BITRATE_WMA_LOSSLESS

/-- `isOffloadSupported` where it looks at the stream, up to its duration. -/
def stream_refused (configs : OffloadConfigs) (offloadInfo : audio_offload_info_t) : Bool :=
  if offloadInfo.stream_type ≠ AUDIO_STREAM_MUSIC then true
  else if configs.isAudioOffloadDisabled then true
  else if multichannel_refused offloadInfo then true
  else if configs.isExtnFormatsEnabled && (extn_multichannel_refused offloadInfo ||
      wma_refused offloadInfo || wma_pro_refused offloadInfo) then true
  else if offloadInfo.has_video && !configs.isAudioOffloadVideoEnabled then true
  else offloadInfo.has_video && offloadInfo.is_streaming && !configs.isAVStreamingOffloadEnabled

/-- A format whose duration has to reach the default. -/
def duration_matters (configs : OffloadConfigs) (offloadInfo : audio_offload_info_t) : Bool :=
  offloadInfo.format = AUDIO_FORMAT_MP3 || offloadInfo.mainFormat = AUDIO_FORMAT_AAC ||
    offloadInfo.mainFormat = AUDIO_FORMAT_FLAC || offloadInfo.mainFormat = AUDIO_FORMAT_VORBIS ||
    configs.isExtnFormatsEnabled &&
      (offloadInfo.mainFormat = AUDIO_FORMAT_WMA || offloadInfo.mainFormat = AUDIO_FORMAT_WMA_PRO ||
        offloadInfo.mainFormat = AUDIO_FORMAT_ALAC || offloadInfo.mainFormat = AUDIO_FORMAT_APE ||
        offloadInfo.mainFormat = AUDIO_FORMAT_DSD || offloadInfo.mainFormat = AUDIO_FORMAT_AAC_ADTS)

/-- `isOffloadSupported` where it looks at the duration. -/
def duration_refused (configs : OffloadConfigs) (offloadInfo : audio_offload_info_t) : Bool :=
  if configs.getAudioOffloadMinDuration > 0 then
    -- the product is of unsigned numbers of 32 bits, the comparison of signed ones of 64 bits
    offloadInfo.duration_us.toInt < (configs.getAudioOffloadMinDuration * 1000000).toNat
  else if offloadInfo.duration_us.toInt < OFFLOAD_DEFAULT_MIN_DURATION_SECS * 1000000 then
    duration_matters configs offloadInfo
  else false

def AudioPolicyManagerCustom.isOffloadSupported (self : AudioPolicyManagerCustom)
    (configs : OffloadConfigs) (offloadInfo : audio_offload_info_t) (answers : OffloadAnswers) :
    Bool :=
  if self.offload_blocked configs offloadInfo answers then false
  else if stream_refused configs offloadInfo then false
  else if duration_refused configs offloadInfo then false
  else if answers.isNonOffloadableEffectEnabled then false
  else
    (answers.getProfileForOutput offloadInfo.sample_rate offloadInfo.format
      offloadInfo.channel_mask).isSome

/-- The request passes all the checks of `isOffloadSupported` before the one of its duration. -/
def AudioPolicyManagerCustom.passes_earlier (self : AudioPolicyManagerCustom)
    (configs : OffloadConfigs) (offloadInfo : audio_offload_info_t) (answers : OffloadAnswers) :
    Bool :=
  !self.offload_blocked configs offloadInfo answers && !stream_refused configs offloadInfo

/-- It is for its duration that the request is refused. -/
def AudioPolicyManagerCustom.refused_by_duration (self : AudioPolicyManagerCustom)
    (configs : OffloadConfigs) (offloadInfo : audio_offload_info_t) (answers : OffloadAnswers) :
    Bool :=
  self.passes_earlier configs offloadInfo answers && duration_refused configs offloadInfo

/-- The properties with the least duration of what is offloaded set to a number of seconds. -/
def Properties.setMinDuration (properties : Properties) (seconds : BitVec 32) : Properties :=
  { properties with
    property_get_int32 := fun key default =>
      if key = "audio.offload.min.duration.secs" then seconds
      else properties.property_get_int32 key default }

section duration

variable {self : AudioPolicyManagerCustom} {properties : Properties} {features : Features}
  {offloadInfo : audio_offload_info_t} {answers : OffloadAnswers} {seconds : BitVec 32}

@[simp] theorem getAudioOffloadMinDuration_setMinDuration :
    (OffloadConfigs.create (properties.setMinDuration seconds) features).getAudioOffloadMinDuration =
      seconds := by
  simp [OffloadConfigs.create, Properties.setMinDuration]

/-- The earlier checks look neither at the duration nor at the least one. -/
theorem AudioPolicyManagerCustom.passes_earlier_eq (seconds other : BitVec 32)
    (duration : BitVec 64) :
    self.passes_earlier (OffloadConfigs.create (properties.setMinDuration seconds) features)
        { offloadInfo with duration_us := duration } answers =
      self.passes_earlier (OffloadConfigs.create (properties.setMinDuration other) features)
        offloadInfo answers := rfl

/-- A request that passes on is refused when its duration is below what is left of the
    scaled property in 32 bits. -/
theorem AudioPolicyManagerCustom.refused_by_duration_iff {other : BitVec 32}
    (hpasses : self.passes_earlier (OffloadConfigs.create (properties.setMinDuration other) features)
      offloadInfo answers) (hset : 0 < seconds) (duration : BitVec 64) :
    self.refused_by_duration (OffloadConfigs.create (properties.setMinDuration seconds) features)
        { offloadInfo with duration_us := duration } answers ↔
      duration.toInt < (seconds.toNat * 1000000 % 2 ^ 32 : Nat) := by
  rw [refused_by_duration, passes_earlier_eq seconds other, hpasses, duration_refused,
    getAudioOffloadMinDuration_setMinDuration, if_pos hset, Bool.true_and, decide_eq_true_eq,
    BitVec.toNat_mul]
  rfl

theorem toInt_ofNat_wrapped (product : Nat) :
    (BitVec.ofNat 64 (product % 2 ^ 32)).toInt = (product % 2 ^ 32 : Nat) := by
  rw [BitVec.toInt_ofNat', Int.bmod_eq_of_le] <;> omega

/-- Wrapping takes something away exactly from the products above 4294 seconds. -/
theorem wrapped_eq_iff (seconds : Nat) :
    seconds * 1000000 % 2 ^ 32 = seconds * 1000000 ↔ seconds ≤ 4294 := by
  rw [Nat.mod_eq_iff_lt (by norm_num)]
  omega

end duration

/-- The check of the duration is exact at every duration, and stricter for every greater
    property, exactly as long as the property is at most 4294 seconds; above it is exact
    outside the durations between the wrapped product and the product. -/
theorem AudioPolicyManagerCustom.min_duration_exact_iff (self : AudioPolicyManagerCustom)
    (properties : Properties) (features : Features) (offloadInfo : audio_offload_info_t)
    (answers : OffloadAnswers) (seconds : BitVec 32)
    (hpasses : self.passes_earlier (OffloadConfigs.create (properties.setMinDuration seconds) features)
      offloadInfo answers) (hset : 0 < seconds) :
    let refuses (m : BitVec 32) (duration : BitVec 64) : Prop :=
      self.refused_by_duration (OffloadConfigs.create (properties.setMinDuration m) features)
        { offloadInfo with duration_us := duration } answers
    ((∀ duration, refuses seconds duration ↔ duration.toInt < seconds.toNat * 1000000) ∧
        (∀ less more, 0 < less → less ≤ more → more ≤ seconds →
          ∀ duration, ¬refuses more duration → ¬refuses less duration) ↔
      seconds.toNat ≤ 4294) ∧
    ∀ duration : BitVec 64, (refuses seconds duration ↔ duration.toInt < seconds.toNat * 1000000) ↔
      duration.toInt < (seconds.toNat * 1000000 % 2 ^ 32 : Nat) ∨
        seconds.toNat * 1000000 ≤ duration.toInt := by
  intro refuses
  have hrefuses (m : BitVec 32) (hm : 0 < m) (duration : BitVec 64) :
      refuses m duration ↔ duration.toInt < (m.toNat * 1000000 % 2 ^ 32 : Nat) :=
    refused_by_duration_iff hpasses hm duration
  have hwrapped : seconds.toNat * 1000000 % 2 ^ 32 ≤ seconds.toNat * 1000000 := Nat.mod_le _ _
  refine ⟨⟨?_, ?_⟩, ?_⟩
  · -- at the wrapped product itself the request is let through
    rintro ⟨hexact, -⟩
    have hat := hexact (BitVec.ofNat 64 (seconds.toNat * 1000000 % 2 ^ 32))
    rw [hrefuses seconds hset, toInt_ofNat_wrapped] at hat
    refine (wrapped_eq_iff seconds.toNat).mp (hwrapped.antisymm (Nat.le_of_not_lt ?_))
    intro hless
    exact absurd (hat.mpr (by exact_mod_cast hless)) (lt_irrefl _)
  · intro hbound
    have hsame (m : BitVec 32) (hm : m ≤ seconds) :
        m.toNat * 1000000 % 2 ^ 32 = m.toNat * 1000000 :=
      (wrapped_eq_iff m.toNat).mpr (le_trans (BitVec.le_def.mp hm) hbound)
    constructor
    · intro duration
      rw [hrefuses seconds hset, hsame seconds (BitVec.le_refl seconds)]
      push_cast
      rfl
    · intro less more hless hle hmore duration hmoreAccepts
      rw [BitVec.lt_def] at hless
      have hscaled : less.toNat * 1000000 ≤ more.toNat * 1000000 :=
        Nat.mul_le_mul_right 1000000 (BitVec.le_def.mp hle)
      rw [hrefuses more (BitVec.lt_def.mpr (hless.trans_le (BitVec.le_def.mp hle))),
        hsame more hmore] at hmoreAccepts
      rw [hrefuses less (BitVec.lt_def.mpr hless), hsame less (BitVec.le_trans hle hmore)]
      intro hshort
      exact hmoreAccepts (hshort.trans_le (Int.ofNat_le.mpr hscaled))
  · intro duration
    rw [hrefuses seconds hset]
    generalize seconds.toNat * 1000000 % 2 ^ 32 = wrapped at hwrapped
    omega

/-- The properties when none is set. -/
def Properties.unset : Properties where
  property_get_bool := fun _ default => default
  property_get_int32 := fun _ default => default
  property_get := fun _ => ""

/-- The features when none is built in. -/
def Features.none : Features := ⟨false, false, false, false, false, false⟩

/-- A song of a minute. -/
def song : audio_offload_info_t where
  sample_rate := 44100
  channel_mask := 3
  format := AUDIO_FORMAT_MP3
  stream_type := AUDIO_STREAM_MUSIC
  bit_rate := 128000
  duration_us := 60000000
  has_video := false
  is_streaming := false

def offloadAnswers : OffloadAnswers where
  isStateInCall := fun state => state = .AUDIO_MODE_IN_CALL || state = .AUDIO_MODE_IN_COMMUNICATION
  mMasterMono := false
  availablePrimaryModuleInputDevices := []
  isNonOffloadableEffectEnabled := false
  getProfileForOutput := fun _ _ _ => some ⟨"offload", 0x11⟩

/-- A manager that has just been set up. -/
def idleManager : AudioPolicyManagerCustom := .init .default 0

theorem min_duration_exact_sixty :
    idleManager.refused_by_duration
      (OffloadConfigs.create (Properties.unset.setMinDuration 60) Features.none)
      { song with duration_us := 59999999 } offloadAnswers = true :=
  (((idleManager.min_duration_exact_iff Properties.unset Features.none song offloadAnswers 60
    (by decide) (by decide)).1.mpr (by decide)).1 59999999).mpr (by decide)

/-- Where 4295 seconds are asked for, a minute is enough. -/
theorem short_song_offloaded :
    ¬ ∀ (self : AudioPolicyManagerCustom) (properties : Properties) (features : Features)
        (offloadInfo : audio_offload_info_t) (answers : OffloadAnswers) (seconds : BitVec 32),
      self.passes_earlier (OffloadConfigs.create (properties.setMinDuration seconds) features)
        offloadInfo answers → 0 < seconds → ∀ duration : BitVec 64,
      (self.refused_by_duration (OffloadConfigs.create (properties.setMinDuration seconds) features)
          { offloadInfo with duration_us := duration } answers ↔
        duration.toInt < seconds.toNat * 1000000) := by
  intro hexact
  have hsong := hexact idleManager Properties.unset Features.none song offloadAnswers 4295
    (by decide) (by decide) 60000000
  exact absurd hsong (by decide)

end policy_hal
