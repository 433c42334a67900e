import OnePlus7Pro.Loops.KeyedVector
import Mathlib.Data.List.Dedup
import Mathlib.Tactic.Ring

open loops

namespace policy_hal

abbrev audio_io_handle_t := Int
abbrev audio_port_handle_t := Int
abbrev audio_session_t := Int
abbrev audio_devices_t := BitVec 32
abbrev audio_output_flags_t := BitVec 32
abbrev audio_channel_mask_t := BitVec 32
abbrev audio_format_t := BitVec 32
abbrev audio_stream_type_t := Int
abbrev audio_source_t := Int
abbrev VolumeSource := Nat

abbrev status_t := Int
def NO_ERROR : status_t := 0
def NO_MEMORY : status_t := -12
def NO_INIT : status_t := -19
def BAD_VALUE : status_t := -22
def INVALID_OPERATION : status_t := -38

def AUDIO_IO_HANDLE_NONE : audio_io_handle_t := 0

def AUDIO_OUTPUT_FLAG_NONE : audio_output_flags_t := 0x0
def AUDIO_OUTPUT_FLAG_DIRECT : audio_output_flags_t := 0x1
def AUDIO_OUTPUT_FLAG_PRIMARY : audio_output_flags_t := 0x2
def AUDIO_OUTPUT_FLAG_FAST : audio_output_flags_t := 0x4
def AUDIO_OUTPUT_FLAG_DEEP_BUFFER : audio_output_flags_t := 0x8
def AUDIO_OUTPUT_FLAG_COMPRESS_OFFLOAD : audio_output_flags_t := 0x10
def AUDIO_OUTPUT_FLAG_HW_AV_SYNC : audio_output_flags_t := 0x40
def AUDIO_OUTPUT_FLAG_TTS : audio_output_flags_t := 0x80
def AUDIO_OUTPUT_FLAG_RAW : audio_output_flags_t := 0x100
def AUDIO_OUTPUT_FLAG_DIRECT_PCM : audio_output_flags_t := 0x2000
def AUDIO_OUTPUT_FLAG_MMAP_NOIRQ : audio_output_flags_t := 0x4000
def AUDIO_OUTPUT_FLAG_VOIP_RX : audio_output_flags_t := 0x8000
def AUDIO_OUTPUT_FLAG_INCALL_MUSIC : audio_output_flags_t := 0x10000

def AUDIO_FORMAT_DEFAULT : audio_format_t := 0x0
def AUDIO_FORMAT_MAIN_MASK : audio_format_t := 0xFF000000
def AUDIO_FORMAT_PCM : audio_format_t := 0x0
def AUDIO_FORMAT_PCM_16_BIT : audio_format_t := 0x1
def AUDIO_FORMAT_DSD : audio_format_t := 0x1A000000

def audio_is_linear_pcm (format : audio_format_t) : Bool :=
  format &&& AUDIO_FORMAT_MAIN_MASK = AUDIO_FORMAT_PCM

def AUDIO_CHANNEL_HAPTIC_ALL : audio_channel_mask_t := 0x30000000

def SAMPLE_RATE_HZ_MAX : Nat := 192000

def AUDIO_USAGE_MEDIA : Nat := 1
def AUDIO_USAGE_GAME : Nat := 14

def AUDIO_STREAM_MIN : audio_stream_type_t := 0
def AUDIO_STREAM_VOICE_CALL : audio_stream_type_t := 0
def AUDIO_STREAM_SYSTEM : audio_stream_type_t := 1
def AUDIO_STREAM_MUSIC : audio_stream_type_t := 3
def AUDIO_STREAM_ALARM : audio_stream_type_t := 4
def AUDIO_STREAM_ENFORCED_AUDIBLE : audio_stream_type_t := 7
def AUDIO_STREAM_TTS : audio_stream_type_t := 9
def AUDIO_STREAM_ACCESSIBILITY : audio_stream_type_t := 10
def AUDIO_STREAM_PATCH : audio_stream_type_t := 13
def AUDIO_STREAM_FOR_POLICY_CNT : audio_stream_type_t := 13
def AUDIO_STREAM_CNT : audio_stream_type_t := 15

def AUDIO_SOURCE_VOICE_UPLINK : audio_source_t := 2
def AUDIO_SOURCE_VOICE_DOWNLINK : audio_source_t := 3
def AUDIO_SOURCE_VOICE_CALL : audio_source_t := 4
def AUDIO_SOURCE_VOICE_COMMUNICATION : audio_source_t := 7
def AUDIO_SOURCE_HOTWORD : audio_source_t := 1999

def AUDIO_DEVICE_BIT_IN : audio_devices_t := 0x80000000
def AUDIO_DEVICE_OUT_AUX_DIGITAL : audio_devices_t := 0x400
def AUDIO_DEVICE_OUT_REMOTE_SUBMIX : audio_devices_t := 0x8000
def AUDIO_DEVICE_OUT_TELEPHONY_TX : audio_devices_t := 0x10000
def AUDIO_DEVICE_OUT_PROXY : audio_devices_t := 0x1000000
def AUDIO_DEVICE_IN_REMOTE_SUBMIX : audio_devices_t := 0x80000100
def AUDIO_DEVICE_IN_USB_HEADSET : audio_devices_t := 0x82000000
def AUDIO_DEVICE_IN_DEFAULT : audio_devices_t := 0xC0000000

inductive audio_mode_t where
  | AUDIO_MODE_NORMAL
  | AUDIO_MODE_RINGTONE
  | AUDIO_MODE_IN_CALL
  | AUDIO_MODE_IN_COMMUNICATION
  | AUDIO_MODE_CALL_SCREEN
  deriving DecidableEq

/-- The number of a mode, which two fields of the manager hold. -/
def audio_mode_t.value : audio_mode_t → Int
  | .AUDIO_MODE_NORMAL => 0
  | .AUDIO_MODE_RINGTONE => 1
  | .AUDIO_MODE_IN_CALL => 2
  | .AUDIO_MODE_IN_COMMUNICATION => 3
  | .AUDIO_MODE_CALL_SCREEN => 4

inductive audio_policy_forced_cfg_t where
  | AUDIO_POLICY_FORCE_NONE
  | AUDIO_POLICY_FORCE_SYSTEM_ENFORCED
  | other (value : Nat)
  deriving DecidableEq

inductive audio_policy_dev_state_t where
  | AUDIO_POLICY_DEVICE_STATE_UNAVAILABLE
  | AUDIO_POLICY_DEVICE_STATE_AVAILABLE
  | other (value : Nat)
  deriving DecidableEq

/-- The flags of a bit mask that it shares with another are not all absent. -/
def hasFlag (flags mask : BitVec 32) : Bool := flags &&& mask ≠ 0

def popcount (mask : BitVec 32) : Nat := (List.range 32).countP mask.getLsbD

/-- The platform's tests of the type of a device, with what is relied on of them. -/
structure DeviceTests where
  audio_is_output_device : audio_devices_t → Bool
  audio_is_input_device : audio_devices_t → Bool
  aux_digital_is_output : audio_is_output_device AUDIO_DEVICE_OUT_AUX_DIGITAL = true
  submix_is_output : audio_is_output_device AUDIO_DEVICE_OUT_REMOTE_SUBMIX = true
  submix_is_input : audio_is_input_device AUDIO_DEVICE_IN_REMOTE_SUBMIX = true
  submix_not_output : audio_is_output_device AUDIO_DEVICE_IN_REMOTE_SUBMIX = false

/-- Tests by the bit for the direction and the number of the others. The platform also asks
    whether it knows the type. -/
def DeviceTests.byBits : DeviceTests where
  audio_is_output_device := fun device => popcount device = 1 && !hasFlag device AUDIO_DEVICE_BIT_IN
  audio_is_input_device := fun device => popcount device = 2 && hasFlag device AUDIO_DEVICE_BIT_IN
  aux_digital_is_output := by decide
  submix_is_output := by decide
  submix_is_input := by decide
  submix_not_output := by decide

/-- A type with a bit beside the one for the direction, as the types of all input devices. -/
def hasTypeBit (device : audio_devices_t) : Bool := hasFlag device (~~~AUDIO_DEVICE_BIT_IN)

def audio_is_remote_submix_device (device : audio_devices_t) : Bool :=
  device = AUDIO_DEVICE_OUT_REMOTE_SUBMIX || device = AUDIO_DEVICE_IN_REMOTE_SUBMIX

/-- A device: there is one descriptor for each type and address. -/
structure DeviceDescriptor where
  type : audio_devices_t
  address : String
  deriving DecidableEq

abbrev DeviceVector := List DeviceDescriptor

def DeviceVector.types (devices : DeviceVector) : List audio_devices_t :=
  (devices.map DeviceDescriptor.type).dedup

def DeviceVector.getDevicesFromType (devices : DeviceVector) (type : audio_devices_t) :
    DeviceVector :=
  devices.filter fun device => device.type = type

def DeviceVector.add (devices : DeviceVector) (device : DeviceDescriptor) : DeviceVector :=
  if device ∈ devices then devices else devices ++ [device]

def DeviceVector.remove (devices : DeviceVector) (device : DeviceDescriptor) : DeviceVector :=
  devices.filter fun other => other ≠ device

def deviceTypesToBitMask (types : List audio_devices_t) : audio_devices_t :=
  types.foldr (fun type mask => type ||| mask) 0

def isSingleDeviceType (types : List audio_devices_t) (is_type : audio_devices_t → Bool) : Bool :=
  match types with
  | [type] => is_type type
  | _ => false

def DeviceVector.onlyContainsDevicesWithType (devices : DeviceVector) (type : audio_devices_t) :
    Bool :=
  isSingleDeviceType devices.types fun other => other = type

inductive MixType where
  | MIX_TYPE_PLAYERS
  | MIX_TYPE_RECORDERS
  | MIX_TYPE_INVALID
  deriving DecidableEq

structure AudioPolicyMix where
  mMixType : MixType
  /-- `MIX_ROUTE_FLAG_LOOP_BACK` is among the route flags. -/
  loopBack : Bool
  mDeviceType : audio_devices_t
  mDeviceAddress : String
  /-- `kCbFlagNotifyActivity` is among the callback flags. -/
  notifyActivity : Bool
  deriving DecidableEq

structure TrackClientDescriptor where
  portId : audio_port_handle_t
  stream : audio_stream_type_t
  volumeSource : VolumeSource
  deriving DecidableEq

structure IOProfile where
  name : String
  flags : audio_output_flags_t
  deriving DecidableEq

/-- An open output. A duplicated output has no profile. -/
structure SwAudioOutputDescriptor where
  mProfile : Option IOProfile
  mFlags : audio_output_flags_t
  samplingRate : Nat
  format : audio_format_t
  channelMask : audio_channel_mask_t
  isDuplicated : Bool
  mDirectOpenCount : Nat
  mDirectClientSession : audio_session_t
  mPolicyMix : Option AudioPolicyMix
  devices : DeviceVector
  mActiveClients : List TrackClientDescriptor
  /-- How often the alarm strategy is muted on the output. -/
  alarmMuteCount : Nat
  deriving DecidableEq

structure AudioInputDescriptor where
  isSoundTrigger : Bool
  source : audio_source_t
  device : DeviceDescriptor
  mPolicyMix : Option AudioPolicyMix
  /-- The clients by their `portId`: whether each is active. -/
  clients : KeyedVector audio_port_handle_t Bool

abbrev SwAudioOutputCollection := KeyedVector audio_io_handle_t SwAudioOutputDescriptor
abbrev AudioInputCollection := KeyedVector audio_io_handle_t AudioInputDescriptor

/-- What the configuration answers. -/
structure APMConfigHelper where
  isAudioOffloadDisabled : Bool
  isAudioDeepbufferMediaEnabled : Bool
  isAudioMultipleOffloadEnable : Bool
  isVoiceDSDConcDisabled : Bool
  isVAConcEnabled : Bool
  isRecPlayConcDisabled : Bool
  useVoicePathForPCMVOIP : Bool
  isVoicePlayConcDisabled : Bool
  isVoiceRecConcDisabled : Bool
  isVoiceVOIPConcDisabled : Bool
  getVoiceConcFallbackPath : String
  isHDMISpkEnabled : Bool
  isAFEProxyEnabled : Bool
  isCompressVOIPEnabled : Bool
  isVoiceConcEnabled : Bool
  isRecPlayConcEnabled : Bool
  deriving DecidableEq

/-- The configuration when no property is set and no optional feature is built in. -/
def APMConfigHelper.default : APMConfigHelper where
  isAudioOffloadDisabled := false
  isAudioDeepbufferMediaEnabled := true
  isAudioMultipleOffloadEnable := false
  isVoiceDSDConcDisabled := true
  isVAConcEnabled := false
  isRecPlayConcDisabled := false
  useVoicePathForPCMVOIP := true
  isVoicePlayConcDisabled := false
  isVoiceRecConcDisabled := false
  isVoiceVOIPConcDisabled := false
  getVoiceConcFallbackPath := ""
  isHDMISpkEnabled := false
  isAFEProxyEnabled := false
  isCompressVOIPEnabled := false
  isVoiceConcEnabled := false
  isRecPlayConcEnabled := false

/-- A call that the manager makes on its client interface, on the HAL or on the functions
    of its base class that act on others. -/
inductive ClientCall where
  | invalidateStream (stream : audio_stream_type_t)
  | suspendOutput (output : audio_io_handle_t)
  | restoreOutput (output : audio_io_handle_t)
  | closeOutput (output : audio_io_handle_t)
  | closeClient (portId : audio_port_handle_t)
  | setSoundTriggerCaptureState (state : Bool)
  | setParameters (key value : String)
  | onDynamicPolicyMixStateUpdate (address : String)
  | broadcastDeviceConnectionState (device : DeviceDescriptor) (state : audio_policy_dev_state_t)
  | onAudioPortListUpdate
  | openDescriptor (output : audio_io_handle_t)
  | closeDescriptor (output : audio_io_handle_t)
  deriving DecidableEq

structure Engine where
  phoneState : audio_mode_t
  /-- The forced configuration for `AUDIO_POLICY_FORCE_FOR_SYSTEM`. -/
  forceUseForSystem : audio_policy_forced_cfg_t
  deriving DecidableEq

/-- The manager: its own fields, those of its base class that it reads, and the calls that
    it has made. -/
structure AudioPolicyManagerCustom where
  mFallBackflag : audio_output_flags_t
  mHdmiAudioDisabled : Bool
  mHdmiAudioEvent : Bool
  mPrevPhoneState : Int
  mvoice_call_state : Int
  mIsInputRequestOnProgress : Bool
  mEngine : Engine
  mOutputs : SwAudioOutputCollection
  mInputs : AudioInputCollection
  mAvailableOutputDevices : DeviceVector
  mAvailableInputDevices : DeviceVector
  told : List ClientCall

end policy_hal
