import OnePlus7Pro.Policy.Types
import OnePlus7Pro.Runs.Teller

open runs

namespace policy_hal

def AUDIO_POLICY_FORCE_BT_SCO : audio_policy_forced_cfg_t := .other 3

def AUDIO_DEVICE_OUT_BLUETOOTH_SCO : audio_devices_t := 0x10
def AUDIO_DEVICE_OUT_BLUETOOTH_SCO_HEADSET : audio_devices_t := 0x20
def AUDIO_DEVICE_OUT_BLUETOOTH_SCO_CARKIT : audio_devices_t := 0x40

def audio_is_bluetooth_out_sco_device (device : audio_devices_t) : Bool :=
  device = AUDIO_DEVICE_OUT_BLUETOOTH_SCO || device = AUDIO_DEVICE_OUT_BLUETOOTH_SCO_HEADSET ||
    device = AUDIO_DEVICE_OUT_BLUETOOTH_SCO_CARKIT

/-- The floating-point values and operators that set a volume. -/
structure FloatOps (F : Type) where
  zero : F
  one : F
  quotient : Int → Int → F
  eq : F → F → Bool
  ne : F → F → Bool

/-- The arguments of `checkAndSetVolume`, with what is read of the curves. -/
structure VolumeRequest where
  volumeIndexMax : Int
  streamTypes : List audio_stream_type_t
  volumeSource : VolumeSource
  index : Int
  outputDesc : audio_io_handle_t
  deviceTypes : List audio_devices_t
  delayMs : Int
  force : Bool

/-- What the output and the base class answer. -/
structure VolumeAnswers (F : Type) where
  isMuted : Bool
  /-- The amplitude of the current volume of the voice call. -/
  curCallVolSrc : F
  types : List audio_devices_t
  isFixedVolume : List audio_devices_t → Bool
  computeVolume : List audio_devices_t → F

inductive VolumeCall (F : Type) where
  | setVolume (outputDesc : audio_io_handle_t) (volumeDb : F) (volumeSource : VolumeSource)
      (streamTypes : List audio_stream_type_t) (deviceTypes : List audio_devices_t) (delayMs : Int) (force : Bool)
  | setVoiceVolume (voiceVolume : F) (delayMs : Int)

/-- The sources of the voice call and of the Bluetooth headset. -/
structure VoiceSources where
  callVolSrc : VolumeSource
  btScoVolSrc : VolumeSource

/-- What of the manager the voice volume depends on, and the calls that it has made. -/
structure VoiceManager (F : Type) where
  mLastVoiceVolume : F
  forceUseForComm : audio_policy_forced_cfg_t
  told : List (VolumeCall F)

variable {F : Type} (ops : FloatOps F) (sources : VoiceSources)

namespace VoiceSources

def isVoiceVolSrc (request : VolumeRequest) : Bool := sources.callVolSrc = request.volumeSource

def isBtScoVolSrc (request : VolumeRequest) : Bool := sources.btScoVolSrc = request.volumeSource

end VoiceSources

namespace VolumeRequest

def forceChange (request : VolumeRequest) (answers : VolumeAnswers F) : Bool :=
  ops.eq answers.curCallVolSrc ops.zero && request.index ≠ 0

/-- Whether a request changes the volume of a call while Bluetooth is connected, or the other way
    around. -/
def isRefused (request : VolumeRequest) (answers : VolumeAnswers F)
    (forceUseForComm : audio_policy_forced_cfg_t) : Bool :=
  sources.callVolSrc ≠ sources.btScoVolSrc &&
    ((sources.isVoiceVolSrc request && forceUseForComm = AUDIO_POLICY_FORCE_BT_SCO &&
        !request.forceChange ops answers) ||
      (sources.isBtScoVolSrc request && forceUseForComm ≠ AUDIO_POLICY_FORCE_BT_SCO))

def devices (request : VolumeRequest) (answers : VolumeAnswers F) : List audio_devices_t :=
  if request.deviceTypes.isEmpty then answers.types else request.deviceTypes

def volumeDb (request : VolumeRequest) (answers : VolumeAnswers F) : F :=
  let deviceTypes := request.devices answers
  if answers.isFixedVolume deviceTypes ||
      ((sources.isVoiceVolSrc request || sources.isBtScoVolSrc request) &&
        isSingleDeviceType deviceTypes audio_is_bluetooth_out_sco_device) then ops.zero
  else answers.computeVolume deviceTypes

def voiceVolume (request : VolumeRequest) : F :=
  if sources.isVoiceVolSrc request then ops.quotient request.index request.volumeIndexMax
  else if request.index = 0 then ops.zero
  else ops.one

end VolumeRequest

namespace VoiceManager

def tell (self : VoiceManager F) (call : VolumeCall F) : VoiceManager F :=
  { self with told := self.told ++ [call] }

def checkAndSetVolume (self : VoiceManager F) (request : VolumeRequest) (answers : VolumeAnswers F) :
    status_t × VoiceManager F :=
  if answers.isMuted then (NO_ERROR, self)
  else if request.isRefused ops sources answers self.forceUseForComm then (INVALID_OPERATION, self)
  else
    let self := self.tell (.setVolume request.outputDesc (request.volumeDb ops sources answers)
      request.volumeSource request.streamTypes (request.devices answers) request.delayMs request.force)
    if sources.isVoiceVolSrc request || sources.isBtScoVolSrc request then
      let voiceVolume := request.voiceVolume ops sources
      if ops.ne voiceVolume self.mLastVoiceVolume then
        (NO_ERROR, { self.tell (.setVoiceVolume voiceVolume request.delayMs) with
          mLastVoiceVolume := voiceVolume })
      else (NO_ERROR, self)
    else (NO_ERROR, self)

/-- `setForceUse` for communication, with whether the engine takes the configuration. The volumes
    that it applies then are requests of their own. -/
def setForceUse (self : VoiceManager F) (config : audio_policy_forced_cfg_t) (accepted : Bool) :
    VoiceManager F :=
  if config = self.forceUseForComm ∨ accepted = false then self
  else { self with forceUseForComm := config }

end VoiceManager

inductive VolumeEvent (F : Type) where
  | checkAndSetVolume (request : VolumeRequest) (answers : VolumeAnswers F)
  | setForceUse (config : audio_policy_forced_cfg_t) (accepted : Bool)

def VoiceManager.step (self : VoiceManager F) : VolumeEvent F → VoiceManager F
  | .checkAndSetVolume request answers => (self.checkAndSetVolume ops sources request answers).2
  | .setForceUse config accepted => self.setForceUse config accepted

/-- The same operators, with a comparison to which all voice volumes differ. -/
def FloatOps.neverEqual : FloatOps F := { ops with ne := fun _ _ => true }

def VolumeCall.voice : VolumeCall F → Option (F × Int)
  | .setVoiceVolume voiceVolume delayMs => some (voiceVolume, delayMs)
  | .setVolume .. => none

/-- The voice volumes that were told, each with its delay. -/
def voiceVolumes (told : List (VolumeCall F)) : List (F × Int) := told.filterMap VolumeCall.voice

/-- The calls that set the volume of an output. -/
def outputVolumes (told : List (VolumeCall F)) : List (VolumeCall F) :=
  told.filter fun call => call.voice.isNone

/-- Of two managers, the one has told of what the other told only what differed from the last
    that it told, by the comparison of the source. -/
structure Condensed (mLastVoiceVolume : F) (manager plain : VoiceManager F) : Prop where
  forced : manager.forceUseForComm = plain.forceUseForComm
  outputs : outputVolumes manager.told = outputVolumes plain.told
  voices : voiceVolumes manager.told = ((voiceVolumes plain.told).destutter'
    (fun last voice => ops.ne voice.1 last.1) (mLastVoiceVolume, 0)).tail
  differing : (mLastVoiceVolume :: (voiceVolumes manager.told).map Prod.fst).IsChain
    fun last voice => ops.ne voice last
  last : manager.mLastVoiceVolume = ((voiceVolumes manager.told).map Prod.fst).getLastD mLastVoiceVolume
  heard : ∀ voice, (voiceVolumes plain.told).getLast? = some voice →
    manager.mLastVoiceVolume = voice.1 ∨ ops.ne voice.1 manager.mLastVoiceVolume = false

variable {ops sources} {self manager plain : VoiceManager F} {told : List (VolumeCall F)}

@[simp] theorem voiceVolumes_setVolume (outputDesc : audio_io_handle_t) (volumeDb : F) (source : VolumeSource)
    (streamTypes : List audio_stream_type_t) (deviceTypes : List audio_devices_t) (delayMs : Int) (force : Bool) :
    voiceVolumes [.setVolume outputDesc volumeDb source streamTypes deviceTypes delayMs force] = [] := rfl

@[simp] theorem voiceVolumes_setVoiceVolume (voiceVolume : F) (delayMs : Int) :
    voiceVolumes [.setVoiceVolume voiceVolume delayMs] = [(voiceVolume, delayMs)] := rfl

@[simp] theorem voiceVolumes_append (told more : List (VolumeCall F)) :
    voiceVolumes (told ++ more) = voiceVolumes told ++ voiceVolumes more := List.filterMap_append

@[simp] theorem outputVolumes_append (told more : List (VolumeCall F)) :
    outputVolumes (told ++ more) = outputVolumes told ++ outputVolumes more := List.filter_append told more

namespace VolumeRequest

variable (ops sources)

/-- Whether a request changes volumes. -/
def passes (request : VolumeRequest) (answers : VolumeAnswers F) (forceUseForComm : audio_policy_forced_cfg_t) :
    Bool :=
  !answers.isMuted && !request.isRefused ops sources answers forceUseForComm

/-- The voice volume that a request asks for. -/
def voices (request : VolumeRequest) (answers : VolumeAnswers F) (forceUseForComm : audio_policy_forced_cfg_t) :
    List (F × Int) :=
  if request.passes ops sources answers forceUseForComm &&
      (sources.isVoiceVolSrc request || sources.isBtScoVolSrc request) then
    [(request.voiceVolume ops sources, request.delayMs)]
  else []

/-- The call on the output that a request makes. -/
def outputs (request : VolumeRequest) (answers : VolumeAnswers F) (forceUseForComm : audio_policy_forced_cfg_t) :
    List (VolumeCall F) :=
  if request.passes ops sources answers forceUseForComm then
    [.setVolume request.outputDesc (request.volumeDb ops sources answers) request.volumeSource
      request.streamTypes (request.devices answers) request.delayMs request.force]
  else []

end VolumeRequest

/-- A voice volume with its delay is compared by the voice volume. -/
def FloatOps.differs (ops : FloatOps F) (voice last : F × Int) : Bool := ops.ne voice.1 last.1

section request

variable (ops sources self) (request : VolumeRequest) (answers : VolumeAnswers F)

theorem outputVolumes_checkAndSetVolume :
    outputVolumes (self.checkAndSetVolume ops sources request answers).2.told =
      outputVolumes self.told ++ request.outputs ops sources answers self.forceUseForComm := by
  rw [VoiceManager.checkAndSetVolume, VolumeRequest.outputs, VolumeRequest.passes]
  by_cases hmuted : answers.isMuted = true
  · simp [hmuted]
  by_cases hrefused : request.isRefused ops sources answers self.forceUseForComm = true
  · simp [hmuted, hrefused]
  simp only [Bool.not_eq_true] at hmuted hrefused
  simp only [hmuted, hrefused, Bool.not_false, Bool.and_self, Bool.false_eq_true, if_false, if_true]
  split_ifs
  · rw [VoiceManager.tell, VoiceManager.tell, List.append_assoc, outputVolumes_append]
    rfl
  · exact outputVolumes_append _ _
  · exact outputVolumes_append _ _

theorem voices_checkAndSetVolume (delayMs : Int) :
    ∃ delayMs', (request.voices ops sources answers self.forceUseForComm).foldl (Teller.tell ops.differs)
        ⟨(self.mLastVoiceVolume, delayMs), voiceVolumes self.told⟩ =
      ⟨((self.checkAndSetVolume ops sources request answers).2.mLastVoiceVolume, delayMs'),
        voiceVolumes (self.checkAndSetVolume ops sources request answers).2.told⟩ := by
  rw [VoiceManager.checkAndSetVolume, VolumeRequest.voices, VolumeRequest.passes]
  by_cases hmuted : answers.isMuted = true
  · exact ⟨delayMs, by simp [hmuted]⟩
  by_cases hrefused : request.isRefused ops sources answers self.forceUseForComm = true
  · exact ⟨delayMs, by simp [hmuted, hrefused]⟩
  by_cases hvoice : (sources.isVoiceVolSrc request || sources.isBtScoVolSrc request) = true
  · by_cases hdiffers : ops.ne (request.voiceVolume ops sources) self.mLastVoiceVolume = true
    · refine ⟨request.delayMs, ?_⟩
      simp [hmuted, hrefused, hvoice, hdiffers, Teller.tell, FloatOps.differs, VoiceManager.tell,
        -List.append_assoc]
    · refine ⟨delayMs, ?_⟩
      simp [hmuted, hrefused, hvoice, hdiffers, Teller.tell, FloatOps.differs, VoiceManager.tell,
        -List.append_assoc]
  · refine ⟨delayMs, ?_⟩
    simp [hmuted, hrefused, hvoice, VoiceManager.tell]

theorem forceUseForComm_checkAndSetVolume :
    (self.checkAndSetVolume ops sources request answers).2.forceUseForComm = self.forceUseForComm := by
  simp only [VoiceManager.checkAndSetVolume]
  split_ifs <;> rfl

/-- The voice volume is told of every request that asks for one where all of them differ. -/
theorem voiceVolumes_neverEqual :
    voiceVolumes (self.checkAndSetVolume ops.neverEqual sources request answers).2.told =
      voiceVolumes self.told ++ request.voices ops sources answers self.forceUseForComm := by
  obtain ⟨delayMs, hvoices⟩ := voices_checkAndSetVolume ops.neverEqual sources self request answers 0
  have htold : _ = voiceVolumes _ := congrArg Teller.told hvoices
  have hsame : request.voices ops.neverEqual sources answers self.forceUseForComm =
      request.voices ops sources answers self.forceUseForComm := rfl
  rw [← htold, hsame, VolumeRequest.voices]
  split <;> simp [Teller.tell, FloatOps.differs, FloatOps.neverEqual]

end request

/-- What a manager tells of what the other one tells. -/
structure Follows (ops : FloatOps F) (mLastVoiceVolume : F) (manager plain : VoiceManager F) : Prop where
  forced : manager.forceUseForComm = plain.forceUseForComm
  outputs : outputVolumes manager.told = outputVolumes plain.told
  voices : ∃ delayMs, (voiceVolumes plain.told).foldl (Teller.tell ops.differs) ⟨(mLastVoiceVolume, 0), []⟩ =
    ⟨(manager.mLastVoiceVolume, delayMs), voiceVolumes manager.told⟩

theorem Follows.step {first : F} (hfollows : Follows ops first manager plain) (event : VolumeEvent F) :
    Follows ops first (manager.step ops sources event) (plain.step ops.neverEqual sources event) := by
  obtain ⟨hforced, houtputs, delayMs, hvoices⟩ := hfollows
  cases event with
  | setForceUse config accepted =>
    simp only [VoiceManager.step, VoiceManager.setForceUse, hforced]
    split
    · exact ⟨hforced, houtputs, delayMs, hvoices⟩
    · exact ⟨rfl, houtputs, delayMs, hvoices⟩
  | checkAndSetVolume request answers =>
    refine ⟨?_, ?_, ?_⟩
    · exact (forceUseForComm_checkAndSetVolume ops sources manager request answers).trans
        (hforced.trans (forceUseForComm_checkAndSetVolume ops.neverEqual sources plain request answers).symm)
    · simp only [VoiceManager.step, outputVolumes_checkAndSetVolume, houtputs, hforced]
      rfl
    · obtain ⟨delayMs', hstep⟩ := voices_checkAndSetVolume ops sources manager request answers delayMs
      refine ⟨delayMs', ?_⟩
      rw [VoiceManager.step, VoiceManager.step, voiceVolumes_neverEqual, List.foldl_append, hvoices, ← hforced]
      exact hstep

/-- What a run tells of a manager that has not told anything. -/
theorem follows_run (ops : FloatOps F) (sources : VoiceSources) (mLastVoiceVolume : F)
    (forceUseForComm : audio_policy_forced_cfg_t) (events : List (VolumeEvent F)) :
    Follows ops mLastVoiceVolume
      (events.foldl (VoiceManager.step ops sources) ⟨mLastVoiceVolume, forceUseForComm, []⟩)
      (events.foldl (VoiceManager.step ops.neverEqual sources) ⟨mLastVoiceVolume, forceUseForComm, []⟩) := by
  induction events using List.reverseRecOn with
  | nil => exact ⟨rfl, rfl, 0, rfl⟩
  | append_singleton events event ih =>
    rw [List.foldl_append, List.foldl_append]
    exact ih.step event

/-- However the volumes of the sources and the forced use are set: of the voice volumes that would
    be told if none were ever compared, those are told that differ from the last one told. -/
theorem voice_volume_condensed (ops : FloatOps F) (sources : VoiceSources) (mLastVoiceVolume : F)
    (forceUseForComm : audio_policy_forced_cfg_t) (events : List (VolumeEvent F)) :
    Condensed ops mLastVoiceVolume
      (events.foldl (VoiceManager.step ops sources) ⟨mLastVoiceVolume, forceUseForComm, []⟩)
      (events.foldl (VoiceManager.step ops.neverEqual sources) ⟨mLastVoiceVolume, forceUseForComm, []⟩) := by
  obtain ⟨hforced, houtputs, delayMs, hvoices⟩ := follows_run ops sources mLastVoiceVolume forceUseForComm events
  generalize events.foldl (VoiceManager.step ops sources) _ = manager at *
  generalize events.foldl (VoiceManager.step ops.neverEqual sources) _ = plain at *
  have htold := congrArg Teller.told hvoices
  refine ⟨hforced, houtputs, ?_, ?_, ?_, ?_⟩
  · exact htold.symm.trans (Teller.foldl_tell ops.differs _ _ _)
  · have hchain := Teller.isChain_told ops.differs (mLastVoiceVolume, 0) (voiceVolumes plain.told)
    rw [htold] at hchain
    exact List.isChain_map_of_isChain (R := fun last voice => ops.differs voice last) Prod.fst
      (fun _ _ hdiffers => hdiffers) hchain
  · have hagree := Teller.last_foldl_tell ops.differs (mLastVoiceVolume, 0) (voiceVolumes plain.told)
    rw [hvoices] at hagree
    exact (congrArg Prod.fst hagree).trans List.getLastD_map.symm
  · intro voice hvoice
    obtain ⟨voices, hvoices'⟩ := List.getLast?_eq_some_iff.mp hvoice
    have hagree := Teller.last_agrees ops.differs (mLastVoiceVolume, 0) voices voice
    rw [← hvoices', hvoices] at hagree
    exact hagree.imp (congrArg Prod.fst) id

end policy_hal
