import OnePlus7Pro.Policy.Inputs
import OnePlus7Pro.Runs.Taken

open effects loops runs

namespace policy_hal

variable {configs : APMConfigHelper} {self : AudioPolicyManagerCustom} {primary : DeviceVector}
  {portId : audio_port_handle_t}

def captureState : ClientCall → Option Bool
  | .setSoundTriggerCaptureState state => some state
  | _ => none

/-- The last capture state that was told. -/
def lastCaptureState (told : List ClientCall) : Bool :=
  (told.filterMap captureState).getLast?.getD false

/-- An active input that is not for sound triggers uses a primary device. -/
def captures (primary : DeviceVector) (input : AudioInputDescriptor) : Bool :=
  input.isActive && !input.isSoundTrigger && input.device ∈ primary

/-- A device has a type of the primary devices: one with a bit of the type of one of them, or any,
    where together they make the default type. -/
def hasTypeOf (primary : DeviceVector) (device : DeviceDescriptor) : Bool :=
  deviceTypesToBitMask primary.types = AUDIO_DEVICE_IN_DEFAULT ||
    primary.any fun other => hasTypeBit (device.type &&& other.type)

/-- An active input that is not for sound triggers uses a device with a type of the primary ones. -/
def capturesAlike (primary : DeviceVector) (input : AudioInputDescriptor) : Bool :=
  input.isActive && !input.isSoundTrigger && hasTypeOf primary input.device

def capturing (primary : DeviceVector) (mInputs : AudioInputCollection) : Bool :=
  mInputs.entries.any fun entry => captures primary entry.2

/-- What the sound triggers were last told is whether there is such an input. -/
def CaptureTold (primary : DeviceVector) (self : AudioPolicyManagerCustom) : Prop :=
  lastCaptureState self.told = true ↔
    ∃ entry ∈ self.mInputs.entries, captures primary entry.2 = true

theorem captureTold_iff :
    CaptureTold primary self ↔ lastCaptureState self.told = capturing primary self.mInputs := by
  have hany : capturing primary self.mInputs = true ↔
      ∃ entry ∈ self.mInputs.entries, captures primary entry.2 = true := List.any_eq_true
  rw [CaptureTold, ← hany]
  exact Bool.eq_iff_iff.symm

theorem lastCaptureState_append (told more : List ClientCall) :
    lastCaptureState (told ++ more) =
      (more.filterMap captureState).getLast?.getD (lastCaptureState told) := by
  rw [lastCaptureState, List.filterMap_append, List.getLast?_append]
  cases (more.filterMap captureState).getLast? <;> rfl

/-- Nothing is told to the sound triggers. -/
def Silent (calls : List ClientCall) : Prop := ∀ call ∈ calls, captureState call = none

theorem lastCaptureState_append_silent {calls : List ClientCall} (hsilent : Silent calls)
    (told : List ClientCall) : lastCaptureState (told ++ calls) = lastCaptureState told := by
  rw [lastCaptureState_append, List.filterMap_eq_nil_iff.mpr hsilent]
  rfl

/-- The fields of a manager that the capture state is about. -/
def AudioPolicyManagerCustom.captureFields (self : AudioPolicyManagerCustom) :
    AudioInputCollection × Bool :=
  (self.mInputs, lastCaptureState self.told)

theorem captureFields_tell (self : AudioPolicyManagerCustom) {calls : List ClientCall}
    (hsilent : Silent calls) :
    (self.tell calls).captureFields = self.captureFields := by
  rw [AudioPolicyManagerCustom.captureFields, tell_told, lastCaptureState_append_silent hsilent]
  rfl

theorem captureFields_tell_tell {calls : List ClientCall} (hsilent : Silent calls)
    (more : List ClientCall) :
    ((self.tell calls).tell more).captureFields = (self.tell more).captureFields := by
  refine Prod.ext rfl ?_
  have htold := lastCaptureState_append_silent hsilent self.told
  calc lastCaptureState (self.told ++ calls ++ more)
    _ = (more.filterMap captureState).getLast?.getD (lastCaptureState (self.told ++ calls)) :=
      lastCaptureState_append _ more
    _ = (more.filterMap captureState).getLast?.getD (lastCaptureState self.told) := by rw [htold]
    _ = lastCaptureState (self.told ++ more) := (lastCaptureState_append _ more).symm

theorem silent_voip_loop (outputs : KeyedVector audio_io_handle_t Unit)
    (mOutputs : SwAudioOutputCollection) (i : Nat) : Silent (voip_loop outputs mOutputs i).2.2 := by
  induction outputs, mOutputs, i using voip_loop.induct with
  | case1 outputs mOutputs i h output hmatch ih =>
    rw [voip_loop, dif_pos h, if_pos hmatch]
    exact List.forall_mem_cons.mpr ⟨rfl, ih⟩
  | case2 outputs mOutputs i h output hmatch ih =>
    rw [voip_loop, dif_pos h, if_neg hmatch]
    exact ih
  | case3 outputs mOutputs i h =>
    rw [voip_loop, dif_neg h]
    exact List.forall_mem_nil _

theorem silent_start_input_loop (mOutputs : SwAudioOutputCollection) :
    Silent (start_input_loop mOutputs).2 := by
  rw [start_input_loop, (mOutputs.walk_eq compress_visit).2]
  intro call hcall
  obtain ⟨entry, _, hcall⟩ := List.mem_flatMap.mp hcall
  unfold compress_visit at hcall
  split at hcall
  · simp [passing] at hcall
  · split_ifs at hcall
    · rw [List.mem_singleton.mp hcall]
      rfl
    · simp [passing] at hcall

theorem captureFields_keep_hdmi (call : ConnectionCall) (connected : Bool) :
    (self.keep_hdmi configs call connected).captureFields = self.captureFields := by
  unfold AudioPolicyManagerCustom.keep_hdmi
  split_ifs <;> rfl

theorem silent_broadcast (device : DeviceDescriptor) (state : audio_policy_dev_state_t) :
    Silent [.broadcastDeviceConnectionState device state] := by
  simp [Silent, captureState]

/-- Connecting or disconnecting an output device tells the sound triggers nothing. -/
theorem captureFields_change_output (call : ConnectionCall) :
    (self.change_output configs call).2.1.captureFields = self.captureFields := by
  have htell (manager : AudioPolicyManagerCustom) (state : audio_policy_dev_state_t) :
      (manager.tell [.broadcastDeviceConnectionState call.device state]).captureFields =
        manager.captureFields := captureFields_tell _ (silent_broadcast call.device state)
  have hconnect : (self.connect_output configs call).2.1.captureFields = self.captureFields := by
    unfold AudioPolicyManagerCustom.connect_output
    dsimp only
    split_ifs
    · exact captureFields_keep_hdmi call true
    · rfl
    · exact captureFields_keep_hdmi call true
    · exact (htell _ _).trans ((htell _ _).trans (captureFields_keep_hdmi call true))
    · exact (htell _ _).trans (captureFields_keep_hdmi call true)
  have hdisconnect : (self.disconnect_output configs call).2.1.captureFields =
      self.captureFields := by
    unfold AudioPolicyManagerCustom.disconnect_output
    split_ifs
    · exact (captureFields_keep_hdmi call false).trans (htell self call.state)
    · exact captureFields_keep_hdmi call false
  unfold AudioPolicyManagerCustom.change_output
  cases call.state
  exacts [hdisconnect, hconnect, rfl]

theorem captureFields_output_changed (call : ConnectionCall)
    (outputs : KeyedVector audio_io_handle_t Unit) :
    (self.output_changed call outputs).captureFields = self.captureFields := by
  unfold AudioPolicyManagerCustom.output_changed
  refine captureFields_tell _ ?_
  intro told htold
  rw [List.mem_append, List.mem_append, List.mem_map, List.mem_singleton] at htold
  obtain (hclosed | ⟨output, _, rfl⟩) | rfl := htold
  · exact silent_voip_loop _ _ _ told hclosed
  · rfl
  · rfl

theorem captureFields_setDeviceConnectionStateInt {call : ConnectionCall}
    (houtput : call.answers.tests.audio_is_output_device call.deviceType = true) :
    (self.setDeviceConnectionStateInt configs call).2.captureFields = self.captureFields := by
  unfold AudioPolicyManagerCustom.setDeviceConnectionStateInt
  rw [if_neg (by simp [houtput]), if_pos houtput]
  split_ifs
  · rfl
  · dsimp only
    split_ifs
    · rw [captureFields_output_changed, captureFields_change_output]
    · exact captureFields_change_output call

theorem captureFields_run_loop {loop : OutputLoop} (hsilent : Silent (loop self.mOutputs).2) :
    (self.run_loop loop).captureFields = self.captureFields :=
  captureFields_tell { self with mOutputs := (loop self.mOutputs).1 } hsilent

theorem silent_rec_play (value : String) (streams : List audio_stream_type_t) :
    Silent (.setParameters "rec_play_conc_on" value :: streams.map .invalidateStream) := by
  rw [Silent, List.forall_mem_cons, List.forall_mem_map]
  exact ⟨rfl, fun _ _ => rfl⟩

theorem captureFields_start_rec_play (configs : APMConfigHelper) (self : AudioPolicyManagerCustom)
    (primary : DeviceVector) :
    (self.start_rec_play configs primary).captureFields = self.captureFields := by
  unfold AudioPolicyManagerCustom.start_rec_play
  dsimp only
  split_ifs
  · rw [captureFields_run_loop (silent_start_input_loop _),
      captureFields_tell _ (silent_rec_play "true" _)]
    rfl
  · rfl
  · rfl

theorem captureFields_stop_rec_play :
    (self.stop_rec_play configs primary).captureFields = self.captureFields := by
  unfold AudioPolicyManagerCustom.stop_rec_play
  split_ifs
  · exact captureFields_tell _ (silent_rec_play "false" _)
  · rfl

/-- When an input has become active, what the sound triggers are told of it is all they are
    told. -/
theorem captureFields_input_activated (inputDesc : AudioInputDescriptor)
    (answers : StartInputAnswers) :
    (self.input_activated configs primary inputDesc answers).captureFields =
      (self.tell (self.capture_started configs primary inputDesc.device)).captureFields := by
  have hmix : Silent ((inputDesc.mPolicyMix.filter AudioPolicyMix.notifyActivity).toList.map
      fun policyMix => .onDynamicPolicyMixStateUpdate policyMix.mDeviceAddress) := by
    rw [Silent, List.forall_mem_map]
    exact fun _ _ => rfl
  unfold AudioPolicyManagerCustom.input_activated
  dsimp only
  split_ifs
  · rw [captureFields_setDeviceConnectionStateInt]
    · exact captureFields_tell_tell hmix _
    · exact answers.connection.tests.submix_is_output
  · exact captureFields_tell_tell hmix _

/-- The type of a device is among the bits of the mask of the devices. -/
theorem and_deviceTypesToBitMask {types : List audio_devices_t} {type : audio_devices_t}
    (hmem : type ∈ types) : type &&& deviceTypesToBitMask types = type := by
  induction types with
  | nil => exact absurd hmem List.not_mem_nil
  | cons first types ih =>
    have hmask : deviceTypesToBitMask (first :: types) = first ||| deviceTypesToBitMask types := rfl
    rw [hmask]
    obtain rfl | hmem := List.mem_cons.mp hmem
    · ext i hi
      simp
      tauto
    · have hrest := ih hmem
      ext i hi
      have hbit := congrArg (fun bits => bits.getLsbD i) hrest
      simp at hbit ⊢
      tauto

/-- An active input on a primary device that is not for sound triggers is counted. -/
theorem isCounted_of_primary {input : AudioInputDescriptor} (hdevice : input.device ∈ primary)
    (htype : hasTypeBit input.device.type = true) :
    isCounted (deviceTypesToBitMask primary.types) input =
      (input.isActive && !input.isSoundTrigger) := by
  have hmem : input.device.type ∈ primary.types :=
    List.mem_dedup.mpr (List.mem_map_of_mem hdevice)
  rw [isCounted, and_deviceTypesToBitMask hmem, ← hasTypeBit, htype, Bool.or_true, Bool.and_true]

theorem isActive_iff {input : AudioInputDescriptor} :
    input.isActive = true ↔ 0 < input.activeCount := by
  rw [AudioInputDescriptor.isActive, AudioInputDescriptor.activeCount, List.countP_pos_iff,
    List.any_eq_true]

/-- The client and its input, when a call finds them. -/
theorem mem_of_getInputForClient {mInputs : AudioInputCollection} {input : audio_io_handle_t}
    {inputDesc : AudioInputDescriptor}
    (hfound : getInputForClient mInputs portId = some (input, inputDesc)) :
    (input, inputDesc) ∈ mInputs.entries ∧ portId ∈ inputDesc.clients.keys :=
  ⟨List.mem_of_find?_eq_some hfound, by simpa using List.find?_some hfound⟩

/-- A client that is not active is the first of its input to be activated exactly when the
    input was not active. -/
theorem activeCount_activated {input : AudioInputDescriptor}
    (hclient : (portId, false) ∈ input.clients.entries) :
    (input.setClientActive portId true).activeCount = 1 ↔ input.isActive = false := by
  have hmodify := KeyedVector.countP_modify hclient (fun _ => true) Prod.snd
  have hentries := KeyedVector.countP_entries hclient Prod.snd
  rw [← Bool.not_eq_true, isActive_iff]
  have hactivated : (input.setClientActive portId true).activeCount = input.activeCount + 1 := by
    refine hmodify.trans ?_
    rw [AudioInputDescriptor.activeCount, hentries]
    rfl
  omega

/-- An input with a client that has been activated is active. -/
theorem isActive_activated {input : AudioInputDescriptor} {was : Bool}
    (hclient : (portId, was) ∈ input.clients.entries) :
    (input.setClientActive portId true).isActive = true := by
  refine (KeyedVector.any_modify hclient (fun _ => true) Prod.snd).trans ?_
  rfl

/-- Deactivating a client activates no input. -/
theorem isActive_deactivated {input : AudioInputDescriptor} {was : Bool}
    (hclient : (portId, was) ∈ input.clients.entries) (hstopped : input.isActive = false) :
    (input.setClientActive portId false).isActive = false := by
  have hentries := KeyedVector.any_entries hclient Prod.snd
  have hothers := hentries.symm.trans hstopped
  refine (KeyedVector.any_modify hclient (fun _ => false) Prod.snd).trans ?_
  rw [Bool.or_eq_false_iff] at hothers
  exact hothers.2

/-- The inputs that are counted for the primary devices, by their types. -/
def countedInputs (primary : DeviceVector) (mInputs : AudioInputCollection) : Nat :=
  activeNonSoundTriggerInputsCountOnDevices mInputs (deviceTypesToBitMask primary.types)

/-- A type has a bit of a mask of types exactly if it has one of one of them. -/
theorem hasTypeBit_and_mask (type : audio_devices_t) (types : List audio_devices_t) :
    hasTypeBit (type &&& deviceTypesToBitMask types) = types.any fun other => hasTypeBit (type &&& other) := by
  induction types with
  | nil => simp [deviceTypesToBitMask, hasTypeBit, hasFlag]
  | cons other types ih =>
    have hmask : deviceTypesToBitMask (other :: types) = other ||| deviceTypesToBitMask types := rfl
    have hzero (a b : audio_devices_t) : a ||| b = 0 ↔ a = 0 ∧ b = 0 := BitVec.or_eq_zero_iff
    rw [List.any_cons, ← ih, hmask, Bool.eq_iff_iff, Bool.or_eq_true]
    simp only [hasTypeBit, hasFlag, decide_eq_true_eq, BitVec.and_or_distrib_left, BitVec.and_or_distrib_right,
      ne_eq, hzero]
    exact Decidable.not_and_iff_not_or_not

/-- What is counted for the mask of the primary devices are the inputs on devices of their types. -/
theorem isCounted_eq (primary : DeviceVector) (input : AudioInputDescriptor) :
    isCounted (deviceTypesToBitMask primary.types) input = capturesAlike primary input := by
  have htypes : (primary.types.any fun type => hasTypeBit (input.device.type &&& type)) =
      primary.any fun other => hasTypeBit (input.device.type &&& other.type) := by
    rw [Bool.eq_iff_iff, List.any_eq_true, List.any_eq_true]
    simp only [DeviceVector.types, List.mem_dedup, List.mem_map]
    grind
  rw [isCounted, capturesAlike, hasTypeOf, ← htypes, ← hasTypeBit_and_mask]
  rfl

theorem countedInputs_eq (primary : DeviceVector) (mInputs : AudioInputCollection) :
    countedInputs primary mInputs = mInputs.entries.countP fun entry => capturesAlike primary entry.2 := by
  simp only [countedInputs, activeNonSoundTriggerInputsCountOnDevices, isCounted_eq]

theorem countedInputs_eq_zero_iff {mInputs : AudioInputCollection} :
    countedInputs primary mInputs = 0 ↔ ∀ entry ∈ mInputs.entries, capturesAlike primary entry.2 = false := by
  simp [countedInputs_eq, List.countP_eq_zero]

/-- The sound triggers are told of a capture by the first input that is counted on a primary
    device. -/
theorem lastCaptureState_capture_started (hconfigs : configs.isVAConcEnabled = true)
    {device : DeviceDescriptor}
    (htype : device ∈ primary → hasFlag device.type (~~~AUDIO_DEVICE_BIT_IN))
    (told : List ClientCall) :
    lastCaptureState (told ++ self.capture_started configs primary device) =
      if device ∈ primary ∧ countedInputs primary self.mInputs = 1 then true
      else lastCaptureState told := by
  unfold AudioPolicyManagerCustom.capture_started countedInputs
  rw [lastCaptureState_append]
  by_cases hprimary : device ∈ primary
  · rw [if_pos ⟨hprimary, htype hprimary⟩]
    simp only [hconfigs, if_true, hprimary, true_and]
    split_ifs <;> rfl
  · rw [if_neg fun h => hprimary h.1, if_neg fun h => hprimary h.1]
    rfl

/-- What the start of a client makes of the inputs and of the capture state. -/
theorem captureFields_startInput (hconfigs : configs.isVAConcEnabled = true)
    {input : audio_io_handle_t} {inputDesc : AudioInputDescriptor} {answers : StartInputAnswers}
    (hfound : getInputForClient self.mInputs portId = some (input, inputDesc))
    (hclient : (portId, false) ∈ inputDesc.clients.entries) (hstart : answers.start = NO_ERROR)
    (hrouted : answers.getNewInputDevice = inputDesc.device)
    (htype : inputDesc.device ∈ primary → hasFlag inputDesc.device.type (~~~AUDIO_DEVICE_BIT_IN)) :
    (self.startInput configs primary portId answers).2.captureFields =
      (self.mInputs.modify input fun _ => inputDesc.setClientActive portId true,
        if inputDesc.isActive = false ∧ inputDesc.device ∈ primary ∧
          countedInputs primary
            (self.mInputs.modify input fun _ => inputDesc.setClientActive portId true) = 1
        then true else lastCaptureState self.told) := by
  have hinactive : inputDesc.clients.valueFor portId = some false :=
    KeyedVector.valueFor_eq_some_iff.mpr hclient
  have hrec := captureFields_start_rec_play configs self primary
  have hinputs : (self.start_rec_play configs primary).mInputs = self.mInputs :=
    congrArg Prod.fst hrec
  have htold : lastCaptureState (self.start_rec_play configs primary).told =
      lastCaptureState self.told := congrArg Prod.snd hrec
  have hdevice : { inputDesc.setClientActive portId true with
      device := answers.getNewInputDevice } = inputDesc.setClientActive portId true := by
    rw [hrouted]
    rfl
  unfold AudioPolicyManagerCustom.startInput
  rw [hfound]
  dsimp only
  rw [if_neg (by simp [hinactive]), if_neg (by simp [hstart]), hdevice, hinputs]
  have hflag (manager : AudioPolicyManagerCustom) :
      (if configs.isRecPlayConcEnabled then { manager with mIsInputRequestOnProgress := false }
        else manager).captureFields = manager.captureFields := by
    split_ifs <;> rfl
  rw [hflag]
  by_cases hfirst : inputDesc.isActive = false
  · rw [if_pos ((activeCount_activated hclient).mpr hfirst), captureFields_input_activated]
    refine Prod.ext rfl ?_
    refine (lastCaptureState_capture_started hconfigs htype _).trans ?_
    rw [htold]
    simp only [hfirst, true_and]
  · rw [if_neg fun h => hfirst ((activeCount_activated hclient).mp h), if_neg fun h => hfirst h.1]
    exact Prod.ext rfl htold

/-- The client is found in the same input when it has been activated or deactivated. -/
theorem getInputForClient_modify {mInputs : AudioInputCollection} {input : audio_io_handle_t}
    {inputDesc : AudioInputDescriptor}
    (hfound : getInputForClient mInputs portId = some (input, inputDesc)) (active : Bool) :
    getInputForClient (mInputs.modify input fun _ => inputDesc.setClientActive portId active)
      portId = some (input, inputDesc.setClientActive portId active) := by
  have hkeys : (inputDesc.setClientActive portId active).clients.keys = inputDesc.clients.keys :=
    KeyedVector.keys_modify portId _
  have hmem := (mem_of_getInputForClient hfound).1
  unfold getInputForClient at hfound ⊢
  rw [KeyedVector.find?_modify, hfound]
  · simp
  · intro other hother
    rw [mInputs.value_unique hother hmem, hkeys]

/-- What the stop of a client makes of the inputs and of the capture state. -/
theorem captureFields_stopInput (hconfigs : configs.isVAConcEnabled = true)
    {input : audio_io_handle_t} {inputDesc : AudioInputDescriptor} {answers : StopInputAnswers}
    (hfound : getInputForClient self.mInputs portId = some (input, inputDesc)) :
    (self.stopInput configs primary portId answers).2.captureFields =
      (self.mInputs.modify input fun _ => inputDesc.setClientActive portId false,
        if inputDesc.device ∈ primary ∧ countedInputs primary
          (self.mInputs.modify input fun _ => inputDesc.setClientActive portId false) ≠ 0
        then lastCaptureState (self.told ++ answers.told) else false) := by
  have hbase : self.base_stopInput portId answers =
      { self with
        mInputs := self.mInputs.modify input fun _ =>
          inputDesc.setClientActive portId false }.tell answers.told := by
    rw [AudioPolicyManagerCustom.base_stopInput, hfound]
  unfold AudioPolicyManagerCustom.stopInput
  rw [hbase]
  dsimp only
  rw [AudioPolicyManagerCustom.tell]
  dsimp only
  rw [getInputForClient_modify hfound false]
  dsimp only
  rw [captureFields_stop_rec_play]
  refine Prod.ext rfl ?_
  refine (lastCaptureState_append _ _).trans ?_
  rw [AudioPolicyManagerCustom.capture_stopped, if_pos hconfigs]
  by_cases hcounted : inputDesc.device ∈ primary ∧ countedInputs primary
      (self.mInputs.modify input fun _ => inputDesc.setClientActive portId false) ≠ 0
  · rw [if_pos hcounted, if_neg]
    · rfl
    · rw [Bool.not_eq_false, Bool.and_eq_true, decide_eq_true_eq, decide_eq_true_eq]
      exact hcounted
  · rw [if_neg hcounted, if_pos]
    · rfl
    · rw [← Bool.not_eq_true, Bool.and_eq_true, decide_eq_true_eq, decide_eq_true_eq]
      exact hcounted

/-- What may be asked of the manager about inputs. -/
inductive InputEvent where
  | startInput (portId : audio_port_handle_t) (answers : StartInputAnswers)
  | stopInput (portId : audio_port_handle_t) (answers : StopInputAnswers)

def AudioPolicyManagerCustom.onInput (configs : APMConfigHelper) (primary : DeviceVector)
    (self : AudioPolicyManagerCustom) : InputEvent → AudioPolicyManagerCustom
  | .startInput portId answers => (self.startInput configs primary portId answers).2
  | .stopInput portId answers => (self.stopInput configs primary portId answers).2

/-- An input keeps the device that it is routed to, and the base class tells the sound triggers
    only that a capture has ended: of an input on a primary device, when no active input is
    left on these devices. -/
def InputRouted (primary : DeviceVector) (self : AudioPolicyManagerCustom) : InputEvent → Prop
  | .startInput portId answers => ∀ input inputDesc,
      getInputForClient self.mInputs portId = some (input, inputDesc) →
      answers.getNewInputDevice = inputDesc.device
  | .stopInput portId answers => ∀ input inputDesc,
      getInputForClient self.mInputs portId = some (input, inputDesc) →
      ∀ call ∈ answers.told, ∀ state, captureState call = some state →
        state = false ∧ inputDesc.device ∈ primary ∧
        ∀ entry ∈ (self.mInputs.modify input fun _ =>
            inputDesc.setClientActive portId false).entries,
          entry.2.isActive = true → entry.2.device ∉ primary

/-- While nothing captures from a primary device, no input becomes active on one beside an active
    input whose device merely has a type of theirs; an input for sound triggers does not beside just one. -/
def StartMatched (primary : DeviceVector) (self : AudioPolicyManagerCustom)
    (portId : audio_port_handle_t) (answers : StartInputAnswers) : Prop :=
  ∀ input inputDesc, getInputForClient self.mInputs portId = some (input, inputDesc) →
    (portId, false) ∈ inputDesc.clients.entries → answers.start = NO_ERROR →
    inputDesc.isActive = false → inputDesc.device ∈ primary →
    capturing primary self.mInputs = false →
    if inputDesc.isSoundTrigger then
      (self.mInputs.entries.countP fun entry => capturesAlike primary entry.2) ≠ 1
    else ∀ entry ∈ self.mInputs.entries, capturesAlike primary entry.2 = false

/-- No input on another device is stopped while one captures from a primary device, and the last
    that does is stopped only if no other is active whose device merely has a type of theirs, or if
    the base class tells that the capture has ended. -/
def StopMatched (primary : DeviceVector) (self : AudioPolicyManagerCustom)
    (portId : audio_port_handle_t) (answers : StopInputAnswers) : Prop :=
  ∀ input inputDesc, getInputForClient self.mInputs portId = some (input, inputDesc) →
    capturing primary self.mInputs = true →
    inputDesc.device ∈ primary ∧
      (capturing primary (self.mInputs.modify input fun _ =>
          inputDesc.setClientActive portId false) = false →
        (∀ entry ∈ (self.mInputs.modify input fun _ =>
            inputDesc.setClientActive portId false).entries, capturesAlike primary entry.2 = false) ∨
          ¬ Silent answers.told)

def CaptureMatched (primary : DeviceVector) (self : AudioPolicyManagerCustom) : InputEvent → Prop
  | .startInput portId answers => StartMatched primary self portId answers
  | .stopInput portId answers => StopMatched primary self portId answers

theorem captureTold_of_captureFields {other : AudioPolicyManagerCustom}
    {mInputs : AudioInputCollection} {last : Bool}
    (hfields : other.captureFields = (mInputs, last)) :
    CaptureTold primary other ↔ last = capturing primary mInputs := by
  rw [AudioPolicyManagerCustom.captureFields, Prod.mk.injEq] at hfields
  rw [captureTold_iff, hfields.1, hfields.2]

theorem capturing_entries (primary : DeviceVector) {mInputs : AudioInputCollection}
    {input : audio_io_handle_t}
    {inputDesc : AudioInputDescriptor} (hmem : (input, inputDesc) ∈ mInputs.entries) :
    capturing primary mInputs =
      (captures primary inputDesc || capturing primary (mInputs.removeItem input)) :=
  KeyedVector.any_entries hmem fun entry => captures primary entry.2

theorem capturing_modify (primary : DeviceVector) {mInputs : AudioInputCollection}
    {input : audio_io_handle_t}
    {inputDesc : AudioInputDescriptor} (hmem : (input, inputDesc) ∈ mInputs.entries)
    (changed : AudioInputDescriptor) :
    capturing primary (mInputs.modify input fun _ => changed) =
      (captures primary changed || capturing primary (mInputs.removeItem input)) :=
  KeyedVector.any_modify hmem (fun _ => changed) fun entry => captures primary entry.2

/-- How many inputs are counted once an inactive one has become active on a primary device. -/
theorem countedInputs_activated {mInputs : AudioInputCollection} {input : audio_io_handle_t}
    {inputDesc changed : AudioInputDescriptor} (hmem : (input, inputDesc) ∈ mInputs.entries)
    (hinactive : inputDesc.isActive = false) (hactive : changed.isActive = true)
    (hdevice : changed.device ∈ primary)
    (htype : hasTypeBit changed.device.type = true) :
    countedInputs primary (mInputs.modify input fun _ => changed) =
      countedInputs primary mInputs + if changed.isSoundTrigger then 0 else 1 := by
  have hentries := KeyedVector.countP_entries hmem
    fun entry => isCounted (deviceTypesToBitMask primary.types) entry.2
  have hmodify := KeyedVector.countP_modify hmem (fun _ => changed)
    fun entry => isCounted (deviceTypesToBitMask primary.types) entry.2
  have huncounted : isCounted (deviceTypesToBitMask primary.types) inputDesc = false := by
    simp [isCounted, hinactive]
  rw [huncounted] at hentries
  rw [isCounted_of_primary hdevice htype, hactive] at hmodify
  rw [countedInputs, countedInputs, activeNonSoundTriggerInputsCountOnDevices,
    activeNonSoundTriggerInputsCountOnDevices, hentries, hmodify]
  cases changed.isSoundTrigger <;> rfl

/-- What a call is asked about its input is asked of the input that is found. -/
theorem forall_found_iff {mInputs : AudioInputCollection} {input : audio_io_handle_t}
    {inputDesc : AudioInputDescriptor}
    {asked : audio_io_handle_t → AudioInputDescriptor → Prop}
    (hfound : getInputForClient mInputs portId = some (input, inputDesc)) :
    (∀ input inputDesc, getInputForClient mInputs portId = some (input, inputDesc) →
      asked input inputDesc) ↔ asked input inputDesc := by
  constructor
  · intro hasked
    exact hasked input inputDesc hfound
  · intro hasked other otherDesc hother
    rw [hfound, Option.some.injEq, Prod.mk.injEq] at hother
    rw [← hother.1, ← hother.2]
    exact hasked

/-- What is told when a client is activated is true exactly when the start is matched. -/
theorem told_started_iff (hprimary : ∀ device ∈ primary, hasTypeBit device.type = true)
    {mInputs : AudioInputCollection} {input : audio_io_handle_t}
    {inputDesc : AudioInputDescriptor} (hmem : (input, inputDesc) ∈ mInputs.entries)
    (hclient : (portId, false) ∈ inputDesc.clients.entries) :
    (if inputDesc.isActive = false ∧ inputDesc.device ∈ primary ∧ countedInputs primary
        (mInputs.modify input fun _ => inputDesc.setClientActive portId true) = 1
      then true else capturing primary mInputs) =
      capturing primary (mInputs.modify input fun _ => inputDesc.setClientActive portId true) ↔
    (inputDesc.isActive = false → inputDesc.device ∈ primary →
      capturing primary mInputs = false →
      if inputDesc.isSoundTrigger then countedInputs primary mInputs ≠ 1
      else countedInputs primary mInputs = 0) := by
  have hstarted : captures primary (inputDesc.setClientActive portId true) =
      (!inputDesc.isSoundTrigger && inputDesc.device ∈ primary) := by
    rw [captures, isActive_activated hclient, Bool.true_and]
    rfl
  rw [capturing_modify primary hmem, capturing_entries primary hmem, hstarted]
  cases hactive : inputDesc.isActive with
  | true =>
    have hwas : captures primary inputDesc =
        (!inputDesc.isSoundTrigger && inputDesc.device ∈ primary) := by
      rw [captures, hactive, Bool.true_and]
    simp [hwas]
  | false =>
    have hwas : captures primary inputDesc = false := by rw [captures, hactive]; rfl
    rw [hwas, Bool.false_or]
    by_cases hdevice : inputDesc.device ∈ primary
    · have hcount := countedInputs_activated hmem hactive (isActive_activated hclient) hdevice
        (hprimary _ hdevice)
      have hsame : (inputDesc.setClientActive portId true).isSoundTrigger =
          inputDesc.isSoundTrigger := rfl
      rw [hcount, hsame]
      cases inputDesc.isSoundTrigger <;>
        cases capturing primary (mInputs.removeItem input) <;> simp [hdevice]
    · simp [hdevice]

theorem startInput_unknown {answers : StartInputAnswers}
    (hfound : getInputForClient self.mInputs portId = none) :
    (self.startInput configs primary portId answers).2 = self := by
  rw [AudioPolicyManagerCustom.startInput, hfound]

theorem startInput_active {answers : StartInputAnswers} {input : audio_io_handle_t}
    {inputDesc : AudioInputDescriptor}
    (hfound : getInputForClient self.mInputs portId = some (input, inputDesc))
    (hclient : (portId, true) ∈ inputDesc.clients.entries) :
    (self.startInput configs primary portId answers).2 = self := by
  rw [AudioPolicyManagerCustom.startInput, hfound]
  dsimp only
  rw [if_pos (KeyedVector.valueFor_eq_some_iff.mpr hclient)]

/-- A start that the input refuses has stopped the playback beside it, and no more. -/
theorem captureFields_startInput_refused {answers : StartInputAnswers} {input : audio_io_handle_t}
    {inputDesc : AudioInputDescriptor}
    (hfound : getInputForClient self.mInputs portId = some (input, inputDesc))
    (hclient : (portId, false) ∈ inputDesc.clients.entries) (hstart : answers.start ≠ NO_ERROR) :
    (self.startInput configs primary portId answers).2.captureFields = self.captureFields := by
  have hinactive : inputDesc.clients.valueFor portId = some false :=
    KeyedVector.valueFor_eq_some_iff.mpr hclient
  rw [AudioPolicyManagerCustom.startInput, hfound]
  dsimp only
  rw [if_neg (by simp [hinactive]), if_pos hstart]
  exact captureFields_start_rec_play _ _ _

/-- A start keeps what the sound triggers were told true exactly when it is matched. -/
theorem captureTold_startInput_iff (hconfigs : configs.isVAConcEnabled = true)
    (hprimary : ∀ device ∈ primary, hasTypeBit device.type = true)
    {answers : StartInputAnswers} (hself : CaptureTold primary self)
    (hrouted : InputRouted primary self (.startInput portId answers)) :
    CaptureTold primary (self.startInput configs primary portId answers).2 ↔
      StartMatched primary self portId answers := by
  cases hfound : getInputForClient self.mInputs portId with
  | none =>
    rw [startInput_unknown hfound]
    exact iff_of_true hself fun input inputDesc hother => by simp [hfound] at hother
  | some found =>
    obtain ⟨input, inputDesc⟩ := found
    obtain ⟨hmem, hkey⟩ := mem_of_getInputForClient hfound
    obtain ⟨was, hclient⟩ := KeyedVector.mem_keys_iff.mp hkey
    have hrouted := (forall_found_iff hfound).mp hrouted
    rw [StartMatched, forall_found_iff hfound]
    cases was with
    | true =>
      rw [startInput_active hfound hclient]
      refine iff_of_true hself fun hother => ?_
      exact absurd (inputDesc.clients.value_unique hclient hother) (by decide)
    | false =>
      rw [forall_prop_of_true hclient]
      by_cases hstart : answers.start = NO_ERROR
      · have hfields := captureFields_startInput hconfigs hfound hclient hstart hrouted
          (hprimary _)
        rw [forall_prop_of_true hstart, captureTold_of_captureFields hfields,
          captureTold_iff.mp hself, ← countedInputs_eq, ← countedInputs_eq_zero_iff]
        exact told_started_iff hprimary hmem hclient
      · rw [captureTold_of_captureFields (captureFields_startInput_refused hfound hclient hstart)]
        exact iff_of_true (captureTold_iff.mp hself) fun h => absurd h hstart

/-- When others tell no more than that a capture has ended, that is what was told last. -/
theorem lastCaptureState_append_ended {calls : List ClientCall}
    (hended : ∀ call ∈ calls, ∀ state, captureState call = some state → state = false)
    (htells : ¬ Silent calls) (told : List ClientCall) :
    lastCaptureState (told ++ calls) = false := by
  have hsome : calls.filterMap captureState ≠ [] := fun hnil =>
    htells (List.filterMap_eq_nil_iff.mp hnil)
  have hlast := List.getLast_mem hsome
  rw [lastCaptureState_append, List.getLast?_eq_some_getLast hsome, Option.getD_some]
  obtain ⟨call, hcall, hstate⟩ := List.mem_filterMap.mp hlast
  exact hended call hcall _ hstate

theorem capturing_of_countedInputs
    (hprimary : ∀ device ∈ primary, hasTypeBit device.type = true)
    {mInputs : AudioInputCollection} (hcounted : countedInputs primary mInputs = 0) :
    capturing primary mInputs = false := by
  rw [capturing, List.any_eq_false]
  intro entry hentry hcaptures
  rw [captures, Bool.and_eq_true, decide_eq_true_eq] at hcaptures
  have hnone := List.countP_eq_zero.mp hcounted entry hentry
  rw [isCounted_of_primary hcaptures.2 (hprimary _ hcaptures.2)] at hnone
  exact hnone hcaptures.1

/-- When the sound triggers are told something only where no input is left active, none
    captures. -/
theorem capturing_of_told {mInputs : AudioInputCollection} {told : List ClientCall}
    (hidle : ∀ call ∈ told, ∀ state, captureState call = some state →
      ∀ entry ∈ mInputs.entries, entry.2.isActive = true → entry.2.device ∉ primary)
    (htells : ¬ Silent told) : capturing primary mInputs = false := by
  rw [Silent] at htells
  push Not at htells
  obtain ⟨call, hcall, hstate⟩ := htells
  obtain ⟨state, hstate⟩ := Option.ne_none_iff_exists'.mp hstate
  rw [capturing, List.any_eq_false]
  intro entry hentry hcaptures
  rw [captures, Bool.and_eq_true, Bool.and_eq_true, decide_eq_true_eq] at hcaptures
  exact hidle call hcall state hstate entry hentry hcaptures.1.1 hcaptures.2

/-- Deactivating a client begins no capture. -/
theorem captures_deactivated (primary : DeviceVector) {inputDesc : AudioInputDescriptor}
    (hkey : portId ∈ inputDesc.clients.keys)
    (hcaptures : captures primary (inputDesc.setClientActive portId false) = true) :
    captures primary inputDesc = true := by
  obtain ⟨was, hclient⟩ := KeyedVector.mem_keys_iff.mp hkey
  cases hactive : inputDesc.isActive with
  | true =>
    rw [captures, Bool.and_assoc, Bool.and_eq_true] at hcaptures
    rw [captures, hactive, Bool.true_and]
    exact hcaptures.2
  | false =>
    rw [captures, isActive_deactivated hclient hactive] at hcaptures
    simp at hcaptures

/-- What is told when a client is deactivated is true exactly when the stop is matched. -/
theorem told_stopped_iff (hprimary : ∀ device ∈ primary, hasTypeBit device.type = true)
    {input : audio_io_handle_t} {inputDesc : AudioInputDescriptor} {told : List ClientCall}
    (hfound : getInputForClient self.mInputs portId = some (input, inputDesc))
    (hself : CaptureTold primary self)
    (hrouted : ∀ call ∈ told, ∀ state, captureState call = some state →
      state = false ∧ inputDesc.device ∈ primary ∧
      ∀ entry ∈ (self.mInputs.modify input fun _ => inputDesc.setClientActive portId false).entries,
        entry.2.isActive = true → entry.2.device ∉ primary) :
    (if inputDesc.device ∈ primary ∧ countedInputs primary
        (self.mInputs.modify input fun _ => inputDesc.setClientActive portId false) ≠ 0
      then lastCaptureState (self.told ++ told) else false) =
      capturing primary
        (self.mInputs.modify input fun _ => inputDesc.setClientActive portId false) ↔
    (capturing primary self.mInputs = true →
      inputDesc.device ∈ primary ∧
      (capturing primary (self.mInputs.modify input fun _ =>
          inputDesc.setClientActive portId false) = false →
        countedInputs primary (self.mInputs.modify input fun _ =>
          inputDesc.setClientActive portId false) = 0 ∨ ¬ Silent told)) := by
  obtain ⟨hmem, hkey⟩ := mem_of_getInputForClient hfound
  have hwas := capturing_entries primary hmem
  have hnow := capturing_modify primary hmem (inputDesc.setClientActive portId false)
  have hless := captures_deactivated primary hkey
  by_cases hdevice : inputDesc.device ∈ primary
  · by_cases hcounted : countedInputs primary
        (self.mInputs.modify input fun _ => inputDesc.setClientActive portId false) = 0
    · rw [if_neg fun h => h.2 hcounted, capturing_of_countedInputs hprimary hcounted]
      exact iff_of_true rfl fun _ => ⟨hdevice, fun _ => Or.inl hcounted⟩
    · rw [if_pos ⟨hdevice, hcounted⟩]
      by_cases hsilent : Silent told
      · rw [lastCaptureState_append_silent hsilent, captureTold_iff.mp hself, hwas, hnow]
        cases hbefore : captures primary inputDesc <;>
          cases hafter : captures primary (inputDesc.setClientActive portId false) <;>
          cases capturing primary (self.mInputs.removeItem input) <;>
          simp_all
      · have hended := lastCaptureState_append_ended (fun call hcall state hstate =>
          (hrouted call hcall state hstate).1) hsilent self.told
        rw [hended, capturing_of_told (fun call hcall state hstate =>
          (hrouted call hcall state hstate).2.2) hsilent]
        exact iff_of_true rfl fun _ => ⟨hdevice, fun _ => Or.inr hsilent⟩
  · have hbefore : captures primary inputDesc = false := by simp [captures, hdevice]
    have hafter : captures primary (inputDesc.setClientActive portId false) = false := by
      rw [← Bool.not_eq_true]
      intro hcaptures
      exact absurd (hbefore.symm.trans (hless hcaptures)) Bool.false_ne_true
    rw [if_neg fun h => hdevice h.1, hnow, hwas, hbefore, hafter]
    cases capturing primary (self.mInputs.removeItem input) <;> simp [hdevice]

/-- A stop keeps what the sound triggers were told true exactly when it is matched. -/
theorem captureTold_stopInput_iff (hconfigs : configs.isVAConcEnabled = true)
    (hprimary : ∀ device ∈ primary, hasTypeBit device.type = true)
    {answers : StopInputAnswers} (hself : CaptureTold primary self)
    (hrouted : InputRouted primary self (.stopInput portId answers)) :
    CaptureTold primary (self.stopInput configs primary portId answers).2 ↔
      StopMatched primary self portId answers := by
  cases hfound : getInputForClient self.mInputs portId with
  | none =>
    have hsame : (self.stopInput configs primary portId answers).2 = self := by
      rw [AudioPolicyManagerCustom.stopInput, AudioPolicyManagerCustom.base_stopInput, hfound]
      dsimp only
      rw [hfound]
    rw [hsame]
    exact iff_of_true hself fun input inputDesc hother => by simp [hfound] at hother
  | some found =>
    obtain ⟨input, inputDesc⟩ := found
    rw [StopMatched, forall_found_iff hfound, ← countedInputs_eq_zero_iff,
      captureTold_of_captureFields (captureFields_stopInput hconfigs hfound)]
    exact told_stopped_iff hprimary hfound hself ((forall_found_iff hfound).mp hrouted)

/-- With the concurrency of voice assistants enabled, over any run of starts and stops of
    inputs what the sound triggers were last told is true at every moment if and only if every
    call of the run is matched. -/
theorem capture_told_iff (configs : APMConfigHelper) (primary : DeviceVector)
    (start : AudioPolicyManagerCustom) (events : List InputEvent)
    (hconfigs : configs.isVAConcEnabled = true)
    (hprimary : ∀ device ∈ primary, hasTypeBit device.type = true)
    (htold : start.told = []) (hidle : ∀ entry ∈ start.mInputs.entries, entry.2.isActive = false)
    (hrouted : Taken (AudioPolicyManagerCustom.onInput configs primary) (InputRouted primary)
      start events) :
    (∀ moment ∈ moments (AudioPolicyManagerCustom.onInput configs primary) start events,
      CaptureTold primary moment) ↔
    Taken (AudioPolicyManagerCustom.onInput configs primary) (CaptureMatched primary) start
      events := by
  have hstart : CaptureTold primary start := by
    rw [CaptureTold, htold]
    refine iff_of_false (by decide) ?_
    rintro ⟨entry, hentry, hcaptures⟩
    rw [captures, hidle entry hentry] at hcaptures
    simp at hcaptures
  refine always_iff_taken (I := fun _ => True) (fun self event _ hself hrouted => ?_)
    (fun _ _ _ _ _ _ => trivial) hrouted trivial hstart
  cases event with
  | startInput portId answers => exact captureTold_startInput_iff hconfigs hprimary hself hrouted
  | stopInput portId answers => exact captureTold_stopInput_iff hconfigs hprimary hself hrouted

/-- The microphone of the phone. -/
def builtinMic : DeviceDescriptor := ⟨0x80000004, "bottom"⟩

/-- A headset, which is not on the primary module. -/
def usbHeadset : DeviceDescriptor := ⟨AUDIO_DEVICE_IN_USB_HEADSET, "card=1"⟩

/-- An input of one client, on a device. -/
def idleInput (device : DeviceDescriptor) (portId : audio_port_handle_t) :
    AudioInputDescriptor where
  isSoundTrigger := false
  source := 1
  device := device
  mPolicyMix := none
  clients := ⟨[(portId, false)], List.pairwise_singleton _ _⟩

/-- The feature of voice assistants alone. -/
def assistantConfigs : APMConfigHelper :=
  { APMConfigHelper.default with isVAConcEnabled := true }

/-- Two idle inputs, one on the microphone and one on the headset. -/
def twoInputs : AudioPolicyManagerCustom :=
  { AudioPolicyManagerCustom.init assistantConfigs 0 with
    mInputs := ⟨[(13, idleInput builtinMic 1), (21, idleInput usbHeadset 2)], by simp⟩ }

/-- A start that the HAL takes, of an input on a device. -/
def startOn (portId : audio_port_handle_t) (device : DeviceDescriptor) : InputEvent :=
  .startInput portId ⟨NO_ERROR, device, .quiet⟩

/-- A stop during which the base class tells nothing. -/
def stop (portId : audio_port_handle_t) : InputEvent := .stopInput portId ⟨NO_ERROR, []⟩

theorem routed_startOn {device : DeviceDescriptor}
    (hdevice : (getInputForClient self.mInputs portId).map (fun found => found.2.device) =
      some device) : InputRouted primary self (startOn portId device) := by
  intro input inputDesc hfound
  rw [hfound, Option.map_some, Option.some.injEq] at hdevice
  exact hdevice.symm

theorem routed_stop : InputRouted primary self (stop portId) :=
  fun _ _ _ _ htold => absurd htold List.not_mem_nil

theorem capture_told_mic :
    (∀ moment ∈ moments (AudioPolicyManagerCustom.onInput assistantConfigs [builtinMic]) twoInputs
        [startOn 1 builtinMic, stop 1], CaptureTold [builtinMic] moment) ↔
    Taken (AudioPolicyManagerCustom.onInput assistantConfigs [builtinMic])
      (CaptureMatched [builtinMic]) twoInputs [startOn 1 builtinMic, stop 1] :=
  capture_told_iff assistantConfigs [builtinMic] twoInputs _ rfl (by decide) rfl (by decide)
    ⟨routed_startOn (by decide), routed_stop, trivial⟩

/-- While the microphone captures, a capture from the headset begins and ends. -/
def headsetBeside : List InputEvent := [startOn 1 builtinMic, startOn 2 usbHeadset, stop 2]

/-- The sound triggers are then told that no capture is going on. -/
theorem capture_forgotten :
    ¬ ∀ (configs : APMConfigHelper) (primary : DeviceVector) (start : AudioPolicyManagerCustom)
        (events : List InputEvent),
      configs.isVAConcEnabled = true →
      (∀ device ∈ primary, hasTypeBit device.type = true) →
      start.told = [] → (∀ entry ∈ start.mInputs.entries, entry.2.isActive = false) →
      Taken (AudioPolicyManagerCustom.onInput configs primary) (InputRouted primary) start events →
      ∀ moment ∈ moments (AudioPolicyManagerCustom.onInput configs primary) start events,
        CaptureTold primary moment := by
  intro htold
  have hlast := htold assistantConfigs [builtinMic] twoInputs headsetBeside rfl (by decide) rfl
    (by decide) ⟨routed_startOn (by decide), routed_startOn (by decide), routed_stop, trivial⟩
    (headsetBeside.foldl (AudioPolicyManagerCustom.onInput assistantConfigs [builtinMic]) twoInputs)
    (by simp [moments, headsetBeside])
  rw [captureTold_iff] at hlast
  exact absurd hlast (by decide)

end policy_hal
