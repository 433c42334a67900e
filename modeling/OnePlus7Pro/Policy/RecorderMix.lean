import OnePlus7Pro.Policy.AlarmMute

open effects loops runs

namespace policy_hal

variable {configs : APMConfigHelper} {self : AudioPolicyManagerCustom}
  {output : audio_io_handle_t} {client : TrackClientDescriptor} {policyMix : AudioPolicyMix}

/-- The submix input through which the mix of a recorder is captured. -/
def submixInput (policyMix : AudioPolicyMix) : DeviceDescriptor :=
  ⟨AUDIO_DEVICE_IN_REMOTE_SUBMIX, policyMix.mDeviceAddress⟩

def activeClients (output : audio_io_handle_t) (self : AudioPolicyManagerCustom) :
    List TrackClientDescriptor :=
  ((self.mOutputs.valueFor output).map SwAudioOutputDescriptor.mActiveClients).getD []

/-- The submix input is connected exactly while a client is active on the output. -/
def RecorderConnected (output : audio_io_handle_t) (policyMix : AudioPolicyMix)
    (self : AudioPolicyManagerCustom) : Prop :=
  submixInput policyMix ∈ self.mAvailableInputDevices ↔ activeClients output self ≠ []

/-- The devices are the one remote submix. -/
def isSubmix (devices : DeviceVector) : Bool :=
  isSingleDeviceType devices.types audio_is_remote_submix_device

/-- The output carries the mix of a recorder and is routed to the remote submix. -/
def CarriesMix (output : audio_io_handle_t) (policyMix : AudioPolicyMix)
    (self : AudioPolicyManagerCustom) : Prop :=
  ∃ outputDesc, self.mOutputs.valueFor output = some outputDesc ∧
    outputDesc.mPolicyMix = some policyMix ∧ isSubmix outputDesc.devices = true

/-- The base class has a descriptor for the submix input, and the HAL opens it. -/
structure SubmixAccepted (answers : ConnectionAnswers) : Prop where
  getDeviceDescriptor : answers.getDeviceDescriptor = true
  add : answers.add = true
  checkInputsForDevice : ∀ mInputs, (answers.checkInputsForDevice mInputs).1 = NO_ERROR

/-- The calls are for the output, which they leave routed to the remote submix. -/
def OnRecorder (output : audio_io_handle_t) : SourceEvent → Prop
  | .startSource other _ answers => other = output ∧
      (∀ devices ∈ answers.preferredDevices, isSubmix devices = true) ∧
      isSubmix answers.setOutputDevices = true ∧ SubmixAccepted answers.connection
  | .stopSource other _ answers => other = output ∧
      isSubmix answers.setOutputDevices = true ∧ SubmixAccepted answers.connection
  | .setForceUse _ _ _ => True

/-- A stop that finds one active client at the volume of its client is the stop of the last
    active client of the output. -/
def StopsLast (output : audio_io_handle_t) (self : AudioPolicyManagerCustom) :
    SourceEvent → Prop
  | .stopSource _ client _ => isValidStream client.stream = true →
      (activeClients output self).countP (fun other =>
        other.volumeSource = client.volumeSource) = 1 →
      activeClients output self = [client]
  | _ => True

theorem connect_submix_available {answers : ConnectionAnswers}
    (haccepted : SubmixAccepted answers) :
    submixInput policyMix ∈ (self.connect_submix configs (some policyMix)
      .AUDIO_POLICY_DEVICE_STATE_AVAILABLE answers).mAvailableInputDevices := by
  obtain ⟨hfound, hadd, hcheck⟩ := haccepted
  have havailable := available_setDeviceConnectionStateInt configs self
    ⟨AUDIO_DEVICE_IN_REMOTE_SUBMIX, .AUDIO_POLICY_DEVICE_STATE_AVAILABLE,
      policyMix.mDeviceAddress, answers⟩ answers.tests.submix_is_input answers.tests.submix_not_output hfound
  unfold AudioPolicyManagerCustom.connect_submix
  dsimp only
  rw [havailable]
  unfold AudioPolicyManagerCustom.change_input AudioPolicyManagerCustom.connect_input
  dsimp only
  split_ifs with hmem hadded hchecked
  · exact hmem
  · exact absurd (hadded.symm.trans hadd) Bool.false_ne_true
  · exact absurd (hcheck _) hchecked
  · exact List.mem_append_right _ List.mem_cons_self

theorem connect_submix_unavailable {answers : ConnectionAnswers}
    (haccepted : SubmixAccepted answers) :
    submixInput policyMix ∉ (self.connect_submix configs (some policyMix)
      .AUDIO_POLICY_DEVICE_STATE_UNAVAILABLE answers).mAvailableInputDevices := by
  have havailable := available_setDeviceConnectionStateInt configs self
    ⟨AUDIO_DEVICE_IN_REMOTE_SUBMIX, .AUDIO_POLICY_DEVICE_STATE_UNAVAILABLE,
      policyMix.mDeviceAddress, answers⟩
    answers.tests.submix_is_input answers.tests.submix_not_output haccepted.getDeviceDescriptor
  unfold AudioPolicyManagerCustom.connect_submix
  dsimp only
  rw [havailable]
  unfold AudioPolicyManagerCustom.change_input AudioPolicyManagerCustom.disconnect_input
  dsimp only
  split_ifs with hmem
  · intro hstill
    have hother := (List.mem_filter.mp hstill).2
    rw [decide_eq_true_eq] at hother
    exact hother rfl
  · exact hmem

theorem recorderMix_of_submix {devices : DeviceVector} (hsubmix : isSubmix devices = true)
    (hrecorder : policyMix.mMixType = .MIX_TYPE_RECORDERS) :
    recorderMix devices (some policyMix) = some policyMix := by
  refine (if_pos hsubmix).trans ?_
  simp [hrecorder]

theorem isSubmix_ne_nil {devices : DeviceVector} (hsubmix : isSubmix devices = true) :
    devices ≠ [] := by
  rintro rfl
  simp [isSubmix, isSingleDeviceType, DeviceVector.types] at hsubmix

/-- A client of the output is started on the remote submix. -/
theorem isSubmix_startDevices {outputDesc : SwAudioOutputDescriptor} {answers : SourceAnswers}
    (hmix : outputDesc.mPolicyMix = some policyMix)
    (hdevice : policyMix.device.type = AUDIO_DEVICE_OUT_REMOTE_SUBMIX)
    (hpreferred : ∀ devices ∈ answers.preferredDevices, isSubmix devices = true) :
    isSubmix (startDevices outputDesc client answers) = true := by
  have hdevices : isSubmix (answers.preferredDevices.getD
      (outputDesc.mPolicyMix.map AudioPolicyMix.device).toList) = true := by
    cases hpref : answers.preferredDevices with
    | none =>
      rw [hmix]
      simp [isSubmix, isSingleDeviceType, DeviceVector.types, hdevice,
        audio_is_remote_submix_device]
    | some devices => exact hpreferred devices (by simp [hpref])
  unfold startDevices
  dsimp only
  rw [if_neg]
  · exact hdevices
  · simp [isSubmix_ne_nil hdevices]

theorem activeClients_of_valueFor {outputDesc : SwAudioOutputDescriptor}
    (hopen : self.mOutputs.valueFor output = some outputDesc) :
    activeClients output self = outputDesc.mActiveClients := by
  rw [activeClients, hopen]
  rfl

theorem carriesMix_of_valueFor {outputDesc : SwAudioOutputDescriptor}
    (hopen : self.mOutputs.valueFor output = some outputDesc)
    (hmix : outputDesc.mPolicyMix = some policyMix) (hsubmix : isSubmix outputDesc.devices = true) :
    CarriesMix output policyMix self := ⟨outputDesc, hopen, hmix, hsubmix⟩

theorem valueFor_of_outputFields {next : AudioPolicyManagerCustom}
    {outputDesc changed : SwAudioOutputDescriptor} {mEngine : Engine}
    (hfields : next.outputFields = (self.mOutputs.modify output fun _ => changed, mEngine))
    (hopen : self.mOutputs.valueFor output = some outputDesc) :
    next.mOutputs.valueFor output = some changed := by
  rw [valueFor_changed output hfields hopen, if_pos rfl]

/-- A start connects the submix input, and a client is active after it. -/
theorem recorderConnected_startSource {answers : SourceAnswers}
    (hrecorder : policyMix.mMixType = .MIX_TYPE_RECORDERS)
    (hdevice : policyMix.device.type = AUDIO_DEVICE_OUT_REMOTE_SUBMIX)
    (hcarries : CarriesMix output policyMix self) (hself : RecorderConnected output policyMix self)
    (hcall : OnRecorder output (.startSource output client answers)) :
    RecorderConnected output policyMix (self.startSource configs output client answers).2 := by
  obtain ⟨_, hpreferred, _, haccepted⟩ := hcall
  obtain ⟨outputDesc, hopen, hmix, hsubmix⟩ := hcarries
  obtain ⟨hsame, _⟩ | ⟨found, hfound, hfields, havailable⟩ :=
    startSource_cases configs self output client answers
  · rw [hsame]
    exact hself
  · obtain rfl := Option.some.inj (hopen.symm.trans hfound)
    have hstarted := valueFor_of_outputFields hfields hopen
    rw [RecorderConnected, activeClients_of_valueFor hstarted, havailable, hmix,
      recorderMix_of_submix (isSubmix_startDevices (by simpa using hmix) hdevice hpreferred)
        hrecorder]
    refine iff_of_true (connect_submix_available haccepted) ?_
    rw [startedOutput_mActiveClients]
    exact List.ne_nil_of_mem (mem_activated.mpr (Or.inr rfl))

/-- A stop keeps the submix input connected as it should be exactly when it does not stop one
    of several clients that play at different volumes. -/
theorem recorderConnected_stopSource_iff {answers : SourceAnswers}
    (hrecorder : policyMix.mMixType = .MIX_TYPE_RECORDERS)
    (hcarries : CarriesMix output policyMix self) (hself : RecorderConnected output policyMix self)
    (hcall : OnRecorder output (.stopSource output client answers)) :
    RecorderConnected output policyMix (self.stopSource configs output client answers).2 ↔
      StopsLast output self (.stopSource output client answers) := by
  obtain ⟨_, _, haccepted⟩ := hcall
  obtain ⟨outputDesc, hopen, hmix, hsubmix⟩ := hcarries
  have hclients := activeClients_of_valueFor hopen
  rw [StopsLast, hclients]
  obtain ⟨hsame, hidle⟩ | ⟨found, hfound, hvalid, hactive, hfields, havailable⟩ :=
    stopSource_cases configs self output client answers
  · rw [hsame]
    refine iff_of_true hself fun hvalid hone => ?_
    exact absurd ((hidle hvalid outputDesc hopen).symm.trans hone) (by decide)
  · obtain rfl := Option.some.inj (hopen.symm.trans hfound)
    have hstopped := valueFor_of_outputFields hfields hopen
    rw [forall_prop_of_true hvalid, RecorderConnected, activeClients_of_valueFor hstopped,
      havailable, hmix, recorderMix_of_submix hsubmix hrecorder, stoppedOutput_mActiveClients]
    have hsome : outputDesc.mActiveClients ≠ [] := fun hnil =>
      hactive (by rw [SwAudioOutputDescriptor.getActivityCount, hnil]; rfl)
    by_cases hone : outputDesc.getActivityCount client.volumeSource = 1
    · rw [if_pos hone, iff_false_left (connect_submix_unavailable haccepted), ne_eq, not_not,
        List.erase_eq_nil_iff, or_iff_right hsome]
      exact ⟨fun hlast _ => hlast, fun hlast => hlast hone⟩
    · rw [if_neg hone]
      refine iff_of_true (iff_of_true ?_ ?_) fun h => absurd h hone
      · rw [RecorderConnected, hclients] at hself
        exact hself.mpr hsome
      · rw [ne_eq, List.erase_eq_nil_iff, or_iff_right hsome]
        intro hlast
        rw [SwAudioOutputDescriptor.getActivityCount, hlast] at hactive hone
        have hle := List.countP_le_length (l := [client])
          (p := fun other => other.volumeSource = client.volumeSource)
        rw [List.length_singleton] at hle
        omega

/-- A start or a stop leaves the output with its mix and its route. -/
theorem carriesMix_onSource (hcarries : CarriesMix output policyMix self) {event : SourceEvent}
    (hcall : OnRecorder output event) :
    CarriesMix output policyMix (self.onSource configs event) := by
  obtain ⟨outputDesc, hopen, hmix, hsubmix⟩ := hcarries
  cases event with
  | startSource other client answers =>
    obtain ⟨rfl, _, hrouted, _⟩ := hcall
    obtain ⟨hsame, _⟩ | ⟨found, hfound, hfields, _⟩ :=
      startSource_cases configs self other client answers
    · rw [AudioPolicyManagerCustom.onSource, hsame]
      exact carriesMix_of_valueFor hopen hmix hsubmix
    · obtain rfl := Option.some.inj (hopen.symm.trans hfound)
      refine carriesMix_of_valueFor (valueFor_of_outputFields hfields hopen) ?_ ?_
      · rw [startedOutput_mPolicyMix, hmix]
      · exact startedOutput_devices hrouted hsubmix
  | stopSource other client answers =>
    obtain ⟨rfl, hrouted, _⟩ := hcall
    obtain ⟨hsame, _⟩ | ⟨found, hfound, _, _, hfields, _⟩ :=
      stopSource_cases configs self other client answers
    · rw [AudioPolicyManagerCustom.onSource, hsame]
      exact carriesMix_of_valueFor hopen hmix hsubmix
    · obtain rfl := Option.some.inj (hopen.symm.trans hfound)
      refine carriesMix_of_valueFor (valueFor_of_outputFields hfields hopen) ?_ ?_
      · rw [stoppedOutput_mPolicyMix, hmix]
      · exact stoppedOutput_devices hrouted hsubmix
  | setForceUse usage config accepted =>
    refine carriesMix_of_valueFor ?_ hmix hsubmix
    exact (congrArg (fun mOutputs => mOutputs.valueFor output) setForceUse_mOutputs).trans hopen

theorem recorderConnected_onSource_iff (hrecorder : policyMix.mMixType = .MIX_TYPE_RECORDERS)
    (hdevice : policyMix.device.type = AUDIO_DEVICE_OUT_REMOTE_SUBMIX)
    (hcarries : CarriesMix output policyMix self) (hself : RecorderConnected output policyMix self)
    {event : SourceEvent} (hcall : OnRecorder output event) :
    RecorderConnected output policyMix (self.onSource configs event) ↔
      StopsLast output self event := by
  cases event with
  | startSource other client answers =>
    obtain ⟨rfl, _⟩ := id hcall
    exact iff_of_true (recorderConnected_startSource hrecorder hdevice hcarries hself hcall) trivial
  | stopSource other client answers =>
    obtain ⟨rfl, _⟩ := id hcall
    exact recorderConnected_stopSource_iff hrecorder hcarries hself hcall
  | setForceUse usage config accepted =>
    refine iff_of_true ?_ trivial
    rw [RecorderConnected, activeClients] at hself ⊢
    rw [AudioPolicyManagerCustom.onSource, setForceUse_mAvailableInputDevices,
      setForceUse_mOutputs]
    exact hself

/-- On an output with the mix of a recorder that is routed to the remote submix, over any run
    of starts and stops the submix input is connected at every moment exactly while a client is
    active if and only if no stop of the run stops one of several clients that is the only one
    at its volume. -/
theorem recorder_connected_iff (configs : APMConfigHelper) (output : audio_io_handle_t)
    (policyMix : AudioPolicyMix) (start : AudioPolicyManagerCustom) (events : List SourceEvent)
    (hrecorder : policyMix.mMixType = .MIX_TYPE_RECORDERS)
    (hdevice : policyMix.device.type = AUDIO_DEVICE_OUT_REMOTE_SUBMIX)
    (hcarries : CarriesMix output policyMix start) (hidle : activeClients output start = [])
    (hdisconnected : submixInput policyMix ∉ start.mAvailableInputDevices)
    (hevents : ∀ event ∈ events, OnRecorder output event) :
    (∀ moment ∈ moments (AudioPolicyManagerCustom.onSource configs) start events,
      RecorderConnected output policyMix moment) ↔
    Taken (AudioPolicyManagerCustom.onSource configs) (StopsLast output) start events :=
  always_iff_taken (I := CarriesMix output policyMix)
    (fun _ _ hcarries hself hcall =>
      recorderConnected_onSource_iff hrecorder hdevice hcarries hself hcall)
    (fun _ _ hcarries _ hcall _ => carriesMix_onSource hcarries hcall)
    (taken_of_forall hevents) hcarries (iff_of_false hdisconnected (by simpa using hidle))

/-- The mix of a recorder that captures all that is played on its output. -/
def recorder : AudioPolicyMix where
  mMixType := .MIX_TYPE_RECORDERS
  loopBack := true
  mDeviceType := AUDIO_DEVICE_OUT_REMOTE_SUBMIX
  mDeviceAddress := "0"
  notifyActivity := false

def recordedOutput : SwAudioOutputDescriptor :=
  { offloadOutput with mPolicyMix := some recorder, devices := [recorder.device] }

def music : TrackClientDescriptor := ⟨3, AUDIO_STREAM_MUSIC, 3⟩

def alarm : TrackClientDescriptor := ⟨4, AUDIO_STREAM_ALARM, 4⟩

def startedOn (client : TrackClientDescriptor) : SourceEvent :=
  .startSource 13 client (.quiet [recorder.device])

def stoppedOn (client : TrackClientDescriptor) : SourceEvent :=
  .stopSource 13 client (.quiet [recorder.device])

theorem submixAccepted_quiet : SubmixAccepted .quiet := ⟨rfl, rfl, fun _ => rfl⟩

theorem isSubmix_recorder : isSubmix [recorder.device] = true := by decide

theorem onRecorder_startedOn (client : TrackClientDescriptor) :
    OnRecorder 13 (startedOn client) :=
  ⟨rfl, fun _ hpreferred => by simp [SourceAnswers.quiet] at hpreferred, isSubmix_recorder,
    submixAccepted_quiet⟩

theorem onRecorder_stoppedOn (client : TrackClientDescriptor) :
    OnRecorder 13 (stoppedOn client) := ⟨rfl, isSubmix_recorder, submixAccepted_quiet⟩

theorem carriesMix_recordedOutput : CarriesMix 13 recorder (oneOutput recordedOutput) :=
  ⟨recordedOutput, rfl, rfl, isSubmix_recorder⟩

theorem recorder_connected_music :
    (∀ moment ∈ moments (AudioPolicyManagerCustom.onSource .default) (oneOutput recordedOutput)
        [startedOn music, stoppedOn music], RecorderConnected 13 recorder moment) ↔
      Taken (AudioPolicyManagerCustom.onSource .default) (StopsLast 13) (oneOutput recordedOutput)
        [startedOn music, stoppedOn music] := by
  refine recorder_connected_iff .default 13 recorder (oneOutput recordedOutput) _ rfl rfl
    carriesMix_recordedOutput rfl List.not_mem_nil ?_
  simp only [List.forall_mem_cons, List.not_mem_nil, false_imp_iff, implies_true, and_true]
  exact ⟨onRecorder_startedOn music, onRecorder_stoppedOn music⟩

/-- When an alarm starts beside the music, the stop of the music disconnects the submix input
    of the alarm. -/
theorem recorder_disconnected :
    ¬ ∀ (configs : APMConfigHelper) (output : audio_io_handle_t) (policyMix : AudioPolicyMix)
        (start : AudioPolicyManagerCustom) (events : List SourceEvent),
      policyMix.mMixType = .MIX_TYPE_RECORDERS →
      policyMix.device.type = AUDIO_DEVICE_OUT_REMOTE_SUBMIX →
      CarriesMix output policyMix start → activeClients output start = [] →
      submixInput policyMix ∉ start.mAvailableInputDevices →
      (∀ event ∈ events, OnRecorder output event) →
      ∀ moment ∈ moments (AudioPolicyManagerCustom.onSource configs) start events,
        RecorderConnected output policyMix moment := by
  intro hconnected
  let events := [startedOn music, startedOn alarm, stoppedOn music]
  let last := events.foldl (AudioPolicyManagerCustom.onSource .default) (oneOutput recordedOutput)
  have hevents : ∀ event ∈ events, OnRecorder 13 event := by
    simp only [events, List.forall_mem_cons, List.not_mem_nil, false_imp_iff, implies_true,
      and_true]
    exact ⟨onRecorder_startedOn music, onRecorder_startedOn alarm, onRecorder_stoppedOn music⟩
  have hlast := hconnected .default 13 recorder (oneOutput recordedOutput) events rfl rfl
    carriesMix_recordedOutput rfl List.not_mem_nil hevents last (by simp [moments, events, last])
  have hplaying : activeClients 13 last = [alarm] := by decide
  have hgone : submixInput recorder ∉ last.mAvailableInputDevices := by decide
  rw [RecorderConnected, hplaying] at hlast
  exact hgone (hlast.mpr (List.cons_ne_nil _ _))

end policy_hal
