import OnePlus7Pro.Policy.AlarmMute
import OnePlus7Pro.Policy.CallGuard
import OnePlus7Pro.Policy.CaptureState
import OnePlus7Pro.Policy.Offload

open loops runs

namespace policy_hal

/-- What may be asked of the manager. A method that is inherited as it is leaves some open
    outputs and inputs. -/
inductive ManagerCall where
  | startInput (primaryInputDevices : DeviceVector) (portId : audio_port_handle_t)
      (answers : StartInputAnswers)
  | stopInput (primaryInputDevices : DeviceVector) (portId : audio_port_handle_t)
      (answers : StopInputAnswers)
  | callEvent (event : CallEvent)
  | sourceEvent (event : SourceEvent)
  | setDeviceConnectionStateInt (call : ConnectionCall)
  | inherited (mOutputs : SwAudioOutputCollection) (mInputs : AudioInputCollection)

def AudioPolicyManagerCustom.perform (configs : APMConfigHelper) (self : AudioPolicyManagerCustom) :
    ManagerCall → AudioPolicyManagerCustom
  | .startInput primaryInputDevices portId answers =>
    (self.startInput configs primaryInputDevices portId answers).2
  | .stopInput primaryInputDevices portId answers =>
    (self.stopInput configs primaryInputDevices portId answers).2
  | .callEvent event => self.take configs event
  | .sourceEvent event => self.onSource configs event
  | .setDeviceConnectionStateInt call => (self.setDeviceConnectionStateInt configs call).2
  | .inherited mOutputs mInputs => { self with mOutputs := mOutputs, mInputs := mInputs }

def recPlayConc : ClientCall → Option String
  | .setParameters key value => if key = "rec_play_conc_on" then some value else none
  | _ => none

/-- The last value of `rec_play_conc_on` that was told. -/
def lastRecPlayConc (told : List ClientCall) : Option String :=
  (told.filterMap recPlayConc).getLast?

/-- A call of `startInput` has not left itself in progress, and one that has failed has not told
    that recording goes on. -/
def LeavesNoTrace (configs : APMConfigHelper) (self : AudioPolicyManagerCustom) :
    ManagerCall → Prop
  | .startInput primaryInputDevices portId answers =>
    let returned := self.startInput configs primaryInputDevices portId answers
    returned.2.mIsInputRequestOnProgress = false ∧
      (returned.1 ≠ NO_ERROR → lastRecPlayConc returned.2.told = lastRecPlayConc self.told)
  | _ => True

/-- The manager with no start of an input in progress. -/
def AudioPolicyManagerCustom.withoutRequest (self : AudioPolicyManagerCustom) :
    AudioPolicyManagerCustom :=
  { self with mIsInputRequestOnProgress := false }

/-- No request is answered otherwise because the start of an input were in progress. -/
structure Unhindered (configs : OffloadConfigs) (manager : AudioPolicyManagerCustom) : Prop where
  isOffloadSupported : ∀ offloadInfo answers,
    manager.isOffloadSupported configs offloadInfo answers =
      manager.withoutRequest.isOffloadSupported configs offloadInfo answers
  getOutputForDevices : ∀ request answers,
    (manager.getOutputForDevices configs.toAPMConfigHelper request answers).1 =
      (manager.withoutRequest.getOutputForDevices configs.toAPMConfigHelper request answers).1

/-- The input of a known client that is not active fails to start. -/
def FailsToStart (self : AudioPolicyManagerCustom) : ManagerCall → Prop
  | .startInput _ portId answers =>
    (getInputForClient self.mInputs portId).any
      (fun found => found.2.clients.valueFor portId ≠ some true) = true ∧
      answers.start ≠ NO_ERROR
  | _ => False

instance (self : AudioPolicyManagerCustom) (call : ManagerCall) :
    Decidable (FailsToStart self call) := by
  unfold FailsToStart
  split <;> infer_instance

variable {configs : APMConfigHelper} {self : AudioPolicyManagerCustom}

section inProgress

@[simp] theorem tell_mIsInputRequestOnProgress (calls : List ClientCall) :
    (self.tell calls).mIsInputRequestOnProgress = self.mIsInputRequestOnProgress := rfl

theorem receive_mIsInputRequestOnProgress (call : PhoneStateCall) :
    (self.receive configs call).mIsInputRequestOnProgress = self.mIsInputRequestOnProgress := by
  obtain ⟨_, _, _, hreceive⟩ := callChange_receive configs self call
  rw [hreceive]
  split_ifs <;> rfl

@[simp] theorem keep_hdmi_mIsInputRequestOnProgress (call : ConnectionCall) (connected : Bool) :
    (self.keep_hdmi configs call connected).mIsInputRequestOnProgress =
      self.mIsInputRequestOnProgress := by
  unfold AudioPolicyManagerCustom.keep_hdmi
  split_ifs <;> rfl

@[simp] theorem change_output_mIsInputRequestOnProgress (call : ConnectionCall) :
    (self.change_output configs call).2.1.mIsInputRequestOnProgress =
      self.mIsInputRequestOnProgress := by
  unfold AudioPolicyManagerCustom.change_output AudioPolicyManagerCustom.connect_output
    AudioPolicyManagerCustom.disconnect_output
  dsimp only
  split
  · split_ifs <;> simp
  · split_ifs <;> simp
  · rfl

@[simp] theorem change_input_mIsInputRequestOnProgress (call : ConnectionCall) :
    (self.change_input call).2.mIsInputRequestOnProgress = self.mIsInputRequestOnProgress := by
  unfold AudioPolicyManagerCustom.change_input AudioPolicyManagerCustom.connect_input
    AudioPolicyManagerCustom.disconnect_input
  dsimp only
  split
  · split_ifs <;> rfl
  · split_ifs <;> rfl
  · rfl

@[simp] theorem setDeviceConnectionStateInt_mIsInputRequestOnProgress (call : ConnectionCall) :
    (self.setDeviceConnectionStateInt configs call).2.mIsInputRequestOnProgress =
      self.mIsInputRequestOnProgress := by
  unfold AudioPolicyManagerCustom.setDeviceConnectionStateInt
    AudioPolicyManagerCustom.output_changed
  dsimp only
  split_ifs <;> simp

@[simp] theorem connect_submix_mIsInputRequestOnProgress (policyMix : Option AudioPolicyMix)
    (state : audio_policy_dev_state_t) (answers : ConnectionAnswers) :
    (self.connect_submix configs policyMix state answers).mIsInputRequestOnProgress =
      self.mIsInputRequestOnProgress := by
  unfold AudioPolicyManagerCustom.connect_submix
  cases policyMix <;> simp

theorem onSource_mIsInputRequestOnProgress (event : SourceEvent) :
    (self.onSource configs event).mIsInputRequestOnProgress = self.mIsInputRequestOnProgress := by
  unfold AudioPolicyManagerCustom.onSource AudioPolicyManagerCustom.startSource
    AudioPolicyManagerCustom.stopSource AudioPolicyManagerCustom.setForceUse
  cases event with
  | startSource output client answers =>
    dsimp only
    split
    · rfl
    · split_ifs <;> simp
  | stopSource output client answers =>
    dsimp only
    split
    · rfl
    · split_ifs <;> simp
  | setForceUse usage config accepted =>
    dsimp only
    split
    · split_ifs <;> rfl
    · rfl

theorem take_mIsInputRequestOnProgress (event : CallEvent) :
    (self.take configs event).mIsInputRequestOnProgress = self.mIsInputRequestOnProgress := by
  cases event with
  | setPhoneState call => exact receive_mIsInputRequestOnProgress call
  | getOutputForDevices request answers =>
    obtain ⟨mOutputs, told, hfields⟩ := getOutputForDevices_fields configs self request answers
    rw [AudioPolicyManagerCustom.take, hfields]
  | getInputForAttr request base =>
    rw [AudioPolicyManagerCustom.take]
    unfold AudioPolicyManagerCustom.getInputForAttr
    split_ifs <;> rfl

theorem stopInput_mIsInputRequestOnProgress (primaryInputDevices : DeviceVector)
    (portId : audio_port_handle_t) (answers : StopInputAnswers) :
    (self.stopInput configs primaryInputDevices portId answers).2.mIsInputRequestOnProgress =
      self.mIsInputRequestOnProgress := by
  have hbase : (self.base_stopInput portId answers).mIsInputRequestOnProgress =
      self.mIsInputRequestOnProgress := by
    unfold AudioPolicyManagerCustom.base_stopInput
    split <;> rfl
  unfold AudioPolicyManagerCustom.stopInput AudioPolicyManagerCustom.stop_rec_play
  dsimp only
  split
  · exact hbase
  · split_ifs <;> exact hbase

/-- No call but one of `startInput` begins or ends the start of an input. -/
theorem perform_mIsInputRequestOnProgress {call : ManagerCall}
    (hother : ∀ primaryInputDevices portId answers,
      call ≠ .startInput primaryInputDevices portId answers) :
    (self.perform configs call).mIsInputRequestOnProgress = self.mIsInputRequestOnProgress := by
  cases call with
  | startInput primaryInputDevices portId answers =>
    exact absurd rfl (hother primaryInputDevices portId answers)
  | stopInput primaryInputDevices portId answers =>
    exact stopInput_mIsInputRequestOnProgress primaryInputDevices portId answers
  | callEvent event => exact take_mIsInputRequestOnProgress event
  | sourceEvent event => exact onSource_mIsInputRequestOnProgress event
  | setDeviceConnectionStateInt call =>
    exact setDeviceConnectionStateInt_mIsInputRequestOnProgress call
  | inherited mOutputs mInputs => rfl

end inProgress

section startInput

variable {primaryInputDevices : DeviceVector} {portId : audio_port_handle_t}
  {answers : StartInputAnswers}

theorem start_rec_play_mIsInputRequestOnProgress (hconc : configs.isRecPlayConcEnabled = true) :
    (self.start_rec_play configs primaryInputDevices).mIsInputRequestOnProgress = true := by
  unfold AudioPolicyManagerCustom.start_rec_play
  rw [if_pos hconc]
  dsimp only
  split_ifs <;> rfl

/-- A call of `startInput` leaves itself in progress exactly when its input fails to start. -/
theorem startInput_mIsInputRequestOnProgress (hconc : configs.isRecPlayConcEnabled = true)
    (hself : self.mIsInputRequestOnProgress = false) :
    (self.startInput configs primaryInputDevices portId answers).2.mIsInputRequestOnProgress =
      decide (FailsToStart self (.startInput primaryInputDevices portId answers)) := by
  unfold AudioPolicyManagerCustom.startInput FailsToStart
  cases hfound : getInputForClient self.mInputs portId with
  | none => simpa [hfound] using hself
  | some found =>
    dsimp only
    by_cases hactive : found.2.clients.valueFor portId = some true
    · rw [if_pos hactive]
      simpa [hfound, hactive] using hself
    · rw [if_neg hactive]
      by_cases hstart : answers.start = NO_ERROR
      · rw [if_neg (not_not.mpr hstart), if_pos hconc]
        simp [hstart]
      · rw [if_pos hstart, start_rec_play_mIsInputRequestOnProgress hconc]
        simp [hfound, hstart, hactive]

/-- A call of `startInput` that fails where its input does not changes nothing. -/
theorem startInput_refused
    (hnot : ¬ FailsToStart self (.startInput primaryInputDevices portId answers))
    (hrefused : (self.startInput configs primaryInputDevices portId answers).1 ≠ NO_ERROR) :
    (self.startInput configs primaryInputDevices portId answers).2 = self := by
  unfold AudioPolicyManagerCustom.startInput at hrefused ⊢
  cases hfound : getInputForClient self.mInputs portId with
  | none => rfl
  | some found =>
    rw [hfound] at hrefused
    dsimp only at hrefused ⊢
    by_cases hactive : found.2.clients.valueFor portId = some true
    · rw [if_pos hactive]
    · rw [if_neg hactive] at hrefused
      by_cases hstart : answers.start = NO_ERROR
      · rw [if_neg (not_not.mpr hstart)] at hrefused
        exact absurd rfl hrefused
      · exact absurd ⟨by simp [hfound, hactive], hstart⟩ hnot

end startInput

theorem unhindered_of_not_inProgress {configs : OffloadConfigs}
    (hself : self.mIsInputRequestOnProgress = false) : Unhindered configs self := by
  have hsame : self.withoutRequest = self := by
    rw [AudioPolicyManagerCustom.withoutRequest, ← hself]
  exact ⟨fun _ _ => by rw [hsame], fun _ _ => by rw [hsame]⟩

/-- A call leaves nothing behind exactly when it is not one of `startInput` whose input fails to
    start. -/
theorem leavesNoTrace_iff (hconc : configs.isRecPlayConcEnabled = true)
    (hself : self.mIsInputRequestOnProgress = false) (call : ManagerCall) :
    LeavesNoTrace configs self call ↔ ¬ FailsToStart self call := by
  cases call with
  | startInput primaryInputDevices portId answers =>
    rw [LeavesNoTrace, startInput_mIsInputRequestOnProgress hconc hself, decide_eq_false_iff_not]
    refine and_iff_left_of_imp fun hnot hrefused => ?_
    rw [startInput_refused hnot hrefused]
  | _ => exact iff_of_true trivial not_false

theorem perform_not_inProgress (hconc : configs.isRecPlayConcEnabled = true)
    (hself : self.mIsInputRequestOnProgress = false) {call : ManagerCall}
    (hstarts : ¬ FailsToStart self call) :
    (self.perform configs call).mIsInputRequestOnProgress = false := by
  by_cases hinput : ∃ primaryInputDevices portId answers,
      call = .startInput primaryInputDevices portId answers
  · obtain ⟨primaryInputDevices, portId, answers, rfl⟩ := hinput
    rw [AudioPolicyManagerCustom.perform, startInput_mIsInputRequestOnProgress hconc hself]
    exact decide_eq_false hstarts
  · rw [perform_mIsInputRequestOnProgress fun primaryInputDevices portId answers heq =>
      hinput ⟨primaryInputDevices, portId, answers, heq⟩]
    exact hself

/-- Throughout a run every call of `startInput` leaves no trace, and no request is hindered after
    a call, exactly when no input of a known client that is not active fails to start. -/
theorem input_requests_iff (configs : OffloadConfigs) (hconc : configs.isRecPlayConcEnabled = true)
    (start : AudioPolicyManagerCustom) (hstart : start.mIsInputRequestOnProgress = false)
    (calls : List ManagerCall) :
    Taken (AudioPolicyManagerCustom.perform configs.toAPMConfigHelper)
        (fun self call => LeavesNoTrace configs.toAPMConfigHelper self call ∧
          Unhindered configs (self.perform configs.toAPMConfigHelper call)) start calls ↔
      Taken (AudioPolicyManagerCustom.perform configs.toAPMConfigHelper)
        (fun self call => ¬ FailsToStart self call) start calls := by
  refine taken_iff_taken (I := fun self => self.mIsInputRequestOnProgress = false)
    (fun self call hself => ?_) (fun self call hself => perform_not_inProgress hconc hself) hstart
  rw [leavesNoTrace_iff hconc hself]
  exact and_iff_left_of_imp fun hstarts =>
    unhindered_of_not_inProgress (perform_not_inProgress hconc hself hstarts)

/-- The microphone's input, which no client uses. -/
def oneInput : AudioPolicyManagerCustom :=
  { AudioPolicyManagerCustom.init .default 0 with
    mInputs := ⟨[(13, idleInput builtinMic 1)], List.pairwise_singleton _ _⟩ }

/-- Recording and playback exclude each other. -/
def recPlayConfigs : OffloadConfigs :=
  { OffloadConfigs.create Properties.unset Features.none with
    isRecPlayConcEnabled := true
    isRecPlayConcDisabled := true }

/-- A start of the client of the microphone, with what its input comes to. -/
def startMic (status : status_t) : ManagerCall :=
  .startInput [builtinMic] 1 ⟨status, builtinMic, .quiet⟩

theorem input_requests_mic :
    Taken (AudioPolicyManagerCustom.perform recPlayConfigs.toAPMConfigHelper)
        (fun self call => LeavesNoTrace recPlayConfigs.toAPMConfigHelper self call ∧
          Unhindered recPlayConfigs (self.perform recPlayConfigs.toAPMConfigHelper call)) oneInput
        [startMic NO_ERROR] :=
  (input_requests_iff recPlayConfigs rfl oneInput rfl [startMic NO_ERROR]).mpr
    ⟨fun h => h.2 rfl, trivial⟩

/-- An input that the HAL does not start leaves its start in progress. -/
theorem request_never_ends :
    ¬ ∀ (configs : OffloadConfigs) (start : AudioPolicyManagerCustom) (calls : List ManagerCall),
      configs.isRecPlayConcEnabled = true → start.mIsInputRequestOnProgress = false →
      Taken (AudioPolicyManagerCustom.perform configs.toAPMConfigHelper)
        (fun self call => LeavesNoTrace configs.toAPMConfigHelper self call ∧
          Unhindered configs (self.perform configs.toAPMConfigHelper call)) start calls := by
  intro hclean
  obtain ⟨⟨htrace, _⟩, _⟩ := hclean recPlayConfigs oneInput [startMic NO_INIT] rfl rfl
  exact absurd htrace.1 (by decide)

end policy_hal
