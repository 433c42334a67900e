import OnePlus7Pro.Policy.DeviceConnection
import OnePlus7Pro.Runs.Taken

open effects loops runs

namespace policy_hal

variable {configs : APMConfigHelper} {self : AudioPolicyManagerCustom} {call : ConnectionCall}

def AudioPolicyManagerCustom.connect (configs : APMConfigHelper) (self : AudioPolicyManagerCustom)
    (call : ConnectionCall) : AudioPolicyManagerCustom :=
  (self.setDeviceConnectionStateInt configs call).2

/-- An HDMI device is available only while the speakers are enabled and a sink is plugged in. -/
def HdmiGated (self : AudioPolicyManagerCustom) : Prop :=
  (∃ device ∈ self.mAvailableOutputDevices, device.type = AUDIO_DEVICE_OUT_AUX_DIGITAL) →
    self.mHdmiAudioDisabled = false ∧ self.mHdmiAudioEvent = true

/-- While a device is disconnected no HDMI device but this one is available. -/
def DisconnectsLast (self : AudioPolicyManagerCustom) (call : ConnectionCall) : Prop :=
  call.answers.getDeviceDescriptor = true →
    call.state = .AUDIO_POLICY_DEVICE_STATE_UNAVAILABLE →
    ∀ device ∈ self.mAvailableOutputDevices,
      device.type = AUDIO_DEVICE_OUT_AUX_DIGITAL → device = call.device

instance (self : AudioPolicyManagerCustom) (call : ConnectionCall) :
    Decidable (DisconnectsLast self call) :=
  inferInstanceAs (Decidable (_ → _))

/-- The fields of a manager that HDMI is about. -/
def AudioPolicyManagerCustom.hdmiFields (self : AudioPolicyManagerCustom) :
    DeviceVector × Bool × Bool :=
  (self.mAvailableOutputDevices, self.mHdmiAudioDisabled, self.mHdmiAudioEvent)

theorem hdmiGated_of_hdmiFields {other : AudioPolicyManagerCustom}
    (hfields : other.hdmiFields = self.hdmiFields) : HdmiGated other ↔ HdmiGated self := by
  simp only [AudioPolicyManagerCustom.hdmiFields, Prod.mk.injEq] at hfields
  rw [HdmiGated, HdmiGated, hfields.1, hfields.2.1, hfields.2.2]

theorem isHdmi_of_type (hspeaker : configs.isHDMISpkEnabled = true)
    (htype : call.deviceType = AUDIO_DEVICE_OUT_AUX_DIGITAL) : call.isHdmi configs = true := by
  rw [ConnectionCall.isHdmi, hspeaker, htype]
  decide

theorem keep_hdmi_available (connected : Bool) :
    (self.keep_hdmi configs call connected).mAvailableOutputDevices =
      self.mAvailableOutputDevices := by
  unfold AudioPolicyManagerCustom.keep_hdmi
  split_ifs <;> rfl

/-- What is disconnected closes the gate. -/
theorem keep_hdmi_disconnected (hhdmi : call.isHdmi configs = true) :
    ¬ ((self.keep_hdmi configs call false).mHdmiAudioDisabled = false ∧
      (self.keep_hdmi configs call false).mHdmiAudioEvent = true) := by
  unfold AudioPolicyManagerCustom.keep_hdmi
  rw [if_pos hhdmi]
  split_ifs <;> simp

/-- What is connected leaves an open gate open. -/
theorem keep_hdmi_connected (configs : APMConfigHelper) (self : AudioPolicyManagerCustom)
    (call : ConnectionCall)
    (hopen : self.mHdmiAudioDisabled = false ∧ self.mHdmiAudioEvent = true) :
    (self.keep_hdmi configs call true).mHdmiAudioDisabled = false ∧
      (self.keep_hdmi configs call true).mHdmiAudioEvent = true := by
  unfold AudioPolicyManagerCustom.keep_hdmi
  split_ifs
  · exact ⟨rfl, hopen.2⟩
  · exact ⟨hopen.1, rfl⟩
  · exact hopen

theorem gated_disconnect_output (hhdmi : call.isHdmi configs = true) :
    HdmiGated (self.disconnect_output configs call).2.1 ↔
      ∀ device ∈ self.mAvailableOutputDevices,
        device.type = AUDIO_DEVICE_OUT_AUX_DIGITAL → device = call.device := by
  have hclosed (manager : AudioPolicyManagerCustom) :
      HdmiGated (manager.keep_hdmi configs call false) ↔
        ∀ device ∈ manager.mAvailableOutputDevices,
          device.type ≠ AUDIO_DEVICE_OUT_AUX_DIGITAL := by
    rw [HdmiGated, keep_hdmi_available]
    simp only [keep_hdmi_disconnected hhdmi, imp_false, not_exists, not_and]
  unfold AudioPolicyManagerCustom.disconnect_output
  split_ifs with hmem
  · refine (hclosed { self.tell [.broadcastDeviceConnectionState call.device call.state] with
      mAvailableOutputDevices :=
        DeviceVector.remove self.mAvailableOutputDevices call.device }).trans ?_
    simp only [DeviceVector.remove, List.mem_filter, decide_eq_true_eq, and_imp]
    refine forall₂_congr fun device _ => ?_
    rw [← not_imp_not, not_not]
    exact imp_congr_right fun _ => not_not
  · rw [hclosed]
    refine forall₂_congr fun device hdevice => ?_
    have hother : device ≠ call.device := fun h => hmem (h ▸ hdevice)
    simp [hother]

theorem gated_connect_output (hhdmi : call.isHdmi configs = true) (hself : HdmiGated self) :
    HdmiGated (self.connect_output configs call).2.1 := by
  unfold AudioPolicyManagerCustom.connect_output
  dsimp only
  split_ifs with hmem hadd hclosed hchecked
  · intro hdevice
    rw [keep_hdmi_available] at hdevice
    exact keep_hdmi_connected configs _ call (hself hdevice)
  · exact hself
  -- an HDMI device that is available already would have left the gate open
  · rintro ⟨device, hdevice, htype⟩
    have hearlier : device ∈ self.mAvailableOutputDevices := by
      obtain ⟨hdevice, hother⟩ := List.mem_filter.mp hdevice
      rw [keep_hdmi_available, List.mem_append, List.mem_singleton] at hdevice
      exact hdevice.resolve_right (by simpa using hother)
    have hopen := keep_hdmi_connected configs
      { self with mAvailableOutputDevices := self.mAvailableOutputDevices ++ [call.device] } call
      (hself ⟨device, hearlier, htype⟩)
    rw [hopen.1, hopen.2, Bool.not_true, Bool.or_self, Bool.and_false] at hclosed
    exact absurd hclosed (by decide)
  all_goals
    rw [hhdmi, Bool.true_and, Bool.not_eq_true, Bool.or_eq_false_iff, Bool.not_eq_false'] at hclosed
    exact fun _ => hclosed

theorem hdmiFields_output_changed (outputs : KeyedVector audio_io_handle_t Unit) :
    (self.output_changed call outputs).hdmiFields = self.hdmiFields := rfl

/-- A call for an HDMI device keeps the gate exactly when it does not disconnect one of
    several. -/
theorem gated_connect_iff (hspeaker : configs.isHDMISpkEnabled = true) (hself : HdmiGated self)
    (hcall : call.deviceType = AUDIO_DEVICE_OUT_AUX_DIGITAL) :
    HdmiGated (self.connect configs call) ↔ DisconnectsLast self call := by
  have hhdmi := isHdmi_of_type hspeaker hcall
  have houtput : call.answers.tests.audio_is_output_device call.deviceType = true := by
    rw [hcall]
    exact call.answers.tests.aux_digital_is_output
  have hchanged : HdmiGated (self.change_output configs call).2.1 ↔
      (call.state = .AUDIO_POLICY_DEVICE_STATE_UNAVAILABLE →
        ∀ device ∈ self.mAvailableOutputDevices,
          device.type = AUDIO_DEVICE_OUT_AUX_DIGITAL → device = call.device) := by
    unfold AudioPolicyManagerCustom.change_output
    cases call.state with
    | AUDIO_POLICY_DEVICE_STATE_AVAILABLE =>
      exact iff_of_true (gated_connect_output hhdmi hself) fun h => by simp at h
    | AUDIO_POLICY_DEVICE_STATE_UNAVAILABLE =>
      rw [forall_prop_of_true rfl]
      exact gated_disconnect_output hhdmi
    | other value => exact iff_of_true hself fun h => by simp at h
  unfold AudioPolicyManagerCustom.connect AudioPolicyManagerCustom.setDeviceConnectionStateInt
  rw [if_neg (by simp [houtput]), DisconnectsLast]
  cases hfound : call.answers.getDeviceDescriptor with
  | false => exact iff_of_true hself fun h => by simp at h
  | true =>
    rw [if_neg (by decide), if_pos houtput, forall_prop_of_true rfl]
    dsimp only
    split_ifs
    · rw [hdmiGated_of_hdmiFields (hdmiFields_output_changed _), hchanged]
    · exact hchanged

/-- With the HDMI speakers built in, over any run of calls for HDMI devices the gate is kept
    at every moment if and only if no call of the run disconnects one of several devices. -/
theorem hdmi_gated_iff (configs : APMConfigHelper) (mvoice_call_state : Int)
    (calls : List ConnectionCall) (hspeaker : configs.isHDMISpkEnabled = true)
    (hcalls : ∀ call ∈ calls, call.deviceType = AUDIO_DEVICE_OUT_AUX_DIGITAL) :
    (∀ moment ∈ moments (AudioPolicyManagerCustom.connect configs)
        (.init configs mvoice_call_state) calls, HdmiGated moment) ↔
      Taken (AudioPolicyManagerCustom.connect configs) DisconnectsLast
        (.init configs mvoice_call_state) calls :=
  always_iff_taken (I := fun _ => True)
    (fun _ _ _ hself hcall => gated_connect_iff hspeaker hself hcall) (fun _ _ _ _ _ _ => trivial)
    (taken_of_forall hcalls) trivial fun ⟨_, hdevice, _⟩ => absurd hdevice List.not_mem_nil

/-- The feature of HDMI speakers alone. -/
def speakerConfigs : APMConfigHelper :=
  { APMConfigHelper.default with isHDMISpkEnabled := true }

/-- A call for an HDMI device that the base class does all it is asked for. -/
def hdmiCall (device_address : String) (state : audio_policy_dev_state_t) : ConnectionCall where
  deviceType := AUDIO_DEVICE_OUT_AUX_DIGITAL
  state := state
  device_address := device_address
  answers := .quiet

theorem hdmi_gated_sink :
    (∀ moment ∈ moments (AudioPolicyManagerCustom.connect speakerConfigs) (.init speakerConfigs 0)
        [hdmiCall "port=0" .AUDIO_POLICY_DEVICE_STATE_AVAILABLE,
          hdmiCall "port=0" .AUDIO_POLICY_DEVICE_STATE_UNAVAILABLE], HdmiGated moment) ↔
      Taken (AudioPolicyManagerCustom.connect speakerConfigs) DisconnectsLast
        (.init speakerConfigs 0)
        [hdmiCall "port=0" .AUDIO_POLICY_DEVICE_STATE_AVAILABLE,
          hdmiCall "port=0" .AUDIO_POLICY_DEVICE_STATE_UNAVAILABLE] :=
  hdmi_gated_iff speakerConfigs 0 _ rfl (by simp [hdmiCall])

/-- The speakers are disconnected while a sink is available. -/
def speakerGone : List ConnectionCall :=
  [hdmiCall "port=0" .AUDIO_POLICY_DEVICE_STATE_AVAILABLE,
    hdmiCall "hdmi_spkr" .AUDIO_POLICY_DEVICE_STATE_AVAILABLE,
    hdmiCall "hdmi_spkr" .AUDIO_POLICY_DEVICE_STATE_UNAVAILABLE]

/-- After it the sink is available although audio over HDMI is disabled. -/
theorem hdmi_ungated :
    ¬ ∀ (configs : APMConfigHelper) (mvoice_call_state : Int) (calls : List ConnectionCall),
      configs.isHDMISpkEnabled = true →
      (∀ call ∈ calls, call.deviceType = AUDIO_DEVICE_OUT_AUX_DIGITAL) →
      ∀ moment ∈ moments (AudioPolicyManagerCustom.connect configs)
        (.init configs mvoice_call_state) calls, HdmiGated moment := by
  intro hgated
  have hlast := hgated speakerConfigs 0 speakerGone rfl (by simp [speakerGone, hdmiCall])
    (speakerGone.foldl (AudioPolicyManagerCustom.connect speakerConfigs) (.init speakerConfigs 0))
    (by simp [moments, speakerGone])
  have hsink : (⟨AUDIO_DEVICE_OUT_AUX_DIGITAL, "port=0"⟩ : DeviceDescriptor) ∈
      (speakerGone.foldl (AudioPolicyManagerCustom.connect speakerConfigs)
        (.init speakerConfigs 0)).mAvailableOutputDevices := by decide
  have hopen := hlast ⟨_, hsink, rfl⟩
  exact absurd hopen.1 (by decide)

end policy_hal
