import OnePlus7Pro.Policy.DeviceConnection

open loops

namespace policy_hal

variable {configs : APMConfigHelper} {self : AudioPolicyManagerCustom} {call : ConnectionCall}

/-- The state of a device that a call announces. -/
def announced (device : DeviceDescriptor) : ClientCall → Option audio_policy_dev_state_t
  | .broadcastDeviceConnectionState other state => if other = device then some state else none
  | _ => none

/-- The available devices are those from before, and the device of the call has not been
    announced, or has been taken back. -/
structure Undone (before : AudioPolicyManagerCustom) (call : ConnectionCall)
    (after : AudioPolicyManagerCustom) : Prop where
  mAvailableOutputDevices : after.mAvailableOutputDevices = before.mAvailableOutputDevices
  mAvailableInputDevices : after.mAvailableInputDevices = before.mAvailableInputDevices
  told : ∃ calls, after.told = before.told ++ calls ∧
    (calls.filterMap (announced call.device) = [] ∨
      calls.filterMap (announced call.device) =
        [.AUDIO_POLICY_DEVICE_STATE_AVAILABLE, .AUDIO_POLICY_DEVICE_STATE_UNAVAILABLE])

theorem Undone.refl : Undone self call self :=
  ⟨rfl, rfl, [], (List.append_nil _).symm, .inl rfl⟩

/-- A device that is removed right after it has been registered leaves the others. -/
theorem DeviceVector.remove_registered {devices : DeviceVector} {device : DeviceDescriptor}
    (hnew : device ∉ devices) : DeviceVector.remove (devices ++ [device]) device = devices := by
  have hothers : devices.filter (fun other => other ≠ device) = devices := by
    rw [List.filter_eq_self]
    intro other hother
    simpa using ne_of_mem_of_not_mem hother hnew
  rw [DeviceVector.remove, List.filter_append, hothers]
  simp

/-- What is kept of HDMI is kept in fields of its own. -/
theorem keep_hdmi_fields (configs : APMConfigHelper) (self : AudioPolicyManagerCustom)
    (call : ConnectionCall) (connected : Bool) :
    ∃ disabled event, self.keep_hdmi configs call connected =
      { self with mHdmiAudioDisabled := disabled, mHdmiAudioEvent := event } := by
  unfold AudioPolicyManagerCustom.keep_hdmi
  split_ifs
  · exact ⟨_, _, rfl⟩
  · exact ⟨_, _, rfl⟩
  · exact ⟨_, _, rfl⟩

theorem undone_keep_hdmi (connected : Bool) :
    Undone self call (self.keep_hdmi configs call connected) := by
  obtain ⟨disabled, event, hkept⟩ := keep_hdmi_fields configs self call connected
  rw [hkept]
  exact ⟨rfl, rfl, Undone.refl.told⟩

/-- The device is announced, and then taken back. -/
theorem announced_taken_back (call : ConnectionCall)
    (hstate : call.state = .AUDIO_POLICY_DEVICE_STATE_AVAILABLE) :
    ([.broadcastDeviceConnectionState call.device call.state] ++
        [.broadcastDeviceConnectionState call.device .AUDIO_POLICY_DEVICE_STATE_UNAVAILABLE] :
        List ClientCall).filterMap (announced call.device) =
      [.AUDIO_POLICY_DEVICE_STATE_AVAILABLE, .AUDIO_POLICY_DEVICE_STATE_UNAVAILABLE] := by
  simp [announced, hstate]

theorem undone_connect_output (hstate : call.state = .AUDIO_POLICY_DEVICE_STATE_AVAILABLE)
    (hfailed : (self.connect_output configs call).1 ≠ NO_ERROR) :
    Undone self call (self.connect_output configs call).2.1 := by
  unfold AudioPolicyManagerCustom.connect_output at hfailed ⊢
  by_cases hmem : call.device ∈ self.mAvailableOutputDevices
  · rw [if_pos hmem]
    exact undone_keep_hdmi true
  · obtain ⟨disabled, event, hkept⟩ := keep_hdmi_fields configs
      { self with mAvailableOutputDevices := self.mAvailableOutputDevices ++ [call.device] } call true
    have hremoved := DeviceVector.remove_registered hmem
    rw [if_neg hmem] at hfailed ⊢
    dsimp only at hfailed ⊢
    rw [hkept] at hfailed ⊢
    split_ifs at hfailed ⊢ with hadd hclosed hchecked
    · exact Undone.refl
    · exact ⟨hremoved, rfl, Undone.refl.told⟩
    · exact ⟨hremoved, rfl, _, List.append_assoc _ _ _, .inr (announced_taken_back call hstate)⟩
    · exact absurd rfl hfailed

theorem undone_disconnect_output (hfailed : (self.disconnect_output configs call).1 ≠ NO_ERROR) :
    Undone self call (self.disconnect_output configs call).2.1 := by
  unfold AudioPolicyManagerCustom.disconnect_output at hfailed ⊢
  split_ifs at hfailed ⊢ with hmem
  · exact absurd rfl hfailed
  · exact undone_keep_hdmi false

theorem undone_connect_input (hstate : call.state = .AUDIO_POLICY_DEVICE_STATE_AVAILABLE)
    (hfailed : (self.connect_input call).1 ≠ NO_ERROR) :
    Undone self call (self.connect_input call).2 := by
  unfold AudioPolicyManagerCustom.connect_input at hfailed ⊢
  split_ifs at hfailed ⊢ with hmem hadd
  · exact Undone.refl
  · exact Undone.refl
  · dsimp only at hfailed ⊢
    split_ifs at hfailed ⊢ with hchecked
    · exact ⟨rfl, DeviceVector.remove_registered hmem, _, List.append_assoc _ _ _,
        .inr (announced_taken_back call hstate)⟩
    · exact absurd rfl hfailed

theorem undone_disconnect_input (hfailed : (self.disconnect_input call).1 ≠ NO_ERROR) :
    Undone self call (self.disconnect_input call).2 := by
  unfold AudioPolicyManagerCustom.disconnect_input at hfailed ⊢
  split_ifs at hfailed ⊢ with hmem
  · exact absurd rfl hfailed
  · exact Undone.refl

theorem undone_change_output (hfailed : (self.change_output configs call).1 ≠ NO_ERROR) :
    Undone self call (self.change_output configs call).2.1 := by
  unfold AudioPolicyManagerCustom.change_output at hfailed ⊢
  cases hstate : call.state with
  | AUDIO_POLICY_DEVICE_STATE_AVAILABLE =>
    rw [hstate] at hfailed
    exact undone_connect_output hstate hfailed
  | AUDIO_POLICY_DEVICE_STATE_UNAVAILABLE =>
    rw [hstate] at hfailed
    exact undone_disconnect_output hfailed
  | other value => exact Undone.refl

theorem undone_change_input (hfailed : (self.change_input call).1 ≠ NO_ERROR) :
    Undone self call (self.change_input call).2 := by
  unfold AudioPolicyManagerCustom.change_input at hfailed ⊢
  cases hstate : call.state with
  | AUDIO_POLICY_DEVICE_STATE_AVAILABLE =>
    rw [hstate] at hfailed
    exact undone_connect_input hstate hfailed
  | AUDIO_POLICY_DEVICE_STATE_UNAVAILABLE =>
    rw [hstate] at hfailed
    exact undone_disconnect_input hfailed
  | other value => exact Undone.refl

/-- A call that connects or disconnects a device and fails has undone what it did. -/
theorem AudioPolicyManagerCustom.failed_connection_undone (configs : APMConfigHelper)
    (self : AudioPolicyManagerCustom) (call : ConnectionCall)
    (hfailed : (self.setDeviceConnectionStateInt configs call).1 ≠ NO_ERROR) :
    Undone self call (self.setDeviceConnectionStateInt configs call).2 := by
  unfold AudioPolicyManagerCustom.setDeviceConnectionStateInt at hfailed ⊢
  split_ifs at hfailed ⊢ with htype hfound houtput
  · exact Undone.refl
  · exact Undone.refl
  · dsimp only at hfailed ⊢
    split_ifs at hfailed ⊢ with hconnected
    · exact absurd rfl hfailed
    · exact undone_change_output hconnected
  · dsimp only at hfailed ⊢
    split_ifs at hfailed ⊢ with hconnected
    · exact absurd rfl hfailed
    · exact undone_change_input hconnected

/-- A headset whose outputs the base class fails to open. -/
def refusedHeadset : ConnectionCall where
  deviceType := 0x4
  state := .AUDIO_POLICY_DEVICE_STATE_AVAILABLE
  device_address := ""
  answers := { ConnectionAnswers.quiet with
    checkOutputsForDevice := fun mOutputs => (BAD_VALUE, .empty, mOutputs) }

theorem refusedHeadset_undone :
    Undone (.init .default 0) refusedHeadset
      ((AudioPolicyManagerCustom.init .default 0).setDeviceConnectionStateInt .default
        refusedHeadset).2 :=
  AudioPolicyManagerCustom.failed_connection_undone .default (.init .default 0) refusedHeadset
    (by decide)

end policy_hal
