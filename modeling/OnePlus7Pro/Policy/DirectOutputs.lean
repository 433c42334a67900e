import OnePlus7Pro.Policy.Requests

open loops

namespace policy_hal

/-- The flags with which `getOutputForDevices` selects an output: `none` where it turns the
    request down before. -/
def AudioPolicyManagerCustom.rewrite_flags (self : AudioPolicyManagerCustom)
    (configs : APMConfigHelper) (request : OutputRequest) (answers : OutputAnswers) :
    Option ChosenFlags :=
  if request.stream < AUDIO_STREAM_MIN ∨ AUDIO_STREAM_CNT ≤ request.stream then none
  else if hasFlag request.flags AUDIO_OUTPUT_FLAG_COMPRESS_OFFLOAD ∧
      request.stream ≠ AUDIO_STREAM_MUSIC then none
  else
    let flags := vr_flags answers (voip_override configs self.mEngine.phoneState request answers)
    let allowed :=
      if configs.isVoiceConcEnabled then self.voice_conc_flags configs request.stream flags
      else some flags
    allowed.map fun flags =>
      self.choose_flags configs request answers (direct_flags configs request
        (self.afe_proxy_flags configs request.stream
          (self.rec_play_flags configs answers request.stream flags)))

/-- What selecting an output comes to: the handle that is returned, and the manager. -/
inductive Selected (self : AudioPolicyManagerCustom) (request : OutputRequest)
    (answers : OutputAnswers) (chosen : ChosenFlags) :
    audio_io_handle_t × AudioPolicyManagerCustom → Prop where
  | mixed : Selected self request answers chosen (self.non_direct_output request answers chosen, self)
  | refused : Selected self request answers chosen (AUDIO_IO_HANDLE_NONE, self)
  | reused (profile : IOProfile) (output : audio_io_handle_t) (desc : SwAudioOutputDescriptor)
      (hprofile : answers.getProfileForOutput chosen.flags = some profile)
      (hopen : (output, desc) ∈ self.mOutputs.entries)
      (hreusable : isReusable request profile desc = true) :
      Selected self request answers chosen (output, { self with
        mOutputs := self.mOutputs.modify output fun desc =>
          { desc with mDirectOpenCount := desc.mDirectOpenCount + 1 } })
  | closed (output : audio_io_handle_t)
      (houtput : output = AUDIO_IO_HANDLE_NONE ∨
        output = self.non_direct_output request answers chosen) :
      Selected self request answers chosen (output, self.tell
        [.openDescriptor (answers.open_output chosen.flags).output,
          .closeDescriptor (answers.open_output chosen.flags).output])
  | opened (outputDesc : SwAudioOutputDescriptor)
      (hstatus : (answers.open_output chosen.flags).status = NO_ERROR)
      (hrequested : isAsRequested request (answers.open_output chosen.flags) = true)
      (hrate : outputDesc.samplingRate = (answers.open_output chosen.flags).samplingRate)
      (hformat : outputDesc.format = (answers.open_output chosen.flags).format)
      (hmask : outputDesc.channelMask = (answers.open_output chosen.flags).channelMask)
      (hcount : outputDesc.mDirectOpenCount = 1)
      (hsession : outputDesc.mDirectClientSession = request.session) :
      Selected self request answers chosen ((answers.open_output chosen.flags).output, { self with
        mOutputs := self.mOutputs.add (answers.open_output chosen.flags).output outputDesc }.tell
          [.openDescriptor (answers.open_output chosen.flags).output, .onAudioPortListUpdate])

variable {configs : APMConfigHelper} {self : AudioPolicyManagerCustom} {request : OutputRequest}
  {answers : OutputAnswers} {chosen : ChosenFlags}

theorem getOutputForDevices_eq : self.getOutputForDevices configs request answers =
    match self.rewrite_flags configs request answers with
    | none => (AUDIO_IO_HANDLE_NONE, self)
    | some chosen => self.select configs request answers chosen := by
  unfold AudioPolicyManagerCustom.getOutputForDevices AudioPolicyManagerCustom.rewrite_flags
  dsimp only
  split_ifs
  · rfl
  · rfl
  · cases self.voice_conc_flags configs request.stream
      (vr_flags answers (voip_override configs self.mEngine.phoneState request answers)) <;> rfl
  · rfl

theorem selected_open_direct (profile : IOProfile) :
    Selected self request answers chosen (self.open_direct request answers chosen profile) := by
  unfold AudioPolicyManagerCustom.open_direct
  dsimp only
  split_ifs with hfailed hpcm hstatus hstatus
  · exact .closed _ (.inr rfl)
  · exact .mixed
  · exact .closed _ (.inl rfl)
  · exact .refused
  · simp only [not_or, ne_eq, not_not, Bool.not_eq_false] at hfailed
    exact .opened _ hfailed.1 hfailed.2 rfl rfl rfl rfl rfl

theorem selected_direct_output {profile : IOProfile}
    (hprofile : answers.getProfileForOutput chosen.flags = some profile) :
    Selected self request answers chosen
      (self.direct_output configs request answers chosen profile) := by
  unfold AudioPolicyManagerCustom.direct_output
  dsimp only
  split_ifs with hreuse hshare hnew
  · obtain ⟨⟨output, desc⟩, hfound⟩ := Option.isSome_iff_exists.mp hreuse.2
    rw [hfound]
    exact .reused profile output desc hprofile (List.mem_of_find?_eq_some hfound)
      (by simpa using List.find?_some hfound)
  · exact .mixed
  · exact selected_open_direct profile
  · exact .mixed

theorem selected_select :
    Selected self request answers chosen (self.select configs request answers chosen) := by
  unfold AudioPolicyManagerCustom.select
  split_ifs
  · exact .mixed
  · exact .mixed
  · split
    · exact .mixed
    · split_ifs
      · exact .mixed
      · exact selected_direct_output ‹_›

theorem selected_getOutputForDevices (configs : APMConfigHelper) (self : AudioPolicyManagerCustom)
    (request : OutputRequest) (answers : OutputAnswers) :
    self.getOutputForDevices configs request answers = (AUDIO_IO_HANDLE_NONE, self) ∨
      ∃ chosen, self.rewrite_flags configs request answers = some chosen ∧
        Selected self request answers chosen (self.getOutputForDevices configs request answers) := by
  rw [getOutputForDevices_eq]
  cases self.rewrite_flags configs request answers with
  | none => exact .inl rfl
  | some chosen => exact .inr ⟨chosen, rfl, selected_select⟩

/-- Of the fields of the manager only the open outputs and what it has told may change. -/
theorem Selected.fields {returned : audio_io_handle_t × AudioPolicyManagerCustom}
    (hselected : Selected self request answers chosen returned) :
    ∃ mOutputs told, returned.2 = { self with mOutputs := mOutputs, told := told } := by
  cases hselected with
  | mixed => exact ⟨_, _, rfl⟩
  | refused => exact ⟨_, _, rfl⟩
  | reused profile output desc => exact ⟨_, _, rfl⟩
  | closed output => exact ⟨_, _, rfl⟩
  | opened outputDesc => exact ⟨_, _, rfl⟩

theorem getOutputForDevices_fields (configs : APMConfigHelper) (self : AudioPolicyManagerCustom)
    (request : OutputRequest) (answers : OutputAnswers) :
    ∃ mOutputs told, (self.getOutputForDevices configs request answers).2 =
      { self with mOutputs := mOutputs, told := told } := by
  obtain hdown | ⟨chosen, _, hselected⟩ :=
    selected_getOutputForDevices configs self request answers
  · exact ⟨_, _, congrArg Prod.snd hdown⟩
  · exact hselected.fields

/-- The output is a direct one that the request may share: it is open for the same client with
    the same parameters, on the profile for the request. -/
structure IsShared (configs : APMConfigHelper) (before : AudioPolicyManagerCustom)
    (request : OutputRequest) (answers : OutputAnswers) (desc : SwAudioOutputDescriptor) :
    Prop where
  profile : ∃ chosen profile, before.rewrite_flags configs request answers = some chosen ∧
    answers.getProfileForOutput chosen.flags = some profile ∧ desc.mProfile = some profile
  samplingRate : desc.samplingRate = request.config.sample_rate
  format : desc.format = request.config.format
  channelMask : desc.channelMask = request.channelMask
  session : desc.mDirectClientSession = request.session

/-- The output is the one selected for a request that gets no direct output. -/
def IsMixed (configs : APMConfigHelper) (before : AudioPolicyManagerCustom)
    (request : OutputRequest) (answers : OutputAnswers) (output : audio_io_handle_t) : Prop :=
  ∃ chosen, before.rewrite_flags configs request answers = some chosen ∧
    output = before.non_direct_output request answers chosen

/-- A handle that was open is returned, and nothing is opened or closed. It is the output that
    is selected for a request without a direct one, or a direct output that is shared, which is
    counted once more, and no other is. -/
structure ReturnsOpen (configs : APMConfigHelper) (before : AudioPolicyManagerCustom)
    (request : OutputRequest) (answers : OutputAnswers) (output : audio_io_handle_t)
    (after : AudioPolicyManagerCustom) : Prop where
  wasOpen : output ∈ before.mOutputs.keys
  keys : after.mOutputs.keys = before.mOutputs.keys
  counted : IsMixed configs before request answers output ∧ after.mOutputs = before.mOutputs ∨
    ∃ desc, before.mOutputs.valueFor output = some desc ∧
      IsShared configs before request answers desc ∧
      ∀ other, after.mOutputs.valueFor other =
        if other = output then some { desc with mDirectOpenCount := desc.mDirectOpenCount + 1 }
        else before.mOutputs.valueFor other

/-- A new handle is returned, and exactly its output is added. -/
structure ReturnsNew (before : AudioPolicyManagerCustom) (request : OutputRequest)
    (output : audio_io_handle_t) (after : AudioPolicyManagerCustom) : Prop where
  isHandle : output ≠ AUDIO_IO_HANDLE_NONE
  isNew : output ∉ before.mOutputs.keys
  added : ∃ desc, (∀ other, after.mOutputs.valueFor other =
      if other = output then some desc else before.mOutputs.valueFor other) ∧
    desc.mDirectOpenCount = 1 ∧ desc.mDirectClientSession = request.session ∧
    (request.config.sample_rate ≠ 0 → desc.samplingRate = request.config.sample_rate) ∧
    (request.config.format ≠ AUDIO_FORMAT_DEFAULT → desc.format = request.config.format) ∧
    (request.channelMask ≠ 0 → desc.channelMask = request.channelMask)

/-- No handle is returned, and the open outputs are as before. -/
def ReturnsNone (before : AudioPolicyManagerCustom) (output : audio_io_handle_t)
    (after : AudioPolicyManagerCustom) : Prop :=
  output = AUDIO_IO_HANDLE_NONE ∧ after.mOutputs = before.mOutputs

/-- What was opened since is open, or has been closed again. -/
def LeaksNothing (before after : AudioPolicyManagerCustom) : Prop :=
  ∃ calls, after.told = before.told ++ calls ∧
    ∀ output, .openDescriptor output ∈ calls → output ∉ after.mOutputs.keys →
      [.openDescriptor output, .closeDescriptor output].Sublist calls

/-- What `selectOutput` answers is a handle that it is given, or none. -/
def SelectsGiven (answers : OutputAnswers) : Prop :=
  ∀ mOutputs flags, answers.selectOutput mOutputs flags = AUDIO_IO_HANDLE_NONE ∨
    answers.selectOutput mOutputs flags ∈ mOutputs.keys

/-- An output that is opened gets a handle that no open output has. -/
def OpensFresh (mOutputs : SwAudioOutputCollection) (answers : OutputAnswers) : Prop :=
  ∀ flags, (answers.open_output flags).status = NO_ERROR →
    (answers.open_output flags).output ≠ AUDIO_IO_HANDLE_NONE ∧
      (answers.open_output flags).output ∉ mOutputs.keys

theorem non_direct_output_cases (hselect : SelectsGiven answers) (self : AudioPolicyManagerCustom)
    (request : OutputRequest) (chosen : ChosenFlags) :
    self.non_direct_output request answers chosen = AUDIO_IO_HANDLE_NONE ∨
      self.non_direct_output request answers chosen ∈ self.mOutputs.keys := by
  unfold AudioPolicyManagerCustom.non_direct_output
  split
  · exact .inl rfl
  · split
    · exact hselect _ _
    · exact .inl rfl

/-- Where the open outputs are as before, the output selected for a request without a direct one
    is an open one, or none. -/
theorem returns_mixed (hselect : SelectsGiven answers)
    (hchosen : self.rewrite_flags configs request answers = some chosen)
    {after : AudioPolicyManagerCustom} (hafter : after.mOutputs = self.mOutputs) :
    ReturnsOpen configs self request answers (self.non_direct_output request answers chosen) after ∨
      ReturnsNone self (self.non_direct_output request answers chosen) after := by
  obtain hnone | hopen := non_direct_output_cases hselect self request chosen
  · exact .inr ⟨hnone, hafter⟩
  · exact .inl ⟨hopen, congrArg KeyedVector.keys hafter, .inl ⟨⟨chosen, hchosen, rfl⟩, hafter⟩⟩

theorem isShared_of_isReusable {profile : IOProfile} {desc : SwAudioOutputDescriptor}
    (hchosen : self.rewrite_flags configs request answers = some chosen)
    (hprofile : answers.getProfileForOutput chosen.flags = some profile)
    (hreusable : isReusable request profile desc = true) :
    IsShared configs self request answers desc := by
  simp only [isReusable, hasProfile, Bool.and_eq_true, decide_eq_true_eq] at hreusable
  obtain ⟨⟨⟨⟨⟨_, hsame⟩, hrate⟩, hformat⟩, hmask⟩, hsession⟩ := hreusable
  exact ⟨⟨chosen, profile, hchosen, hprofile, hsame⟩, hrate.symm, hformat.symm, hmask.symm,
    hsession.symm⟩

/-- The values of an opened output that is accepted are the requested ones. -/
theorem requested_of_isAsRequested {opened : OpenedOutput}
    (hrequested : isAsRequested request opened = true) :
    (request.config.sample_rate ≠ 0 → opened.samplingRate = request.config.sample_rate) ∧
      (request.config.format ≠ AUDIO_FORMAT_DEFAULT → opened.format = request.config.format) ∧
      (request.channelMask ≠ 0 → opened.channelMask = request.channelMask) := by
  simp only [isAsRequested, Bool.and_eq_true, Bool.or_eq_true, decide_eq_true_eq] at hrequested
  obtain ⟨⟨hrate, hformat⟩, hmask⟩ := hrequested
  exact ⟨fun h => (hrate.resolve_left h).symm, fun h => (hformat.resolve_left h).symm,
    fun h => (hmask.resolve_left h).symm⟩

theorem leaksNothing_of_told {after : AudioPolicyManagerCustom} (htold : after.told = self.told) :
    LeaksNothing self after :=
  ⟨[], by rw [htold, List.append_nil], fun _ hopened => absurd hopened List.not_mem_nil⟩

theorem mem_keys_add (mOutputs : SwAudioOutputCollection) (output : audio_io_handle_t)
    (desc : SwAudioOutputDescriptor) : output ∈ (mOutputs.add output desc).keys := by
  refine KeyedVector.mem_keys_iff.mpr ⟨desc, KeyedVector.valueFor_eq_some_iff.mp ?_⟩
  rw [KeyedVector.valueFor_add, if_pos rfl]

theorem Selected.leaksNothing {returned : audio_io_handle_t × AudioPolicyManagerCustom}
    (hselected : Selected self request answers chosen returned) :
    LeaksNothing self returned.2 := by
  cases hselected with
  | mixed => exact leaksNothing_of_told rfl
  | refused => exact leaksNothing_of_told rfl
  | reused profile output desc => exact leaksNothing_of_told rfl
  | closed output =>
    refine ⟨_, rfl, fun opened hopened _ => ?_⟩
    obtain rfl : opened = _ := by simpa using hopened
    exact List.Sublist.refl _
  | opened outputDesc =>
    refine ⟨_, rfl, fun opened hopened hclosed => ?_⟩
    obtain rfl : opened = _ := by simpa using hopened
    exact absurd (mem_keys_add self.mOutputs _ outputDesc) hclosed

theorem Selected.returns {returned : audio_io_handle_t × AudioPolicyManagerCustom}
    (hselected : Selected self request answers chosen returned)
    (hchosen : self.rewrite_flags configs request answers = some chosen)
    (hselect : SelectsGiven answers) (hopens : OpensFresh self.mOutputs answers) :
    ReturnsOpen configs self request answers returned.1 returned.2 ∨
      ReturnsNew self request returned.1 returned.2 ∨ ReturnsNone self returned.1 returned.2 := by
  cases hselected with
  | mixed => exact (returns_mixed hselect hchosen rfl).imp_right .inr
  | refused => exact .inr (.inr ⟨rfl, rfl⟩)
  | closed output houtput =>
    obtain hnone | rfl := houtput
    · exact .inr (.inr ⟨hnone, rfl⟩)
    · exact (returns_mixed hselect hchosen (tell_mOutputs _ _)).imp_right .inr
  | reused profile output desc hprofile hopen hreusable =>
    have hvalue := KeyedVector.valueFor_eq_some_iff.mpr hopen
    refine .inl ⟨KeyedVector.mem_keys_iff.mpr ⟨desc, hopen⟩, KeyedVector.keys_modify _ _,
      .inr ⟨desc, hvalue, isShared_of_isReusable hchosen hprofile hreusable, fun other => ?_⟩⟩
    rw [KeyedVector.valueFor_modify, hvalue]
    rfl
  | opened outputDesc hstatus hrequested hrate hformat hmask hcount hsession =>
    obtain ⟨hhandle, hnew⟩ := hopens chosen.flags hstatus
    have hvalues := requested_of_isAsRequested hrequested
    rw [← hrate, ← hformat, ← hmask] at hvalues
    exact .inr (.inl ⟨hhandle, hnew, outputDesc, fun other => KeyedVector.valueFor_add _ _ _, hcount,
      hsession, hvalues⟩)

/-- One call of `getOutputForDevices` returns an open output, opens one or does neither, and
    nothing that it opens is lost. -/
theorem AudioPolicyManagerCustom.outputs_booked (configs : APMConfigHelper)
    (self : AudioPolicyManagerCustom) (request : OutputRequest) (answers : OutputAnswers)
    (hselect : SelectsGiven answers) (hopens : OpensFresh self.mOutputs answers) :
    let returned := self.getOutputForDevices configs request answers
    (ReturnsOpen configs self request answers returned.1 returned.2 ∨
      ReturnsNew self request returned.1 returned.2 ∨
      ReturnsNone self returned.1 returned.2) ∧
    LeaksNothing self returned.2 := by
  intro returned
  obtain hdown | ⟨chosen, hchosen, hselected⟩ :=
    selected_getOutputForDevices configs self request answers
  · have hreturned : returned = (AUDIO_IO_HANDLE_NONE, self) := hdown
    rw [hreturned]
    exact ⟨.inr (.inr ⟨rfl, rfl⟩), leaksNothing_of_told rfl⟩
  · exact ⟨hselected.returns hchosen hselect hopens, hselected.leaksNothing⟩

/-- A request for music to be offloaded, which the HAL opens an output for. -/
def offloadRequest : OutputRequest where
  devices := []
  session := 7
  stream := AUDIO_STREAM_MUSIC
  config := ⟨44100, 0x01000000, 3, AUDIO_USAGE_MEDIA⟩
  flags := AUDIO_OUTPUT_FLAG_COMPRESS_OFFLOAD
  forceMutingHaptic := false

def openingAnswers : OutputAnswers where
  isStateInCall := fun state => state = .AUDIO_MODE_IN_CALL || state = .AUDIO_MODE_IN_COMMUNICATION
  voip_out_stream_count := none
  voip_sample_rate := none
  vr_audio_mode_on := none
  availablePrimaryModuleInputDevices := []
  nonOffloadable := false
  audio_channel_count_from_out_mask := fun _ => 2
  getProfileForOutput := fun _ => some ⟨"compressed_offload", AUDIO_OUTPUT_FLAG_DIRECT⟩
  canOpenNewIo := true
  open_output := fun flags => ⟨NO_ERROR, 29, flags, 44100, 0x01000000, 3⟩
  selectOutput := fun _ _ => AUDIO_IO_HANDLE_NONE

theorem offload_output_booked :
    let self := AudioPolicyManagerCustom.init .default 0
    let returned := self.getOutputForDevices .default offloadRequest openingAnswers
    (ReturnsOpen .default self offloadRequest openingAnswers returned.1 returned.2 ∨
      ReturnsNew self offloadRequest returned.1 returned.2 ∨
      ReturnsNone self returned.1 returned.2) ∧
    LeaksNothing self returned.2 :=
  AudioPolicyManagerCustom.outputs_booked .default (.init .default 0) offloadRequest openingAnswers
    (fun _ _ => .inl rfl)
    fun _ _ => ⟨by simp [openingAnswers, AUDIO_IO_HANDLE_NONE], List.not_mem_nil⟩

end policy_hal
