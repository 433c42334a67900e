import OnePlus7Pro.Policy.DirectOutputs
import Mathlib.Data.List.Induction

namespace policy_hal

variable {configs : APMConfigHelper} {self : AudioPolicyManagerCustom}

/-- What may be asked of the manager, with what others answer meanwhile. -/
inductive CallEvent where
  | setPhoneState (call : PhoneStateCall)
  | getOutputForDevices (request : OutputRequest) (answers : OutputAnswers)
  | getInputForAttr (request : InputRequest) (base : BaseInput)

def AudioPolicyManagerCustom.take (configs : APMConfigHelper) (self : AudioPolicyManagerCustom) :
    CallEvent → AudioPolicyManagerCustom
  | .setPhoneState call => self.receive configs call
  | .getOutputForDevices request answers => (self.getOutputForDevices configs request answers).2
  | .getInputForAttr request base => (self.getInputForAttr configs request base).2

/-- The state that an event sets, where the engine accepts it. -/
def CallEvent.acceptedState : CallEvent → Option audio_mode_t
  | .setPhoneState call => if call.answers.accepted then some call.state else none
  | _ => none

/-- The last accepted state is `AUDIO_MODE_IN_CALL`, or it is `AUDIO_MODE_IN_COMMUNICATION`
    and the one before it is `AUDIO_MODE_IN_CALL`. -/
def DuringCall (events : List CallEvent) : Prop :=
  let states := events.filterMap CallEvent.acceptedState
  states.getLast? = some .AUDIO_MODE_IN_CALL ∨
    states.getLast? = some .AUDIO_MODE_IN_COMMUNICATION ∧
      states.dropLast.getLast? = some .AUDIO_MODE_IN_CALL

/-- The base class is not asked, and nothing changes. -/
def Refuses (configs : APMConfigHelper) (self : AudioPolicyManagerCustom)
    (request : InputRequest) : Prop :=
  ∀ base, self.getInputForAttr configs request base = (NO_INIT, self)

/-- The voice call is known to the requests that it restricts. -/
def CallKnown (self : AudioPolicyManagerCustom) : Prop :=
  self.inVoiceCall = true → self.mvoice_call_state ≠ 0

theorem callKnown_receive (hconc : configs.isVoiceConcEnabled = true) (hself : CallKnown self)
    (call : PhoneStateCall) : CallKnown (self.receive configs call) := by
  by_cases haccepted : call.answers.accepted
  · have hphone := receive_phoneState configs self call
    have hprevious := receive_mPrevPhoneState configs self call
    rw [if_pos haccepted] at hphone hprevious
    intro hcall
    rw [AudioPolicyManagerCustom.inVoiceCall, hphone, hprevious] at hcall
    have hstate : call.state ≠ .AUDIO_MODE_NORMAL := fun h => by simp [h] at hcall
    rw [receive_mvoice_call_state hconc haccepted hstate]
    split_ifs with hbegins
    · rw [← hbegins.2]
      decide
    -- the call has gone on from the state before, which knew of it
    · refine hself ?_
      cases hold : self.mEngine.phoneState <;> cases hnew : call.state <;>
        simp_all [AudioPolicyManagerCustom.inVoiceCall, audio_mode_t.value]
  · unfold AudioPolicyManagerCustom.receive AudioPolicyManagerCustom.setPhoneState
    rwa [if_neg haccepted]

/-- The fields of a manager that tell of the voice call. -/
def AudioPolicyManagerCustom.callFields (self : AudioPolicyManagerCustom) :
    audio_mode_t × Int × Int :=
  (self.mEngine.phoneState, self.mPrevPhoneState, self.mvoice_call_state)

theorem callKnown_of_callFields {other : AudioPolicyManagerCustom}
    (hfields : other.callFields = self.callFields) (hself : CallKnown self) : CallKnown other := by
  simp only [AudioPolicyManagerCustom.callFields, Prod.mk.injEq] at hfields
  obtain ⟨hphone, hprevious, hcall⟩ := hfields
  rw [CallKnown, AudioPolicyManagerCustom.inVoiceCall] at hself ⊢
  rwa [hphone, hprevious, hcall]

theorem callFields_getOutputForDevices (request : OutputRequest) (answers : OutputAnswers) :
    (self.getOutputForDevices configs request answers).2.callFields = self.callFields := by
  obtain ⟨mOutputs, told, hfields⟩ := getOutputForDevices_fields configs self request answers
  rw [hfields]
  rfl

theorem callFields_getInputForAttr (request : InputRequest) (base : BaseInput) :
    (self.getInputForAttr configs request base).2.callFields = self.callFields := by
  unfold AudioPolicyManagerCustom.getInputForAttr
  split_ifs <;> rfl

/-- What the manager has kept of the events so far. -/
structure Remembers (events : List CallEvent) (manager : AudioPolicyManagerCustom) : Prop where
  phoneState : manager.mEngine.phoneState =
    (events.filterMap CallEvent.acceptedState).getLast?.getD .AUDIO_MODE_NORMAL
  mPrevPhoneState : manager.mPrevPhoneState =
    ((events.filterMap CallEvent.acceptedState).dropLast.getLast?.getD .AUDIO_MODE_NORMAL).value
  callKnown : CallKnown manager

theorem remembers_of_callFields {events : List CallEvent} {event : CallEvent}
    {other : AudioPolicyManagerCustom} (hevent : event.acceptedState = none)
    (hfields : other.callFields = self.callFields) (hself : Remembers events self) :
    Remembers (events ++ [event]) other := by
  have hstates : (events ++ [event]).filterMap CallEvent.acceptedState =
      events.filterMap CallEvent.acceptedState := by
    simp [hevent]
  have hknown := callKnown_of_callFields hfields hself.callKnown
  simp only [AudioPolicyManagerCustom.callFields, Prod.mk.injEq] at hfields
  constructor
  · rw [hstates, hfields.1, hself.phoneState]
  · rw [hstates, hfields.2.1, hself.mPrevPhoneState]
  · exact hknown

theorem remembers_take (hconc : configs.isVoiceConcEnabled = true) {events : List CallEvent}
    (hself : Remembers events self) (event : CallEvent) :
    Remembers (events ++ [event]) (self.take configs event) := by
  cases event with
  | setPhoneState call =>
    have hphone := receive_phoneState configs self call
    have hprevious := receive_mPrevPhoneState configs self call
    have hknown := callKnown_receive hconc hself.callKnown call
    cases haccepted : call.answers.accepted with
    | true =>
      have hstates : (events ++ [CallEvent.setPhoneState call]).filterMap CallEvent.acceptedState =
          events.filterMap CallEvent.acceptedState ++ [call.state] := by
        simp [CallEvent.acceptedState, haccepted]
      rw [haccepted] at hphone hprevious
      constructor
      · rw [hstates, List.getLast?_concat]
        exact hphone
      · rw [hstates, List.dropLast_concat, ← hself.phoneState]
        exact hprevious
      · exact hknown
    | false =>
      have hfields : (self.receive configs call).callFields = self.callFields := by
        unfold AudioPolicyManagerCustom.receive AudioPolicyManagerCustom.setPhoneState
        rw [if_neg (by simp [haccepted])]
      exact remembers_of_callFields (by simp [CallEvent.acceptedState, haccepted]) hfields hself
  | getOutputForDevices request answers =>
    exact remembers_of_callFields rfl (callFields_getOutputForDevices request answers) hself
  | getInputForAttr request base =>
    exact remembers_of_callFields rfl (callFields_getInputForAttr request base) hself

theorem remembers_run (hconc : configs.isVoiceConcEnabled = true) (mvoice_call_state : Int)
    (events : List CallEvent) :
    Remembers events (events.foldl (AudioPolicyManagerCustom.take configs)
      (.init configs mvoice_call_state)) := by
  induction events using List.reverseRecOn with
  | nil => exact ⟨rfl, rfl, fun h => by simp [AudioPolicyManagerCustom.inVoiceCall,
      AudioPolicyManagerCustom.init] at h⟩
  | append_singleton events event ih =>
    rw [List.foldl_append]
    exact remembers_take hconc ih event

theorem inVoiceCall_of_duringCall {events : List CallEvent} (hself : Remembers events self)
    (hcall : DuringCall events) : self.inVoiceCall = true := by
  rw [AudioPolicyManagerCustom.inVoiceCall, hself.phoneState, hself.mPrevPhoneState]
  obtain hlast | ⟨hlast, hprevious⟩ := hcall
  · simp [hlast]
  · simp [hlast, hprevious]

/-- Virtual reality does not take the flag for VoIP away. -/
theorem vr_flags_voip (answers : OutputAnswers) (flags : audio_output_flags_t) :
    hasFlag AUDIO_OUTPUT_FLAG_VOIP_RX (vr_flags answers flags) =
      hasFlag AUDIO_OUTPUT_FLAG_VOIP_RX flags := by
  unfold vr_flags
  split_ifs
  · have hkept : AUDIO_OUTPUT_FLAG_VOIP_RX &&&
        ~~~(AUDIO_OUTPUT_FLAG_FAST ||| AUDIO_OUTPUT_FLAG_RAW) = AUDIO_OUTPUT_FLAG_VOIP_RX := by
      decide
    rw [hasFlag, hasFlag, BitVec.and_comm flags, ← BitVec.and_assoc, hkept]
  · rfl

theorem voice_conc_flags_voip (hcall : self.inVoiceCall = true) (hknown : CallKnown self)
    (hvoip : configs.isVoiceVOIPConcDisabled = true) (stream : audio_stream_type_t)
    {flags : audio_output_flags_t} (hflags : hasFlag AUDIO_OUTPUT_FLAG_VOIP_RX flags = true) :
    self.voice_conc_flags configs stream flags = none := by
  simp [AudioPolicyManagerCustom.voice_conc_flags, hcall, hknown hcall, hvoip, hflags]

/-- No output is given for VoIP beside a voice call. -/
theorem getOutputForDevices_voip (hconc : configs.isVoiceConcEnabled = true)
    (hcall : self.inVoiceCall = true) (hknown : CallKnown self)
    (hvoip : configs.isVoiceVOIPConcDisabled = true) {request : OutputRequest}
    {answers : OutputAnswers} (hflags : hasFlag AUDIO_OUTPUT_FLAG_VOIP_RX
      (voip_override configs self.mEngine.phoneState request answers) = true) :
    self.getOutputForDevices configs request answers = (AUDIO_IO_HANDLE_NONE, self) := by
  unfold AudioPolicyManagerCustom.getOutputForDevices
  rw [← vr_flags_voip answers] at hflags
  dsimp only
  rw [if_pos hconc, voice_conc_flags_voip hcall hknown hvoip request.stream hflags]
  split_ifs <;> rfl

theorem refuses_iff {request : InputRequest} (hconc : configs.isVoiceConcEnabled = true) :
    Refuses configs self request ↔ self.blocks_input configs request.source = true := by
  constructor
  · intro hrefuses
    by_contra hpasses
    have hanswer := hrefuses fun manager => (NO_ERROR, manager.mInputs)
    rw [AudioPolicyManagerCustom.getInputForAttr,
      if_neg (by simpa [hconc] using hpasses)] at hanswer
    have hstatus : NO_ERROR = NO_INIT := congrArg Prod.fst hanswer
    exact absurd hstatus (by decide)
  · intro hblocks base
    rw [AudioPolicyManagerCustom.getInputForAttr, if_pos (by simp [hconc, hblocks])]

theorem blocks_input_of_record (hcall : self.inVoiceCall = true) (hknown : CallKnown self)
    (hrecord : configs.isVoiceRecConcDisabled = true) (inputSource : audio_source_t) :
    self.blocks_input configs inputSource = true ↔
      inputSource ≠ AUDIO_SOURCE_VOICE_UPLINK ∧ inputSource ≠ AUDIO_SOURCE_VOICE_DOWNLINK ∧
      inputSource ≠ AUDIO_SOURCE_VOICE_CALL ∧
      (inputSource = AUDIO_SOURCE_VOICE_COMMUNICATION →
        configs.isVoiceVOIPConcDisabled = true) := by
  rw [AudioPolicyManagerCustom.blocks_input, if_pos ⟨hrecord, hknown hcall⟩, if_pos hcall]
  by_cases hvoice : inputSource = AUDIO_SOURCE_VOICE_UPLINK ∨
      inputSource = AUDIO_SOURCE_VOICE_DOWNLINK ∨ inputSource = AUDIO_SOURCE_VOICE_CALL
  · rw [if_pos hvoice]
    simp only [Bool.false_eq_true, false_iff]
    rintro ⟨huplink, hdownlink, hvoicecall, _⟩
    exact hvoice.elim huplink fun h => h.elim hdownlink hvoicecall
  · rw [if_neg hvoice]
    push Not at hvoice
    by_cases hcomm : inputSource = AUDIO_SOURCE_VOICE_COMMUNICATION
    · rw [if_pos hcomm]
      exact ⟨fun h => ⟨hvoice.1, hvoice.2.1, hvoice.2.2, fun _ => h⟩, fun h => h.2.2.2 hcomm⟩
    · simp [hcomm, hvoice]

theorem blocks_input_of_voip (hcall : self.inVoiceCall = true) (hknown : CallKnown self)
    (hrecord : configs.isVoiceRecConcDisabled = false)
    (hvoip : configs.isVoiceVOIPConcDisabled = true) (inputSource : audio_source_t) :
    self.blocks_input configs inputSource = true ↔
      inputSource = AUDIO_SOURCE_VOICE_COMMUNICATION := by
  simp [AudioPolicyManagerCustom.blocks_input, hcall, hknown hcall, hrecord, hvoip]

/-- After any run of calls and requests, during a voice call the requests that the
    configuration restricts are refused, and exactly those for an input. -/
theorem call_guard (configs : APMConfigHelper) (mvoice_call_state : Int) (events : List CallEvent)
    (hconc : configs.isVoiceConcEnabled = true) (hduring : DuringCall events) :
    let self := events.foldl (AudioPolicyManagerCustom.take configs)
      (.init configs mvoice_call_state)
    (configs.isVoiceVOIPConcDisabled = true → ∀ request answers,
      hasFlag AUDIO_OUTPUT_FLAG_VOIP_RX
        (voip_override configs self.mEngine.phoneState request answers) = true →
      (self.getOutputForDevices configs request answers).1 = AUDIO_IO_HANDLE_NONE) ∧
    (configs.isVoiceRecConcDisabled = true → ∀ request, Refuses configs self request ↔
      request.source ≠ AUDIO_SOURCE_VOICE_UPLINK ∧ request.source ≠ AUDIO_SOURCE_VOICE_DOWNLINK ∧
      request.source ≠ AUDIO_SOURCE_VOICE_CALL ∧
      (request.source = AUDIO_SOURCE_VOICE_COMMUNICATION →
        configs.isVoiceVOIPConcDisabled = true)) ∧
    (configs.isVoiceRecConcDisabled = false → configs.isVoiceVOIPConcDisabled = true →
      ∀ request, Refuses configs self request ↔
        request.source = AUDIO_SOURCE_VOICE_COMMUNICATION) := by
  intro self
  have hself : Remembers events self := remembers_run hconc mvoice_call_state events
  have hcall := inVoiceCall_of_duringCall hself hduring
  have hknown := hself.callKnown
  refine ⟨fun hvoip request answers hflags => ?_, fun hrecord request => ?_,
    fun hrecord hvoip request => ?_⟩
  · rw [getOutputForDevices_voip hconc hcall hknown hvoip hflags]
  · rw [refuses_iff hconc, blocks_input_of_record hcall hknown hrecord]
  · rw [refuses_iff hconc, blocks_input_of_voip hcall hknown hrecord hvoip]

/-- The voice concurrency feature with recording and VoIP restricted. -/
def guardedConfigs : APMConfigHelper :=
  { APMConfigHelper.default with
    isVoiceConcEnabled := true, isVoiceRecConcDisabled := true, isVoiceVOIPConcDisabled := true }

/-- A voice call over which an application begins a call of its own. -/
def overlaidCall : List CallEvent :=
  [.setPhoneState ⟨.AUDIO_MODE_IN_CALL, .accepting id⟩,
    .setPhoneState ⟨.AUDIO_MODE_IN_COMMUNICATION, .accepting id⟩]

theorem call_guard_overlaidCall :
    let self := overlaidCall.foldl (AudioPolicyManagerCustom.take guardedConfigs)
      (.init guardedConfigs 7)
    (guardedConfigs.isVoiceVOIPConcDisabled = true → ∀ request answers,
      hasFlag AUDIO_OUTPUT_FLAG_VOIP_RX
        (voip_override guardedConfigs self.mEngine.phoneState request answers) = true →
      (self.getOutputForDevices guardedConfigs request answers).1 = AUDIO_IO_HANDLE_NONE) ∧
    (guardedConfigs.isVoiceRecConcDisabled = true → ∀ request,
      Refuses guardedConfigs self request ↔
      request.source ≠ AUDIO_SOURCE_VOICE_UPLINK ∧ request.source ≠ AUDIO_SOURCE_VOICE_DOWNLINK ∧
      request.source ≠ AUDIO_SOURCE_VOICE_CALL ∧
      (request.source = AUDIO_SOURCE_VOICE_COMMUNICATION →
        guardedConfigs.isVoiceVOIPConcDisabled = true)) ∧
    (guardedConfigs.isVoiceRecConcDisabled = false →
      guardedConfigs.isVoiceVOIPConcDisabled = true →
      ∀ request, Refuses guardedConfigs self request ↔
        request.source = AUDIO_SOURCE_VOICE_COMMUNICATION) :=
  call_guard guardedConfigs 7 overlaidCall rfl (Or.inr ⟨rfl, rfl⟩)

end policy_hal
