import OnePlus7Pro.Vibrator.Discovery

open effects runs

namespace vibrator

/-- What the service asks of the kernel: an operation of the driver, the write of a gain
    event, or the write of a file of the LED. -/
inductive Issued where
  | driver (operation : Operation)
  | gain (value : Int) (granted : Bool)
  | led (file value : String)
  deriving DecidableEq

inductive ServiceStatus where
  | ok
  | EX_SERVICE_SPECIFIC
  | EX_UNSUPPORTED_OPERATION
  | EX_ILLEGAL_ARGUMENT
  deriving DecidableEq

/-- The service with the features of its force-feedback device. -/
structure VibratorService extends Vibrator where
  mSupportGain : Bool
  mSupportEffects : Bool
  mSupportExternalControl : Bool
  mInExternalControl : Bool

/-- The service that is constructed over what has been found. -/
def VibratorService.init (devices : Option InputDevices) (mDetected : Bool) : VibratorService :=
  let found := InputFFDevice.discover devices
  { ff := .init found.mVibraFd
    ledVib := ⟨mDetected⟩
    mSupportGain := found.mSupportGain
    mSupportEffects := found.mSupportEffects
    mSupportExternalControl := found.mSupportExternalControl
    mInExternalControl := false }

/-- What a call comes to: its status, what it stores for the caller, and what it has asked
    of the kernel. -/
structure Served where
  status : ServiceStatus
  result : Option Int
  issued : List Issued
  self : VibratorService

def CAP_ON_CALLBACK : Nat := 1
def CAP_PERFORM_CALLBACK : Nat := 2
def CAP_AMPLITUDE_CONTROL : Nat := 4
def CAP_EXTERNAL_CONTROL : Nat := 8

def VibratorService.getCapabilities (self : VibratorService) : Nat :=
  if self.ledVib.mDetected then CAP_ON_CALLBACK ||| CAP_PERFORM_CALLBACK
  else
    let capabilities := CAP_ON_CALLBACK
    let capabilities := if self.mSupportGain then capabilities ||| CAP_AMPLITUDE_CONTROL else capabilities
    let capabilities := if self.mSupportEffects then capabilities ||| CAP_PERFORM_CALLBACK else capabilities
    if self.mSupportExternalControl then capabilities ||| CAP_EXTERNAL_CONTROL else capabilities

/-- The files that `LedVibratorDevice::on` writes. -/
def LedVibratorDevice.onFiles (timeoutMs : BitVec 32) (write_value : WriteValue) : List Issued :=
  .led (LED_DEVICE ++ "/state") "1" ::
    if write_value (LED_DEVICE ++ "/state") "1" < 0 then []
    else
      .led (LED_DEVICE ++ "/duration") (toString timeoutMs.toNat ++ "\n") ::
        if write_value (LED_DEVICE ++ "/duration") (toString timeoutMs.toNat ++ "\n") < 0 then []
        else [.led (LED_DEVICE ++ "/activate") "1"]

def LedVibratorDevice.off (write_value : WriteValue) : Int := write_value (LED_DEVICE ++ "/activate") "0"

def VibratorService.off (self : VibratorService) (answers : Answers) (write_value : WriteValue) : Served :=
  let (ret, issued, self) :=
    if self.ledVib.mDetected then
      (LedVibratorDevice.off write_value, [Issued.led (LED_DEVICE ++ "/activate") "0"], self)
    else
      let outcome := self.ff.off answers
      (outcome.ret, (self.ff.tracedPlay INVALID_VALUE 0#32 false answers).1.map .driver,
        { self with ff := outcome.self })
  if ret ≠ 0 then ⟨.EX_SERVICE_SPECIFIC, none, issued, self⟩ else ⟨.ok, none, issued, self⟩

/-- `hasCallback` tells whether a callback is passed. -/
def VibratorService.on (self : VibratorService) (timeoutMs : BitVec 32) (hasCallback : Bool) (answers : Answers)
    (write_value : WriteValue) : Served :=
  let switched := self.toVibrator.on timeoutMs hasCallback answers write_value
  let issued :=
    if self.ledVib.mDetected then LedVibratorDevice.onFiles timeoutMs write_value
    else (self.toVibrator.onOperations timeoutMs answers).map .driver
  let self := { self with toVibrator := switched.self }
  match switched.status with
  | .ok => ⟨.ok, none, issued, self⟩
  | .EX_SERVICE_SPECIFIC => ⟨.EX_SERVICE_SPECIFIC, none, issued, self⟩

/-- `Effect::CLICK` and `Effect::HEAVY_CLICK`. -/
def CLICK : Int := 0
def HEAVY_CLICK : Int := 5

def VibratorService.perform (self : VibratorService) (effect : Int) (es : EffectStrength) (answers : Answers) :
    Served :=
  if self.ledVib.mDetected then ⟨.EX_UNSUPPORTED_OPERATION, none, [], self⟩
  else if effect < CLICK ∨ effect > HEAVY_CLICK then ⟨.EX_UNSUPPORTED_OPERATION, none, [], self⟩
  else
    match es.magnitude with
    | none => ⟨.EX_UNSUPPORTED_OPERATION, none, [], self⟩
    | some magnitude =>
      let outcome := self.ff.playEffect effect es answers
      let issued := ({ self.ff with mCurrMagnitude := magnitude }.tracedPlay effect
        (BitVec.ofInt 32 INVALID_VALUE) true answers).1.map Issued.driver
      let self := { self with ff := outcome.self }
      if outcome.ret ≠ 0 then ⟨.EX_SERVICE_SPECIFIC, none, issued, self⟩
      -- what is stored for the caller is what the device stored in `playLengthMs`
      else ⟨.ok, outcome.playLengthMs, issued, self⟩

/-- The amplitude comes scaled to a byte, or as `none` where it is not above 0 and at most 1. -/
def VibratorService.setAmplitude (self : VibratorService) (amplitude : Option (BitVec 8)) (answers : Answers) :
    Served :=
  if self.ledVib.mDetected then ⟨.EX_UNSUPPORTED_OPERATION, none, [], self⟩
  else
    match amplitude with
    | none => ⟨.EX_ILLEGAL_ARGUMENT, none, [], self⟩
    | some tmp =>
      if self.mInExternalControl then ⟨.EX_UNSUPPORTED_OPERATION, none, [], self⟩
      else
        let outcome := self.ff.setAmplitude tmp answers
        let issued :=
          if self.ff.mVibraFd = INVALID_VALUE then []
          else [Issued.gain ((tmp.toNat * (STRONG_MAGNITUDE - LIGHT_MAGNITUDE)).tdiv 255 + LIGHT_MAGNITUDE)
            answers.write]
        let self := { self with ff := outcome.self }
        if outcome.ret ≠ 0 then ⟨.EX_SERVICE_SPECIFIC, none, issued, self⟩ else ⟨.ok, none, issued, self⟩

def VibratorService.setExternalControl (self : VibratorService) (enabled : Bool) : Served :=
  if self.ledVib.mDetected then ⟨.EX_UNSUPPORTED_OPERATION, none, [], self⟩
  else if !self.mSupportExternalControl then ⟨.EX_UNSUPPORTED_OPERATION, none, [], self⟩
  else ⟨.ok, none, [], { self with mInExternalControl := enabled }⟩

inductive ServiceRequest where
  | getCapabilities
  | off
  | on (timeoutMs : BitVec 32) (hasCallback : Bool)
  | perform (effect : Int) (es : EffectStrength)
  | setAmplitude (amplitude : Option (BitVec 8))
  | setExternalControl (enabled : Bool)

/-- A request with what the driver and the files of the LED answer to it. -/
structure ServiceCall where
  request : ServiceRequest
  answers : Answers
  write_value : WriteValue

def VibratorService.serve (self : VibratorService) (call : ServiceCall) : Served :=
  match call.request with
  | .getCapabilities => ⟨.ok, some self.getCapabilities, [], self⟩
  | .off => self.off call.answers call.write_value
  | .on timeoutMs hasCallback => self.on timeoutMs hasCallback call.answers call.write_value
  | .perform effect es => self.perform effect es call.answers
  | .setAmplitude amplitude => self.setAmplitude amplitude call.answers
  | .setExternalControl enabled => self.setExternalControl enabled

def VibratorService.next (self : VibratorService) (call : ServiceCall) : VibratorService :=
  (self.serve call).self

/-- What the service may ask for: nothing of the driver where there is a LED or no device,
    effects and gains between the light and the strong magnitude, predefined effects of the
    numbers that it supports, and no gain while the vibrator is controlled from outside. -/
def Issued.Allowed (self : VibratorService) : Issued → Prop
  | .driver operation =>
    self.ledVib.mDetected = false ∧ self.ff.mVibraFd ≠ INVALID_VALUE ∧
      ∀ effect id, operation = .EVIOCSFF effect id →
        LIGHT_MAGNITUDE ≤ effect.magnitude ∧ effect.magnitude ≤ STRONG_MAGNITUDE ∧
          (effect.type = .FF_PERIODIC → ∃ number : Int, CLICK ≤ number ∧ number ≤ HEAVY_CLICK ∧
            effect.custom_data = BitVec.ofInt 16 number)
  | .gain value _ =>
    self.ledVib.mDetected = false ∧ self.ff.mVibraFd ≠ INVALID_VALUE ∧
      LIGHT_MAGNITUDE ≤ value ∧ value ≤ STRONG_MAGNITUDE ∧ self.mInExternalControl = false
  | .led _ _ => self.ledVib.mDetected = true

/-- The magnitude stays between the light and the strong one, and the vibrator is controlled
    from outside only where it supports that. -/
structure VibratorService.Steady (service : VibratorService) : Prop where
  light : LIGHT_MAGNITUDE ≤ service.ff.mCurrMagnitude
  strong : service.ff.mCurrMagnitude ≤ STRONG_MAGNITUDE
  control : service.mInExternalControl = true → service.mSupportExternalControl = true

theorem effect_magnitude (device : InputFFDevice) (effectId : Int) (timeoutMs : BitVec 32) :
    (device.effect effectId timeoutMs).magnitude = device.mCurrMagnitude := by
  unfold InputFFDevice.effect
  split <;> rfl

theorem start_magnitude (device : InputFFDevice) (effectId : Int) (timeoutMs : BitVec 32) (wantsLength : Bool)
    (answers : Answers) :
    (device.start effectId timeoutMs wantsLength answers).self.mCurrMagnitude = device.mCurrMagnitude := by
  unfold InputFFDevice.start
  cases answers.upload with
  | none => rfl
  | some upload =>
    dsimp only
    split_ifs <;> rfl

theorem play_magnitude (device : InputFFDevice) (effectId : Int) (timeoutMs : BitVec 32) (wantsLength : Bool)
    (answers : Answers) :
    (device.play effectId timeoutMs wantsLength answers).self.mCurrMagnitude = device.mCurrMagnitude := by
  unfold InputFFDevice.play
  split_ifs <;> first | rfl | exact start_magnitude _ _ _ _ _

/-- Every upload that `start` issues is of the effect of the device. -/
theorem mem_tracedStart {device : InputFFDevice} {effectId : Int} {timeoutMs : BitVec 32} {wantsLength : Bool}
    {answers : Answers} {effect : ff_effect} {id : Option Int}
    (hmem : .EVIOCSFF effect id ∈ (device.tracedStart effectId timeoutMs wantsLength answers).1) :
    effect = device.effect effectId timeoutMs := by
  unfold InputFFDevice.tracedStart at hmem
  cases hupload : answers.upload with
  | none =>
    rw [hupload] at hmem
    simp only [List.mem_singleton, Operation.EVIOCSFF.injEq] at hmem
    exact hmem.1
  | some upload =>
    rw [hupload] at hmem
    dsimp only at hmem
    split_ifs at hmem <;> simp at hmem <;> exact hmem.1

/-- `play` issues nothing through a device that is not there, and uploads but its effect. -/
theorem mem_tracedPlay {device : InputFFDevice} {effectId : Int} {timeoutMs : BitVec 32} {wantsLength : Bool}
    {answers : Answers} {operation : Operation}
    (hmem : operation ∈ (device.tracedPlay effectId timeoutMs wantsLength answers).1) :
    device.mVibraFd ≠ INVALID_VALUE ∧ ∀ effect id, operation = .EVIOCSFF effect id →
      effect = device.effect effectId timeoutMs ∧ timeoutMs ≠ 0#32 := by
  unfold InputFFDevice.tracedPlay at hmem
  by_cases hopen : device.mVibraFd = INVALID_VALUE
  · simp [hopen] at hmem
  refine ⟨hopen, ?_⟩
  rintro effect id rfl
  rw [if_neg hopen] at hmem
  by_cases htimeout : timeoutMs ≠ 0#32
  · refine ⟨?_, htimeout⟩
    rw [if_pos htimeout] at hmem
    split_ifs at hmem
    · simp only [List.mem_cons, reduceCtorEq, false_or] at hmem
      have heffect := mem_tracedStart hmem
      exact heffect
    · simp at hmem
    · exact mem_tracedStart hmem
  · rw [if_neg htimeout] at hmem
    split_ifs at hmem <;> simp at hmem

/-- What `play` issues is allowed where its number is one that the service supports. -/
theorem allowed_tracedPlay {self : VibratorService} {device : InputFFDevice} {effectId : Int}
    {timeoutMs : BitVec 32} {wantsLength : Bool} {answers : Answers} {issued : Issued}
    (hled : self.ledVib.mDetected = false) (hfd : device.mVibraFd = self.ff.mVibraFd)
    (hlight : LIGHT_MAGNITUDE ≤ device.mCurrMagnitude) (hstrong : device.mCurrMagnitude ≤ STRONG_MAGNITUDE)
    (hnumber : effectId = INVALID_VALUE ∨ (CLICK ≤ effectId ∧ effectId ≤ HEAVY_CLICK))
    (hmem : issued ∈ (device.tracedPlay effectId timeoutMs wantsLength answers).1.map Issued.driver) :
    issued.Allowed self := by
  obtain ⟨operation, hoperation, rfl⟩ := List.mem_map.mp hmem
  obtain ⟨hopen, heffect⟩ := mem_tracedPlay hoperation
  refine ⟨hled, hfd ▸ hopen, ?_⟩
  rintro effect id rfl
  obtain ⟨rfl, -⟩ := heffect effect id rfl
  rw [effect_magnitude]
  refine ⟨hlight, hstrong, fun htype => ?_⟩
  unfold InputFFDevice.effect at htype ⊢
  by_cases hid : effectId = INVALID_VALUE
  · rw [if_neg (not_not.mpr hid)] at htype
    cases htype
  · obtain ⟨hlow, hhigh⟩ := hnumber.resolve_left hid
    exact ⟨effectId, hlow, hhigh, by rw [if_pos hid]⟩

theorem magnitude_bounds {es : EffectStrength} {magnitude : Int} (h : es.magnitude = some magnitude) :
    LIGHT_MAGNITUDE ≤ magnitude ∧ magnitude ≤ STRONG_MAGNITUDE := by
  cases es <;> cases h <;> decide

/-- The gain of an amplitude lies between the light and the strong magnitude. -/
theorem gain_bounds (tmp : BitVec 8) :
    LIGHT_MAGNITUDE ≤ (tmp.toNat * (STRONG_MAGNITUDE - LIGHT_MAGNITUDE)).tdiv 255 + LIGHT_MAGNITUDE ∧
      (tmp.toNat * (STRONG_MAGNITUDE - LIGHT_MAGNITUDE)).tdiv 255 + LIGHT_MAGNITUDE ≤ STRONG_MAGNITUDE := by
  have hlt : tmp.toNat < 256 := tmp.isLt
  have hrange : STRONG_MAGNITUDE - LIGHT_MAGNITUDE = 0x4000 := by decide
  rw [hrange, Int.tdiv_eq_ediv_of_nonneg (by omega)]
  simp only [LIGHT_MAGNITUDE, STRONG_MAGNITUDE]
  omega

/-- The service takes requests to be controlled from outside. -/
def VibratorService.controllable (self : VibratorService) : Bool :=
  !self.ledVib.mDetected && self.mSupportExternalControl

/-- What a request makes of the control from outside of a service that takes such requests. -/
def ServiceRequest.control (inControl : Bool) : ServiceRequest → Bool
  | .setExternalControl enabled => enabled
  | _ => inControl

/-- A call has asked for what it may, and leaves a steady service with the same features,
    controlled from outside or not. -/
structure Served.Regular (service : VibratorService) (inControl : Bool) (served : Served) : Prop where
  allowed : ∀ issued ∈ served.issued, issued.Allowed service
  steady : served.self.Steady
  capabilities : served.self.getCapabilities = service.getCapabilities
  controllable : served.self.controllable = service.controllable
  control : served.self.mInExternalControl = inControl

section regular

variable {self : VibratorService} (hsteady : self.Steady)

include hsteady

/-- A call that asks for nothing and changes nothing. -/
theorem regular_silent (status : ServiceStatus) (result : Option Int) :
    Served.Regular self self.mInExternalControl ⟨status, result, [], self⟩ :=
  ⟨fun _ hmem => (List.not_mem_nil hmem).elim, hsteady, rfl, rfl, rfl⟩

/-- A call that plays something on a steady device of the service. -/
theorem regular_played (hled : self.ledVib.mDetected = false) (device : InputFFDevice) {effectId : Int}
    {timeoutMs : BitVec 32} {wantsLength : Bool} {answers : Answers} (status : ServiceStatus) (result : Option Int)
    (hfd : device.mVibraFd = self.ff.mVibraFd) (hlight : LIGHT_MAGNITUDE ≤ device.mCurrMagnitude)
    (hstrong : device.mCurrMagnitude ≤ STRONG_MAGNITUDE)
    (hnumber : effectId = INVALID_VALUE ∨ (CLICK ≤ effectId ∧ effectId ≤ HEAVY_CLICK)) :
    Served.Regular self self.mInExternalControl ⟨status, result,
      (device.tracedPlay effectId timeoutMs wantsLength answers).1.map .driver,
      { self with ff := (device.play effectId timeoutMs wantsLength answers).self }⟩ := by
  refine ⟨fun issued hmem => allowed_tracedPlay hled hfd hlight hstrong hnumber hmem, ⟨?_, ?_, hsteady.control⟩,
    rfl, rfl, rfl⟩
  · rw [play_magnitude]
    exact hlight
  · rw [play_magnitude]
    exact hstrong

theorem regular_off (answers : Answers) (write_value : WriteValue) :
    (self.off answers write_value).Regular self self.mInExternalControl := by
  unfold VibratorService.off
  cases hled : self.ledVib.mDetected with
  | true =>
    have hfile (status : ServiceStatus) :
        Served.Regular self self.mInExternalControl ⟨status, none, [.led (LED_DEVICE ++ "/activate") "0"], self⟩ := by
      refine ⟨fun issued hmem => ?_, hsteady, rfl, rfl, rfl⟩
      rw [List.mem_singleton.mp hmem]
      exact hled
    simp only [if_true]
    split <;> exact hfile _
  | false =>
    simp only [Bool.false_eq_true, if_false]
    split <;> exact regular_played hsteady hled _ _ _ rfl hsteady.light hsteady.strong (.inl rfl)

theorem regular_on (timeoutMs : BitVec 32) (hasCallback : Bool) (answers : Answers) (write_value : WriteValue) :
    (self.on timeoutMs hasCallback answers write_value).Regular self self.mInExternalControl := by
  unfold VibratorService.on
  cases hled : self.ledVib.mDetected with
  | true =>
    have hself : (self.toVibrator.on timeoutMs hasCallback answers write_value).self = self.toVibrator := by
      unfold Vibrator.on
      simp only [hled, if_true]
      split <;> rfl
    have hfiles (status : ServiceStatus) : Served.Regular self self.mInExternalControl ⟨status, none,
        LedVibratorDevice.onFiles timeoutMs write_value, self⟩ := by
      refine ⟨fun issued hmem => ?_, hsteady, rfl, rfl, rfl⟩
      unfold LedVibratorDevice.onFiles at hmem
      split_ifs at hmem <;> simp at hmem <;> rcases hmem with rfl | rfl | rfl <;> exact hled
    simp only [if_true, hself]
    split <;> exact hfiles _
  | false =>
    have hself : (self.toVibrator.on timeoutMs hasCallback answers write_value).self =
        { self.toVibrator with ff := (self.ff.play INVALID_VALUE timeoutMs false answers).self } := by
      unfold Vibrator.on
      simp only [hled, Bool.false_eq_true, if_false]
      split <;> rfl
    simp only [Bool.false_eq_true, if_false, hself, Vibrator.onOperations, hled]
    split <;> exact regular_played hsteady hled _ _ _ rfl hsteady.light hsteady.strong (.inl rfl)

theorem regular_perform (effect : Int) (es : EffectStrength) (answers : Answers) :
    (self.perform effect es answers).Regular self self.mInExternalControl := by
  unfold VibratorService.perform
  cases hled : self.ledVib.mDetected with
  | true => exact regular_silent hsteady _ _
  | false =>
    simp only [Bool.false_eq_true, if_false]
    split
    · exact regular_silent hsteady _ _
    · next hrange =>
      cases hes : es.magnitude with
      | none => exact regular_silent hsteady _ _
      | some magnitude =>
        obtain ⟨hlight, hstrong⟩ := magnitude_bounds hes
        have hnumber : CLICK ≤ effect ∧ effect ≤ HEAVY_CLICK := by omega
        simp only [InputFFDevice.playEffect, hes]
        split <;> exact regular_played hsteady hled { self.ff with mCurrMagnitude := magnitude } _ _ rfl
          hlight hstrong (.inr hnumber)

theorem regular_setAmplitude (amplitude : Option (BitVec 8)) (answers : Answers) :
    (self.setAmplitude amplitude answers).Regular self self.mInExternalControl := by
  unfold VibratorService.setAmplitude
  cases hled : self.ledVib.mDetected with
  | true => exact regular_silent hsteady _ _
  | false =>
    simp only [Bool.false_eq_true, if_false]
    cases amplitude with
    | none => exact regular_silent hsteady _ _
    | some tmp =>
      dsimp only
      by_cases hcontrol : self.mInExternalControl = true
      · rw [if_pos hcontrol]
        exact regular_silent hsteady _ _
      · rw [if_neg hcontrol]
        obtain ⟨hlight, hstrong⟩ := gain_bounds tmp
        have hsteady' : (VibratorService.Steady { self with ff := (self.ff.setAmplitude tmp answers).self }) := by
          unfold InputFFDevice.setAmplitude
          split_ifs
          · exact hsteady
          · exact ⟨hlight, hstrong, hsteady.control⟩
          · exact hsteady
        have hregular (status : ServiceStatus) : Served.Regular self self.mInExternalControl ⟨status, none,
            if self.ff.mVibraFd = INVALID_VALUE then []
            else [.gain ((tmp.toNat * (STRONG_MAGNITUDE - LIGHT_MAGNITUDE)).tdiv 255 + LIGHT_MAGNITUDE) answers.write],
            { self with ff := (self.ff.setAmplitude tmp answers).self }⟩ := by
          refine ⟨fun issued hmem => ?_, hsteady', rfl, rfl, rfl⟩
          by_cases hopen : self.ff.mVibraFd = INVALID_VALUE
          · simp [hopen] at hmem
          · simp only [hopen, if_false, List.mem_singleton] at hmem
            rw [hmem]
            exact ⟨hled, hopen, hlight, hstrong, Bool.eq_false_iff.mpr hcontrol⟩
        split <;> exact hregular _

theorem regular_setExternalControl (enabled : Bool) : (self.setExternalControl enabled).Regular self
    (if self.controllable then enabled else self.mInExternalControl) := by
  unfold VibratorService.setExternalControl
  cases hcontrollable : self.controllable with
  | true =>
    obtain ⟨hled, hsupport⟩ : self.ledVib.mDetected = false ∧ self.mSupportExternalControl = true := by
      simpa [VibratorService.controllable] using hcontrollable
    rw [hled, hsupport]
    refine ⟨fun _ hmem => (List.not_mem_nil hmem).elim, ⟨hsteady.light, hsteady.strong, fun _ => rfl⟩, ?_, ?_, rfl⟩
    · simp [VibratorService.getCapabilities, hsupport]
    · simp [VibratorService.controllable, hsupport]
  | false =>
    have hrefused : self.ledVib.mDetected = true ∨ self.mSupportExternalControl = false := by
      simpa [VibratorService.controllable, Decidable.or_iff_not_imp_left] using hcontrollable
    rcases hrefused with hled | hsupport
    · simp only [hled, if_true]
      exact regular_silent hsteady _ _
    · simp only [hsupport, Bool.not_false, if_true, ite_self]
      exact regular_silent hsteady _ _

theorem regular_serve (call : ServiceCall) :
    (self.serve call).Regular self (if self.controllable then call.request.control self.mInExternalControl
      else self.mInExternalControl) := by
  unfold VibratorService.serve
  cases call.request <;> simp only [ServiceRequest.control, ite_self]
  case getCapabilities => exact regular_silent hsteady _ _
  case off => exact regular_off hsteady _ _
  case on timeoutMs hasCallback => exact regular_on hsteady _ _ _ _
  case perform effect es => exact regular_perform hsteady _ _ _
  case setAmplitude amplitude => exact regular_setAmplitude hsteady _ _
  case setExternalControl enabled => exact regular_setExternalControl hsteady _

end regular

theorem steady_init (devices : Option InputDevices) (mDetected : Bool) :
    (VibratorService.init devices mDetected).Steady :=
  ⟨show LIGHT_MAGNITUDE ≤ 0x7fff by decide, show 0x7fff ≤ STRONG_MAGNITUDE by decide, fun h => by cases h⟩

/-- Whether the last of some requests that switched the control from outside has switched it on. -/
def lastControl (calls : List ServiceCall) : Bool :=
  calls.foldl (fun inControl call => call.request.control inControl) false

/-- A service reached by calls is steady, reports what it reported at first, and is controlled
    from outside as it was last asked, where it takes such requests. -/
theorem steady_run {self : VibratorService} (hsteady : self.Steady) (calls : List ServiceCall) :
    let reached := calls.foldl VibratorService.next self
    reached.Steady ∧ reached.getCapabilities = self.getCapabilities ∧
      reached.mInExternalControl = if self.controllable then
        calls.foldl (fun inControl call => call.request.control inControl) self.mInExternalControl
      else self.mInExternalControl := by
  induction calls generalizing self with
  | nil => exact ⟨hsteady, rfl, (ite_self _).symm⟩
  | cons call calls ih =>
    have hregular := regular_serve hsteady call
    obtain ⟨hrun, hcapabilities, hcontrol⟩ := ih hregular.steady
    refine ⟨hrun, hcapabilities.trans hregular.capabilities, ?_⟩
    rw [List.foldl_cons, VibratorService.next, hcontrol, hregular.controllable, hregular.control, List.foldl_cons]
    cases self.controllable <;> rfl

/-- Whatever devices there are, and whatever calls are made and answered: the service asks the
    kernel only for what it may; its capabilities do not change; and it is controlled from
    outside exactly when it can be and has last been asked to be. -/
theorem VibratorService.requests_allowed (devices : Option InputDevices) (mDetected : Bool)
    (past : List ServiceCall) (call : ServiceCall) :
    let start := VibratorService.init devices mDetected
    let self := past.foldl VibratorService.next start
    (∀ issued ∈ (self.serve call).issued, issued.Allowed self) ∧ self.getCapabilities = start.getCapabilities ∧
      self.mInExternalControl = (start.controllable && lastControl past) := by
  obtain ⟨hsteady, hcapabilities, hcontrol⟩ := steady_run (steady_init devices mDetected) past
  refine ⟨(regular_serve hsteady call).allowed, hcapabilities, hcontrol.trans ?_⟩
  cases (VibratorService.init devices mDetected).controllable <;> rfl

/-- Where `start` succeeds with a predefined effect, it has stored the length that the driver
    gave it. -/
theorem start_length {device : InputFFDevice} {effectId : Int} {timeoutMs : BitVec 32} {answers : Answers}
    (hid : effectId ≠ INVALID_VALUE) (hret : (device.start effectId timeoutMs true answers).ret = 0) :
    ∃ upload, answers.upload = some upload ∧ (device.start effectId timeoutMs true answers).playLengthMs =
      some (upload.seconds * 1000 + upload.milliseconds) := by
  unfold InputFFDevice.start at hret ⊢
  cases hupload : answers.upload with
  | none =>
    rw [hupload] at hret
    simp [InputFFDevice.errout] at hret
  | some upload =>
    refine ⟨upload, rfl, ?_⟩
    simp only [hid, ne_eq, not_false_eq_true, and_self, if_true]
    split_ifs <;> rfl

theorem play_length (device : InputFFDevice) {effectId : Int} {timeoutMs : BitVec 32} {answers : Answers}
    (hid : effectId ≠ INVALID_VALUE) (htimeout : timeoutMs ≠ 0#32) (hopen : device.mVibraFd ≠ INVALID_VALUE)
    (hret : (device.play effectId timeoutMs true answers).ret = 0) :
    ∃ upload, answers.upload = some upload ∧ (device.play effectId timeoutMs true answers).playLengthMs =
      some (upload.seconds * 1000 + upload.milliseconds) := by
  unfold InputFFDevice.play at hret ⊢
  rw [if_neg hopen, if_pos htimeout] at hret ⊢
  by_cases hcurrent : device.mCurrAppId ≠ INVALID_VALUE
  · rw [if_pos hcurrent] at hret ⊢
    cases herase : answers.erase with
    | true =>
      rw [herase, if_pos rfl] at hret
      exact start_length hid hret
    | false =>
      rw [herase] at hret
      simp [InputFFDevice.errout] at hret
  · rw [if_neg hcurrent] at hret ⊢
    exact start_length hid hret

/-- `perform` declares its playing length without a value. Whenever it succeeds the length has
    been stored: by the driver, or as 0 where there is no device. -/
theorem VibratorService.perform_length (self : VibratorService) (effect : Int) (es : EffectStrength)
    (answers : Answers) (hok : (self.perform effect es answers).status = .ok) :
    if self.ff.mVibraFd = INVALID_VALUE then (self.perform effect es answers).result = some 0
    else ∃ upload, answers.upload = some upload ∧ (self.perform effect es answers).result =
      some (upload.seconds * 1000 + upload.milliseconds) := by
  unfold VibratorService.perform at hok ⊢
  by_cases hled : self.ledVib.mDetected = true
  · simp [hled] at hok
  rw [if_neg hled] at hok ⊢
  by_cases hrange : effect < CLICK ∨ effect > HEAVY_CLICK
  · simp [hrange] at hok
  rw [if_neg hrange] at hok ⊢
  cases hes : es.magnitude with
  | none => simp [hes] at hok
  | some magnitude =>
    simp only [hes, InputFFDevice.playEffect] at hok ⊢
    have hid : effect ≠ INVALID_VALUE := by
      simp only [CLICK, INVALID_VALUE] at hrange ⊢
      omega
    by_cases hret : ({ self.ff with mCurrMagnitude := magnitude }.play effect (BitVec.ofInt 32 INVALID_VALUE) true
        answers).ret ≠ 0
    · simp [hret] at hok
    rw [if_neg hret]
    split
    · next habsent =>
      simp only [InputFFDevice.play, habsent, if_true]
    · next hopen =>
      exact play_length { self.ff with mCurrMagnitude := magnitude } hid (by decide) hopen (not_not.mp hret)

/-- One device, which plays predefined effects. -/
def oneDevice : InputDevices where
  readdir := ["event0"]
  opens _ := some 3
  EVIOCGBIT _ := some (BitVec.twoPow 128 FF_PERIODIC ||| BitVec.twoPow 128 FF_CUSTOM)

theorem perform_length_click :
    if (VibratorService.init (some oneDevice) false).ff.mVibraFd = INVALID_VALUE then
      ((VibratorService.init (some oneDevice) false).perform CLICK .LIGHT grantingAnswers).result = some 0
    else ∃ upload, grantingAnswers.upload = some upload ∧
      ((VibratorService.init (some oneDevice) false).perform CLICK .LIGHT grantingAnswers).result =
        some (upload.seconds * 1000 + upload.milliseconds) :=
  VibratorService.perform_length _ CLICK .LIGHT grantingAnswers (by decide +kernel)

end vibrator
