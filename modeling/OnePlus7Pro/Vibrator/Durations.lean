import OnePlus7Pro.Vibrator.Operations

namespace vibrator

def LED_DEVICE : String := "/sys/class/leds/vibrator"

/-- `write_value`: what writing a value to a file of the device comes to. -/
abbrev WriteValue := String → String → Int

/-- The vibrator that is driven as a LED. -/
structure LedVibratorDevice where
  mDetected : Bool

def LedVibratorDevice.on (timeoutMs : BitVec 32) (write_value : WriteValue) : Int :=
  let ret := write_value (LED_DEVICE ++ "/state") "1"
  if ret < 0 then ret
  else
    let ret := write_value (LED_DEVICE ++ "/duration") (toString timeoutMs.toNat ++ "\n")
    if ret < 0 then ret
    else
      let ret := write_value (LED_DEVICE ++ "/activate") "1"
      if ret < 0 then ret else 0

structure Vibrator where
  ff : InputFFDevice
  ledVib : LedVibratorDevice

/-- The status of a call of the service. -/
inductive Status where
  | ok
  | EX_SERVICE_SPECIFIC
  deriving DecidableEq

/-- A product of `int32_t`: `none` where it does not fit. -/
def int32_mul (a b : BitVec 32) : Option (BitVec 32) :=
  if BitVec.smulOverflow a b then none else some (a * b)

/-- The thread that tells of the completion: the microseconds for which it sleeps before. -/
structure CompletionThread where
  usleep : Option (BitVec 32)
  deriving DecidableEq

/-- What `Vibrator::on` comes to. -/
structure Switched where
  status : Status
  thread : Option CompletionThread
  self : Vibrator

/-- `hasCallback` tells whether a callback is passed. -/
def Vibrator.on (self : Vibrator) (timeoutMs : BitVec 32) (hasCallback : Bool) (answers : Answers)
    (write_value : WriteValue) : Switched :=
  let switched :=
    if self.ledVib.mDetected then (LedVibratorDevice.on timeoutMs write_value, self)
    else
      let outcome := self.ff.on timeoutMs answers
      (outcome.ret, { self with ff := outcome.self })
  if switched.1 ≠ 0 then ⟨.EX_SERVICE_SPECIFIC, none, switched.2⟩
  else ⟨.ok, if hasCallback then some ⟨int32_mul timeoutMs 1000⟩ else none, switched.2⟩

/-- The operations of the driver that `Vibrator::on` issues through the device. -/
def Vibrator.onOperations (self : Vibrator) (timeoutMs : BitVec 32) (answers : Answers) :
    List Operation :=
  if self.ledVib.mDetected then []
  else (self.ff.tracedPlay INVALID_VALUE timeoutMs false answers).1

/-- The effect that an operation has uploaded. -/
def uploaded : Operation → Option ff_effect
  | .EVIOCSFF effect (some _) => some effect
  | _ => none

/-- A constant effect of the length was uploaded. -/
def UploadsLength (timeoutMs : BitVec 32) (operations : List Operation) : Prop :=
  ∃ effect ∈ operations.filterMap uploaded, effect.type = .FF_CONSTANT ∧
    effect.replay_length.toNat = timeoutMs.toNat

/-- The completion is told after the length, which has been computed without overflow. -/
def SleepsLength (timeoutMs : BitVec 32) (thread : Option CompletionThread) : Prop :=
  ∃ usleep, thread = some ⟨some usleep⟩ ∧ usleep.toNat = timeoutMs.toNat * 1000

variable {self : Vibrator} {device : InputFFDevice} {effectId : Int} {timeoutMs : BitVec 32}
  {wantsLength : Bool} {answers : Answers}

theorem uploaded_start (hret : (device.start effectId timeoutMs wantsLength answers).ret = 0) :
    (device.tracedStart effectId timeoutMs wantsLength answers).1.filterMap uploaded =
      [device.effect effectId timeoutMs] := by
  unfold InputFFDevice.start at hret
  unfold InputFFDevice.tracedStart
  cases hupload : answers.upload with
  | none => simp [hupload, InputFFDevice.errout] at hret
  | some upload =>
    dsimp only
    split_ifs <;> rfl

/-- A vibration that is started with success has uploaded the effect that was asked for. -/
theorem uploaded_play (hopen : device.mVibraFd ≠ INVALID_VALUE) (htimeout : timeoutMs ≠ 0#32)
    (hret : (device.play effectId timeoutMs wantsLength answers).ret = 0) :
    (device.tracedPlay effectId timeoutMs wantsLength answers).1.filterMap uploaded =
      [device.effect effectId timeoutMs] := by
  rw [InputFFDevice.play] at hret
  rw [InputFFDevice.tracedPlay]
  simp only [if_neg hopen, if_pos htimeout] at hret ⊢
  by_cases hid : device.mCurrAppId = INVALID_VALUE
  · rw [if_neg (not_not.mpr hid)] at hret ⊢
    exact uploaded_start hret
  · rw [if_pos hid] at hret ⊢
    cases herase : answers.erase with
    | true =>
      rw [herase, if_pos rfl] at hret
      exact uploaded_start hret
    | false => simp [herase, InputFFDevice.errout] at hret

/-- The driver grants a vibration whatever was uploaded before. -/
theorem granted_on (device : InputFFDevice) (timeoutMs : BitVec 32) :
    (device.on timeoutMs grantingAnswers).ret = 0 := by
  have herase : grantingAnswers.erase = true := rfl
  unfold InputFFDevice.on InputFFDevice.play
  simp only [if_pos herase]
  split_ifs <;> rfl

theorem replay_length_iff (device : InputFFDevice) (timeoutMs : BitVec 32) :
    (device.effect INVALID_VALUE timeoutMs).replay_length.toNat = timeoutMs.toNat ↔
      timeoutMs.toNat ≤ 65535 := by
  rw [InputFFDevice.effect, if_neg (not_not.mpr rfl)]
  simp only [BitVec.truncate_eq_setWidth, BitVec.toNat_setWidth]
  rw [Nat.mod_eq_iff_lt (by norm_num)]
  omega

theorem sleepsLength_iff (hpositive : 0 < timeoutMs.toInt) :
    SleepsLength timeoutMs (some ⟨int32_mul timeoutMs 1000⟩) ↔ timeoutMs.toNat ≤ 2147483 := by
  have hvalue : timeoutMs.toInt = timeoutMs.toNat := by
    rw [BitVec.toInt_eq_toNat_cond] at hpositive ⊢
    have := timeoutMs.isLt
    split_ifs at hpositive ⊢ <;> omega
  have hthousand : (1000 : BitVec 32).toInt = 1000 := by decide
  have hoverflow : BitVec.smulOverflow timeoutMs 1000 = true ↔ 2147483 < timeoutMs.toNat := by
    rw [BitVec.smulOverflow, hvalue, hthousand, Bool.or_eq_true, decide_eq_true_eq,
      decide_eq_true_eq]
    omega
  unfold SleepsLength int32_mul
  constructor
  · rintro ⟨usleep, hsome, -⟩
    by_contra hlong
    rw [if_pos (hoverflow.mpr (by omega))] at hsome
    simp at hsome
  · intro hshort
    rw [if_neg (by rw [hoverflow]; omega)]
    refine ⟨_, rfl, ?_⟩
    rw [BitVec.toNat_mul]
    exact Nat.mod_eq_of_lt (by simp; omega)

theorem on_eq (hff : self.ledVib.mDetected = false) (timeoutMs : BitVec 32) (answers : Answers)
    (write_value : WriteValue) : self.on timeoutMs true answers write_value =
      if (self.ff.on timeoutMs answers).ret ≠ 0 then
        ⟨.EX_SERVICE_SPECIFIC, none, { self with ff := (self.ff.on timeoutMs answers).self }⟩
      else ⟨.ok, some ⟨int32_mul timeoutMs 1000⟩,
        { self with ff := (self.ff.on timeoutMs answers).self }⟩ := by
  rw [Vibrator.on, hff]
  rfl

theorem on_ok_iff (hff : self.ledVib.mDetected = false) (write_value : WriteValue) :
    (self.on timeoutMs true answers write_value).status = .ok ↔
      (self.ff.on timeoutMs answers).ret = 0 := by
  rw [on_eq hff]
  split_ifs with hret
  · simpa using hret
  · simpa using hret

theorem on_thread (hff : self.ledVib.mDetected = false) (write_value : WriteValue)
    (hok : (self.on timeoutMs true answers write_value).status = .ok) :
    (self.on timeoutMs true answers write_value).thread = some ⟨int32_mul timeoutMs 1000⟩ := by
  rw [on_ok_iff hff] at hok
  rw [on_eq hff, if_neg (not_not.mpr hok)]

/-- A vibration that is switched on uploads its length exactly when 16 bits hold it. -/
theorem uploadsLength_iff (hff : self.ledVib.mDetected = false)
    (hopen : self.ff.mVibraFd ≠ INVALID_VALUE) (htimeout : timeoutMs ≠ 0#32)
    (hret : (self.ff.on timeoutMs answers).ret = 0) :
    UploadsLength timeoutMs (self.onOperations timeoutMs answers) ↔ timeoutMs.toNat ≤ 65535 := by
  have huploaded := uploaded_play hopen htimeout hret
  have honly : (self.onOperations timeoutMs answers).filterMap uploaded =
      [self.ff.effect INVALID_VALUE timeoutMs] := by
    rw [Vibrator.onOperations, hff]
    exact huploaded
  have htype : (self.ff.effect INVALID_VALUE timeoutMs).type = .FF_CONSTANT := rfl
  rw [UploadsLength, honly, ← replay_length_iff self.ff timeoutMs]
  simp [htype]

/-- Of a force-feedback device, every vibration that is switched on with success is uploaded with
    its length, and its completion told after it, exactly when the length is at most 65535
    milliseconds. The completion alone is told after it up to 2147483 milliseconds. -/
theorem Vibrator.on_length_iff (self : Vibrator) (hff : self.ledVib.mDetected = false)
    (hopen : self.ff.mVibraFd ≠ INVALID_VALUE) (timeoutMs : BitVec 32)
    (hpositive : 0 < timeoutMs.toInt) :
    ((∀ answers write_value, (self.on timeoutMs true answers write_value).status = .ok →
        UploadsLength timeoutMs (self.onOperations timeoutMs answers) ∧
          SleepsLength timeoutMs (self.on timeoutMs true answers write_value).thread) ↔
      timeoutMs.toNat ≤ 65535) ∧
    ((∀ answers write_value, (self.on timeoutMs true answers write_value).status = .ok →
        SleepsLength timeoutMs (self.on timeoutMs true answers write_value).thread) ↔
      timeoutMs.toNat ≤ 2147483) := by
  have htimeout : timeoutMs ≠ 0#32 := by
    rintro rfl
    exact absurd hpositive (by decide)
  have hsleeps (answers : Answers) (write_value : WriteValue)
      (hok : (self.on timeoutMs true answers write_value).status = .ok) :
      SleepsLength timeoutMs (self.on timeoutMs true answers write_value).thread ↔
        timeoutMs.toNat ≤ 2147483 := by
    rw [on_thread hff write_value hok, sleepsLength_iff hpositive]
  have huploads (answers : Answers) (write_value : WriteValue)
      (hok : (self.on timeoutMs true answers write_value).status = .ok) :
      UploadsLength timeoutMs (self.onOperations timeoutMs answers) ↔ timeoutMs.toNat ≤ 65535 :=
    uploadsLength_iff hff hopen htimeout ((on_ok_iff hff write_value).mp hok)
  -- some vibration of the length is switched on
  have hgranted : (self.on timeoutMs true grantingAnswers fun _ _ => 0).status = .ok :=
    (on_ok_iff hff _).mpr (granted_on self.ff timeoutMs)
  refine ⟨⟨fun hlength => ?_, fun hshort answers write_value hok => ?_⟩,
    ⟨fun hlength => ?_, fun hshort answers write_value hok => ?_⟩⟩
  · exact (huploads _ _ hgranted).mp (hlength _ _ hgranted).1
  · exact ⟨(huploads answers write_value hok).mpr hshort,
      (hsleeps answers write_value hok).mpr (by omega)⟩
  · exact (hsleeps _ _ hgranted).mp (hlength _ _ hgranted)
  · exact (hsleeps answers write_value hok).mpr hshort

/-- A vibrator with a force-feedback device that has been opened. -/
def openedVibrator : Vibrator := ⟨.init 3, ⟨false⟩⟩

theorem on_length_second :
    UploadsLength 1000 (openedVibrator.onOperations 1000 grantingAnswers) ∧
      SleepsLength 1000 (openedVibrator.on 1000 true grantingAnswers fun _ _ => 0).thread :=
  (openedVibrator.on_length_iff rfl (by decide) 1000 (by decide)).1.mpr (by decide) _ _ (by decide)

/-- A vibration of 65536 milliseconds is uploaded with the length 0. -/
theorem long_vibration_cut :
    ¬ ∀ (self : Vibrator), self.ledVib.mDetected = false → self.ff.mVibraFd ≠ INVALID_VALUE →
      ∀ timeoutMs : BitVec 32, 0 < timeoutMs.toInt → ∀ answers write_value,
      (self.on timeoutMs true answers write_value).status = .ok →
        UploadsLength timeoutMs (self.onOperations timeoutMs answers) ∧
          SleepsLength timeoutMs (self.on timeoutMs true answers write_value).thread := by
  intro hlength
  obtain ⟨effect, huploaded, -, hreplay⟩ := (hlength openedVibrator rfl (by decide) 65536 (by decide)
    grantingAnswers (fun _ _ => 0) (by decide)).1
  simp [openedVibrator, Vibrator.onOperations, InputFFDevice.tracedPlay, InputFFDevice.tracedStart,
    InputFFDevice.init, grantingAnswers, uploaded, InputFFDevice.effect, INVALID_VALUE] at huploaded
  simp [huploaded] at hreplay

end vibrator
