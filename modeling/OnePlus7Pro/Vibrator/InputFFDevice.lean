import OnePlus7Pro.Runs.Taken
import Mathlib.Data.List.Basic

namespace vibrator

def STRONG_MAGNITUDE : Int := 0x7fff
def MEDIUM_MAGNITUDE : Int := 0x5fff
def LIGHT_MAGNITUDE : Int := 0x3fff
def INVALID_VALUE : Int := -1

inductive EffectType where
  | FF_CONSTANT
  | FF_PERIODIC
  deriving DecidableEq

/-- What is uploaded to the driver: the length of a constant effect, or the number of a
    predefined one. -/
structure ff_effect where
  type : EffectType
  magnitude : Int
  replay_length : BitVec 16
  custom_data : BitVec 16
  deriving DecidableEq

/-- The force-feedback driver: the effects uploaded through the device, by their ids, and
    the ids of those that play. -/
structure Driver where
  uploaded : List (Int × ff_effect)
  playing : List Int
  deriving DecidableEq

def Driver.ids (driver : Driver) : List Int := driver.uploaded.map Prod.fst

def Driver.upload (driver : Driver) (id : Int) (effect : ff_effect) : Driver :=
  { driver with uploaded := driver.uploaded ++ [(id, effect)] }

def Driver.erase (driver : Driver) (id : Int) : Driver where
  uploaded := driver.uploaded.filter fun entry => entry.1 ≠ id
  playing := driver.playing.filter fun playing => playing ≠ id

def Driver.play (driver : Driver) (id : Int) : Driver :=
  { driver with playing := driver.playing ++ [id] }

/-- What the driver gives a new effect: its id and the playing time it writes back. -/
structure Upload where
  id : Int
  seconds : Int
  milliseconds : Int
  deriving DecidableEq

/-- What the driver answers during one call: to the erasure of the current effect, to the
    upload, to the write of an event and to the erasure after a failed write. -/
structure Answers where
  erase : Bool
  upload : Option Upload
  write : Bool
  cleanup : Bool
  deriving DecidableEq

/-- The device with the driver behind it. -/
structure InputFFDevice where
  mVibraFd : Int
  mCurrAppId : Int
  mCurrMagnitude : Int
  driver : Driver
  deriving DecidableEq

/-- The device when it has been opened, or not been found. -/
def InputFFDevice.init (mVibraFd : Int) : InputFFDevice where
  mVibraFd := mVibraFd
  mCurrAppId := INVALID_VALUE
  mCurrMagnitude := 0x7fff
  driver := ⟨[], []⟩

/-- What a call returns, and the playing length it stores where the caller asked for it. -/
structure Outcome where
  ret : Int
  playLengthMs : Option Int
  self : InputFFDevice

/-- The shared exit of the failures of `play`. -/
def InputFFDevice.errout (self : InputFFDevice) (ret : Int) (playLengthMs : Option Int) : Outcome :=
  ⟨ret, playLengthMs, { self with mCurrAppId := INVALID_VALUE }⟩

def InputFFDevice.effect (self : InputFFDevice) (effectId : Int) (timeoutMs : BitVec 32) :
    ff_effect :=
  if effectId ≠ INVALID_VALUE then
    ⟨.FF_PERIODIC, self.mCurrMagnitude, 0, BitVec.ofInt 16 effectId⟩
  else
    -- the replay length of the driver has 16 bits
    ⟨.FF_CONSTANT, self.mCurrMagnitude, timeoutMs.truncate 16, 0⟩

/-- The part of `play` that follows the erasure of the current effect. -/
def InputFFDevice.start (self : InputFFDevice) (effectId : Int) (timeoutMs : BitVec 32)
    (wantsLength : Bool) (answers : Answers) : Outcome :=
  match answers.upload with
  | none => self.errout (-1) none
  | some upload =>
    let effect := self.effect effectId timeoutMs
    let self := { self with
      driver := self.driver.upload upload.id effect
      mCurrAppId := upload.id }
    let playLengthMs :=
      if effectId ≠ INVALID_VALUE ∧ wantsLength then
        some (upload.seconds * 1000 + upload.milliseconds)
      else none
    if answers.write then
      ⟨0, playLengthMs, { self with driver := self.driver.play self.mCurrAppId }⟩
    else if answers.cleanup then
      -- the erasure has overwritten what the write returned
      { self with driver := self.driver.erase self.mCurrAppId }.errout 0 playLengthMs
    else
      self.errout (-1) playLengthMs

/-- `wantsLength` tells whether the caller passes `playLengthMs`. -/
def InputFFDevice.play (self : InputFFDevice) (effectId : Int) (timeoutMs : BitVec 32)
    (wantsLength : Bool) (answers : Answers) : Outcome :=
  if self.mVibraFd = INVALID_VALUE then ⟨0, if wantsLength then some 0 else none, self⟩
  else if timeoutMs ≠ 0#32 then
    if self.mCurrAppId ≠ INVALID_VALUE then
      if answers.erase then
        { self with
          driver := self.driver.erase self.mCurrAppId
          mCurrAppId := INVALID_VALUE }.start effectId timeoutMs wantsLength answers
      else self.errout (-1) none
    else self.start effectId timeoutMs wantsLength answers
  else if self.mCurrAppId ≠ INVALID_VALUE then
    if answers.erase then
      ⟨0, none, { self with
        driver := self.driver.erase self.mCurrAppId
        mCurrAppId := INVALID_VALUE }⟩
    else self.errout (-1) none
  else ⟨0, none, self⟩

def InputFFDevice.on (self : InputFFDevice) (timeoutMs : BitVec 32) (answers : Answers) : Outcome :=
  self.play INVALID_VALUE timeoutMs false answers

def InputFFDevice.off (self : InputFFDevice) (answers : Answers) : Outcome :=
  self.play INVALID_VALUE 0#32 false answers

def InputFFDevice.setAmplitude (self : InputFFDevice) (amplitude : BitVec 8) (answers : Answers) :
    Outcome :=
  if self.mVibraFd = INVALID_VALUE then ⟨0, none, self⟩
  else
    let tmp := (amplitude.toNat * (STRONG_MAGNITUDE - LIGHT_MAGNITUDE)).tdiv 255 + LIGHT_MAGNITUDE
    -- the gain is written as an event
    if answers.write then ⟨0, none, { self with mCurrMagnitude := tmp }⟩ else ⟨-1, none, self⟩

inductive EffectStrength where
  | LIGHT
  | MEDIUM
  | STRONG
  /-- A number that no strength has. -/
  | other
  deriving DecidableEq

def EffectStrength.magnitude : EffectStrength → Option Int
  | .LIGHT => some LIGHT_MAGNITUDE
  | .MEDIUM => some MEDIUM_MAGNITUDE
  | .STRONG => some STRONG_MAGNITUDE
  | .other => none

def InputFFDevice.playEffect (self : InputFFDevice) (effectId : Int) (es : EffectStrength)
    (answers : Answers) : Outcome :=
  match es.magnitude with
  | none => ⟨-1, none, self⟩
  | some magnitude =>
    { self with mCurrMagnitude := magnitude }.play effectId (BitVec.ofInt 32 INVALID_VALUE) true
      answers

inductive Request where
  | on (timeoutMs : BitVec 32)
  | off
  | playEffect (effectId : Int) (es : EffectStrength)
  | setAmplitude (amplitude : BitVec 8)
  deriving DecidableEq

/-- A request with the answers of the driver to it. -/
structure Call where
  request : Request
  answers : Answers
  deriving DecidableEq

def InputFFDevice.perform (self : InputFFDevice) (call : Call) : Outcome :=
  match call.request with
  | .on timeoutMs => self.on timeoutMs call.answers
  | .off => self.off call.answers
  | .playEffect effectId es => self.playEffect effectId es call.answers
  | .setAmplitude amplitude => self.setAmplitude amplitude call.answers

def InputFFDevice.call (self : InputFFDevice) (call : Call) : InputFFDevice :=
  (self.perform call).self

/-- The driver gives a new effect an id that no effect still uploaded has. -/
def FreshIds (self : InputFFDevice) (call : Call) : Prop :=
  ∀ upload, call.answers.upload = some upload →
    0 ≤ upload.id ∧ upload.id ∉ (self.driver.erase self.mCurrAppId).ids

instance (self : InputFFDevice) (call : Call) : Decidable (FreshIds self call) :=
  match h : call.answers.upload with
  | none => isTrue fun upload hupload => by simp [h] at hupload
  | some upload => decidable_of_iff
      (0 ≤ upload.id ∧ upload.id ∉ (self.driver.erase self.mCurrAppId).ids) (by simp [FreshIds, h])

end vibrator
