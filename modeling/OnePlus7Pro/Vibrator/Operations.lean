import OnePlus7Pro.Vibrator.Tracking

namespace vibrator

/-- An operation of the driver that `play` issues, with what the driver answers: whether it
    grants it, or the id of the new effect. -/
inductive Operation where
  | EVIOCRMFF (id : Int) (granted : Bool)
  | EVIOCSFF (effect : ff_effect) (id : Option Int)
  | write (id : Int) (granted : Bool)
  deriving DecidableEq

/-- `start` with the operations that it issues. -/
def InputFFDevice.tracedStart (self : InputFFDevice) (effectId : Int) (timeoutMs : BitVec 32)
    (wantsLength : Bool) (answers : Answers) : List Operation × Outcome :=
  let effect := self.effect effectId timeoutMs
  match answers.upload with
  | none => ([.EVIOCSFF effect none], self.errout (-1) none)
  | some upload =>
    let self := { self with
      driver := self.driver.upload upload.id effect
      mCurrAppId := upload.id }
    let playLengthMs :=
      if effectId ≠ INVALID_VALUE ∧ wantsLength then
        some (upload.seconds * 1000 + upload.milliseconds)
      else none
    if answers.write then
      ([.EVIOCSFF effect (some upload.id), .write self.mCurrAppId true],
        ⟨0, playLengthMs, { self with driver := self.driver.play self.mCurrAppId }⟩)
    else if answers.cleanup then
      ([.EVIOCSFF effect (some upload.id), .write self.mCurrAppId false,
          .EVIOCRMFF self.mCurrAppId true],
        { self with driver := self.driver.erase self.mCurrAppId }.errout 0 playLengthMs)
    else
      ([.EVIOCSFF effect (some upload.id), .write self.mCurrAppId false,
          .EVIOCRMFF self.mCurrAppId false],
        self.errout (-1) playLengthMs)

/-- `play` with the operations that it issues. -/
def InputFFDevice.tracedPlay (self : InputFFDevice) (effectId : Int) (timeoutMs : BitVec 32)
    (wantsLength : Bool) (answers : Answers) : List Operation × Outcome :=
  if self.mVibraFd = INVALID_VALUE then ([], ⟨0, if wantsLength then some 0 else none, self⟩)
  else if timeoutMs ≠ 0#32 then
    if self.mCurrAppId ≠ INVALID_VALUE then
      if answers.erase then
        let started := { self with
          driver := self.driver.erase self.mCurrAppId
          mCurrAppId := INVALID_VALUE }.tracedStart effectId timeoutMs wantsLength answers
        (.EVIOCRMFF self.mCurrAppId true :: started.1, started.2)
      else ([.EVIOCRMFF self.mCurrAppId false], self.errout (-1) none)
    else self.tracedStart effectId timeoutMs wantsLength answers
  else if self.mCurrAppId ≠ INVALID_VALUE then
    if answers.erase then
      ([.EVIOCRMFF self.mCurrAppId true], ⟨0, none, { self with
        driver := self.driver.erase self.mCurrAppId
        mCurrAppId := INVALID_VALUE }⟩)
    else ([.EVIOCRMFF self.mCurrAppId false], self.errout (-1) none)
  else ([], ⟨0, none, self⟩)

/-- What the driver makes of an operation that it grants. -/
def Driver.take (driver : Driver) : Operation → Driver
  | .EVIOCRMFF id true => driver.erase id
  | .EVIOCSFF effect (some id) => driver.upload id effect
  | .write id true => driver.play id
  | _ => driver

variable {self : InputFFDevice} {effectId : Int} {timeoutMs : BitVec 32} {wantsLength : Bool}
  {answers : Answers}

theorem tracedStart_outcome : (self.tracedStart effectId timeoutMs wantsLength answers).2 =
    self.start effectId timeoutMs wantsLength answers := by
  unfold InputFFDevice.tracedStart InputFFDevice.start
  cases answers.upload with
  | none => rfl
  | some upload =>
    dsimp only
    split_ifs <;> rfl

/-- Without the operations it is `play`. -/
theorem tracedPlay_outcome : (self.tracedPlay effectId timeoutMs wantsLength answers).2 =
    self.play effectId timeoutMs wantsLength answers := by
  unfold InputFFDevice.tracedPlay InputFFDevice.play
  split_ifs <;> first | rfl | exact tracedStart_outcome

theorem tracedStart_driver : (self.start effectId timeoutMs wantsLength answers).self.driver =
    (self.tracedStart effectId timeoutMs wantsLength answers).1.foldl Driver.take self.driver := by
  unfold InputFFDevice.tracedStart InputFFDevice.start
  cases answers.upload with
  | none => rfl
  | some upload =>
    dsimp only
    split_ifs <;> rfl

/-- The operations are all that `play` does to the driver. -/
theorem tracedPlay_driver : (self.play effectId timeoutMs wantsLength answers).self.driver =
    (self.tracedPlay effectId timeoutMs wantsLength answers).1.foldl Driver.take self.driver := by
  unfold InputFFDevice.tracedPlay InputFFDevice.play
  split_ifs <;> first | rfl | exact tracedStart_driver

end vibrator
