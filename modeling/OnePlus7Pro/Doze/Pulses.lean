import OnePlus7Pro.Doze.KeyHandler
import Mathlib.Data.List.Infix
import Mathlib.Data.List.Induction
import Mathlib.Data.Nat.SuccPred
import Mathlib.Tactic.Ring

open runs

namespace device_parts

@[simp] def Event.isScreenOn : Event → Bool
  | .ACTION_SCREEN_ON _ => true
  | .ACTION_SCREEN_OFF _ => false
  | .pocketSensor _ _ => false

/-- What a sensor event reads, and when. -/
@[simp] def Event.reading : Event → Option (Bool × Int)
  | .ACTION_SCREEN_ON _ => none
  | .ACTION_SCREEN_OFF _ => none
  | .pocketSensor near now => some (near, now)

@[simp] def Event.offTime : Event → Option Int
  | .ACTION_SCREEN_ON _ => none
  | .ACTION_SCREEN_OFF now => some now
  | .pocketSensor _ _ => none

/-- The last sensor event of a history. -/
def lastReading (past : List Event) : Option (Bool × Int) :=
  past.reverse.findSome? Event.reading

/-- The last sensor event of a history in the screen-off period that the history ends in. -/
def precedingReading (past : List Event) : Option (Bool × Int) :=
  (past.reverse.takeWhile fun event => !event.isScreenOn).findSome? Event.reading

/-- When the screen was last switched off since the last sensor event. -/
def offSinceReading (past : List Event) : Option Int :=
  (past.reverse.takeWhile fun event => event.reading.isNone).findSome? Event.offTime

/-- A far event `delta` milliseconds after a near event asks for a pulse. -/
def Settings.Asks (settings : Settings) (delta : Int) : Prop :=
  (settings.mUseWaveCheck = true ∧ delta < HANDWAVE_MAX_DELTA_MS) ∨
    (settings.mUsePocketCheck = true ∧ POCKET_MIN_DELTA_MS < delta)

/-- The event is a far event, the sensor event before it in the same screen-off period was
    a near event, and the time between them asks for a pulse. -/
def Justified (settings : Settings) (past : List Event) : Event → Prop
  | .pocketSensor near now => near = false ∧
      ∃ before, precedingReading past = some (true, before) ∧ settings.Asks (now - before)
  | _ => False

/-- The screen was switched off between a near event and the far event after it, and the
    time since then misleads. Either the near event belongs to an earlier period and the
    time asks for a pulse all the same, or it belongs to this period, in which the screen
    was switched off again, and the two times do not ask alike. -/
def Misjudged (settings : Settings) (past : List Event) : Event → Prop
  | .pocketSensor near now => near = false ∧
      ∃ before off, lastReading past = some (true, before) ∧ offSinceReading past = some off ∧
        ((precedingReading past = none ∧ settings.Asks (now - off)) ∨
          (precedingReading past ≠ none ∧
            ¬ (settings.Asks (now - off) ↔ settings.Asks (now - before))))
  | _ => False

section history

variable (past : List Event) (now : Int) (near : Bool)

@[simp] theorem lastReading_screen_on :
    lastReading (past ++ [.ACTION_SCREEN_ON now]) = lastReading past := by
  simp [lastReading, List.findSome?_cons]

@[simp] theorem lastReading_screen_off :
    lastReading (past ++ [.ACTION_SCREEN_OFF now]) = lastReading past := by
  simp [lastReading, List.findSome?_cons]

@[simp] theorem lastReading_sensor :
    lastReading (past ++ [.pocketSensor near now]) = some (near, now) := by
  simp [lastReading, List.findSome?_cons]

@[simp] theorem precedingReading_screen_on :
    precedingReading (past ++ [.ACTION_SCREEN_ON now]) = none := by
  simp [precedingReading]

@[simp] theorem precedingReading_screen_off :
    precedingReading (past ++ [.ACTION_SCREEN_OFF now]) = precedingReading past := by
  simp [precedingReading, List.findSome?_cons]

@[simp] theorem precedingReading_sensor :
    precedingReading (past ++ [.pocketSensor near now]) = some (near, now) := by
  simp [precedingReading, List.findSome?_cons]

@[simp] theorem offSinceReading_screen_on :
    offSinceReading (past ++ [.ACTION_SCREEN_ON now]) = offSinceReading past := by
  simp [offSinceReading, List.findSome?_cons]

@[simp] theorem offSinceReading_screen_off :
    offSinceReading (past ++ [.ACTION_SCREEN_OFF now]) = some now := by
  simp [offSinceReading, List.findSome?_cons]

@[simp] theorem offSinceReading_sensor :
    offSinceReading (past ++ [.pocketSensor near now]) = none := by
  simp [offSinceReading]

end history

/-- How the fields of the handler stand to the events it has received, while one of the
    two checks is on. -/
structure Remembers (settings : Settings) (past : List Event) (handler : KeyHandler) : Prop where
  wave : handler.mUseWaveCheck = settings.mUseWaveCheck
  pocket : handler.mUsePocketCheck = settings.mUsePocketCheck
  near : handler.mProxyWasNear = true ↔ ∃ before, lastReading past = some (true, before)
  same_period : ∀ reading, precedingReading past = some reading → lastReading past = some reading
  timestamp_off : ∀ off, offSinceReading past = some off → handler.mProxySensorTimestamp = off
  timestamp_reading : ∀ reading, offSinceReading past = none → lastReading past = some reading →
    handler.mProxySensorTimestamp = reading.2
  registered : handler.listeners.mPocketProximitySensor = true →
    precedingReading past ≠ none ∨ offSinceReading past ≠ none

theorem remembers_init (settings : Settings) : Remembers settings [] (.init settings) where
  wave := rfl
  pocket := rfl
  near := by simp [KeyHandler.init, lastReading]
  same_period := by simp [precedingReading]
  timestamp_off := by simp [offSinceReading]
  timestamp_reading := by simp [lastReading]
  registered := by simp [KeyHandler.init]

section receive

variable (self : KeyHandler) (now : Int)

/-- Switching the screen on leaves what the pocket sensor has been seen to read. -/
theorem receive_screen_on :
    (self.receive (.ACTION_SCREEN_ON now)).pulses = self.pulses ∧
    (self.receive (.ACTION_SCREEN_ON now)).mUseWaveCheck = self.mUseWaveCheck ∧
    (self.receive (.ACTION_SCREEN_ON now)).mUsePocketCheck = self.mUsePocketCheck ∧
    (self.receive (.ACTION_SCREEN_ON now)).mProxyWasNear = self.mProxyWasNear ∧
    (self.receive (.ACTION_SCREEN_ON now)).mProxySensorTimestamp = self.mProxySensorTimestamp := by
  simp [KeyHandler.receive, KeyHandler.onDisplayOn, apply_ite KeyHandler.pulses,
    apply_ite KeyHandler.mUseWaveCheck, apply_ite KeyHandler.mUsePocketCheck,
    apply_ite KeyHandler.mProxyWasNear, apply_ite KeyHandler.mProxySensorTimestamp]

theorem receive_screen_on_listeners
    (hchecks : (self.mUsePocketCheck || self.mUseWaveCheck) = true) :
    (self.receive (.ACTION_SCREEN_ON now)).listeners.mPocketProximitySensor = false := by
  simp [KeyHandler.receive, KeyHandler.onDisplayOn, apply_ite KeyHandler.listeners,
    apply_ite KeyHandler.mUseWaveCheck, apply_ite KeyHandler.mUsePocketCheck,
    apply_ite Listeners.mPocketProximitySensor, hchecks]

theorem receive_screen_off :
    (self.receive (.ACTION_SCREEN_OFF now)).pulses = self.pulses ∧
    (self.receive (.ACTION_SCREEN_OFF now)).mUseWaveCheck = self.mUseWaveCheck ∧
    (self.receive (.ACTION_SCREEN_OFF now)).mUsePocketCheck = self.mUsePocketCheck ∧
    (self.receive (.ACTION_SCREEN_OFF now)).mProxyWasNear = self.mProxyWasNear := by
  simp [KeyHandler.receive, KeyHandler.onDisplayOff, apply_ite KeyHandler.pulses,
    apply_ite KeyHandler.mUseWaveCheck, apply_ite KeyHandler.mUsePocketCheck,
    apply_ite KeyHandler.mProxyWasNear]

theorem receive_screen_off_timestamp
    (hchecks : (self.mUsePocketCheck || self.mUseWaveCheck) = true) :
    (self.receive (.ACTION_SCREEN_OFF now)).mProxySensorTimestamp = now := by
  simp [KeyHandler.receive, KeyHandler.onDisplayOff, apply_ite KeyHandler.mProxySensorTimestamp,
    apply_ite KeyHandler.mUseWaveCheck, apply_ite KeyHandler.mUsePocketCheck, hchecks]

/-- A sensor event is remembered with its time while a check is on. -/
theorem receive_sensor (near : Bool)
    (hchecks : (self.mUseWaveCheck || self.mUsePocketCheck) = true) :
    (self.receive (.pocketSensor near now)).mUseWaveCheck = self.mUseWaveCheck ∧
    (self.receive (.pocketSensor near now)).mUsePocketCheck = self.mUsePocketCheck ∧
    (self.receive (.pocketSensor near now)).mProxyWasNear = near ∧
    (self.receive (.pocketSensor near now)).mProxySensorTimestamp = now := by
  simp [KeyHandler.receive, KeyHandler.onPocketSensorChanged, hchecks,
    KeyHandler.launchDozePulse, apply_ite KeyHandler.mUseWaveCheck,
    apply_ite KeyHandler.mUsePocketCheck]

/-- A sensor event launches a pulse exactly when it is a far event, the event remembered is
    a near event and the time remembered asks for a pulse. -/
theorem launches_sensor_iff {settings : Settings}
    (hwave : self.mUseWaveCheck = settings.mUseWaveCheck)
    (hpocket : self.mUsePocketCheck = settings.mUsePocketCheck) (near : Bool) :
    Launches self (.pocketSensor near now) ↔ near = false ∧ self.mProxyWasNear = true ∧
      settings.Asks (now - self.mProxySensorTimestamp) := by
  rw [Launches, KeyHandler.receive, KeyHandler.onPocketSensorChanged, Settings.Asks, ← hwave,
    ← hpocket]
  cases near with
  | true => cases hchecks : self.mUseWaveCheck || self.mUsePocketCheck <;> simp
  | false =>
    cases hnear : self.mProxyWasNear with
    | false => cases hchecks : self.mUseWaveCheck || self.mUsePocketCheck <;> simp
    | true =>
      -- each of the two checks is on or off, and passed or not
      generalize now - self.mProxySensorTimestamp = delta
      cases hw : self.mUseWaveCheck <;> cases hp : self.mUsePocketCheck <;>
        by_cases hwaved : delta < HANDWAVE_MAX_DELTA_MS <;>
        by_cases hlong : POCKET_MIN_DELTA_MS < delta <;>
        simp [hw, hp, hwaved, hlong, KeyHandler.launchDozePulse]

end receive

variable {settings : Settings} {past : List Event} {self : KeyHandler} {event : Event}

/-- The handler goes on remembering the events it receives. -/
theorem remembers_receive (hchecks : (settings.mUseWaveCheck || settings.mUsePocketCheck) = true)
    (hself : Remembers settings past self) (event : Event) :
    Remembers settings (past ++ [event]) (self.receive event) := by
  have hon : (self.mUseWaveCheck || self.mUsePocketCheck) = true := by
    rw [hself.wave, hself.pocket, hchecks]
  have hon' : (self.mUsePocketCheck || self.mUseWaveCheck) = true := by rw [Bool.or_comm, hon]
  cases event with
  | ACTION_SCREEN_ON now =>
    obtain ⟨_, hwave, hpocket, hnear, htime⟩ := receive_screen_on self now
    refine ⟨hwave.trans hself.wave, hpocket.trans hself.pocket, ?_, ?_, ?_, ?_, ?_⟩
    · simpa [hnear] using hself.near
    · simp
    · simpa [htime] using hself.timestamp_off
    · simpa [htime] using hself.timestamp_reading
    · simp [receive_screen_on_listeners self now hon']
  | ACTION_SCREEN_OFF now =>
    obtain ⟨_, hwave, hpocket, hnear⟩ := receive_screen_off self now
    refine ⟨hwave.trans hself.wave, hpocket.trans hself.pocket, ?_, ?_, ?_, ?_, ?_⟩
    · simpa [hnear] using hself.near
    · simpa using hself.same_period
    · simp [receive_screen_off_timestamp self now hon']
    · simp
    · simp
  | pocketSensor near now =>
    obtain ⟨hwave, hpocket, hnear, htime⟩ := receive_sensor self now near hon
    refine ⟨hwave.trans hself.wave, hpocket.trans hself.pocket, ?_, ?_, ?_, ?_, ?_⟩
    · simp [hnear]
    · simp
    · simp
    · simp [htime]
    · simp

/-- The handler when neither check is on: no sensor event is waited for. -/
structure Idle (handler : KeyHandler) : Prop where
  wave : handler.mUseWaveCheck = false
  pocket : handler.mUsePocketCheck = false

theorem idle_receive (hself : Idle self) (event : Event) : Idle (self.receive event) := by
  obtain ⟨hwave, hpocket⟩ := hself
  cases event with
  | ACTION_SCREEN_ON now =>
    obtain ⟨_, hwave', hpocket', _⟩ := receive_screen_on self now
    exact ⟨hwave'.trans hwave, hpocket'.trans hpocket⟩
  | ACTION_SCREEN_OFF now =>
    obtain ⟨_, hwave', hpocket', _⟩ := receive_screen_off self now
    exact ⟨hwave'.trans hwave, hpocket'.trans hpocket⟩
  | pocketSensor near now =>
    have hsame : self.receive (.pocketSensor near now) = self := by
      simp [KeyHandler.receive, KeyHandler.onPocketSensorChanged, hwave, hpocket]
    rw [hsame]
    exact ⟨hwave, hpocket⟩

/-- While neither check is on no pulse is launched and none is asked for. -/
theorem launches_iff_of_idle (past : List Event) (event : Event)
    (hwave : settings.mUseWaveCheck = false)
    (hpocket : settings.mUsePocketCheck = false) (hself : Idle self) :
    (Launches self event ↔ Justified settings past event) ∧ ¬ Misjudged settings past event := by
  have hasks (delta : Int) : ¬ settings.Asks delta := by simp [Settings.Asks, hwave, hpocket]
  cases event with
  | ACTION_SCREEN_ON now => simp [Launches, Justified, Misjudged, receive_screen_on self now]
  | ACTION_SCREEN_OFF now => simp [Launches, Justified, Misjudged, receive_screen_off self now]
  | pocketSensor near now =>
    rw [launches_sensor_iff self now (hself.wave.trans hwave.symm)
      (hself.pocket.trans hpocket.symm)]
    simp [Justified, Misjudged, hasks]

/-- An event that is delivered is handled as it is justified unless it is misjudged. -/
theorem launches_iff_justified (hself : Remembers settings past self)
    (hdelivered : Delivered self event) :
    (Launches self event ↔ Justified settings past event) ↔ ¬ Misjudged settings past event := by
  cases event with
  | ACTION_SCREEN_ON now => simp [Launches, Justified, Misjudged, receive_screen_on self now]
  | ACTION_SCREEN_OFF now => simp [Launches, Justified, Misjudged, receive_screen_off self now]
  | pocketSensor near now =>
    rw [launches_sensor_iff self now hself.wave hself.pocket, Justified, Misjudged, hself.near]
    cases near with
    | true => simp
    | false =>
      obtain hnone | ⟨before, hbefore⟩ :=
          Classical.em (∃ before, lastReading past = some (true, before)) |>.symm
      · -- no near event is remembered
        have hpreceding : ∀ before, precedingReading past ≠ some (true, before) :=
          fun before h => hnone ⟨before, hself.same_period _ h⟩
        simp_all
      · have hpreceding : precedingReading past = none ∨
            precedingReading past = some (true, before) := by
          cases hperiod : precedingReading past with
          | none => exact Or.inl rfl
          | some reading =>
            rw [← hbefore, ← hself.same_period reading hperiod]
            exact Or.inr rfl
        cases hoff : offSinceReading past with
        | none =>
          have htime := hself.timestamp_reading _ hoff hbefore
          have hsame := hpreceding.resolve_left fun h => by
            simpa [h, hoff] using hself.registered hdelivered
          simp [hbefore, hsame, htime]
        | some off =>
          have htime := hself.timestamp_off _ hoff
          obtain hother | hsame := hpreceding
          · simp [hbefore, hother, htime]
          · simp [hbefore, hsame, htime]

/-- Over any run of screen and delivered sensor events, pulses are launched at exactly the
    events that justify one if and only if no event of the run is misjudged. -/
theorem doze_pulses_justified_iff (settings : Settings) (events : List Event)
    (hdelivered : Taken KeyHandler.receive Delivered (.init settings) events) :
    (∀ past event, past ++ [event] <+: events →
      (Launches (past.foldl KeyHandler.receive (.init settings)) event ↔
        Justified settings past event)) ↔
    ∀ past event, past ++ [event] <+: events → ¬ Misjudged settings past event := by
  have hpointwise : ∀ past event, past ++ [event] <+: events →
      ((Launches (past.foldl KeyHandler.receive (.init settings)) event ↔
        Justified settings past event) ↔ ¬ Misjudged settings past event) := by
    intro past event hevent
    have hpast : past <+: events := (List.prefix_append past [event]).trans hevent
    cases hchecks : settings.mUseWaveCheck || settings.mUsePocketCheck with
    | true =>
      have hself := hdelivered.history_invariant (H := Remembers settings)
        (fun past handler event hself _ => remembers_receive hchecks hself event)
        (remembers_init settings) hpast
      exact launches_iff_justified hself (hdelivered.at_call hevent)
    | false =>
      rw [Bool.or_eq_false_iff] at hchecks
      have hself := hdelivered.history_invariant (H := fun _ => Idle)
        (fun past handler event hself _ => idle_receive hself event) ⟨hchecks.1, hchecks.2⟩ hpast
      have hidle := launches_iff_of_idle past event hchecks.1 hchecks.2 hself
      exact iff_of_true hidle.1 hidle.2
  exact forall₃_congr hpointwise

/-- The settings of a handler that watches for waves and pockets. -/
def watchingSettings : Settings where
  sIsOnePlus7pro := true
  sIsOnePlus7tpro := false
  isOPCameraAvail := false
  mUseProxiCheck := false
  mUseTiltCheck := false
  mUseWaveCheck := true
  mUsePocketCheck := true

/-- The hand goes over the sensor in a screen-off period. -/
def waveEvents : List Event :=
  [.ACTION_SCREEN_OFF 1000, .pocketSensor true 3000, .pocketSensor false 3500]

theorem doze_pulses_justified_waveEvents :
    (∀ past event, past ++ [event] <+: waveEvents →
      (Launches (past.foldl KeyHandler.receive (.init watchingSettings)) event ↔
        Justified watchingSettings past event)) ↔
    ∀ past event, past ++ [event] <+: waveEvents → ¬ Misjudged watchingSettings past event :=
  doze_pulses_justified_iff watchingSettings waveEvents (by decide)

/-- The phone lies covered when the screen goes on, and is uncovered just after the screen
    has gone off again. -/
def uncoveredEvents : List Event :=
  [.ACTION_SCREEN_OFF 1000, .pocketSensor true 3000, .ACTION_SCREEN_ON 60000,
    .ACTION_SCREEN_OFF 90000, .pocketSensor false 90500]

theorem doze_pulse_unjustified :
    ¬ ∀ (settings : Settings) (events : List Event),
      Taken KeyHandler.receive Delivered (.init settings) events →
      ∀ past event, past ++ [event] <+: events →
        (Launches (past.foldl KeyHandler.receive (.init settings)) event ↔
          Justified settings past event) := by
  intro hjustified
  have hpulse := hjustified watchingSettings uncoveredEvents (by decide)
    (uncoveredEvents.take 4) (.pocketSensor false 90500) (by decide)
  have hlaunched : Launches ((uncoveredEvents.take 4).foldl KeyHandler.receive
      (.init watchingSettings)) (.pocketSensor false 90500) := by
    unfold Launches
    decide
  obtain ⟨_, before, hbefore, _⟩ := hpulse.mp hlaunched
  simp [uncoveredEvents, precedingReading] at hbefore

end device_parts
