import OnePlus7Pro.Doze.CacheCoherence

open effects runs

namespace device_parts

def ObservingKeyHandler.isDisabledKeyEvent (self : ObservingKeyHandler) (scanCode : Int) : Bool :=
  let isProxyCheckRequired := self.mUseProxiCheck && sProxiCheckedGestures.contains scanCode
  self.mProxyIsNear && isProxyCheckRequired

inductive ZenMode where
  | ZEN_MODE_OFF
  | ZEN_MODE_IMPORTANT_INTERRUPTIONS
  deriving DecidableEq

inductive RingerMode where
  | RINGER_MODE_NORMAL
  | RINGER_MODE_VIBRATE
  | RINGER_MODE_SILENT
  deriving DecidableEq

/-- What the actions of the slider set. -/
structure Slider where
  mToggleTorch : Bool
  mTorchState : Bool
  zenMode : ZenMode
  ringerMode : RingerMode
  /-- What the status bar was told about the flash: a state, or to change it. -/
  cameraFlash : List (Option Bool)

/-- The status bar hears of the torch if it can be reached. -/
def Slider.toggleTorch (self : Slider) (reached : Bool) : Slider :=
  if reached then
    if self.mToggleTorch then
      { self with cameraFlash := self.cameraFlash ++ [some self.mTorchState], mToggleTorch := false }
    else { self with cameraFlash := self.cameraFlash ++ [none] }
  else self

def Slider.disableTorch (self : Slider) (reached : Bool) : Slider :=
  if self.mTorchState then
    { self with mToggleTorch := true, mTorchState := false }.toggleTorch reached
  else self

def ObservingKeyHandler.doHandleSliderAction (self : ObservingKeyHandler) (slider : Slider)
    (action : Int) (reached : Bool) : Slider :=
  let set (zenMode : ZenMode) (ringerMode : RingerMode) : Slider :=
    { slider with zenMode := zenMode, ringerMode := ringerMode }
  if action = 0 then (set .ZEN_MODE_OFF .RINGER_MODE_NORMAL).disableTorch reached
  else if action = 1 then (set .ZEN_MODE_OFF .RINGER_MODE_VIBRATE).disableTorch reached
  else if action = 2 then (set .ZEN_MODE_OFF .RINGER_MODE_SILENT).disableTorch reached
  else if action = 3 then
    (set .ZEN_MODE_IMPORTANT_INTERRUPTIONS .RINGER_MODE_NORMAL).disableTorch reached
  else if action = 4 then
    let slider := set .ZEN_MODE_OFF .RINGER_MODE_NORMAL
    if self.mProxyIsNear && self.mUseProxiCheck then slider
    else { slider with mToggleTorch := true, mTorchState := true }.toggleTorch reached
  else slider

/-- A key event is disabled, or the torch action of the slider does not turn the torch on. -/
def ObservingKeyHandler.Blocks (self : ObservingKeyHandler) : Prop :=
  (∃ scanCode, self.isDisabledKeyEvent scanCode = true) ∨
  ∃ slider, (self.doHandleSliderAction slider 4 true).cameraFlash ≠ slider.cameraFlash ++ [some true]

theorem blocks_iff (self : ObservingKeyHandler) :
    self.Blocks ↔ self.mUseProxiCheck = true ∧ self.mProxyIsNear = true := by
  constructor
  · rintro (⟨scanCode, hdisabled⟩ | ⟨slider, hblocked⟩)
    · simp only [ObservingKeyHandler.isDisabledKeyEvent, Bool.and_eq_true] at hdisabled
      exact ⟨hdisabled.2.1, hdisabled.1⟩
    · by_contra hopen
      have hunblocked : (self.mProxyIsNear && self.mUseProxiCheck) = false := by
        rw [Bool.eq_false_iff, ne_eq, Bool.and_eq_true]
        exact fun hboth => hopen hboth.symm
      apply hblocked
      simp [ObservingKeyHandler.doHandleSliderAction, hunblocked, Slider.toggleTorch]
  · rintro ⟨hproxi, hnear⟩
    refine Or.inl ⟨143, ?_⟩
    rw [ObservingKeyHandler.isDisabledKeyEvent, hproxi, hnear]
    decide

/-- The sensors whose checks are on. -/
def KeyHandler.checked (self : KeyHandler) : Listeners where
  mProximitySensor := self.mUseProxiCheck
  mPocketProximitySensor := self.mUsePocketCheck || self.mUseWaveCheck
  mTiltSensorListener := self.mUseTiltCheck

/-- A device together with how often its screen was turned off, with the one of these periods
    in which the last value of the proximity sensor came, `none` if it came in no such period, and
    with the checks that were on when the screen was last turned off. -/
structure Watched where
  device : Device
  period : Nat
  origin : Option Nat
  checkedOff : Listeners

def Watched.create (board : Board) (users : Users) : Watched where
  device := .create board users
  period := 0
  origin := none
  checkedOff := ⟨false, false, false⟩

def Watched.handle (board : Board) (watched : Watched) (event : DeviceEvent) : Watched where
  device := watched.device.handle board event
  period :=
    match event with
    | .receive (.ACTION_SCREEN_OFF _) => watched.period + 1
    | _ => watched.period
  origin :=
    match event with
    | .proximitySensor _ => if watched.device.handler.mDispOn then none else some watched.period
    | _ => watched.origin
  checkedOff :=
    match event with
    | .receive (.ACTION_SCREEN_OFF _) => watched.device.handler.checked
    | _ => watched.checkedOff

/-- The last value of the proximity sensor came in a period that has ended. -/
def Watched.Stale (watched : Watched) : Prop :=
  ∃ period ∈ watched.origin, watched.device.handler.mDispOn = true ∨ period < watched.period

/-- While the screen is on no sensor is listened to, and nothing is ever blocked by what the
    proximity sensor said before the screen was last on. -/
structure Balanced (watched : Watched) : Prop where
  silent : watched.device.handler.mDispOn = true → watched.device.handler.listeners = ⟨false, false, false⟩
  fresh : watched.device.handler.Blocks → ¬ watched.Stale

/-- The screen turns off and on in turn, and a sensor tells its values while it is listened to. -/
def Alternates (watched : Watched) : DeviceEvent → Prop
  | .receive (.ACTION_SCREEN_OFF _) => watched.device.handler.mDispOn = true
  | .receive (.ACTION_SCREEN_ON _) => watched.device.handler.mDispOn = false
  | .receive (.pocketSensor _ _) => watched.device.handler.listeners.mPocketProximitySensor = true
  | .proximitySensor _ => watched.device.handler.listeners.mProximitySensor = true
  | _ => True

/-- When the screen turns on, the checks that were on when it was turned off are so again, and the
    proximity check is off unless the sensor last said far or has never said anything; and the check
    is not turned on over a near value of an earlier period. -/
def Settled (board : Board) (watched : Watched) : DeviceEvent → Prop
  | .receive (.ACTION_SCREEN_ON _) =>
    let handler := watched.device.handler
    (watched.checkedOff.mProximitySensor = true → handler.mUseProxiCheck = true) ∧
    (watched.checkedOff.mPocketProximitySensor = true →
      handler.mUsePocketCheck = true ∨ handler.mUseWaveCheck = true) ∧
    (watched.checkedOff.mTiltSensorListener = true → handler.mUseTiltCheck = true) ∧
    (handler.mUseProxiCheck = true → handler.mProxyIsNear = true → watched.origin = none)
  | .change _ (.OMNI_DEVICE_FEATURE_SETTINGS _) => True
  | .change user change =>
    let settings := (watched.device.toUsers.handle (.change user change)).settings
    settings.OMNI_DEVICE_PROXI_CHECK_ENABLED.getD 1 = 1 →
      board.config_proxiSensorWakupCheck = true → watched.device.handler.mProxyIsNear = true →
      ¬ watched.Stale
  | _ => True

instance (watched : Watched) : Decidable watched.Stale :=
  decidable_of_iff
    (watched.origin.any fun period => watched.device.handler.mDispOn || period < watched.period)
    (by simp [Watched.Stale, Option.any_eq_true])

instance (watched : Watched) : (event : DeviceEvent) → Decidable (Alternates watched event)
  | .receive (.ACTION_SCREEN_OFF _) => inferInstanceAs (Decidable (_ = _))
  | .receive (.ACTION_SCREEN_ON _) => inferInstanceAs (Decidable (_ = _))
  | .receive (.pocketSensor _ _) => inferInstanceAs (Decidable (_ = _))
  | .proximitySensor _ => inferInstanceAs (Decidable (_ = _))
  | .change _ _ => isTrue trivial
  | .switchUser _ => isTrue trivial

instance (board : Board) (watched : Watched) :
    (event : DeviceEvent) → Decidable (Settled board watched event)
  | .receive (.ACTION_SCREEN_ON _) => inferInstanceAs (Decidable (_ ∧ _))
  | .receive (.ACTION_SCREEN_OFF _) => isTrue trivial
  | .receive (.pocketSensor _ _) => isTrue trivial
  | .proximitySensor _ => isTrue trivial
  | .change _ (.OMNI_DEVICE_FEATURE_SETTINGS _) => isTrue trivial
  | .change _ (.OMNI_DEVICE_PROXI_CHECK_ENABLED _) => inferInstanceAs (Decidable (_ → _))
  | .change _ (.DOUBLE_TAP_TO_WAKE _) => inferInstanceAs (Decidable (_ → _))
  | .switchUser _ => isTrue trivial

instance (watched : Watched) : Decidable (Balanced watched) :=
  decidable_of_iff
    ((watched.device.handler.mDispOn = true → watched.device.handler.listeners = ⟨false, false, false⟩) ∧
      (watched.device.handler.mUseProxiCheck = true ∧ watched.device.handler.mProxyIsNear = true →
        ¬ watched.Stale))
    (by rw [← blocks_iff]; exact ⟨fun h => ⟨h.1, h.2⟩, fun h => ⟨h.silent, h.fresh⟩⟩)

/-- When the screen turns on a sensor is let go if its check is on at that moment. -/
theorem receive_screen_on_all (self : KeyHandler) (now : Int) :
    (self.receive (.ACTION_SCREEN_ON now)).mDispOn = true ∧
    (self.receive (.ACTION_SCREEN_ON now)).listeners =
      { mProximitySensor := !self.mUseProxiCheck && self.listeners.mProximitySensor
        mPocketProximitySensor :=
          !(self.mUsePocketCheck || self.mUseWaveCheck) && self.listeners.mPocketProximitySensor
        mTiltSensorListener := !self.mUseTiltCheck && self.listeners.mTiltSensorListener } := by
  simp only [KeyHandler.receive, KeyHandler.onDisplayOn, apply_ite KeyHandler.mDispOn,
    apply_ite KeyHandler.listeners, apply_ite KeyHandler.mUseTiltCheck, apply_ite KeyHandler.mUsePocketCheck,
    apply_ite KeyHandler.mUseWaveCheck, ite_self, true_and]
  cases self.mUseProxiCheck <;> cases self.mUsePocketCheck || self.mUseWaveCheck <;>
    cases self.mUseTiltCheck <;> rfl

theorem receive_screen_off_mDispOn (self : KeyHandler) (now : Int) :
    (self.receive (.ACTION_SCREEN_OFF now)).mDispOn = false := by
  simp only [KeyHandler.receive, KeyHandler.onDisplayOff, apply_ite KeyHandler.mDispOn, ite_self]

theorem receive_sensor_kept (self : KeyHandler) (near : Bool) (now : Int) :
    (self.receive (.pocketSensor near now)).mDispOn = self.mDispOn ∧
    (self.receive (.pocketSensor near now)).listeners = self.listeners := by
  simp only [KeyHandler.receive, KeyHandler.onPocketSensorChanged]
  constructor
  · repeat' split
    all_goals rfl
  · repeat' split
    all_goals rfl

/-- What a key handler knows of the screen and of the sensors. -/
def ObservingKeyHandler.sensed (self : ObservingKeyHandler) : Bool × Listeners × Bool :=
  (self.mDispOn, self.listeners, self.mProxyIsNear)

@[simp] theorem writeValue_sensed (self : ObservingKeyHandler) (board : Board) (path value : String) :
    (self.writeValue board path value).sensed = self.sensed := by
  unfold ObservingKeyHandler.writeValue
  split <;> rfl

theorem updateDozeSettings_sensed (self : ObservingKeyHandler) (board : Board)
    (settings : UserSettings) : (self.updateDozeSettings board settings).sensed = self.sensed := by
  obtain ⟨_, _, _, _, _, hfields⟩ := updateDozeSettings_fields self board settings
  rw [hfields]
  rfl

theorem updateDozeSettings_mUseProxiCheck (self : ObservingKeyHandler) (board : Board)
    (settings : UserSettings) :
    (self.updateDozeSettings board settings).mUseProxiCheck = self.mUseProxiCheck := by
  obtain ⟨_, _, _, _, _, hfields⟩ := updateDozeSettings_fields self board settings
  rw [hfields]

theorem update_sensed (self : ObservingKeyHandler) (board : Board) (settings : UserSettings) :
    (self.update board settings).sensed = self.sensed := by
  rw [ObservingKeyHandler.update, ObservingKeyHandler.updateDoubleTapToWake, writeValue_sensed]
  rfl

theorem onChange_sensed (self : ObservingKeyHandler) (board : Board) (settings : UserSettings)
    (change : Change) : (self.onChange board settings change).sensed = self.sensed := by
  cases change with
  | OMNI_DEVICE_FEATURE_SETTINGS value => exact updateDozeSettings_sensed self board settings
  | OMNI_DEVICE_PROXI_CHECK_ENABLED value => exact update_sensed self board settings
  | DOUBLE_TAP_TO_WAKE value => exact update_sensed self board settings

theorem onUserSwitched_sensed (self : ObservingKeyHandler) (user : Nat) :
    (self.onUserSwitched user).sensed = self.sensed := by
  unfold ObservingKeyHandler.onUserSwitched
  split <;> rfl

theorem update_mUseProxiCheck (self : ObservingKeyHandler) (board : Board) (settings : UserSettings) :
    (self.update board settings).mUseProxiCheck =
      (settings.OMNI_DEVICE_PROXI_CHECK_ENABLED.getD 1 = 1 && self.mProxiSensorWakupCheck) :=
  congrArg Cached.mUseProxiCheck (update_cached self board settings)

/-- The key handler knows its configuration, the period of the last value has begun, and while the
    screen is off the sensors are listened to whose checks were on when it was turned off. -/
structure Tracked (board : Board) (watched : Watched) : Prop where
  configured : watched.device.handler.mProxiSensorWakupCheck = board.config_proxiSensorWakupCheck
  begun : ∀ period ∈ watched.origin, period ≤ watched.period
  listening : watched.device.handler.mDispOn = false → watched.device.handler.listeners = watched.checkedOff

theorem receive_screen_off_listeners (self : KeyHandler) (now : Int)
    (hsilent : self.listeners = ⟨false, false, false⟩) :
    (self.receive (.ACTION_SCREEN_OFF now)).listeners = self.checked := by
  simp only [KeyHandler.receive, KeyHandler.onDisplayOff, KeyHandler.checked, apply_ite KeyHandler.listeners,
    apply_ite KeyHandler.mUseTiltCheck, apply_ite KeyHandler.mUsePocketCheck, apply_ite KeyHandler.mUseWaveCheck,
    ite_self, hsilent]
  cases self.mUseProxiCheck <;> cases self.mUsePocketCheck || self.mUseWaveCheck <;>
    cases self.mUseTiltCheck <;> rfl

/-- What leaves the listeners and the screen as they are leaves it true of them that they follow the checks. -/
theorem Tracked.of_sensed {board : Board} {watched : Watched} (h : Tracked board watched) {after : Watched}
    (hsensed : after.device.handler.sensed = watched.device.handler.sensed)
    (hchecked : after.checkedOff = watched.checkedOff) :
    after.device.handler.mDispOn = false → after.device.handler.listeners = after.checkedOff := by
  intro hoff
  rw [hchecked]
  exact (congrArg (fun sensed => sensed.2.1) hsensed).trans
    (h.listening ((congrArg Prod.fst hsensed).symm.trans hoff))

theorem Tracked.handle {board : Board} {watched : Watched} (h : Tracked board watched) {event : DeviceEvent}
    (hbalanced : Balanced watched) (hlegal : Alternates watched event) :
    Tracked board (watched.handle board event) := by
  obtain ⟨hconfigured, hbegun, hlistening⟩ := id h
  refine ⟨?_, ?_, ?_⟩
  · cases event with
    | receive event => exact hconfigured
    | proximitySensor near => exact hconfigured
    | change user change => exact (onChange_mProxiSensorWakupCheck _ _ _ _).trans hconfigured
    | switchUser user => exact (onUserSwitched_mProxiSensorWakupCheck _ _).trans hconfigured
  · cases event with
    | receive event =>
      cases event with
      | ACTION_SCREEN_OFF now => exact fun period hperiod => (hbegun period hperiod).trans (Nat.le_succ _)
      | ACTION_SCREEN_ON now => exact hbegun
      | pocketSensor near now => exact hbegun
    | proximitySensor near =>
      intro period hperiod
      simp only [Watched.handle] at hperiod ⊢
      split at hperiod
      · cases hperiod
      · exact (Option.some.inj hperiod).ge
    | change user change => exact hbegun
    | switchUser user => exact hbegun
  · cases event with
    | receive event =>
      cases event with
      | ACTION_SCREEN_OFF now =>
        exact fun _ => receive_screen_off_listeners watched.device.handler.toKeyHandler now (hbalanced.silent hlegal)
      | ACTION_SCREEN_ON now =>
        exact fun hoff => absurd ((receive_screen_on_all watched.device.handler.toKeyHandler now).1.symm.trans hoff)
          (by decide)
      | pocketSensor near now =>
        obtain ⟨hon, hlisteners⟩ := receive_sensor_kept watched.device.handler.toKeyHandler near now
        exact h.of_sensed (Prod.ext hon (Prod.ext hlisteners rfl)) rfl
    | proximitySensor near => exact hlistening
    | change user change => exact h.of_sensed (onChange_sensed _ _ _ _) rfl
    | switchUser user => exact h.of_sensed (onUserSwitched_sensed _ _) rfl

theorem receive_mUseProxiCheck (self : KeyHandler) (event : Event) :
    (self.receive event).mUseProxiCheck = self.mUseProxiCheck :=
  congrArg Settings.mUseProxiCheck (receive_settings self event)

/-- When the screen turns off nothing is stale, as nothing blocked while it was on. -/
theorem balanced_screen_off {board : Board} {watched : Watched} (hbalanced : Balanced watched)
    (hon : watched.device.handler.mDispOn = true) (now : Int) :
    Balanced (watched.handle board (.receive (.ACTION_SCREEN_OFF now))) := by
  have hoff : (watched.handle board (.receive (.ACTION_SCREEN_OFF now))).device.handler.mDispOn = false :=
    receive_screen_off_mDispOn _ now
  have hproxi := receive_mUseProxiCheck watched.device.handler.toKeyHandler (.ACTION_SCREEN_OFF now)
  refine ⟨fun hshown => absurd hshown (by rw [hoff]; decide), ?_⟩
  rintro hblocks ⟨period, hperiod, _⟩
  rw [blocks_iff] at hblocks
  have hbefore : watched.device.handler.Blocks := (blocks_iff _).mpr ⟨hproxi.symm.trans hblocks.1, hblocks.2⟩
  exact hbalanced.fresh hbefore ⟨period, hperiod, Or.inl hon⟩

theorem balanced_screen_on_iff {board : Board} {watched : Watched}
    (hlistening : watched.device.handler.listeners = watched.checkedOff) (now : Int) :
    Balanced (watched.handle board (.receive (.ACTION_SCREEN_ON now))) ↔
      Settled board watched (.receive (.ACTION_SCREEN_ON now)) := by
  obtain ⟨hon, hlisteners⟩ := receive_screen_on_all watched.device.handler.toKeyHandler now
  have hproxi := receive_mUseProxiCheck watched.device.handler.toKeyHandler (.ACTION_SCREEN_ON now)
  have hsilent : (watched.handle board (.receive (.ACTION_SCREEN_ON now))).device.handler.listeners =
      ⟨false, false, false⟩ ↔
      (watched.checkedOff.mProximitySensor = true → watched.device.handler.mUseProxiCheck = true) ∧
      (watched.checkedOff.mPocketProximitySensor = true →
        watched.device.handler.mUsePocketCheck = true ∨ watched.device.handler.mUseWaveCheck = true) ∧
      (watched.checkedOff.mTiltSensorListener = true → watched.device.handler.mUseTiltCheck = true) := by
    change (watched.device.handler.receive (.ACTION_SCREEN_ON now)).listeners = _ ↔ _
    have hgone (check listening : Bool) :
        (!check && listening) = false ↔ (listening = true → check = true) := by
      cases check <;> cases listening <;> decide
    rw [hlisteners, Listeners.mk.injEq, hgone, hgone, hgone, Bool.or_eq_true, hlistening]
  have hfresh : (watched.handle board (.receive (.ACTION_SCREEN_ON now))).device.handler.Blocks ↔
      watched.device.handler.mUseProxiCheck = true ∧ watched.device.handler.mProxyIsNear = true := by
    rw [blocks_iff]
    exact and_congr_left fun _ => by rw [← hproxi]; rfl
  have hstale : (watched.handle board (.receive (.ACTION_SCREEN_ON now))).Stale ↔ watched.origin ≠ none := by
    rw [Option.ne_none_iff_exists']
    constructor
    · rintro ⟨period, hperiod, _⟩
      exact ⟨period, hperiod⟩
    · rintro ⟨period, hperiod⟩
      exact ⟨period, hperiod, Or.inl hon⟩
  constructor
  · rintro ⟨hquiet, hnever⟩
    obtain ⟨hprox, hpocket, htilt⟩ := hsilent.mp (hquiet hon)
    refine ⟨hprox, hpocket, htilt, fun hcheck hnear => ?_⟩
    by_contra horigin
    exact hnever (hfresh.mpr ⟨hcheck, hnear⟩) (hstale.mpr horigin)
  · rintro ⟨hprox, hpocket, htilt, hnever⟩
    refine ⟨fun _ => hsilent.mpr ⟨hprox, hpocket, htilt⟩, fun hblocks => ?_⟩
    rw [hstale, not_not]
    exact hnever (hfresh.mp hblocks).1 (hfresh.mp hblocks).2

/-- What leaves the listeners, the screen and the last value as they are can only unbalance by
    turning on the proximity check. -/
theorem balanced_of_sensed_iff {watched : Watched} (hbalanced : Balanced watched) (after : Watched)
    (hsensed : after.device.handler.sensed = watched.device.handler.sensed)
    (hperiod : after.period = watched.period) (horigin : after.origin = watched.origin) :
    Balanced after ↔
      (after.device.handler.mUseProxiCheck = true → watched.device.handler.mProxyIsNear = true →
        ¬ watched.Stale) := by
  have hon : after.device.handler.mDispOn = watched.device.handler.mDispOn := congrArg Prod.fst hsensed
  have hlisteners : after.device.handler.listeners = watched.device.handler.listeners :=
    congrArg (fun sensed => sensed.2.1) hsensed
  have hnear : after.device.handler.mProxyIsNear = watched.device.handler.mProxyIsNear :=
    congrArg (fun sensed => sensed.2.2) hsensed
  have hstale : after.Stale ↔ watched.Stale := by
    rw [Watched.Stale, Watched.Stale, hon, hperiod, horigin]
  constructor
  · intro hafter hcheck hclose
    rw [← hstale]
    exact hafter.fresh ((blocks_iff _).mpr ⟨hcheck, hnear.trans hclose⟩)
  · intro hfresh
    refine ⟨fun hshown => hlisteners.trans (hbalanced.silent (hon.symm.trans hshown)), fun hblocks => ?_⟩
    rw [blocks_iff, hnear] at hblocks
    rw [hstale]
    exact hfresh hblocks.1 hblocks.2

/-- A value of the proximity sensor comes while the screen is off and belongs to the period. -/
theorem balanced_proximitySensor {board : Board} {watched : Watched} (hbalanced : Balanced watched)
    (hregistered : watched.device.handler.listeners.mProximitySensor = true) (near : Bool) :
    Balanced (watched.handle board (.proximitySensor near)) := by
  have hoff : watched.device.handler.mDispOn = false := by
    rw [Bool.eq_false_iff]
    intro hon
    rw [hbalanced.silent hon] at hregistered
    cases hregistered
  refine ⟨fun hon => absurd hon (by rw [Watched.handle, Device.handle, hoff]; decide), ?_⟩
  rintro _ ⟨period, hperiod, hended⟩
  simp only [Watched.handle, Device.handle, hoff, Bool.false_eq_true, if_false, false_or] at hperiod hended
  obtain rfl : watched.period = period := Option.some.inj hperiod
  exact lt_irrefl _ hended

theorem balanced_handle_iff {board : Board} {watched : Watched} (htracked : Tracked board watched)
    (hbalanced : Balanced watched) {event : DeviceEvent} (hlegal : Alternates watched event) :
    Balanced (watched.handle board event) ↔ Settled board watched event := by
  have hkept (hcheck : watched.device.handler.mUseProxiCheck = true)
      (hnear : watched.device.handler.mProxyIsNear = true) : ¬ watched.Stale :=
    hbalanced.fresh ((blocks_iff _).mpr ⟨hcheck, hnear⟩)
  cases event with
  | receive event =>
    cases event with
    | ACTION_SCREEN_ON now => exact balanced_screen_on_iff (htracked.listening hlegal) now
    | ACTION_SCREEN_OFF now => exact iff_of_true (balanced_screen_off hbalanced hlegal now) trivial
    | pocketSensor near now =>
      obtain ⟨hon, hlisteners⟩ := receive_sensor_kept watched.device.handler.toKeyHandler near now
      have hproxi := receive_mUseProxiCheck watched.device.handler.toKeyHandler (.pocketSensor near now)
      have hsensed : (watched.handle board (.receive (.pocketSensor near now))).device.handler.sensed =
          watched.device.handler.sensed := Prod.ext hon (Prod.ext hlisteners rfl)
      exact iff_of_true ((balanced_of_sensed_iff hbalanced _ hsensed rfl rfl).mpr fun hcheck =>
        hkept (hproxi.symm.trans hcheck)) trivial
  | proximitySensor near => exact iff_of_true (balanced_proximitySensor hbalanced hlegal near) trivial
  | switchUser user =>
    have hsensed : (watched.handle board (.switchUser user)).device.handler.sensed =
        watched.device.handler.sensed := onUserSwitched_sensed _ _
    have hproxi := congrArg Cached.mUseProxiCheck (onUserSwitched_cached watched.device.handler user)
    exact iff_of_true ((balanced_of_sensed_iff hbalanced _ hsensed rfl rfl).mpr fun hcheck =>
      hkept (hproxi.symm.trans hcheck)) trivial
  | change user change =>
    let settings := (watched.device.toUsers.handle (.change user change)).settings
    have hsensed : (watched.handle board (.change user change)).device.handler.sensed =
        watched.device.handler.sensed := onChange_sensed watched.device.handler board settings change
    rw [balanced_of_sensed_iff hbalanced _ hsensed rfl rfl]
    have hread : (watched.device.handler.update board settings).mUseProxiCheck = true ↔
        settings.OMNI_DEVICE_PROXI_CHECK_ENABLED.getD 1 = 1 ∧
          board.config_proxiSensorWakupCheck = true := by
      rw [update_mUseProxiCheck, htracked.configured, Bool.and_eq_true, decide_eq_true_eq]
    cases change with
    | OMNI_DEVICE_FEATURE_SETTINGS value =>
      have hproxi := updateDozeSettings_mUseProxiCheck watched.device.handler board settings
      exact iff_of_true (fun hcheck => hkept (hproxi.symm.trans hcheck)) trivial
    | OMNI_DEVICE_PROXI_CHECK_ENABLED value =>
      change ((watched.device.handler.update board settings).mUseProxiCheck = true → _) ↔ _
      rw [hread, and_imp]
      exact Iff.rfl
    | DOUBLE_TAP_TO_WAKE value =>
      change ((watched.device.handler.update board settings).mUseProxiCheck = true → _) ↔ _
      rw [hread, and_imp]
      exact Iff.rfl

theorem create_sensed (board : Board) (users : Users) :
    (ObservingKeyHandler.create board users.settings).sensed = (ObservingKeyHandler.blank board).sensed :=
  (updateDozeSettings_sensed _ board users.settings).trans (update_sensed _ board users.settings)

theorem balanced_create (board : Board) (users : Users) : Balanced (.create board users) := by
  have hsensed := create_sensed board users
  refine ⟨fun _ => congrArg (fun sensed => sensed.2.1) hsensed, fun _ hstale => ?_⟩
  obtain ⟨period, hperiod, _⟩ := hstale
  cases hperiod

/-- The listeners follow the screen and nothing is blocked by a stale value, at every moment. -/
def StaysBalanced (board : Board) (users : Users) (events : List DeviceEvent) : Prop :=
  ∀ moment ∈ moments (Watched.handle board) (.create board users) events, Balanced moment

instance (board : Board) (users : Users) (events : List DeviceEvent) :
    Decidable (StaysBalanced board users events) :=
  inferInstanceAs (Decidable (∀ moment ∈ moments _ _ _, _))

/-- The listeners stay balanced exactly if whenever the screen turns on the checks are on that were
    so when it was turned off, and the proximity check sees nothing near, and the proximity check is
    not turned on over a near value of an earlier period. -/
theorem stays_balanced_iff (board : Board) (users : Users) (events : List DeviceEvent)
    (hevents : Taken (Watched.handle board) Alternates (.create board users) events) :
    StaysBalanced board users events ↔
      Taken (Watched.handle board) (Settled board) (.create board users) events := by
  have hcreated : Tracked board (.create board users) := by
    refine ⟨rfl, fun period hperiod => ?_, fun hoff => ?_⟩
    · cases hperiod
    · exact absurd ((congrArg Prod.fst (create_sensed board users)).symm.trans hoff) Bool.false_ne_true.symm
  refine always_iff_taken (I := Tracked board) ?_ ?_ hevents hcreated (balanced_create board users)
  · intro watched event htracked hbalanced hlegal
    exact balanced_handle_iff htracked hbalanced hlegal
  · intro watched event htracked hbalanced hlegal _
    exact htracked.handle hbalanced hlegal

/-- The user has turned on the proximity and tilt checks. -/
def checkedUsers : Users where
  store := fun _ => ⟨some 1, some "true:false", none⟩
  user := 0

/-- A setting read again puts the proximity check on, and the screen goes off and on over a far
    value. -/
def farEvents : List DeviceEvent :=
  [.change 0 (.OMNI_DEVICE_PROXI_CHECK_ENABLED (some 1)), .receive (.ACTION_SCREEN_OFF 0),
    .proximitySensor true, .proximitySensor false, .receive (.ACTION_SCREEN_ON 9)]

theorem stays_balanced_farEvents : StaysBalanced (plainBoard true) checkedUsers farEvents := by
  exact (stays_balanced_iff (plainBoard true) checkedUsers farEvents (by decide)).mpr (by decide)

/-- The check is turned on, and off while the screen is off. -/
def droppedEvents : List DeviceEvent :=
  [.change 0 (.OMNI_DEVICE_PROXI_CHECK_ENABLED (some 1)), .receive (.ACTION_SCREEN_OFF 0),
    .change 0 (.OMNI_DEVICE_PROXI_CHECK_ENABLED (some 0)), .receive (.ACTION_SCREEN_ON 9)]

/-- The screen is turned on over a near value. -/
def nearEvents : List DeviceEvent :=
  [.change 0 (.OMNI_DEVICE_PROXI_CHECK_ENABLED (some 1)), .receive (.ACTION_SCREEN_OFF 0),
    .proximitySensor true, .receive (.ACTION_SCREEN_ON 9)]

/-- The screen turns off and on, and the sensor tells its values, as they should: the first run
    leaves the proximity sensor listened to, in the second key events stay blocked. -/
theorem sensors_unbalanced :
    Taken (Watched.handle (plainBoard true)) Alternates (.create (plainBoard true) checkedUsers) droppedEvents ∧
    ¬ StaysBalanced (plainBoard true) checkedUsers droppedEvents ∧
    Taken (Watched.handle (plainBoard true)) Alternates (.create (plainBoard true) checkedUsers) nearEvents ∧
    ¬ StaysBalanced (plainBoard true) checkedUsers nearEvents := by
  decide

end device_parts
