import OnePlus7Pro.Doze.SettingsObserver

open effects runs

namespace device_parts

/-- A text that stands for a boolean. -/
def IsBoolean (text : String) : Prop :=
  text.toList.map Char.toLower ∈ ["true".toList, "false".toList]

instance (text : String) : Decidable (IsBoolean text) := inferInstanceAs (Decidable (_ ∈ _))

theorem IsBoolean.ne_empty {text : String} (h : IsBoolean text) : text ≠ "" := by
  rintro rfl
  revert h
  decide

/-- What stands between the separators of a text. -/
def parts (value : String) : List String := (value.toList.splitOn ':').map String.ofList

/-- A text of the feature setting: empty, or two to four booleans. -/
def WellFormed (value : String) : Prop :=
  value = "" ∨
    2 ≤ (parts value).length ∧ (parts value).length ≤ 4 ∧ ∀ part ∈ parts value, IsBoolean part

instance (value : String) : Decidable (WellFormed value) := inferInstanceAs (Decidable (_ ∨ _))

/-- The boolean at a place of the feature setting, if there is one. -/
def feature (value : Option String) (place : Nat) : Bool :=
  value.any fun text => (parts text)[place]?.any valueOf

/-- What a key handler caches of the settings. -/
structure Cached where
  mUseProxiCheck : Bool
  mDoubleTapToWake : Bool
  mUseTiltCheck : Bool
  mUseSingleTap : Bool
  mUseWaveCheck : Bool
  mUsePocketCheck : Bool
  deriving DecidableEq

def ObservingKeyHandler.cached (self : ObservingKeyHandler) : Cached where
  mUseProxiCheck := self.mUseProxiCheck
  mDoubleTapToWake := self.mDoubleTapToWake
  mUseTiltCheck := self.mUseTiltCheck
  mUseSingleTap := self.mUseSingleTap
  mUseWaveCheck := self.mUseWaveCheck
  mUsePocketCheck := self.mUsePocketCheck

/-- What a user's settings say. -/
def UserSettings.view (settings : UserSettings) (board : Board) : Cached where
  mUseProxiCheck :=
    settings.OMNI_DEVICE_PROXI_CHECK_ENABLED.getD 1 = 1 && board.config_proxiSensorWakupCheck
  mDoubleTapToWake := settings.DOUBLE_TAP_TO_WAKE.getD 0 = 1
  mUseTiltCheck := feature settings.OMNI_DEVICE_FEATURE_SETTINGS 0
  mUseSingleTap := feature settings.OMNI_DEVICE_FEATURE_SETTINGS 1
  mUseWaveCheck := feature settings.OMNI_DEVICE_FEATURE_SETTINGS 2
  mUsePocketCheck := feature settings.OMNI_DEVICE_FEATURE_SETTINGS 3

/-- The key handler has cached what the settings of the current user say. -/
def Coherent (board : Board) (device : Device) : Prop :=
  device.handler.cached = device.settings.view board

instance (board : Board) (device : Device) : Decidable (Coherent board device) :=
  inferInstanceAs (Decidable (_ = _))

/-- The feature setting is well formed where it is stored. -/
def UserSettings.WellFormed (settings : UserSettings) : Prop :=
  ∀ value, settings.OMNI_DEVICE_FEATURE_SETTINGS = some value → device_parts.WellFormed value

/-- Only well formed texts are stored. -/
def DeviceEvent.WellFormed : DeviceEvent → Prop
  | .change _ (.OMNI_DEVICE_FEATURE_SETTINGS (some value)) => device_parts.WellFormed value
  | _ => True

/-- The change does not empty a feature setting of the current user that has a true part, and the
    settings of another user who becomes the current one say the same. -/
def Refreshed (board : Board) (users : Users) : DeviceEvent → Prop
  | .change user (.OMNI_DEVICE_FEATURE_SETTINGS value) =>
    user = users.user → value.getD "" = "" →
      ∀ place < 4, feature users.settings.OMNI_DEVICE_FEATURE_SETTINGS place = false
  | .switchUser user => (users.store user).view board = users.settings.view board
  | _ => True

@[simp] theorem writeValue_cached (self : ObservingKeyHandler) (board : Board) (path value : String) :
    (self.writeValue board path value).cached = self.cached := by
  unfold ObservingKeyHandler.writeValue
  split <;> rfl

@[simp] theorem writeValue_mProxiSensorWakupCheck (self : ObservingKeyHandler) (board : Board)
    (path value : String) :
    (self.writeValue board path value).mProxiSensorWakupCheck = self.mProxiSensorWakupCheck := by
  unfold ObservingKeyHandler.writeValue
  split <;> rfl

theorem updateSingleTap_cached (self : ObservingKeyHandler) (board : Board) :
    (self.updateSingleTap board).cached = self.cached :=
  writeValue_cached self board _ _

@[simp] theorem updateDozeSettings_mProxiSensorWakupCheck (self : ObservingKeyHandler) (board : Board)
    (settings : UserSettings) :
    (self.updateDozeSettings board settings).mProxiSensorWakupCheck = self.mProxiSensorWakupCheck := by
  obtain ⟨_, _, _, _, _, hfields⟩ := updateDozeSettings_fields self board settings
  rw [hfields]

theorem update_cached (self : ObservingKeyHandler) (board : Board) (settings : UserSettings) :
    (self.update board settings).cached = { self.cached with
      mUseProxiCheck :=
        settings.OMNI_DEVICE_PROXI_CHECK_ENABLED.getD 1 = 1 && self.mProxiSensorWakupCheck
      mDoubleTapToWake := settings.DOUBLE_TAP_TO_WAKE.getD 0 = 1 } := by
  simp only [ObservingKeyHandler.update, ObservingKeyHandler.updateDoubleTapToWake, writeValue_cached]
  rfl

@[simp] theorem update_mProxiSensorWakupCheck (self : ObservingKeyHandler) (board : Board)
    (settings : UserSettings) :
    (self.update board settings).mProxiSensorWakupCheck = self.mProxiSensorWakupCheck := by
  simp [ObservingKeyHandler.update, ObservingKeyHandler.updateDoubleTapToWake]

/-- Splitting loses no part of a well formed text, since none is empty. -/
theorem split_eq_parts {value : String} (hparts : ∀ part ∈ parts value, IsBoolean part) :
    texts.split ':' value = parts value := by
  by_cases hmem : ':' ∈ value.toList
  · rw [texts.split_of_mem hmem, ← parts, List.rdropWhile_eq_self_iff]
    intro hne hlast
    exact (hparts _ (List.getLast_mem hne)).ne_empty (of_decide_eq_true hlast)
  · rw [texts.split, if_neg hmem, parts, List.splitOn_eq_singleton hmem, List.map_singleton,
      String.ofList_toList]

/-- Without a text, or with the empty one, what was cached of the last text stays. -/
theorem updateDozeSettings_of_empty (self : ObservingKeyHandler) (board : Board)
    {settings : UserSettings} (hempty : settings.OMNI_DEVICE_FEATURE_SETTINGS.getD "" = "") :
    self.updateDozeSettings board settings = self := by
  cases hvalue : settings.OMNI_DEVICE_FEATURE_SETTINGS with
  | none => exact updateDozeSettings_of_none self board hvalue
  | some value =>
    rw [hvalue, Option.getD_some] at hempty
    exact updateDozeSettings_of_blank self board (hempty ▸ hvalue)

/-- A well formed text is cached as it reads. -/
theorem updateDozeSettings_cached (self : ObservingKeyHandler) (board : Board)
    {settings : UserSettings} (hformed : settings.WellFormed)
    (hvalue : settings.OMNI_DEVICE_FEATURE_SETTINGS.getD "" ≠ "") :
    (self.updateDozeSettings board settings).cached = { settings.view board with
      mUseProxiCheck := self.mUseProxiCheck
      mDoubleTapToWake := self.mDoubleTapToWake } := by
  obtain ⟨value, hstored⟩ : ∃ value, settings.OMNI_DEVICE_FEATURE_SETTINGS = some value := by
    cases hstored : settings.OMNI_DEVICE_FEATURE_SETTINGS with
    | none => simp [hstored] at hvalue
    | some value => exact ⟨value, rfl⟩
  rw [hstored, Option.getD_some] at hvalue
  obtain hempty | ⟨htwo, hfour, hparts⟩ := hformed value hstored
  · exact absurd hempty hvalue
  rw [updateDozeSettings_of_some self board hstored hvalue, split_eq_parts hparts, UserSettings.view]
  simp only [hstored, feature, Option.any_some]
  match hread : parts value, htwo, hfour with
  | [tilt, singleTap], _, _ => exact updateSingleTap_cached _ board
  | [tilt, singleTap, wave], _, _ => exact updateSingleTap_cached _ board
  | [tilt, singleTap, wave, pocket], _, _ => exact updateSingleTap_cached _ board
  | _ :: _ :: _ :: _ :: _ :: _, _, hfour =>
    simp only [List.length_cons] at hfour
    omega

/-- The settings that a key handler has read. -/
def KeyHandler.settings (self : KeyHandler) : Settings where
  sIsOnePlus7pro := self.sIsOnePlus7pro
  sIsOnePlus7tpro := self.sIsOnePlus7tpro
  isOPCameraAvail := self.isOPCameraAvail
  mUseProxiCheck := self.mUseProxiCheck
  mUseTiltCheck := self.mUseTiltCheck
  mUseWaveCheck := self.mUseWaveCheck
  mUsePocketCheck := self.mUsePocketCheck

theorem ite_settings {self self' : KeyHandler} (check : Prop) [Decidable check]
    (hsettings : self'.settings = self.settings) :
    (if check then self' else self).settings = self.settings := by
  split
  · exact hsettings
  · rfl

theorem onDisplayOn_settings (self : KeyHandler) : self.onDisplayOn.settings = self.settings := by
  unfold KeyHandler.onDisplayOn
  extract_lets _ proximity _ pocket _ tilt observer camera
  have hproximity : proximity.settings = self.settings := ite_settings _ rfl
  have hpocket : pocket.settings = proximity.settings := ite_settings _ rfl
  have htilt : tilt.settings = pocket.settings := ite_settings _ rfl
  have hobserver : observer.settings = tilt.settings := ite_settings _ rfl
  have hcamera : camera.settings = observer.settings := ite_settings _ rfl
  exact hcamera.trans (hobserver.trans (htilt.trans (hpocket.trans hproximity)))

theorem onDisplayOff_settings (self : KeyHandler) (now : Int) :
    (self.onDisplayOff now).settings = self.settings := by
  unfold KeyHandler.onDisplayOff
  extract_lets _ proximity _ pocket _ tilt observer
  have hproximity : proximity.settings = self.settings := ite_settings _ rfl
  have hpocket : pocket.settings = proximity.settings := ite_settings _ rfl
  have htilt : tilt.settings = pocket.settings := ite_settings _ rfl
  have hobserver : observer.settings = tilt.settings := ite_settings _ rfl
  refine Eq.trans (b := observer.settings) (ite_settings _ rfl) ?_
  exact hobserver.trans (htilt.trans (hpocket.trans hproximity))

theorem onPocketSensorChanged_settings (self : KeyHandler) (near : Bool) (now : Int) :
    (self.onPocketSensorChanged near now).settings = self.settings := by
  unfold KeyHandler.onPocketSensorChanged
  extract_lets delta wave pulsed
  have hwave : wave.settings = self.settings := ite_settings _ rfl
  have hpulsed : pulsed.settings = self.settings := by
    refine ite_settings _ ?_
    exact (@ite_settings wave wave.launchDozePulse _ _ rfl).trans hwave
  exact ite_settings _ hpulsed

@[simp] theorem receive_settings (self : KeyHandler) (event : Event) :
    (self.receive event).settings = self.settings := by
  cases event with
  | ACTION_SCREEN_ON now => exact onDisplayOn_settings _
  | ACTION_SCREEN_OFF now => exact onDisplayOff_settings _ now
  | pocketSensor near now => exact onPocketSensorChanged_settings self near now

/-- What a key handler caches are settings that it has read. -/
theorem receive_cached (self : ObservingKeyHandler) (event : Event) :
    { self with toKeyHandler := self.receive event : ObservingKeyHandler }.cached = self.cached := by
  have hsettings := receive_settings self.toKeyHandler event
  unfold KeyHandler.settings at hsettings
  injection hsettings with _ _ _ hproxi htilt hwave hpocket
  simp only [ObservingKeyHandler.cached, hproxi, htilt, hwave, hpocket]

/-- The key handler knows its configuration, and well formed texts alone are stored. -/
structure Observes (board : Board) (device : Device) : Prop where
  configured : device.handler.mProxiSensorWakupCheck = board.config_proxiSensorWakupCheck
  formed : ∀ user, (device.store user).WellFormed

theorem Change.apply_wellFormed {settings : UserSettings} (hformed : settings.WellFormed)
    {user : Nat} {change : Change} (hchange : (DeviceEvent.change user change).WellFormed) :
    (change.apply settings).WellFormed := by
  intro value hvalue
  match change, hchange with
  | .OMNI_DEVICE_FEATURE_SETTINGS (some stored), hchange =>
    obtain rfl : stored = value := Option.some.inj hvalue
    exact hchange
  | .OMNI_DEVICE_FEATURE_SETTINGS none, _ => cases hvalue
  | .OMNI_DEVICE_PROXI_CHECK_ENABLED _, _ => exact hformed value hvalue
  | .DOUBLE_TAP_TO_WAKE _, _ => exact hformed value hvalue

theorem onChange_mProxiSensorWakupCheck (self : ObservingKeyHandler) (board : Board)
    (settings : UserSettings) (change : Change) :
    (self.onChange board settings change).mProxiSensorWakupCheck = self.mProxiSensorWakupCheck := by
  cases change <;> simp [onChange_eq]

theorem onUserSwitched_cached (self : ObservingKeyHandler) (user : Nat) :
    (self.onUserSwitched user).cached = self.cached := by
  unfold ObservingKeyHandler.onUserSwitched
  split <;> rfl

theorem onUserSwitched_mProxiSensorWakupCheck (self : ObservingKeyHandler) (user : Nat) :
    (self.onUserSwitched user).mProxiSensorWakupCheck = self.mProxiSensorWakupCheck := by
  unfold ObservingKeyHandler.onUserSwitched
  split <;> rfl

theorem Observes.handle {board : Board} {device : Device} (h : Observes board device)
    {event : DeviceEvent} (hevent : event.WellFormed) : Observes board (device.handle board event) := by
  cases event with
  | receive event => exact ⟨h.configured, h.formed⟩
  | proximitySensor near => exact ⟨h.configured, h.formed⟩
  | switchUser user =>
    exact ⟨(onUserSwitched_mProxiSensorWakupCheck _ user).trans h.configured, h.formed⟩
  | change user change =>
    refine ⟨(onChange_mProxiSensorWakupCheck _ board _ change).trans h.configured, ?_⟩
    intro other
    simp only [Device.handle, Users.handle, Function.update_apply]
    split
    · exact Change.apply_wellFormed (h.formed user) hevent
    · exact h.formed other

/-- The settings of the current user after a change of some user's. -/
theorem settings_change (users : Users) (user : Nat) (change : Change) :
    (users.handle (.change user change)).settings =
      if users.user = user then change.apply users.settings else users.settings := by
  simp only [Users.settings, Users.handle, Function.update_apply]
  split
  · rename_i huser
    rw [huser]
  · rfl

theorem feature_of_empty {value : Option String} (hempty : value.getD "" = "") (place : Nat) :
    feature value place = false := by
  cases value with
  | none => rfl
  | some text =>
    obtain rfl : text = "" := hempty
    cases place with
    | zero => decide
    | succ place => rfl

/-- `updateDozeSettings` caches the text, unless it is empty and one was cached before. -/
theorem updateDozeSettings_cached_iff (self : ObservingKeyHandler) {board : Board}
    {settings : UserSettings} (hformed : settings.WellFormed)
    (hproxi : self.mUseProxiCheck = (settings.view board).mUseProxiCheck)
    (htap : self.mDoubleTapToWake = (settings.view board).mDoubleTapToWake) :
    (self.updateDozeSettings board settings).cached = settings.view board ↔
      (settings.OMNI_DEVICE_FEATURE_SETTINGS.getD "" = "" → self.cached = settings.view board) := by
  by_cases hempty : settings.OMNI_DEVICE_FEATURE_SETTINGS.getD "" = ""
  · rw [updateDozeSettings_of_empty self board hempty]
    exact ⟨fun hcached _ => hcached, fun hcached => hcached hempty⟩
  · rw [updateDozeSettings_cached self board hformed hempty, hproxi, htap]
    exact iff_of_true rfl fun hvalue => absurd hvalue hempty

/-- Without a text all its features are off. -/
theorem view_eq_iff_of_empty (settings : UserSettings) (board : Board) {value : Option String}
    (hempty : value.getD "" = "") :
    settings.view board =
        { settings with OMNI_DEVICE_FEATURE_SETTINGS := value : UserSettings }.view board ↔
      ∀ place < 4, feature settings.OMNI_DEVICE_FEATURE_SETTINGS place = false := by
  simp only [UserSettings.view, feature_of_empty hempty, Cached.mk.injEq, true_and]
  constructor
  · rintro ⟨htilt, htap, hwave, hpocket⟩ place hplace
    match place, hplace with
    | 0, _ => exact htilt
    | 1, _ => exact htap
    | 2, _ => exact hwave
    | 3, _ => exact hpocket
  · intro hoff
    exact ⟨hoff 0 (by omega), hoff 1 (by omega), hoff 2 (by omega), hoff 3 (by omega)⟩

theorem onChange_coherent_iff {board : Board} {device : Device} (hobserves : Observes board device)
    (hcoherent : Coherent board device) {user : Nat} {change : Change}
    (hevent : (DeviceEvent.change user change).WellFormed) :
    Coherent board (device.handle board (.change user change)) ↔
      Refreshed board device.toUsers (.change user change) := by
  have hsettings := settings_change device.toUsers user change
  have hformed := (hobserves.handle hevent).formed device.user
  change (device.handler.onChange board (device.toUsers.handle (.change user change)).settings
    change).cached = (device.toUsers.handle (.change user change)).settings.view board ↔ _
  replace hformed : (device.toUsers.handle (.change user change)).settings.WellFormed := hformed
  have hcached : device.handler.cached = device.toUsers.settings.view board := hcoherent
  match change with
  | .OMNI_DEVICE_PROXI_CHECK_ENABLED value =>
    refine iff_of_true ?_ trivial
    rw [onChange_eq, update_cached, hcached, hobserves.configured, hsettings]
    split <;> rfl
  | .DOUBLE_TAP_TO_WAKE value =>
    refine iff_of_true ?_ trivial
    rw [onChange_eq, update_cached, hcached, hobserves.configured, hsettings]
    split <;> rfl
  | .OMNI_DEVICE_FEATURE_SETTINGS value =>
    have hproxi := congrArg Cached.mUseProxiCheck hcached
    have htap := congrArg Cached.mDoubleTapToWake hcached
    rw [onChange_eq, updateDozeSettings_cached_iff _ hformed, hcached, hsettings, Refreshed]
    · by_cases huser : device.user = user
      · rw [if_pos huser, Change.apply]
        constructor
        · intro hview _ hempty
          exact (view_eq_iff_of_empty _ board hempty).mp (hview hempty)
        · intro hoff hempty
          exact (view_eq_iff_of_empty _ board hempty).mpr (hoff huser.symm hempty)
      · rw [if_neg huser]
        exact iff_of_true (fun _ => rfl) fun hsame => absurd hsame.symm huser
    · rw [hsettings]
      split
      · exact hproxi
      · exact hproxi
    · rw [hsettings]
      split
      · exact htap
      · exact htap

theorem handle_coherent_iff {board : Board} {device : Device} (hobserves : Observes board device)
    (hcoherent : Coherent board device) {event : DeviceEvent} (hevent : event.WellFormed) :
    Coherent board (device.handle board event) ↔ Refreshed board device.toUsers event := by
  cases event with
  | receive event => exact iff_of_true ((receive_cached device.handler event).trans hcoherent) trivial
  | proximitySensor near => exact iff_of_true hcoherent trivial
  | change user change => exact onChange_coherent_iff hobserves hcoherent hevent
  | switchUser user =>
    have hcached : (device.handle board (.switchUser user)).handler.cached = device.settings.view board :=
      (onUserSwitched_cached device.handler user).trans hcoherent
    rw [Coherent, hcached]
    exact eq_comm

/-- The constructor reads the settings before the configuration: what it caches is right except
    for the proximity check. -/
theorem create_coherent_iff (board : Board) {users : Users} (hformed : users.settings.WellFormed) :
    Coherent board (.create board users) ↔
      ¬ (users.settings.OMNI_DEVICE_PROXI_CHECK_ENABLED.getD 1 = 1 ∧
        board.config_proxiSensorWakupCheck = true) := by
  have hupdated := update_cached (.blank board) board users.settings
  have hcached : (ObservingKeyHandler.create board users.settings).cached =
      { users.settings.view board with mUseProxiCheck := false } := by
    have hproxi := congrArg Cached.mUseProxiCheck hupdated
    have htap : ((ObservingKeyHandler.blank board).update board users.settings).mDoubleTapToWake =
        (users.settings.view board).mDoubleTapToWake := congrArg Cached.mDoubleTapToWake hupdated
    have hoff : ((ObservingKeyHandler.blank board).update board users.settings).mUseProxiCheck = false :=
      hproxi.trans (Bool.and_false _)
    change (((ObservingKeyHandler.blank board).update board users.settings).updateDozeSettings board
      users.settings).cached = _
    by_cases hempty : users.settings.OMNI_DEVICE_FEATURE_SETTINGS.getD "" = ""
    · rw [updateDozeSettings_of_empty _ board hempty, hupdated]
      simp only [UserSettings.view, feature_of_empty hempty]
      simp [ObservingKeyHandler.cached, ObservingKeyHandler.blank, KeyHandler.init]
    · rw [updateDozeSettings_cached _ board hformed hempty, hoff, htap]
  change (ObservingKeyHandler.create board users.settings).cached = users.settings.view board ↔ _
  rw [hcached]
  simp [UserSettings.view]

/-- The key handler has cached what the settings say from the return of its constructor on. -/
def StaysCoherent (board : Board) (users : Users) (events : List DeviceEvent) : Prop :=
  ∀ moment ∈ moments (Device.handle board) (.create board users) events, Coherent board moment

instance (board : Board) (users : Users) (events : List DeviceEvent) :
    Decidable (StaysCoherent board users events) :=
  inferInstanceAs (Decidable (∀ moment ∈ moments _ _ _, _))

/-- The cache of the key handler follows the settings exactly if the proximity check is off when
    the handler is created, no text with a true feature is emptied while its user is the current
    one, and users are only switched between settings that say the same. -/
theorem stays_coherent_iff (board : Board) (users : Users)
    (hstored : ∀ user, (users.store user).WellFormed) (events : List DeviceEvent)
    (hevents : ∀ event ∈ events, event.WellFormed) :
    StaysCoherent board users events ↔
      ¬ (users.settings.OMNI_DEVICE_PROXI_CHECK_ENABLED.getD 1 = 1 ∧
        board.config_proxiSensorWakupCheck = true) ∧
      Taken Users.handle (Refreshed board) users events := by
  have hobserves : Observes board (.create board users) := ⟨rfl, hstored⟩
  have hlegal : Taken (Device.handle board) (fun _ event => event.WellFormed) (.create board users) events :=
    taken_of_forall hevents
  have hguard : Taken (Device.handle board) (fun device event => Refreshed board device.toUsers event)
      (.create board users) events ↔ Taken Users.handle (Refreshed board) users events := by
    refine taken_map Device.toUsers ?_
    intro device event
    cases event <;> rfl
  have hwhole (hstart : Coherent board (.create board users)) : StaysCoherent board users events ↔
      Taken (Device.handle board) (fun device event => Refreshed board device.toUsers event)
        (.create board users) events := by
    refine always_iff_taken (I := Observes board) ?_ ?_ hlegal hobserves hstart
    · intro device event hobserves hcoherent hevent
      exact handle_coherent_iff hobserves hcoherent hevent
    · intro device event hobserves _ hevent _
      exact hobserves.handle hevent
  rw [← create_coherent_iff board (hstored users.user), ← hguard]
  constructor
  · intro halways
    have hstart : Coherent board (.create board users) :=
      halways _ ((mem_moments_iff _ _ _ _).mpr ⟨[], List.nil_prefix, rfl⟩)
    exact ⟨hstart, (hwhole hstart).mp halways⟩
  · rintro ⟨hstart, hrun⟩
    exact (hwhole hstart).mpr hrun

/-- A board with the proximity check in its configuration, or without. -/
def plainBoard (config_proxiSensorWakupCheck : Bool) : Board where
  sIsOnePlus7pro := true
  sIsOnePlus7tpro := false
  isOPCameraAvail := false
  config_proxiSensorWakupCheck := config_proxiSensorWakupCheck
  fileWritable := fun _ => true

/-- The first user has turned on the tilt check, no other user has stored anything. -/
def tiltUsers : Users where
  store := fun user => ⟨none, if user = 0 then some "true:false:false:false" else none, none⟩
  user := 0

theorem tiltUsers_wellFormed (user : Nat) : (tiltUsers.store user).WellFormed := by
  intro value hvalue
  simp only [tiltUsers] at hvalue
  split at hvalue
  · obtain rfl : "true:false:false:false" = value := Option.some.inj hvalue
    decide
  · cases hvalue

/-- A text that turns on the wave check instead is cached, and so is its reset to false. -/
theorem stays_coherent_tiltUsers :
    StaysCoherent (plainBoard false) tiltUsers
      [.change 0 (.OMNI_DEVICE_FEATURE_SETTINGS (some "False:false:true")),
        .change 0 (.DOUBLE_TAP_TO_WAKE (some 1)),
        .change 0 (.OMNI_DEVICE_FEATURE_SETTINGS (some "false:false"))] := by
  refine (stays_coherent_iff (plainBoard false) tiltUsers tiltUsers_wellFormed _ ?_).mpr ?_
  · simp only [List.forall_mem_cons]
    exact ⟨show WellFormed "False:false:true" by decide, trivial,
      show WellFormed "false:false" by decide, by simp⟩
  · exact ⟨by decide, fun _ hempty => absurd hempty (by decide), trivial,
      fun _ hempty => absurd hempty (by decide), trivial⟩

/-- The constructor leaves the proximity check off although setting and configuration ask for it,
    and the tilt check survives both the removal of its setting and a switch to another user. -/
theorem cache_incoherent :
    ¬ StaysCoherent (plainBoard true) tiltUsers [] ∧
    ¬ StaysCoherent (plainBoard false) tiltUsers [.change 0 (.OMNI_DEVICE_FEATURE_SETTINGS none)] ∧
    ¬ StaysCoherent (plainBoard false) tiltUsers [.switchUser 10] := by
  decide

end device_parts
