import OnePlus7Pro.Doze.KeyHandler
import OnePlus7Pro.Effects.Run
import OnePlus7Pro.Texts.Separated

open effects

namespace device_parts

def DT2W_CONTROL_PATH : String := "/proc/touchpanel/double_tap_enable"
def SINGLE_TAP_CONTROL_PATH : String := "/proc/touchpanel/single_tap_enable"
abbrev USER_SYSTEM : Nat := 0

/-- The settings of a user that the key handler observes, `none` where nothing is stored. -/
structure UserSettings where
  OMNI_DEVICE_PROXI_CHECK_ENABLED : Option Int
  OMNI_DEVICE_FEATURE_SETTINGS : Option String
  DOUBLE_TAP_TO_WAKE : Option Int
  deriving DecidableEq

/-- What the key handler finds on the device, and what does not change. -/
structure Board where
  sIsOnePlus7pro : Bool
  sIsOnePlus7tpro : Bool
  isOPCameraAvail : Bool
  config_proxiSensorWakupCheck : Bool
  fileWritable : String → Bool

/-- The key handler with the settings it has read and the values it has written to nodes. -/
structure ObservingKeyHandler extends KeyHandler where
  mProxyIsNear : Bool
  mUseSingleTap : Bool
  mDoubleTapToWake : Bool
  mProxiSensorWakupCheck : Bool
  mRestoreUser : Bool
  /-- How often `Startup.restoreAfterUserSwitch` was called. -/
  restored : Nat
  written : List (String × String)

/-- `Boolean.valueOf`: the text is `true` in some mixture of cases. -/
def valueOf (text : String) : Bool := text.toList.map Char.toLower = "true".toList

def ObservingKeyHandler.writeValue (self : ObservingKeyHandler) (board : Board)
    (path value : String) : ObservingKeyHandler :=
  if board.fileWritable path then { self with written := self.written ++ [(path, value)] } else self

theorem writeValue_written (self : ObservingKeyHandler) (board : Board) (path value : String) :
    ∃ written, self.writeValue board path value = { self with written := written } := by
  unfold ObservingKeyHandler.writeValue
  split
  · exact ⟨_, rfl⟩
  · exact ⟨_, rfl⟩

def ObservingKeyHandler.updateDoubleTapToWake (self : ObservingKeyHandler) (board : Board) :
    ObservingKeyHandler :=
  self.writeValue board DT2W_CONTROL_PATH (if self.mDoubleTapToWake then "1" else "0")

def ObservingKeyHandler.updateSingleTap (self : ObservingKeyHandler) (board : Board) :
    ObservingKeyHandler :=
  self.writeValue board SINGLE_TAP_CONTROL_PATH (if self.mUseSingleTap then "1" else "0")

structure ArrayIndexOutOfBoundsException where
  index : Nat
  length : Nat
  deriving DecidableEq

/-- What the key handler does where an array access can throw. What it has done before an
    exception is not undone. -/
abbrev Handling := EStateM ArrayIndexOutOfBoundsException ObservingKeyHandler

namespace Handling

/-- `parts[index]`. -/
def part (parts : List String) (index : Nat) : Handling String :=
  match parts[index]? with
  | some part => pure part
  | none => throw ⟨index, parts.length⟩

def updateDozeSettings (board : Board) (settings : UserSettings) : Handling Unit :=
  match settings.OMNI_DEVICE_FEATURE_SETTINGS with
  | none => pure ()
  | some value =>
    if value = "" then pure ()
    else do
      let parts := texts.split ':' value
      let tilt ← part parts 0
      modify fun self => { self with mUseTiltCheck := valueOf tilt }
      let singleTap ← part parts 1
      modify fun self => { self with mUseSingleTap := valueOf singleTap }
      if 3 ≤ parts.length then
        let wave ← part parts 2
        modify fun self => { self with mUseWaveCheck := valueOf wave }
      else
        modify fun self => { self with mUseWaveCheck := false }
      if parts.length = 4 then
        let pocket ← part parts 3
        modify fun self => { self with mUsePocketCheck := valueOf pocket }
      else
        modify fun self => { self with mUsePocketCheck := false }
      modify fun self => self.updateSingleTap board

end Handling

/-- The handler after `updateDozeSettings`, also when that throws. -/
def ObservingKeyHandler.updateDozeSettings (self : ObservingKeyHandler) (board : Board)
    (settings : UserSettings) : ObservingKeyHandler :=
  endState (Handling.updateDozeSettings board settings self)

/-- The pocket check of the parts after the first two. -/
def pocketOf : List String → Bool
  | [_, pocket] => valueOf pocket
  | _ => false

/-- What the parts of a text leave in the handler. -/
def ObservingKeyHandler.withParts (self : ObservingKeyHandler) (board : Board) :
    List String → ObservingKeyHandler
  | [] => self
  | [tilt] => { self with mUseTiltCheck := valueOf tilt }
  | tilt :: singleTap :: rest =>
    { self with
      mUseTiltCheck := valueOf tilt
      mUseSingleTap := valueOf singleTap
      mUseWaveCheck := rest.head?.any valueOf
      mUsePocketCheck := pocketOf rest }.updateSingleTap board

theorem updateDozeSettings_of_none {settings : UserSettings} (self : ObservingKeyHandler) (board : Board)
    (hnone : settings.OMNI_DEVICE_FEATURE_SETTINGS = none) :
    self.updateDozeSettings board settings = self := by
  rw [ObservingKeyHandler.updateDozeSettings, Handling.updateDozeSettings, hnone]
  rfl

theorem updateDozeSettings_of_blank {settings : UserSettings} (self : ObservingKeyHandler) (board : Board)
    (hblank : settings.OMNI_DEVICE_FEATURE_SETTINGS = some "") :
    self.updateDozeSettings board settings = self := by
  rw [ObservingKeyHandler.updateDozeSettings, Handling.updateDozeSettings, hblank]
  rfl

theorem updateDozeSettings_of_some {settings : UserSettings} {value : String} (self : ObservingKeyHandler)
    (board : Board) (hstored : settings.OMNI_DEVICE_FEATURE_SETTINGS = some value) (hne : value ≠ "") :
    self.updateDozeSettings board settings = self.withParts board (texts.split ':' value) := by
  rw [ObservingKeyHandler.updateDozeSettings, Handling.updateDozeSettings, hstored]
  simp only [if_neg hne]
  match texts.split ':' value with
  | [] => rfl
  | [tilt] => rfl
  | [tilt, singleTap] => rfl
  | [tilt, singleTap, wave] => rfl
  | [tilt, singleTap, wave, pocket] => rfl
  | tilt :: singleTap :: wave :: pocket :: more :: rest => rfl

/-- It changes what the settings switch and what is written to nodes, and nothing else. -/
theorem updateDozeSettings_fields (self : ObservingKeyHandler) (board : Board) (settings : UserSettings) :
    ∃ tilt singleTap wave pocket written, self.updateDozeSettings board settings = { self with
      mUseTiltCheck := tilt
      mUseSingleTap := singleTap
      mUseWaveCheck := wave
      mUsePocketCheck := pocket
      written := written } := by
  cases hstored : settings.OMNI_DEVICE_FEATURE_SETTINGS with
  | none => exact ⟨_, _, _, _, _, updateDozeSettings_of_none self board hstored⟩
  | some value =>
    by_cases hempty : value = ""
    · exact ⟨_, _, _, _, _, updateDozeSettings_of_blank self board (hempty ▸ hstored)⟩
    rw [updateDozeSettings_of_some self board hstored hempty]
    match texts.split ':' value with
    | [] => exact ⟨_, _, _, _, _, rfl⟩
    | [tilt] => exact ⟨_, _, _, _, _, rfl⟩
    | tilt :: singleTap :: rest =>
      obtain ⟨written, hwritten⟩ := writeValue_written _ board SINGLE_TAP_CONTROL_PATH _
      exact ⟨_, _, _, _, written, hwritten⟩

/-- `SettingsObserver.update`. -/
def ObservingKeyHandler.update (self : ObservingKeyHandler) (board : Board)
    (settings : UserSettings) : ObservingKeyHandler :=
  let self := { self with
    mUseProxiCheck :=
      settings.OMNI_DEVICE_PROXI_CHECK_ENABLED.getD 1 = 1 && self.mProxiSensorWakupCheck }
  let self := { self with mDoubleTapToWake := settings.DOUBLE_TAP_TO_WAKE.getD 0 = 1 }
  self.updateDoubleTapToWake board

/-- A key handler before its constructor has read any settings. -/
def ObservingKeyHandler.blank (board : Board) : ObservingKeyHandler where
  toKeyHandler := KeyHandler.init {
    sIsOnePlus7pro := board.sIsOnePlus7pro
    sIsOnePlus7tpro := board.sIsOnePlus7tpro
    isOPCameraAvail := board.isOPCameraAvail
    mUseProxiCheck := false
    mUseTiltCheck := false
    mUseWaveCheck := false
    mUsePocketCheck := false }
  mProxyIsNear := false
  mUseSingleTap := false
  mDoubleTapToWake := false
  mProxiSensorWakupCheck := false
  mRestoreUser := false
  restored := 0
  written := []

/-- The constructor: it reads the settings first and the configuration last. -/
def ObservingKeyHandler.create (board : Board) (settings : UserSettings) : ObservingKeyHandler :=
  let self := ObservingKeyHandler.blank board
  -- `mSettingsObserver.observe()`
  let self := self.update board settings
  let self := self.updateDozeSettings board settings
  { self with mProxiSensorWakupCheck := board.config_proxiSensorWakupCheck }

/-- A setting that changes, and the value it is given, `none` when it is cleared. -/
inductive Change where
  | OMNI_DEVICE_PROXI_CHECK_ENABLED (value : Option Int)
  | OMNI_DEVICE_FEATURE_SETTINGS (value : Option String)
  | DOUBLE_TAP_TO_WAKE (value : Option Int)
  deriving DecidableEq

def Change.apply (settings : UserSettings) : Change → UserSettings
  | .OMNI_DEVICE_PROXI_CHECK_ENABLED value =>
    { settings with OMNI_DEVICE_PROXI_CHECK_ENABLED := value }
  | .OMNI_DEVICE_FEATURE_SETTINGS value => { settings with OMNI_DEVICE_FEATURE_SETTINGS := value }
  | .DOUBLE_TAP_TO_WAKE value => { settings with DOUBLE_TAP_TO_WAKE := value }

/-- `SettingsObserver.onChange`, given the settings of the current user. -/
def Handling.onChange (board : Board) (settings : UserSettings) : Change → Handling Unit
  | .OMNI_DEVICE_FEATURE_SETTINGS _ => updateDozeSettings board settings
  | _ => modify fun self => self.update board settings

def ObservingKeyHandler.onChange (self : ObservingKeyHandler) (board : Board)
    (settings : UserSettings) (change : Change) : ObservingKeyHandler :=
  endState (Handling.onChange board settings change self)

theorem onChange_eq (self : ObservingKeyHandler) (board : Board) (settings : UserSettings)
    (change : Change) : self.onChange board settings change = match change with
      | .OMNI_DEVICE_FEATURE_SETTINGS _ => self.updateDozeSettings board settings
      | _ => self.update board settings := by
  cases change <;> rfl

/-- `ACTION_USER_SWITCHED` in `mSystemStateReceiver`. -/
def ObservingKeyHandler.onUserSwitched (self : ObservingKeyHandler) (userId : Nat) :
    ObservingKeyHandler :=
  if userId = USER_SYSTEM && self.mRestoreUser then { self with restored := self.restored + 1 }
  else { self with mRestoreUser := true }

/-- The settings of every user and the current user. -/
structure Users where
  store : Nat → UserSettings
  user : Nat

def Users.settings (users : Users) : UserSettings := users.store users.user

/-- What happens on the device: an event that the key handler receives, a value of the
    proximity sensor for it, a setting of a user that changes, or another user. -/
inductive DeviceEvent where
  | receive (event : Event)
  | proximitySensor (near : Bool)
  | change (user : Nat) (change : Change)
  | switchUser (user : Nat)
  deriving DecidableEq

def Users.handle (users : Users) : DeviceEvent → Users
  | .change user change =>
    { users with store := Function.update users.store user (change.apply (users.store user)) }
  | .switchUser user => { users with user := user }
  | _ => users

/-- The users of a device and its key handler. -/
structure Device extends Users where
  handler : ObservingKeyHandler

/-- The device when the constructor of the key handler has returned. -/
def Device.create (board : Board) (users : Users) : Device where
  toUsers := users
  handler := ObservingKeyHandler.create board users.settings

/-- A change of a setting is followed by the callback of its observer. -/
def Device.handle (board : Board) (device : Device) (event : DeviceEvent) : Device :=
  let users := device.toUsers.handle event
  let handler := device.handler
  match event with
  | .receive event => ⟨users, { handler with toKeyHandler := handler.receive event }⟩
  | .proximitySensor near => ⟨users, { handler with mProxyIsNear := near }⟩
  | .change _ change => ⟨users, handler.onChange board users.settings change⟩
  | .switchUser user => ⟨users, handler.onUserSwitched user⟩

end device_parts
