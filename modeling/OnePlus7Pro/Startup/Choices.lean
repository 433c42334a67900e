import Mathlib.Logic.Function.Basic
import Mathlib.Data.List.Basic

namespace device_parts

def DISABLED_ENTRY : String := "disabled"
def TORCH_ENTRY : String := "torch"
def CAMERA_ENTRY : String := "camera"
def MUSIC_PLAY_ENTRY : String := "music_play"
def MUSIC_PREV_ENTRY : String := "music_prev"
def MUSIC_NEXT_ENTRY : String := "music_next"
def DEFAULT_VALUE : String := "3"

/-- The modes of the display that have a node and a setting. -/
inductive ModeSwitch where
  | HBMModeSwitch
  | DCDModeSwitch
  | DCIModeSwitch
  | SRGBModeSwitch
  | WideColorModeSwitch
  deriving DecidableEq

/-- The gestures that can be mapped to an action, in the order of their mappings. -/
inductive Gesture where
  | TWO_SWIPE_DOWN
  | CIRCLE
  | UP_ARROW
  | LEFT_ARROW
  | RIGHT_ARROW
  | M
  | W
  | S
  deriving DecidableEq

/-- The nodes that are written: one for a mode, one for a gesture, and the level of the
    vibrator. -/
inductive Node where
  | mode (switch : ModeSwitch)
  | gesture (gesture : Gesture)
  | FILE_LEVEL
  deriving DecidableEq

/-- The buttons of the panel settings. -/
inductive PanelMode where
  | off_mode
  | srgb_mode
  | dci_mode
  | wide_color_mode
  deriving DecidableEq

/-- The nodes, the system settings, `none` where nothing is stored, the shared preference that
    the tile keeps, and the mode of the panel settings, if these were opened. -/
structure Phone where
  fileWritable : Node → Bool
  nodes : Node → String
  modes : ModeSwitch → Option Int
  mappings : Gesture → Option String
  vib_strength : Option String
  KEY_HBM_SWITCH : Bool
  mCurrentMode : Option PanelMode

def Phone.writeValue (self : Phone) (filename : Option Node) (value : String) : Phone :=
  match filename with
  | none => self
  | some node =>
    if self.fileWritable node then { self with nodes := Function.update self.nodes node value }
    else self

/-- The line of a node, `none` where the node is empty. -/
def Phone.readLine (self : Phone) : Option Node → Option String
  | none => none
  | some node => if self.nodes node = "" then none else some (self.nodes node)

def Phone.getFileValueAsBoolean (self : Phone) (filename : Option Node) (defValue : Bool) : Bool :=
  match self.readLine filename with
  | some fileValue => if fileValue = "0" then false else true
  | none => defValue

/-- `getFile` of the switch. -/
def Phone.getFile (self : Phone) (switch : ModeSwitch) : Option Node :=
  if self.fileWritable (.mode switch) then some (.mode switch) else none

def Phone.isCurrentlyEnabled (self : Phone) (switch : ModeSwitch) : Bool :=
  self.getFileValueAsBoolean (self.getFile switch) false

/-- `Settings.System.putInt` for the key of the switch. -/
def Phone.putInt (self : Phone) (switch : ModeSwitch) (value : Int) : Phone :=
  { self with modes := Function.update self.modes switch (some value) }

/-- `Settings.System.putString` for the mapping of the gesture. -/
def Phone.putString (self : Phone) (gesture : Gesture) (value : String) : Phone :=
  { self with mappings := Function.update self.mappings gesture (some value) }

/-- `HBMModeSwitch.onPreferenceChange`. -/
def Phone.onHBMChange (self : Phone) (enabled : Bool) : Phone :=
  let self := self.putInt .HBMModeSwitch (if enabled then 5 else 0)
  self.writeValue (self.getFile .HBMModeSwitch) (if enabled then "5" else "0")

/-- `DCDModeSwitch.onPreferenceChange`. -/
def Phone.onDCDChange (self : Phone) (enabled : Bool) : Phone :=
  let self := self.putInt .DCDModeSwitch (if enabled then 1 else 0)
  self.writeValue (self.getFile .DCDModeSwitch) (if enabled then "1" else "0")

/-- `HBMModeTileService.onClick`. -/
def Phone.onClick (self : Phone) : Phone :=
  let enabled := self.isCurrentlyEnabled .HBMModeSwitch
  let self := self.writeValue (self.getFile .HBMModeSwitch) (if enabled then "0" else "5")
  { self with KEY_HBM_SWITCH := !enabled }

/-- The switch that a button of the panel settings stands for. -/
def PanelMode.switch : PanelMode → Option ModeSwitch
  | .off_mode => none
  | .srgb_mode => some .SRGBModeSwitch
  | .dci_mode => some .DCIModeSwitch
  | .wide_color_mode => some .WideColorModeSwitch

/-- The panel settings show the first mode whose node is on. -/
def Phone.onViewCreated (self : Phone) : Phone :=
  let checkedButtonId : PanelMode :=
    if self.isCurrentlyEnabled .DCIModeSwitch then .dci_mode
    else if self.isCurrentlyEnabled .SRGBModeSwitch then .srgb_mode
    else if self.isCurrentlyEnabled .WideColorModeSwitch then .wide_color_mode
    else .off_mode
  { self with mCurrentMode := some checkedButtonId }

/-- A switch of the panel settings is turned off or on, first its node and then its setting. -/
def Phone.turn (self : Phone) (switch : Option ModeSwitch) (enabled : Bool) : Phone :=
  match switch with
  | none => self
  | some switch =>
    let self := self.writeValue (self.getFile switch) (if enabled then "1" else "0")
    self.putInt switch (if enabled then 1 else 0)

def Phone.disableCurrenMode (self : Phone) : Phone :=
  self.turn (self.mCurrentMode.bind PanelMode.switch) false

/-- Buttons can be checked once the panel settings are open. -/
def Phone.onCheckedChanged (self : Phone) (checkedId : PanelMode) : Phone :=
  if self.mCurrentMode.isSome then
    let self := self.disableCurrenMode
    let self := self.turn checkedId.switch true
    { self with mCurrentMode := some checkedId }
  else self

/-- `getGestureFile` of the gesture's key. -/
def getGestureFile (gesture : Gesture) : Option Node := some (.gesture gesture)

def Phone.setGestureEnabled (self : Phone) (gesture : Gesture) (enabled : Bool) : Phone :=
  self.writeValue (getGestureFile gesture) (if enabled then "1" else "0")

/-- `GestureSettings.onPreferenceChange` for the preference of the gesture. -/
def Phone.onGestureChange (self : Phone) (gesture : Gesture) (value : String) : Phone :=
  let gestureDisabled := value = DISABLED_ENTRY
  let self := self.setGestureEnabled gesture (!gestureDisabled)
  self.putString gesture value

/-- `Startup.restore` of an on or off node. -/
def Phone.restore (self : Phone) (file : Option Node) (enabled : Bool) : Phone :=
  match file with
  | none => self
  | some node => self.writeValue (some node) (if enabled then "1" else "0")

/-- The restoration of a gesture that has a default, with the value it goes by. -/
def Phone.restoreDefaulted (self : Phone) (gesture : Gesture) (entry : String) : String × Phone :=
  let value := (self.mappings gesture).getD ""
  let empty := value = ""
  let value := if empty then entry else value
  let self := if empty then self.putString gesture value else self
  let enabled := value ≠ DISABLED_ENTRY
  (value, self.restore (getGestureFile gesture) enabled)

/-- The restoration of the up arrow: it is the value read last, for another gesture, that
    decides whether the default is stored. -/
def Phone.restoreUpArrow (self : Phone) (value : String) : Phone :=
  let self := if value = "" then self.putString .UP_ARROW TORCH_ENTRY else self
  let value := (self.mappings .UP_ARROW).getD ""
  let enabled := value ≠ "" ∧ value ≠ DISABLED_ENTRY
  self.restore (getGestureFile .UP_ARROW) enabled

/-- The restoration of a gesture without a default. -/
def Phone.restoreMapped (self : Phone) (gesture : Gesture) : Phone :=
  let value := (self.mappings gesture).getD ""
  let enabled := value ≠ "" ∧ value ≠ DISABLED_ENTRY
  self.restore (getGestureFile gesture) enabled

/-- The restoration of a mode. -/
def Phone.restoreMode (self : Phone) (switch : ModeSwitch) : Phone :=
  let enabled := (self.modes switch).getD 0 ≠ 0
  self.restore (self.getFile switch) enabled

/-- `VibratorStrengthPreference.restore`. -/
def Phone.restoreVibrator (self : Phone) : Phone :=
  if !self.fileWritable .FILE_LEVEL then self
  else self.writeValue (some .FILE_LEVEL) (self.vib_strength.getD DEFAULT_VALUE)

def Phone.restoreAfterUserSwitch (self : Phone) : Phone :=
  let (_, self) := self.restoreDefaulted .TWO_SWIPE_DOWN MUSIC_PLAY_ENTRY
  let (value, self) := self.restoreDefaulted .CIRCLE CAMERA_ENTRY
  let self := self.restoreUpArrow value
  let (_, self) := self.restoreDefaulted .LEFT_ARROW MUSIC_PREV_ENTRY
  let (_, self) := self.restoreDefaulted .RIGHT_ARROW MUSIC_NEXT_ENTRY
  let self := self.restoreMapped .M
  let self := self.restoreMapped .W
  let self := self.restoreMapped .S
  let self := self.restoreMode .SRGBModeSwitch
  let self := self.restoreMode .DCDModeSwitch
  let self := self.restoreMode .DCIModeSwitch
  let self := self.restoreMode .WideColorModeSwitch
  let self := self.restoreMode .HBMModeSwitch
  self.restoreVibrator

/-- What a user does on the settings screens and with the tile. -/
inductive Action where
  | HBMModeSwitch (enabled : Bool)
  | DCDModeSwitch (enabled : Bool)
  | HBMModeTile
  | openPanel
  | checkPanel (checkedId : PanelMode)
  | mapGesture (gesture : Gesture) (value : String)
  deriving DecidableEq

def Phone.perform (self : Phone) : Action → Phone
  | .HBMModeSwitch enabled => self.onHBMChange enabled
  | .DCDModeSwitch enabled => self.onDCDChange enabled
  | .HBMModeTile => self.onClick
  | .openPanel => self.onViewCreated
  | .checkPanel checkedId => self.onCheckedChanged checkedId
  | .mapGesture gesture value => self.onGestureChange gesture value

end device_parts
