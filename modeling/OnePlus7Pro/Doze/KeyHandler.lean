import OnePlus7Pro.Runs.Taken
import Mathlib.Data.List.Basic

namespace device_parts

def GESTURE_CIRCLE : Int := 250
def GESTURE_UP_ARROW : Int := 252
def GESTURE_TWO_SWIPE_DOWN : Int := 251
def GESTURE_LEFT_V : Int := 253
def GESTURE_RIGHT_V : Int := 254
def GESTURE_M : Int := 247
def GESTURE_W : Int := 246
def GESTURE_S : Int := 248
def KEY_SINGLE_TAP : Int := 67
def KEY_DOUBLE_TAP : Int := 143
def KEY_SLIDER_TOP : Int := 601
def KEY_SLIDER_CENTER : Int := 602
def KEY_SLIDER_BOTTOM : Int := 603

/-- The scan codes of the gestures and taps that the proximity sensor can block. -/
def sProxiCheckedGestures : List Int :=
  [GESTURE_TWO_SWIPE_DOWN, GESTURE_CIRCLE, GESTURE_UP_ARROW, GESTURE_LEFT_V, GESTURE_RIGHT_V, GESTURE_M,
    GESTURE_W, GESTURE_S, KEY_SINGLE_TAP, KEY_DOUBLE_TAP]

def HANDWAVE_MAX_DELTA_MS : Int := 1000
def POCKET_MIN_DELTA_MS : Int := 5000

/-- The sensor listeners that the sensor manager has registered. -/
structure Listeners where
  mProximitySensor : Bool
  mPocketProximitySensor : Bool
  mTiltSensorListener : Bool
  deriving DecidableEq

/-- The key handler with what it has told the system: its listeners, the camera switch, the
    frame rate node and the number of doze pulses. -/
structure KeyHandler where
  sIsOnePlus7pro : Bool
  sIsOnePlus7tpro : Bool
  isOPCameraAvail : Bool
  mUseProxiCheck : Bool
  mUseTiltCheck : Bool
  mUseWaveCheck : Bool
  mUsePocketCheck : Bool
  mDispOn : Bool
  mProxyWasNear : Bool
  mProxySensorTimestamp : Int
  /-- The observer of the client package name watches. -/
  mClientObserver : Bool
  listeners : Listeners
  cameraSwitch : Option Bool
  dynamicFps : Option String
  pulses : Nat
  deriving DecidableEq

/-- The settings of a key handler that stay as they are read. -/
structure Settings where
  sIsOnePlus7pro : Bool
  sIsOnePlus7tpro : Bool
  isOPCameraAvail : Bool
  mUseProxiCheck : Bool
  mUseTiltCheck : Bool
  mUseWaveCheck : Bool
  mUsePocketCheck : Bool

/-- The key handler when its constructor has returned. -/
def KeyHandler.init (settings : Settings) : KeyHandler where
  sIsOnePlus7pro := settings.sIsOnePlus7pro
  sIsOnePlus7tpro := settings.sIsOnePlus7tpro
  isOPCameraAvail := settings.isOPCameraAvail
  mUseProxiCheck := settings.mUseProxiCheck
  mUseTiltCheck := settings.mUseTiltCheck
  mUseWaveCheck := settings.mUseWaveCheck
  mUsePocketCheck := settings.mUsePocketCheck
  mDispOn := true
  mProxyWasNear := false
  mProxySensorTimestamp := 0
  mClientObserver := settings.isOPCameraAvail
  listeners := ⟨false, false, false⟩
  cameraSwitch := none
  dynamicFps := none
  pulses := 0

def KeyHandler.launchDozePulse (self : KeyHandler) : KeyHandler :=
  { self with pulses := self.pulses + 1 }

/-- `mPocketProximitySensor.onSensorChanged`, at the elapsed real time `now`. -/
def KeyHandler.onPocketSensorChanged (self : KeyHandler) (pocketProxyIsNear : Bool) (now : Int) :
    KeyHandler :=
  if self.mUseWaveCheck || self.mUsePocketCheck then
    let self :=
      if self.mProxyWasNear && !pocketProxyIsNear then
        let delta := now - self.mProxySensorTimestamp
        let self :=
          if self.mUseWaveCheck && delta < HANDWAVE_MAX_DELTA_MS then self.launchDozePulse else self
        if self.mUsePocketCheck && delta > POCKET_MIN_DELTA_MS then self.launchDozePulse else self
      else self
    { self with mProxySensorTimestamp := now, mProxyWasNear := pocketProxyIsNear }
  else self

def KeyHandler.onDisplayOn (self : KeyHandler) : KeyHandler :=
  let self :=
    if self.mUseProxiCheck then
      { self with listeners := { self.listeners with mProximitySensor := false } }
    else self
  let self :=
    if self.mUsePocketCheck || self.mUseWaveCheck then
      { self with listeners := { self.listeners with mPocketProximitySensor := false } }
    else self
  let self :=
    if self.mUseTiltCheck then
      { self with listeners := { self.listeners with mTiltSensorListener := false } }
    else self
  let self :=
    if !self.mClientObserver && self.isOPCameraAvail then { self with mClientObserver := true }
    else self
  let self :=
    if self.sIsOnePlus7pro || self.sIsOnePlus7tpro then { self with cameraSwitch := some true }
    else self
  { self with dynamicFps := some "90" }

def KeyHandler.onDisplayOff (self : KeyHandler) (now : Int) : KeyHandler :=
  let self :=
    if self.mUseProxiCheck then
      { self with listeners := { self.listeners with mProximitySensor := true } }
    else self
  let self :=
    if self.mUsePocketCheck || self.mUseWaveCheck then
      { self with
        listeners := { self.listeners with mPocketProximitySensor := true }
        mProxySensorTimestamp := now }
    else self
  let self :=
    if self.mUseTiltCheck then
      { self with listeners := { self.listeners with mTiltSensorListener := true } }
    else self
  let self := if self.mClientObserver then { self with mClientObserver := false } else self
  if self.sIsOnePlus7pro || self.sIsOnePlus7tpro then { self with cameraSwitch := some false }
  else self

/-- What the system delivers to the key handler, each with the elapsed real time. -/
inductive Event where
  | ACTION_SCREEN_ON (now : Int)
  | ACTION_SCREEN_OFF (now : Int)
  | pocketSensor (near : Bool) (now : Int)
  deriving DecidableEq

def KeyHandler.receive (self : KeyHandler) : Event → KeyHandler
  | .ACTION_SCREEN_ON _ => { self with mDispOn := true }.onDisplayOn
  | .ACTION_SCREEN_OFF now => { self with mDispOn := false }.onDisplayOff now
  | .pocketSensor near now => self.onPocketSensorChanged near now

/-- A sensor event reaches the handler only while its listener is registered. -/
def Delivered (self : KeyHandler) : Event → Prop
  | .pocketSensor _ _ => self.listeners.mPocketProximitySensor = true
  | _ => True

instance (self : KeyHandler) : (event : Event) → Decidable (Delivered self event)
  | .pocketSensor _ _ => inferInstanceAs (Decidable (_ = true))
  | .ACTION_SCREEN_ON _ => isTrue trivial
  | .ACTION_SCREEN_OFF _ => isTrue trivial

/-- The handling of the event launches a doze pulse. -/
def Launches (self : KeyHandler) (event : Event) : Prop :=
  self.pulses < (self.receive event).pulses

end device_parts
