import OnePlus7Pro.Doze.SensorBalance
import OnePlus7Pro.Slider.SliderAction

namespace device_parts

/-- `String.contains`. -/
def contains (text part : String) : Bool := decide (part.toList <:+: text.toList)

/-- `onUEvent`, given the mapping that is stored for the current user, the `STATE` of the event and
    whether the status bar can be reached. -/
def ObservingKeyHandler.onUEvent (self : ObservingKeyHandler) (stored : Option String) (slider : Slider)
    (STATE : Option String) (reached : Bool) : Slider :=
  match STATE with
  -- the exception of an event without a state is caught
  | none => slider
  | some state =>
    let doHandleSliderAction (slider : Slider) (position : Nat) : Slider :=
      self.doHandleSliderAction slider (KeyHandler.getSliderAction stored position).toInt reached
    let ringing := contains state "USB=0"
    let silent := contains state "(null)=0"
    let vibrate := contains state "USB-HOST=0"
    let slider := if ringing && !silent && !vibrate then doHandleSliderAction slider 2 else slider
    let slider := if silent && !ringing && !vibrate then doHandleSliderAction slider 0 else slider
    if vibrate && !silent && !ringing then doHandleSliderAction slider 1 else slider

/-- What happens to the slider and around it: an action is chosen for a position, the slider
    moves, the proximity sensor or its setting changes, and a gesture toggles the torch. -/
inductive SliderEvent where
  | setSliderAction (call : SliderCall)
  | onUEvent (STATE : Option String) (reached : Bool)
  | proximitySensor (near : Bool)
  | update (useProxiCheck : Bool)
  | gesture (reached : Bool)
  deriving DecidableEq

/-- The stored mapping and the key handler, with what its actions have set. -/
structure SliderPhone where
  stored : Option String
  handler : ObservingKeyHandler
  slider : Slider

def SliderPhone.step (self : SliderPhone) : SliderEvent → SliderPhone
  | .setSliderAction call => { self with stored := storeSlider self.stored call }
  | .onUEvent STATE reached =>
    { self with slider := self.handler.onUEvent self.stored self.slider STATE reached }
  | .proximitySensor near => { self with handler := { self.handler with mProxyIsNear := near } }
  | .update useProxiCheck => { self with handler := { self.handler with mUseProxiCheck := useProxiCheck } }
  | .gesture reached => { self with slider := self.slider.toggleTorch reached }

/-- A phone on which no action was chosen, and a key handler that has not set anything. -/
def SliderPhone.start (handler : ObservingKeyHandler) (zenMode : ZenMode) (ringerMode : RingerMode) :
    SliderPhone :=
  ⟨none, handler, ⟨false, false, zenMode, ringerMode, []⟩⟩

/-- The last state of the flash that the status bar was told, off at first. -/
def told (cameraFlash : List (Option Bool)) : Bool := (cameraFlash.filterMap id).getLast?.getD false

/-- The modes and the torch that an action stands for. -/
structure SliderModes where
  zenMode : ZenMode
  ringerMode : RingerMode
  torch : Bool
  deriving DecidableEq

def actionModes (action : Int) : Option SliderModes :=
  if action = 0 then some ⟨.ZEN_MODE_OFF, .RINGER_MODE_NORMAL, false⟩
  else if action = 1 then some ⟨.ZEN_MODE_OFF, .RINGER_MODE_VIBRATE, false⟩
  else if action = 2 then some ⟨.ZEN_MODE_OFF, .RINGER_MODE_SILENT, false⟩
  else if action = 3 then some ⟨.ZEN_MODE_IMPORTANT_INTERRUPTIONS, .RINGER_MODE_NORMAL, false⟩
  else if action = 4 then some ⟨.ZEN_MODE_OFF, .RINGER_MODE_NORMAL, true⟩
  else none

/-- The position that the state of an event names, if it names one alone. -/
def sliderPosition (state : String) : Option (Fin 3) :=
  match contains state "USB=0", contains state "(null)=0", contains state "USB-HOST=0" with
  | true, false, false => some 2
  | false, true, false => some 0
  | false, false, true => some 1
  | _, _, _ => none

/-- What the user has asked for: the actions chosen, whether something near keeps the torch as it
    is, and the modes and the torch since the slider moved last. -/
structure Wanted where
  actions : Fin 3 → BitVec 32
  near : Bool
  check : Bool
  modes : SliderModes

def Wanted.start (handler : ObservingKeyHandler) (zenMode : ZenMode) (ringerMode : RingerMode) : Wanted :=
  ⟨defaultAction, handler.mProxyIsNear, handler.mUseProxiCheck, ⟨zenMode, ringerMode, false⟩⟩

/-- Something near keeps the torch as it is, not off. -/
def Wanted.move (wanted : Wanted) (position : Fin 3) : Wanted :=
  match actionModes (wanted.actions position).toInt with
  | none => wanted
  | some modes =>
    let kept := modes.torch && wanted.near && wanted.check
    { wanted with modes := { modes with torch := if kept then wanted.modes.torch else modes.torch } }

def Wanted.step (wanted : Wanted) : SliderEvent → Wanted
  | .setSliderAction call =>
    { wanted with actions := Function.update wanted.actions call.position call.action }
  | .onUEvent STATE _ =>
    match STATE.bind sliderPosition with
    | none => wanted
    | some position => wanted.move position
  | .proximitySensor near => { wanted with near := near }
  | .update useProxiCheck => { wanted with check := useProxiCheck }
  | .gesture _ => wanted

end device_parts
