import OnePlus7Pro.Doze.KeyHandler
import OnePlus7Pro.Startup.RestoredGestures

namespace device_parts

def WAKE_ENTRY : String := "wake"

def sSupportedGestures : List Int :=
  [GESTURE_TWO_SWIPE_DOWN, GESTURE_CIRCLE, GESTURE_UP_ARROW, GESTURE_LEFT_V, GESTURE_RIGHT_V, GESTURE_M,
    GESTURE_W, GESTURE_S, KEY_SINGLE_TAP, KEY_DOUBLE_TAP, KEY_SLIDER_TOP, KEY_SLIDER_CENTER,
    KEY_SLIDER_BOTTOM]

inductive KeyAction where
  | ACTION_DOWN
  | ACTION_UP
  deriving DecidableEq

structure KeyEvent where
  action : KeyAction
  scanCode : Int
  deriving DecidableEq

inductive MediaKey where
  | KEYCODE_MEDIA_PLAY_PAUSE
  | KEYCODE_MEDIA_NEXT
  | KEYCODE_MEDIA_PREVIOUS
  deriving DecidableEq

/-- What a special action does, in the order in which it is done. -/
inductive Effect where
  | acquire
  | toggleTorch
  | performHapticFeedbackLw
  | mediaKey (action : KeyAction) (keycode : MediaKey)
  deriving DecidableEq

/-- What the key handler finds when it launches an action: whether music is playing, and
    whether the system is ready and has an audio service. -/
structure Playing where
  isMusicActive : Bool
  dispatches : Bool

def handleKeyEvent (event : KeyEvent) : Bool :=
  if event.action ≠ .ACTION_UP then false else sSupportedGestures.contains event.scanCode

namespace Phone

def getGestureValueForScanCode (self : Phone) (scanCode : Int) : Option String :=
  if scanCode = GESTURE_TWO_SWIPE_DOWN then self.mappings .TWO_SWIPE_DOWN
  else if scanCode = GESTURE_CIRCLE then self.mappings .CIRCLE
  else if scanCode = GESTURE_UP_ARROW then self.mappings .UP_ARROW
  else if scanCode = GESTURE_LEFT_V then self.mappings .LEFT_ARROW
  else if scanCode = GESTURE_RIGHT_V then self.mappings .RIGHT_ARROW
  else if scanCode = GESTURE_M then self.mappings .M
  else if scanCode = GESTURE_W then self.mappings .W
  else if scanCode = GESTURE_S then self.mappings .S
  else none

def isCameraLaunchEvent (self : Phone) (event : KeyEvent) : Bool :=
  if event.action ≠ .ACTION_UP then false
  else
    let value := (self.getGestureValueForScanCode event.scanCode).getD ""
    value ≠ "" && value = CAMERA_ENTRY

/-- The answer of `isWakeEvent`, with the number of doze pulses that it launches. -/
def isWakeEvent (self : Phone) (event : KeyEvent) : Bool × Nat :=
  if event.action ≠ .ACTION_UP then (false, 0)
  else
    let value := (self.getGestureValueForScanCode event.scanCode).getD ""
    if value ≠ "" && value = WAKE_ENTRY then (true, 0)
    else (event.scanCode = KEY_DOUBLE_TAP, if event.scanCode = KEY_SINGLE_TAP then 1 else 0)

end Phone

def dispatchMediaKeyWithWakeLockToAudioService (playing : Playing) (keycode : MediaKey) : List Effect :=
  if playing.dispatches then [.mediaKey .ACTION_DOWN keycode, .mediaKey .ACTION_UP keycode] else []

/-- What a special action does, `none` for a value that stands for no such action. -/
def launchSpecialActions (playing : Playing) (value : String) : Option (List Effect) :=
  if value = TORCH_ENTRY then some [.acquire, .toggleTorch, .performHapticFeedbackLw]
  else if value = MUSIC_PLAY_ENTRY then
    some ([.acquire, .performHapticFeedbackLw] ++
      dispatchMediaKeyWithWakeLockToAudioService playing .KEYCODE_MEDIA_PLAY_PAUSE)
  else if value = MUSIC_NEXT_ENTRY then
    some (if playing.isMusicActive then [.acquire, .performHapticFeedbackLw] ++
      dispatchMediaKeyWithWakeLockToAudioService playing .KEYCODE_MEDIA_NEXT else [])
  else if value = MUSIC_PREV_ENTRY then
    some (if playing.isMusicActive then [.acquire, .performHapticFeedbackLw] ++
      dispatchMediaKeyWithWakeLockToAudioService playing .KEYCODE_MEDIA_PREVIOUS else [])
  else none

/-- What comes of `isActivityLaunchEvent`: nothing, a special action, or the intent for a
    component. -/
inductive Launch where
  | nothing
  | special (effects : List Effect)
  | intent (component : String)
  deriving DecidableEq

def Phone.isActivityLaunchEvent (self : Phone) (playing : Playing) (event : KeyEvent) : Launch :=
  if event.action ≠ .ACTION_UP then .nothing
  else
    let value := (self.getGestureValueForScanCode event.scanCode).getD ""
    if value ≠ "" && value ≠ DISABLED_ENTRY then
      match launchSpecialActions playing value with
      | some effects => .special effects
      | none => .intent value
    else .nothing

/-- The scan code that the touch panel reports a gesture with. -/
def Gesture.scanCode : Gesture → Int
  | .TWO_SWIPE_DOWN => GESTURE_TWO_SWIPE_DOWN
  | .CIRCLE => GESTURE_CIRCLE
  | .UP_ARROW => GESTURE_UP_ARROW
  | .LEFT_ARROW => GESTURE_LEFT_V
  | .RIGHT_ARROW => GESTURE_RIGHT_V
  | .M => GESTURE_M
  | .W => GESTURE_W
  | .S => GESTURE_S

/-- The key handler takes the event and answers one of the questions about it. -/
def Phone.Answers (self : Phone) (playing : Playing) (event : KeyEvent) : Prop :=
  handleKeyEvent event = true ∧ ((self.isWakeEvent event).1 = true ∨ self.isCameraLaunchEvent event = true ∨
    self.isActivityLaunchEvent playing event ≠ .nothing)

instance (self : Phone) (playing : Playing) (event : KeyEvent) : Decidable (self.Answers playing event) :=
  inferInstanceAs (Decidable (_ ∧ _))

/-- The settings screens and the tile are used, or the settings are restored. -/
inductive PhoneEvent where
  | perform (action : Action)
  | restoreAfterUserSwitch
  deriving DecidableEq

def Phone.receive (self : Phone) : PhoneEvent → Phone
  | .perform action => self.perform action
  | .restoreAfterUserSwitch => self.restoreAfterUserSwitch

variable {phone : Phone} {gesture : Gesture}

theorem getGestureValueForScanCode_scanCode (phone : Phone) (gesture : Gesture) :
    phone.getGestureValueForScanCode gesture.scanCode = phone.mappings gesture := by
  cases gesture <;> rfl

theorem handleKeyEvent_scanCode (gesture : Gesture) :
    handleKeyEvent ⟨.ACTION_UP, gesture.scanCode⟩ = true := by
  cases gesture <;> decide

theorem scanCode_ne_doubleTap (gesture : Gesture) : gesture.scanCode ≠ KEY_DOUBLE_TAP := by
  cases gesture <;> decide

theorem isActivityLaunchEvent_eq_nothing_iff (phone : Phone) (playing : Playing) (gesture : Gesture) :
    phone.isActivityLaunchEvent playing ⟨.ACTION_UP, gesture.scanCode⟩ = .nothing ↔
      ¬ ((phone.mappings gesture).getD "" ≠ "" ∧ (phone.mappings gesture).getD "" ≠ DISABLED_ENTRY) := by
  rw [Phone.isActivityLaunchEvent, if_neg (by simp)]
  simp only [getGestureValueForScanCode_scanCode, Bool.and_eq_true, decide_eq_true_eq]
  split
  next hmapped =>
    refine iff_of_false ?_ (not_not_intro hmapped)
    cases launchSpecialActions playing ((phone.mappings gesture).getD "") <;> simp
  next hmapped => exact iff_of_true rfl hmapped

/-- Only the double tap wakes without a mapping. -/
theorem isWakeEvent_scanCode_iff (phone : Phone) (gesture : Gesture) :
    (phone.isWakeEvent ⟨.ACTION_UP, gesture.scanCode⟩).1 = true ↔
      (phone.mappings gesture).getD "" = WAKE_ENTRY := by
  rw [Phone.isWakeEvent, if_neg (by simp)]
  simp only [getGestureValueForScanCode_scanCode, Bool.and_eq_true, decide_eq_true_eq]
  split
  next hvalue => exact iff_of_true rfl hvalue.2
  next hvalue =>
    refine iff_of_false (by simpa using scanCode_ne_doubleTap gesture) fun hwake => hvalue ⟨?_, hwake⟩
    rw [hwake]
    decide

theorem isCameraLaunchEvent_scanCode_iff (phone : Phone) (gesture : Gesture) :
    phone.isCameraLaunchEvent ⟨.ACTION_UP, gesture.scanCode⟩ = true ↔
      (phone.mappings gesture).getD "" = CAMERA_ENTRY := by
  rw [Phone.isCameraLaunchEvent, if_neg (by simp)]
  simp only [getGestureValueForScanCode_scanCode, Bool.and_eq_true, decide_eq_true_eq, and_iff_right_iff_imp]
  rintro hcamera
  rw [hcamera]
  decide

/-- The key handler answers for a gesture exactly if it is mapped to something else than
    `DISABLED_ENTRY`. -/
theorem answers_scanCode_iff (phone : Phone) (playing : Playing) (gesture : Gesture) :
    phone.Answers playing ⟨.ACTION_UP, gesture.scanCode⟩ ↔
      (phone.mappings gesture).getD "" ≠ "" ∧ (phone.mappings gesture).getD "" ≠ DISABLED_ENTRY := by
  have hactivity := isActivityLaunchEvent_eq_nothing_iff phone playing gesture
  rw [Phone.Answers, and_iff_right (handleKeyEvent_scanCode gesture)]
  constructor
  · rintro (hwake | hcamera | hlaunch)
    · rw [(isWakeEvent_scanCode_iff phone gesture).mp hwake]
      decide
    · rw [(isCameraLaunchEvent_scanCode_iff phone gesture).mp hcamera]
      decide
    · exact not_not.mp fun hmapped => hlaunch (hactivity.mpr hmapped)
  · exact fun hmapped => Or.inr (Or.inr fun hnothing => hactivity.mp hnothing hmapped)

/-- Nothing of the gestures has changed. -/
structure KeepsGestures (before after : Phone) : Prop where
  fileWritable : after.fileWritable = before.fileWritable
  mappings : after.mappings = before.mappings
  nodes : ∀ gesture, after.nodes (.gesture gesture) = before.nodes (.gesture gesture)

theorem KeepsGestures.refl (phone : Phone) : KeepsGestures phone phone := ⟨rfl, rfl, fun _ => rfl⟩

theorem KeepsGestures.trans {first second third : Phone} (h : KeepsGestures first second)
    (h' : KeepsGestures second third) : KeepsGestures first third :=
  ⟨h'.fileWritable.trans h.fileWritable, h'.mappings.trans h.mappings,
    fun gesture => (h'.nodes gesture).trans (h.nodes gesture)⟩

theorem keepsGestures_writeValue (phone : Phone) (switch : ModeSwitch) (value : String) :
    KeepsGestures phone (phone.writeValue (phone.getFile switch) value) := by
  rw [Phone.getFile]
  split
  next hwritable =>
    rw [Phone.writeValue, if_pos hwritable]
    refine ⟨rfl, rfl, fun gesture => ?_⟩
    have hother : Node.gesture gesture ≠ .mode switch := by simp
    exact Function.update_of_ne hother value phone.nodes
  · exact .refl phone

theorem keepsGestures_putInt (phone : Phone) (switch : ModeSwitch) (value : Int) :
    KeepsGestures phone (phone.putInt switch value) := ⟨rfl, rfl, fun _ => rfl⟩

theorem keepsGestures_turn (phone : Phone) (switch : Option ModeSwitch) (enabled : Bool) :
    KeepsGestures phone (phone.turn switch enabled) := by
  cases switch with
  | none => exact .refl phone
  | some switch => exact (keepsGestures_writeValue phone switch _).trans (keepsGestures_putInt _ _ _)

/-- Only the gesture settings change anything of the gestures. -/
theorem keepsGestures_perform (phone : Phone) {action : Action}
    (hother : ∀ gesture value, action ≠ .mapGesture gesture value) :
    KeepsGestures phone (phone.perform action) := by
  cases action with
  | HBMModeSwitch enabled =>
    exact (keepsGestures_putInt phone _ _).trans (keepsGestures_writeValue _ .HBMModeSwitch _)
  | DCDModeSwitch enabled =>
    exact (keepsGestures_putInt phone _ _).trans (keepsGestures_writeValue _ .DCDModeSwitch _)
  | HBMModeTile => exact (keepsGestures_writeValue phone _ _).trans ⟨rfl, rfl, fun _ => rfl⟩
  | openPanel => exact ⟨rfl, rfl, fun _ => rfl⟩
  | checkPanel checkedId =>
    rw [Phone.perform, Phone.onCheckedChanged]
    split
    · exact (keepsGestures_turn phone _ _).trans ((keepsGestures_turn _ _ _).trans ⟨rfl, rfl, fun _ => rfl⟩)
    · exact .refl phone
  | mapGesture gesture value => exact absurd rfl (hother gesture value)

/-- Every node of a gesture that can be written is on or off as its mapping says. -/
def Mapped (phone : Phone) : Prop :=
  ∀ gesture, phone.fileWritable (.gesture gesture) = true →
    phone.nodes (.gesture gesture) = mappedNode (phone.mappings gesture)

theorem KeepsGestures.mapped {before after : Phone} (hkeeps : KeepsGestures before after)
    (hmapped : Mapped before) : Mapped after := by
  intro gesture hwritable
  rw [hkeeps.fileWritable] at hwritable
  rw [hkeeps.nodes, hkeeps.mappings, hmapped gesture hwritable]

/-- Whatever was there before. -/
theorem mapped_restoreAfterUserSwitch (phone : Phone) : Mapped phone.restoreAfterUserSwitch := by
  have hrestored := restoredBy_restoreAfterUserSwitch phone
  intro gesture hwritable
  rw [hrestored.fileWritable] at hwritable
  rw [hrestored.nodes, hrestored.mappings, if_pos ⟨mem_gestures gesture, hwritable⟩,
    if_pos (mem_gestures gesture)]

theorem fileWritable_onGestureChange (phone : Phone) (gesture : Gesture) (value : String) :
    (phone.onGestureChange gesture value).fileWritable = phone.fileWritable := by
  rw [Phone.onGestureChange, Phone.setGestureEnabled, getGestureFile, Phone.writeValue]
  split <;> rfl

theorem mappings_onGestureChange (phone : Phone) (gesture : Gesture) (value : String) :
    (phone.onGestureChange gesture value).mappings = Function.update phone.mappings gesture (some value) := by
  rw [Phone.onGestureChange, Phone.setGestureEnabled, getGestureFile, Phone.writeValue]
  split <;> rfl

theorem mapped_onGestureChange (hmapped : Mapped phone) (gesture : Gesture) {value : String}
    (hvalue : value ≠ "") : Mapped (phone.onGestureChange gesture value) := by
  intro other hwritable
  rw [fileWritable_onGestureChange] at hwritable
  rw [Phone.onGestureChange, Phone.setGestureEnabled, getGestureFile, Phone.writeValue]
  by_cases hother : other = gesture
  · subst hother
    simp [hwritable, Phone.putString, mappedNode, onOff, hvalue]
  · have hkept := hmapped other hwritable
    split <;> simpa [Phone.putString, hother] using hkept

/-- An event of a run: no gesture is mapped to the empty text. -/
def PhoneEvent.Chosen : PhoneEvent → Prop
  | .perform (.mapGesture _ value) => value ≠ ""
  | _ => True

theorem mapped_receive (hmapped : Mapped phone) {event : PhoneEvent} (hchosen : event.Chosen) :
    Mapped (phone.receive event) := by
  cases event with
  | restoreAfterUserSwitch => exact mapped_restoreAfterUserSwitch phone
  | perform action =>
    by_cases hgesture : ∃ gesture value, action = .mapGesture gesture value
    · obtain ⟨gesture, value, rfl⟩ := hgesture
      exact mapped_onGestureChange hmapped gesture hchosen
    · exact (keepsGestures_perform phone fun gesture value h => hgesture ⟨gesture, value, h⟩).mapped hmapped

theorem fileWritable_receive (phone : Phone) (event : PhoneEvent) :
    (phone.receive event).fileWritable = phone.fileWritable := by
  cases event with
  | restoreAfterUserSwitch => exact (restoredBy_restoreAfterUserSwitch phone).fileWritable
  | perform action =>
    by_cases hgesture : ∃ gesture value, action = .mapGesture gesture value
    · obtain ⟨gesture, value, rfl⟩ := hgesture
      exact fileWritable_onGestureChange phone gesture value
    · exact (keepsGestures_perform phone fun gesture value h => hgesture ⟨gesture, value, h⟩).fileWritable

theorem mapped_run (hmapped : Mapped phone) {events : List PhoneEvent}
    (hchosen : ∀ event ∈ events, event.Chosen) :
    Mapped (events.foldl Phone.receive phone) ∧
      (events.foldl Phone.receive phone).fileWritable = phone.fileWritable := by
  induction events generalizing phone with
  | nil => exact ⟨hmapped, rfl⟩
  | cons event events ih =>
    rw [List.forall_mem_cons] at hchosen
    obtain ⟨hafter, hwritable⟩ := ih (mapped_receive hmapped hchosen.1) hchosen.2
    exact ⟨hafter, hwritable.trans (fileWritable_receive phone event)⟩

/-- From the restoration of any phone on, whatever is switched, mapped and restored in any order:
    the node of a gesture that can be written is on exactly if the key handler answers for it. -/
theorem gesture_nodes_answer (phone : Phone) {events : List PhoneEvent} (hchosen : ∀ event ∈ events, event.Chosen)
    (hwritable : phone.fileWritable (.gesture gesture) = true) (playing : Playing) :
    (events.foldl Phone.receive phone.restoreAfterUserSwitch).nodes (.gesture gesture) =
      onOff ((events.foldl Phone.receive phone.restoreAfterUserSwitch).Answers playing
        ⟨.ACTION_UP, gesture.scanCode⟩) := by
  obtain ⟨hmapped, hkept⟩ := mapped_run (mapped_restoreAfterUserSwitch phone) hchosen
  have hrestored := (restoredBy_restoreAfterUserSwitch phone).fileWritable
  rw [hmapped gesture (by rw [hkept, hrestored, hwritable]), mappedNode]
  simp only [answers_scanCode_iff]

/-- A letter is mapped, the settings are restored for a user, and it is mapped to nothing. -/
def letterMapped : List PhoneEvent :=
  [.perform (.mapGesture .M CAMERA_ENTRY), .perform .HBMModeTile, .restoreAfterUserSwitch,
    .perform (.mapGesture .M DISABLED_ENTRY)]

theorem gesture_nodes_answer_letterMapped :
    (letterMapped.foldl Phone.receive plainPhone.restoreAfterUserSwitch).nodes (.gesture .M) =
      onOff ((letterMapped.foldl Phone.receive plainPhone.restoreAfterUserSwitch).Answers ⟨true, true⟩
        ⟨.ACTION_UP, Gesture.M.scanCode⟩) :=
  gesture_nodes_answer plainPhone (by simp [letterMapped, PhoneEvent.Chosen, CAMERA_ENTRY, DISABLED_ENTRY]) rfl _

end device_parts
