import OnePlus7Pro.Startup.Choices

namespace device_parts

/-- How a node says on or off. -/
def onOff (enabled : Bool) : String := if enabled then "1" else "0"

/-- The default of a gesture. -/
def Gesture.entry : Gesture → Option String
  | .TWO_SWIPE_DOWN => some MUSIC_PLAY_ENTRY
  | .CIRCLE => some CAMERA_ENTRY
  | .UP_ARROW => some TORCH_ENTRY
  | .LEFT_ARROW => some MUSIC_PREV_ENTRY
  | .RIGHT_ARROW => some MUSIC_NEXT_ENTRY
  | .M | .W | .S => none

/-- The defaults that the restoration stores: none for the up arrow. -/
def Gesture.storedEntry (gesture : Gesture) : Option String :=
  if gesture = .UP_ARROW then none else gesture.entry

/-- The default where nothing is stored, or the empty text, and else what is stored. -/
def restoredMapping (entry stored : Option String) : Option String :=
  if stored.getD "" = "" then entry.or stored else stored

/-- The node of a gesture that is mapped so: on if it is mapped to something else than
    `DISABLED_ENTRY`. -/
def mappedNode (mapping : Option String) : String :=
  onOff (mapping.getD "" ≠ "" ∧ mapping.getD "" ≠ DISABLED_ENTRY)

/-- A gesture restored by itself, with the default given. -/
def Phone.restoreGesture (self : Phone) (gesture : Gesture) (entry : Option String) : Phone :=
  let mapping := restoredMapping entry (self.mappings gesture)
  let self := { self with mappings := Function.update self.mappings gesture mapping }
  self.restore (getGestureFile gesture)
    (mapping.getD "" ≠ "" ∧ mapping.getD "" ≠ DISABLED_ENTRY : Bool)

/-- The gestures in the order in which they are restored. -/
def gestures : List Gesture :=
  [.TWO_SWIPE_DOWN, .CIRCLE, .UP_ARROW, .LEFT_ARROW, .RIGHT_ARROW, .M, .W, .S]

/-- The modes in the order in which they are restored. -/
def modeSwitches : List ModeSwitch :=
  [.SRGBModeSwitch, .DCDModeSwitch, .DCIModeSwitch, .WideColorModeSwitch, .HBMModeSwitch]

theorem mem_gestures (gesture : Gesture) : gesture ∈ gestures := by
  cases gesture <;> decide

theorem nodup_gestures : gestures.Nodup := by decide

theorem mem_modeSwitches (switch : ModeSwitch) : switch ∈ modeSwitches := by
  cases switch <;> decide

@[simp] theorem restoredMapping_none (stored : Option String) :
    restoredMapping none stored = stored := by
  simp [restoredMapping]

theorem restoredMapping_of_ne {stored : Option String} (entry : Option String)
    (hstored : stored.getD "" ≠ "") : restoredMapping entry stored = stored :=
  if_neg hstored

theorem restoredMapping_of_eq {stored : Option String} (entry : String)
    (hstored : stored.getD "" = "") : restoredMapping (some entry) stored = some entry :=
  if_pos hstored

@[simp] theorem restoredMapping_idem (entry stored : Option String) :
    restoredMapping entry (restoredMapping entry stored) = restoredMapping entry stored := by
  cases entry with
  | none => simp
  | some entry =>
    by_cases hstored : stored.getD "" = ""
    · rw [restoredMapping_of_eq entry hstored]
      by_cases hentry : entry = "" <;> simp [restoredMapping, hentry]
    · rw [restoredMapping_of_ne _ hstored, restoredMapping_of_ne _ hstored]

theorem restoreMapped_eq (phone : Phone) (gesture : Gesture) :
    phone.restoreMapped gesture = phone.restoreGesture gesture none := by
  simp [Phone.restoreMapped, Phone.restoreGesture, Function.update_eq_self]

/-- A gesture with a default goes by its own value, which is not empty then. -/
theorem restoreDefaulted_eq (phone : Phone) (gesture : Gesture) {entry : String}
    (hentry : entry ≠ "") :
    (phone.restoreDefaulted gesture entry).1 ≠ "" ∧
      (phone.restoreDefaulted gesture entry).2 = phone.restoreGesture gesture (some entry) := by
  unfold Phone.restoreDefaulted Phone.restoreGesture
  by_cases hempty : (phone.mappings gesture).getD "" = ""
  · simp [hempty, restoredMapping_of_eq, hentry, Phone.putString]
  · simp [hempty, restoredMapping_of_ne]

/-- The up arrow goes by the value read before, which is not empty: no default is stored. -/
theorem restoreUpArrow_eq (phone : Phone) {value : String} (hvalue : value ≠ "") :
    phone.restoreUpArrow value = phone.restoreGesture .UP_ARROW none := by
  rw [Phone.restoreUpArrow, if_neg hvalue, ← restoreMapped_eq]
  rfl

/-- The restoration restores every gesture by itself, the up arrow as one without a default, then
    the modes and the vibrator. -/
theorem restoreAfterUserSwitch_eq (phone : Phone) : phone.restoreAfterUserSwitch =
    (modeSwitches.foldl Phone.restoreMode
      (gestures.foldl (fun phone gesture => phone.restoreGesture gesture gesture.storedEntry)
        phone)).restoreVibrator := by
  have hcamera : CAMERA_ENTRY ≠ "" := by decide
  have hplay : MUSIC_PLAY_ENTRY ≠ "" := by decide
  have hprev : MUSIC_PREV_ENTRY ≠ "" := by decide
  have hnext : MUSIC_NEXT_ENTRY ≠ "" := by decide
  -- the value that the circle goes by decides for the up arrow, and is not empty
  have hvalue := (restoreDefaulted_eq (phone.restoreDefaulted .TWO_SWIPE_DOWN MUSIC_PLAY_ENTRY).2
    .CIRCLE hcamera).1
  unfold Phone.restoreAfterUserSwitch
  dsimp only
  rw [restoreUpArrow_eq _ hvalue, (restoreDefaulted_eq _ _ hplay).2, (restoreDefaulted_eq _ _ hcamera).2,
    (restoreDefaulted_eq _ _ hprev).2, (restoreDefaulted_eq _ _ hnext).2]
  simp only [restoreMapped_eq]
  rfl

end device_parts
