import OnePlus7Pro.Startup.Restoration
import Mathlib.Data.List.Induction

namespace device_parts

/-- The gestures that the restoration turns on when nothing is stored for them. -/
def Gesture.defaulted : Gesture → Bool
  | .TWO_SWIPE_DOWN | .CIRCLE | .LEFT_ARROW | .RIGHT_ARROW => true
  | .UP_ARROW | .M | .W | .S => false

theorem onOff_inj {enabled enabled' : Bool} : onOff enabled = onOff enabled' ↔ enabled = enabled' := by
  cases enabled <;> cases enabled' <;> decide

/-- What the restoration writes to a node. -/
def Phone.rebuilt (self : Phone) : Node → String
  | .mode switch => onOff ((self.modes switch).getD 0 ≠ 0)
  | .gesture gesture =>
    let value := (self.mappings gesture).getD ""
    onOff (if value = "" then gesture.defaulted else value ≠ DISABLED_ENTRY)
  | .FILE_LEVEL => self.vib_strength.getD DEFAULT_VALUE

/-- What the settings screens write to a node along with its setting. -/
def Phone.written (self : Phone) : Node → String
  | .mode .HBMModeSwitch => if (self.modes .HBMModeSwitch).getD 0 ≠ 0 then "5" else "0"
  | .gesture gesture =>
    match self.mappings gesture with
    | some value => onOff (value ≠ DISABLED_ENTRY)
    | none => self.rebuilt (.gesture gesture)
  | node => self.rebuilt node

/-- Every mode and gesture node holds what its setting is written as, by the restoration or by
    the settings screens. -/
def Agrees (phone : Phone) : Prop :=
  ∀ node, node ≠ .FILE_LEVEL →
    phone.nodes node = phone.rebuilt node ∨ phone.nodes node = phone.written node

/-- The phone with the nodes of all modes and gestures reset. -/
def Phone.reset (self : Phone) : Phone :=
  { self with nodes := fun node => if node = .FILE_LEVEL then self.nodes .FILE_LEVEL else "0" }

/-- After the actions and a reset the restoration brings every mode and gesture node back to the
    value that the actions left in it. -/
def Survives (phone : Phone) (actions : List Action) : Prop :=
  ∀ node, node ≠ .FILE_LEVEL →
    (actions.foldl Phone.perform phone).reset.restoreAfterUserSwitch.nodes node =
      (actions.foldl Phone.perform phone).nodes node

/-- The switch's value when the action uses the high brightness switch. -/
def Action.hbmSwitch : Action → Option Bool
  | .HBMModeSwitch enabled => some enabled
  | _ => none

/-- The value when the action maps the gesture. -/
def Action.mapping (gesture : Gesture) : Action → Option String
  | .mapGesture mapped value => if mapped = gesture then some value else none
  | _ => none

/-- The last use of the high brightness switch. -/
def lastSwitch (actions : List Action) : Option Bool := (actions.filterMap Action.hbmSwitch).getLast?

/-- How often the tile was clicked since the high brightness switch was last used. -/
def clicksSince : List Action → Nat :=
  List.foldl (fun clicks action =>
    match action with
    | .HBMModeSwitch _ => 0
    | .HBMModeTile => clicks + 1
    | _ => clicks) 0

/-- The value that the gesture was last mapped to. -/
def lastMapping (gesture : Gesture) (actions : List Action) : Option String :=
  (actions.filterMap (Action.mapping gesture)).getLast?

/-- High brightness was last turned off with its switch, or is off from the start, and its tile
    was clicked an even number of times since; or neither was touched, and its node is as
    restored from the start. -/
def HBMSettled (phone : Phone) (actions : List Action) : Prop :=
  ((lastSwitch actions).getD (phone.nodes (.mode .HBMModeSwitch) ≠ "0") = false ∧
    clicksSince actions % 2 = 0) ∨
  (lastSwitch actions = none ∧ clicksSince actions = 0 ∧
    phone.nodes (.mode .HBMModeSwitch) = phone.rebuilt (.mode .HBMModeSwitch))

/-- A gesture without a default was not last mapped to the empty text, or was not mapped and its
    node is as restored from the start. -/
def GestureSettled (phone : Phone) (actions : List Action) (gesture : Gesture) : Prop :=
  gesture.defaulted = false →
    match lastMapping gesture actions with
    | some value => value ≠ ""
    | none => phone.nodes (.gesture gesture) = phone.rebuilt (.gesture gesture)

@[simp] theorem lastSwitch_nil : lastSwitch [] = none := rfl

@[simp] theorem lastSwitch_concat (actions : List Action) (action : Action) :
    lastSwitch (actions ++ [action]) = action.hbmSwitch.or (lastSwitch actions) := by
  cases hswitch : action.hbmSwitch <;> simp [lastSwitch, List.filterMap_append, hswitch]

@[simp] theorem lastMapping_nil (gesture : Gesture) : lastMapping gesture [] = none := rfl

@[simp] theorem lastMapping_concat (gesture : Gesture) (actions : List Action) (action : Action) :
    lastMapping gesture (actions ++ [action]) =
      (action.mapping gesture).or (lastMapping gesture actions) := by
  cases hmapping : action.mapping gesture <;>
    simp [lastMapping, List.filterMap_append, hmapping]

@[simp] theorem clicksSince_nil : clicksSince [] = 0 := rfl

@[simp] theorem clicksSince_concat (actions : List Action) (action : Action) :
    clicksSince (actions ++ [action]) =
      match action with
      | .HBMModeSwitch _ => 0
      | .HBMModeTile => clicksSince actions + 1
      | _ => clicksSince actions := by
  rw [clicksSince, List.foldl_append]
  rfl

section writable

variable {phone : Phone} (hwritable : ∀ node, phone.fileWritable node = true)

include hwritable

theorem writeValue_eq (node : Node) (value : String) :
    phone.writeValue (some node) value = { phone with nodes := Function.update phone.nodes node value } := by
  rw [Phone.writeValue, hwritable, if_pos rfl]

theorem getFile_eq (switch : ModeSwitch) : phone.getFile switch = some (.mode switch) := by
  rw [Phone.getFile, hwritable, if_pos rfl]

theorem isCurrentlyEnabled_eq (switch : ModeSwitch) (hline : phone.nodes (.mode switch) ≠ "") :
    phone.isCurrentlyEnabled switch = decide (phone.nodes (.mode switch) ≠ "0") := by
  rw [Phone.isCurrentlyEnabled, Phone.getFileValueAsBoolean, getFile_eq hwritable, Phone.readLine,
    if_neg hline]
  by_cases hoff : phone.nodes (.mode switch) = "0" <;> simp [hoff]

theorem onHBMChange_eq (enabled : Bool) : phone.onHBMChange enabled = { phone with
    modes := Function.update phone.modes .HBMModeSwitch (some (if enabled then 5 else 0))
    nodes := Function.update phone.nodes (.mode .HBMModeSwitch) (if enabled then "5" else "0") } := by
  have hput : ∀ node, (phone.putInt .HBMModeSwitch (if enabled then 5 else 0)).fileWritable node = true :=
    hwritable
  rw [Phone.onHBMChange, getFile_eq hput, writeValue_eq hput]
  rfl

theorem onDCDChange_eq (enabled : Bool) : phone.onDCDChange enabled = { phone with
    modes := Function.update phone.modes .DCDModeSwitch (some (if enabled then 1 else 0))
    nodes := Function.update phone.nodes (.mode .DCDModeSwitch) (onOff enabled) } := by
  have hput : ∀ node, (phone.putInt .DCDModeSwitch (if enabled then 1 else 0)).fileWritable node = true :=
    hwritable
  rw [Phone.onDCDChange, getFile_eq hput, writeValue_eq hput]
  rfl

theorem onClick_eq (hline : phone.nodes (.mode .HBMModeSwitch) ≠ "") : phone.onClick = { phone with
    nodes := Function.update phone.nodes (.mode .HBMModeSwitch)
      (if phone.nodes (.mode .HBMModeSwitch) ≠ "0" then "0" else "5")
    KEY_HBM_SWITCH := phone.nodes (.mode .HBMModeSwitch) = "0" } := by
  rw [Phone.onClick, isCurrentlyEnabled_eq hwritable _ hline, getFile_eq hwritable, writeValue_eq hwritable]
  simp

theorem turn_some_eq (switch : ModeSwitch) (enabled : Bool) : phone.turn (some switch) enabled = { phone with
    modes := Function.update phone.modes switch (some (if enabled then 1 else 0))
    nodes := Function.update phone.nodes (.mode switch) (onOff enabled) } := by
  rw [Phone.turn, getFile_eq hwritable, writeValue_eq hwritable]
  rfl

theorem onGestureChange_eq (gesture : Gesture) (value : String) :
    phone.onGestureChange gesture value = { phone with
      mappings := Function.update phone.mappings gesture (some value)
      nodes := Function.update phone.nodes (.gesture gesture) (onOff (value ≠ DISABLED_ENTRY)) } := by
  rw [Phone.onGestureChange, Phone.setGestureEnabled, getGestureFile, writeValue_eq hwritable]
  by_cases hvalue : value = DISABLED_ENTRY <;> simp [Phone.putString, onOff, hvalue]

theorem restore_eq (node : Node) (enabled : Bool) : phone.restore (some node) enabled =
    { phone with nodes := Function.update phone.nodes node (onOff enabled) } :=
  writeValue_eq hwritable node _

end writable

/-- The nodes in the list, and no others, are as restored; what the others will be restored to
    is not changed by that. -/
structure Restored (before : Phone) (done : List Node) (after : Phone) : Prop where
  writable : ∀ node, after.fileWritable node = true
  nodes : ∀ node, after.nodes node = if node ∈ done then before.rebuilt node else before.nodes node
  rebuilt : ∀ node, after.rebuilt node = before.rebuilt node

theorem Restored.start {phone : Phone} (hwritable : ∀ node, phone.fileWritable node = true) :
    Restored phone [] phone :=
  ⟨hwritable, fun _ => by simp, fun _ => rfl⟩

/-- One more node is restored by writing to it what it is rebuilt as. -/
theorem Restored.snoc {before mid after : Phone} {done : List Node} (h : Restored before done mid)
    (node : Node) (hwritable : after.fileWritable = mid.fileWritable)
    (hnodes : after.nodes = Function.update mid.nodes node (mid.rebuilt node))
    (hrebuilt : ∀ other, after.rebuilt other = mid.rebuilt other) :
    Restored before (done ++ [node]) after := by
  refine ⟨fun other => hwritable ▸ h.writable other, fun other => ?_, fun other =>
    (hrebuilt other).trans (h.rebuilt other)⟩
  simp only [hnodes, Function.update_apply, List.mem_append, List.mem_singleton]
  by_cases hother : other = node
  · rw [if_pos hother, if_pos (Or.inr hother), h.rebuilt, hother]
  · rw [if_neg hother, h.nodes]
    simp [hother]

theorem Restored.mode {before mid : Phone} {done : List Node} (h : Restored before done mid)
    (switch : ModeSwitch) : Restored before (done ++ [.mode switch]) (mid.restoreMode switch) := by
  have hrestored : mid.restoreMode switch = { mid with
      nodes := Function.update mid.nodes (.mode switch) (mid.rebuilt (.mode switch)) } := by
    rw [Phone.restoreMode, getFile_eq h.writable, restore_eq h.writable]
    rfl
  rw [hrestored]
  exact h.snoc _ rfl rfl fun _ => by cases ‹Node› <;> rfl

/-- A gesture is rebuilt as the node of what the restoration stores for it. -/
theorem rebuilt_gesture_eq (phone : Phone) (gesture : Gesture) : phone.rebuilt (.gesture gesture) =
    mappedNode (restoredMapping gesture.storedEntry (phone.mappings gesture)) := by
  rw [Phone.rebuilt, mappedNode, restoredMapping]
  by_cases hempty : (phone.mappings gesture).getD "" = ""
  · rw [if_pos hempty, if_pos hempty]
    cases gesture <;> simp [Gesture.defaulted, Gesture.storedEntry, Gesture.entry, hempty] <;> decide
  · simp [hempty]

theorem Restored.gesture {before mid : Phone} {done : List Node} (h : Restored before done mid)
    (gesture : Gesture) : Restored before (done ++ [.gesture gesture])
      (mid.restoreGesture gesture gesture.storedEntry) := by
  have hput (mappings : Gesture → Option String) (node : Node) :
      { mid with mappings := mappings }.fileWritable node = true := h.writable node
  rw [Phone.restoreGesture, getGestureFile, restore_eq (hput _)]
  refine h.snoc _ rfl (by rw [rebuilt_gesture_eq]; rfl) fun other => ?_
  cases other with
  | mode switch => rfl
  | FILE_LEVEL => rfl
  | gesture other =>
    rw [rebuilt_gesture_eq, rebuilt_gesture_eq]
    by_cases hother : other = gesture
    · subst hother
      simp
    · simp [Function.update_of_ne hother]

theorem Restored.vibrator {before mid : Phone} {done : List Node} (h : Restored before done mid) :
    Restored before (done ++ [.FILE_LEVEL]) mid.restoreVibrator := by
  rw [Phone.restoreVibrator, h.writable, writeValue_eq h.writable]
  refine h.snoc _ rfl rfl fun other => ?_
  cases other <;> rfl

theorem Restored.gestures {before mid : Phone} {done : List Node} (h : Restored before done mid)
    (gestures : List Gesture) : Restored before (done ++ gestures.map .gesture)
      (gestures.foldl (fun phone gesture => phone.restoreGesture gesture gesture.storedEntry) mid) := by
  induction gestures generalizing done mid with
  | nil => simpa using h
  | cons gesture gestures ih => simpa using ih (h.gesture gesture)

theorem Restored.modes {before mid : Phone} {done : List Node} (h : Restored before done mid)
    (switches : List ModeSwitch) : Restored before (done ++ switches.map .mode)
      (switches.foldl Phone.restoreMode mid) := by
  induction switches generalizing done mid with
  | nil => simpa using h
  | cons switch switches ih => simpa using ih (h.mode switch)

/-- The restoration writes to every node what its setting is rebuilt as. -/
theorem restoreAfterUserSwitch_nodes {phone : Phone}
    (hwritable : ∀ node, phone.fileWritable node = true) (node : Node) :
    phone.restoreAfterUserSwitch.nodes node = phone.rebuilt node := by
  have hall := (((Restored.start hwritable).gestures gestures).modes modeSwitches).vibrator
  rw [restoreAfterUserSwitch_eq, hall.nodes, if_pos]
  cases node with
  | mode switch => simp [mem_modeSwitches]
  | gesture gesture => simp [mem_gestures]
  | FILE_LEVEL => simp

/-- Whether high brightness is on after the actions. -/
def lit (start : Phone) (actions : List Action) : Bool :=
  (lastSwitch actions).getD (start.nodes (.mode .HBMModeSwitch) ≠ "0") ^^ (clicksSince actions % 2 = 1)

/-- What the actions have made of settings and nodes. -/
structure Follows (start : Phone) (actions : List Action) (phone : Phone) : Prop where
  writable : ∀ node, phone.fileWritable node = true
  mode : ∀ switch, switch ≠ .HBMModeSwitch → phone.nodes (.mode switch) = phone.rebuilt (.mode switch)
  hbm_setting : phone.modes .HBMModeSwitch =
    ((lastSwitch actions).map fun enabled => if enabled then 5 else 0).or (start.modes .HBMModeSwitch)
  hbm_node : phone.nodes (.mode .HBMModeSwitch) =
    if lastSwitch actions = none ∧ clicksSince actions = 0 then start.nodes (.mode .HBMModeSwitch)
    else if lit start actions then "5" else "0"
  mapping : ∀ gesture, phone.mappings gesture = (lastMapping gesture actions).or (start.mappings gesture)
  gesture : ∀ gesture, phone.nodes (.gesture gesture) =
    ((lastMapping gesture actions).map fun value => onOff (value ≠ DISABLED_ENTRY)).getD
      (start.nodes (.gesture gesture))

theorem Follows.start {phone : Phone} (hwritable : ∀ node, phone.fileWritable node = true)
    (hagrees : Agrees phone) : Follows phone [] phone where
  writable := hwritable
  mode switch hother := by
    obtain hrebuilt | hwritten := hagrees (.mode switch) (by simp)
    · exact hrebuilt
    · cases switch with
      | HBMModeSwitch => exact absurd rfl hother
      | DCDModeSwitch => exact hwritten
      | DCIModeSwitch => exact hwritten
      | SRGBModeSwitch => exact hwritten
      | WideColorModeSwitch => exact hwritten
  hbm_setting := by simp
  hbm_node := by simp
  mapping _ := by simp
  gesture _ := by simp

/-- Turning a mode of the panel on or off keeps its node in step with its setting, and touches
    nothing else. -/
structure Turned (before after : Phone) : Prop where
  fileWritable : after.fileWritable = before.fileWritable
  hbm_setting : after.modes .HBMModeSwitch = before.modes .HBMModeSwitch
  hbm_node : after.nodes (.mode .HBMModeSwitch) = before.nodes (.mode .HBMModeSwitch)
  mappings : after.mappings = before.mappings
  gesture : ∀ gesture, after.nodes (.gesture gesture) = before.nodes (.gesture gesture)
  mode : ∀ switch, before.nodes (.mode switch) = before.rebuilt (.mode switch) →
    after.nodes (.mode switch) = after.rebuilt (.mode switch)

theorem turned_turn {phone : Phone} (hwritable : ∀ node, phone.fileWritable node = true)
    (mode : Option PanelMode) (enabled : Bool) :
    Turned phone (phone.turn (mode.bind PanelMode.switch) enabled) := by
  cases hswitch : mode.bind PanelMode.switch with
  | none => exact ⟨rfl, rfl, rfl, rfl, fun _ => rfl, fun _ h => h⟩
  | some switch =>
    have hother : ModeSwitch.HBMModeSwitch ≠ switch := by
      rintro rfl
      obtain ⟨panel, _, hpanel⟩ := Option.bind_eq_some_iff.mp hswitch
      cases panel <;> cases hpanel
    rw [turn_some_eq hwritable]
    refine ⟨rfl, Function.update_of_ne hother _ _, Function.update_of_ne (by simpa using hother) _ _, rfl,
      fun gesture => by simp, fun other hmode => ?_⟩
    by_cases hsame : other = switch
    · subst hsame
      cases enabled <;> simp [Phone.rebuilt, onOff]
    · simpa [Phone.rebuilt, Function.update_of_ne hsame, hsame] using hmode

theorem Turned.trans {first second third : Phone} (h : Turned first second) (h' : Turned second third) :
    Turned first third where
  fileWritable := h'.fileWritable.trans h.fileWritable
  hbm_setting := h'.hbm_setting.trans h.hbm_setting
  hbm_node := h'.hbm_node.trans h.hbm_node
  mappings := h'.mappings.trans h.mappings
  gesture gesture := (h'.gesture gesture).trans (h.gesture gesture)
  mode switch hmode := h'.mode switch (h.mode switch hmode)

theorem turned_onCheckedChanged {phone : Phone} (hwritable : ∀ node, phone.fileWritable node = true)
    (checkedId : PanelMode) : Turned phone (phone.onCheckedChanged checkedId) := by
  unfold Phone.onCheckedChanged
  split
  · have hoff := turned_turn hwritable phone.mCurrentMode false
    have hon := turned_turn (fun node => hoff.fileWritable ▸ hwritable node) (some checkedId) true
    obtain ⟨hwritable', hsetting, hnode, hmappings, hgesture, hmode⟩ := hoff.trans hon
    exact ⟨hwritable', hsetting, hnode, hmappings, hgesture, hmode⟩
  · exact ⟨rfl, rfl, rfl, rfl, fun _ => rfl, fun _ h => h⟩

/-- An action that does not use high brightness, and maps no gesture, is followed where it turns
    modes of the panel or nothing. -/
theorem Follows.turned {start phone after : Phone} {actions : List Action}
    (h : Follows start actions phone) (action : Action) (hturned : Turned phone after)
    (hswitch : lastSwitch (actions ++ [action]) = lastSwitch actions)
    (hclicks : clicksSince (actions ++ [action]) = clicksSince actions)
    (hmapping : ∀ gesture, lastMapping gesture (actions ++ [action]) = lastMapping gesture actions) :
    Follows start (actions ++ [action]) after where
  writable node := hturned.fileWritable ▸ h.writable node
  mode switch hother := hturned.mode switch (h.mode switch hother)
  hbm_setting := by rw [hturned.hbm_setting, hswitch, h.hbm_setting]
  hbm_node := by rw [hturned.hbm_node, h.hbm_node, lit, lit, hswitch, hclicks]
  mapping gesture := by rw [hturned.mappings, hmapping, h.mapping]
  gesture gesture := by rw [hturned.gesture, hmapping, h.gesture]

theorem Follows.hbmSwitch {start phone : Phone} {actions : List Action}
    (h : Follows start actions phone) (enabled : Bool) :
    Follows start (actions ++ [.HBMModeSwitch enabled]) (phone.onHBMChange enabled) := by
  rw [onHBMChange_eq h.writable]
  refine ⟨h.writable, fun switch hother => ?_, ?_, ?_, fun gesture => ?_, fun gesture => ?_⟩
  · have hmode := h.mode switch hother
    simpa [Phone.rebuilt, Function.update_of_ne hother, hother] using hmode
  · simp [Action.hbmSwitch]
  · simp [Action.hbmSwitch, lit]
  · simpa [Action.mapping] using h.mapping gesture
  · simpa [Action.mapping] using h.gesture gesture

/-- High brightness is on as its node says. -/
theorem Follows.lit_eq {start phone : Phone} {actions : List Action} (h : Follows start actions phone) :
    lit start actions = decide (phone.nodes (.mode .HBMModeSwitch) ≠ "0") := by
  rw [h.hbm_node]
  by_cases huntouched : lastSwitch actions = none ∧ clicksSince actions = 0
  · simp [huntouched, lit]
  · rw [if_neg huntouched]
    cases lit start actions <;> decide

theorem Follows.hbm_line {start phone : Phone} {actions : List Action} (hagrees : Agrees start)
    (h : Follows start actions phone) : phone.nodes (.mode .HBMModeSwitch) ≠ "" := by
  have hstart : start.nodes (.mode .HBMModeSwitch) ≠ "" := by
    obtain hrebuilt | hwritten := hagrees (.mode .HBMModeSwitch) (by simp)
    · rw [hrebuilt, Phone.rebuilt, onOff]
      split <;> decide
    · rw [hwritten, Phone.written]
      split <;> decide
  rw [h.hbm_node]
  split
  · exact hstart
  · split <;> decide

theorem Follows.hbmTile {start phone : Phone} {actions : List Action} (hagrees : Agrees start)
    (h : Follows start actions phone) : Follows start (actions ++ [.HBMModeTile]) phone.onClick := by
  have hflip : lit start (actions ++ [.HBMModeTile]) = !lit start actions := by
    have hodd : decide ((clicksSince actions + 1) % 2 = 1) = !decide (clicksSince actions % 2 = 1) := by
      rw [Bool.eq_iff_iff]
      simp only [decide_eq_true_eq, Bool.not_eq_true', decide_eq_false_iff_not]
      omega
    simp [lit, Action.hbmSwitch, hodd]
  rw [onClick_eq h.writable (h.hbm_line hagrees)]
  refine ⟨h.writable, fun switch hother => ?_, ?_, ?_, fun gesture => ?_, fun gesture => ?_⟩
  · have hmode := h.mode switch hother
    simpa [Phone.rebuilt, hother] using hmode
  · simpa [Action.hbmSwitch] using h.hbm_setting
  · rw [hflip, h.lit_eq]
    by_cases hoff : phone.nodes (.mode .HBMModeSwitch) = "0" <;> simp [hoff]
  · simpa [Action.mapping] using h.mapping gesture
  · simpa [Action.mapping] using h.gesture gesture

theorem Follows.dcdSwitch {start phone : Phone} {actions : List Action}
    (h : Follows start actions phone) (enabled : Bool) :
    Follows start (actions ++ [.DCDModeSwitch enabled]) (phone.onDCDChange enabled) := by
  have hturned : Turned phone (phone.onDCDChange enabled) := by
    rw [onDCDChange_eq h.writable]
    refine ⟨rfl, rfl, rfl, rfl, fun _ => rfl, fun switch hmode => ?_⟩
    by_cases hsame : switch = .DCDModeSwitch
    · subst hsame
      cases enabled <;> simp [Phone.rebuilt, onOff]
    · simpa [Phone.rebuilt, Function.update_of_ne hsame, hsame] using hmode
  exact h.turned _ hturned (by simp [Action.hbmSwitch]) (by simp) (by simp [Action.mapping])

theorem Follows.mapGesture {start phone : Phone} {actions : List Action}
    (h : Follows start actions phone) (gesture : Gesture) (value : String) :
    Follows start (actions ++ [.mapGesture gesture value]) (phone.onGestureChange gesture value) := by
  rw [onGestureChange_eq h.writable]
  refine ⟨h.writable, fun switch hother => ?_, ?_, ?_, fun other => ?_, fun other => ?_⟩
  · simpa [Phone.rebuilt] using h.mode switch hother
  · simpa [Action.hbmSwitch] using h.hbm_setting
  · simpa [Action.hbmSwitch, lit] using h.hbm_node
  · by_cases hother : other = gesture
    · subst hother
      simp [Action.mapping]
    · simpa [Action.mapping, Function.update_of_ne hother, Ne.symm hother] using h.mapping other
  · by_cases hother : other = gesture
    · subst hother
      simp [Action.mapping]
    · simpa [Action.mapping, hother, Ne.symm hother] using h.gesture other

theorem follows_foldl {start : Phone} (hwritable : ∀ node, start.fileWritable node = true)
    (hagrees : Agrees start) (actions : List Action) :
    Follows start actions (actions.foldl Phone.perform start) := by
  induction actions using List.reverseRecOn with
  | nil => exact Follows.start hwritable hagrees
  | append_singleton actions action ih =>
    rw [List.foldl_append, List.foldl_cons, List.foldl_nil]
    cases action with
    | HBMModeSwitch enabled => exact ih.hbmSwitch enabled
    | DCDModeSwitch enabled => exact ih.dcdSwitch enabled
    | HBMModeTile => exact ih.hbmTile hagrees
    | mapGesture gesture value => exact ih.mapGesture gesture value
    | openPanel =>
      exact ih.turned _ ⟨rfl, rfl, rfl, rfl, fun _ => rfl, fun _ h => h⟩ (by simp [Action.hbmSwitch])
        (by simp) (by simp [Action.mapping])
    | checkPanel checkedId =>
      exact ih.turned _ (turned_onCheckedChanged ih.writable checkedId) (by simp [Action.hbmSwitch])
        (by simp) (by simp [Action.mapping])

/-- At the start high brightness is on in its node as it is in its setting. -/
theorem Agrees.hbm {start : Phone} (hagrees : Agrees start) :
    decide (start.nodes (.mode .HBMModeSwitch) ≠ "0") =
      decide ((start.modes .HBMModeSwitch).getD 0 ≠ 0) := by
  obtain hrebuilt | hwritten := hagrees (.mode .HBMModeSwitch) (by simp)
  · rw [hrebuilt, Phone.rebuilt]
    cases decide ((start.modes .HBMModeSwitch).getD 0 ≠ 0) <;> decide
  · rw [hwritten, Phone.written]
    by_cases hon : (start.modes .HBMModeSwitch).getD 0 ≠ 0 <;> simp [hon]

/-- High brightness comes back exactly if it was left off both in its setting and its node, or was
    not touched and starts as restored. -/
theorem Follows.hbm_iff {start phone : Phone} {actions : List Action} (hagrees : Agrees start)
    (h : Follows start actions phone) :
    phone.rebuilt (.mode .HBMModeSwitch) = phone.nodes (.mode .HBMModeSwitch) ↔ HBMSettled start actions := by
  have hodd : decide (clicksSince actions % 2 = 1) = !decide (clicksSince actions % 2 = 0) := by
    rw [Bool.eq_iff_iff]
    simp only [decide_eq_true_eq, Bool.not_eq_true', decide_eq_false_iff_not]
    omega
  rw [Phone.rebuilt, h.hbm_setting, h.hbm_node, lit, HBMSettled, hodd]
  cases hlast : lastSwitch actions with
  | some enabled =>
    cases enabled <;> by_cases heven : clicksSince actions % 2 = 0 <;> simp [onOff, heven]
  | none =>
    rw [Option.map_none, Option.none_or, Option.getD_none, hagrees.hbm, Phone.rebuilt]
    by_cases huntouched : clicksSince actions = 0
    · have hoff (hzero : (start.modes .HBMModeSwitch).getD 0 = 0) :
          start.nodes (.mode .HBMModeSwitch) = "0" := by
        simpa [hzero] using hagrees.hbm
      simp only [huntouched, and_self, if_true]
      constructor
      · exact fun hsame => Or.inr ⟨trivial, trivial, hsame.symm⟩
      · rintro (⟨hzero, _⟩ | ⟨_, _, hsame⟩)
        · rw [hzero, hoff (by simpa using hzero)]
          rfl
        · exact hsame.symm
    · cases hon : decide ((start.modes .HBMModeSwitch).getD 0 ≠ 0) <;>
        by_cases heven : clicksSince actions % 2 = 0 <;> simp [onOff, heven, huntouched]

theorem rebuilt_gesture {phone : Phone} {gesture : Gesture} {value : String}
    (hmapping : phone.mappings gesture = some value) : phone.rebuilt (.gesture gesture) =
      onOff (if value = "" then gesture.defaulted else value ≠ DISABLED_ENTRY) := by
  rw [Phone.rebuilt, hmapping]
  rfl

/-- Where a gesture has a default, the settings screens and the restoration agree on its node. -/
theorem Agrees.defaulted {start : Phone} (hagrees : Agrees start) {gesture : Gesture}
    (hdefault : gesture.defaulted = true) :
    start.nodes (.gesture gesture) = start.rebuilt (.gesture gesture) := by
  obtain hrebuilt | hwritten := hagrees (.gesture gesture) (by simp)
  · exact hrebuilt
  rw [hwritten, Phone.written]
  cases hmapping : start.mappings gesture with
  | none => rfl
  | some value =>
    rw [rebuilt_gesture hmapping, hdefault]
    by_cases hempty : value = "" <;> simp [hempty, DISABLED_ENTRY]

/-- A gesture comes back exactly if it was not emptied, or has a default to fall back on. -/
theorem Follows.gesture_iff {start phone : Phone} {actions : List Action} (hagrees : Agrees start)
    (h : Follows start actions phone) (gesture : Gesture) :
    phone.rebuilt (.gesture gesture) = phone.nodes (.gesture gesture) ↔
      GestureSettled start actions gesture := by
  have hmapping := h.mapping gesture
  rw [h.gesture, GestureSettled]
  cases hlast : lastMapping gesture actions with
  | some value =>
    rw [hlast, Option.some_or] at hmapping
    rw [rebuilt_gesture hmapping, Option.map_some, Option.getD_some, onOff_inj]
    by_cases hempty : value = ""
    · subst hempty
      cases gesture.defaulted <;> simp [DISABLED_ENTRY]
    · rw [if_neg hempty]
      exact iff_of_true rfl fun _ => hempty
  | none =>
    rw [hlast, Option.none_or] at hmapping
    have hrebuilt : phone.rebuilt (.gesture gesture) = start.rebuilt (.gesture gesture) := by
      rw [Phone.rebuilt, hmapping]
      rfl
    rw [hrebuilt, Option.map_none, Option.getD_none]
    constructor
    · exact fun hsame _ => hsame.symm
    · intro hsettled
      cases hdefault : gesture.defaulted with
      | false => exact (hsettled hdefault).symm
      | true => exact (hagrees.defaulted hdefault).symm

/-- All choices come back exactly if high brightness was left off, or was not touched and starts
    as restored, and no gesture without a default was left without a mapping. -/
theorem survives_iff (start : Phone) (hwritable : ∀ node, start.fileWritable node = true)
    (hagrees : Agrees start) (actions : List Action) :
    Survives start actions ↔
      HBMSettled start actions ∧ ∀ gesture, GestureSettled start actions gesture := by
  have hfollows := follows_foldl hwritable hagrees actions
  have hrestored (node : Node) :
      (actions.foldl Phone.perform start).reset.restoreAfterUserSwitch.nodes node =
        (actions.foldl Phone.perform start).rebuilt node := by
    rw [@restoreAfterUserSwitch_nodes (actions.foldl Phone.perform start).reset hfollows.writable]
    cases node <;> rfl
  rw [← hfollows.hbm_iff hagrees]
  simp only [Survives, hrestored, ← hfollows.gesture_iff hagrees]
  constructor
  · intro hall
    exact ⟨hall _ (by simp), fun gesture => hall _ (by simp)⟩
  · rintro ⟨hhbm, hgestures⟩ node hnode
    cases node with
    | FILE_LEVEL => exact absurd rfl hnode
    | gesture gesture => exact hgestures gesture
    | mode switch =>
      by_cases hswitch : switch = .HBMModeSwitch
      · exact hswitch ▸ hhbm
      · exact (hfollows.mode switch hswitch).symm

/-- A phone on which nothing is stored and nothing is on. -/
def plainPhone : Phone where
  fileWritable := fun _ => true
  nodes := fun node =>
    match node with
    | .gesture gesture => onOff gesture.defaulted
    | _ => "0"
  modes := fun _ => none
  mappings := fun _ => none
  vib_strength := none
  KEY_HBM_SWITCH := false
  mCurrentMode := none

theorem plainPhone_agrees : Agrees plainPhone := by
  intro node hnode
  cases node with
  | mode switch => exact Or.inl rfl
  | gesture gesture => cases gesture <;> exact Or.inl rfl
  | FILE_LEVEL => exact absurd rfl hnode

/-- Modes of the panel, dimming, a mapped gesture and high brightness for a while. -/
def tidyActions : List Action :=
  [.openPanel, .checkPanel .srgb_mode, .checkPanel .dci_mode, .DCDModeSwitch true, .HBMModeTile,
    .mapGesture .UP_ARROW "torch", .HBMModeTile]

theorem survives_tidyActions : Survives plainPhone tidyActions := by
  refine (survives_iff plainPhone (fun _ => rfl) plainPhone_agrees tidyActions).mpr ⟨?_, ?_⟩
  · exact Or.inl ⟨by decide, by decide⟩
  · intro gesture
    cases gesture <;> intro hdefault <;> first
      | exact absurd hdefault (by decide)
      | exact rfl
      | exact (by decide : "torch" ≠ "")

/-- High brightness from its switch comes back with another value, from its tile not at all, and
    the up arrow without a mapping is turned off. -/
theorem choices_lost :
    ¬ Survives plainPhone [.HBMModeSwitch true] ∧ ¬ Survives plainPhone [.HBMModeTile] ∧
    ¬ Survives plainPhone [.mapGesture .UP_ARROW ""] := by
  refine ⟨fun h => ?_, fun h => ?_, fun h => ?_⟩
  · exact absurd (h (.mode .HBMModeSwitch) (by decide)) (by decide)
  · exact absurd (h (.mode .HBMModeSwitch) (by decide)) (by decide)
  · exact absurd (h (.gesture .UP_ARROW) (by decide)) (by decide)

end device_parts
