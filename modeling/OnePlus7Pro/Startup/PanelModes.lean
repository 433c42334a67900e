import OnePlus7Pro.Startup.GestureKeys

namespace device_parts

/-- The switches that the panel settings have buttons for. -/
def panelSwitches : List ModeSwitch := [.DCIModeSwitch, .SRGBModeSwitch, .WideColorModeSwitch]

/-- The setting of a switch says that it is on. -/
def Phone.isStored (self : Phone) (switch : ModeSwitch) : Bool := (self.modes switch).getD 0 ≠ 0

/-- Of the modes of the panel at most one is on, the one that the open panel settings show, and a
    mode is on exactly if its setting says so, where it can be. -/
structure PanelInSync (phone : Phone) : Prop where
  exclusive : ∀ switch ∈ panelSwitches, ∀ other ∈ panelSwitches,
    phone.isCurrentlyEnabled switch = true → phone.isCurrentlyEnabled other = true → switch = other
  shown : ∀ mode, phone.mCurrentMode = some mode → ∀ switch ∈ panelSwitches,
    phone.isCurrentlyEnabled switch = (decide (mode.switch = some switch) && phone.fileWritable (.mode switch))
  stored : ∀ switch ∈ panelSwitches, phone.fileWritable (.mode switch) = true →
    phone.isCurrentlyEnabled switch = phone.isStored switch

variable {phone before mid after : Phone} {done : List ModeSwitch}

/-- A mode is on whose node can be written and has something else than `0` in it. -/
theorem isCurrentlyEnabled_iff (phone : Phone) (switch : ModeSwitch) :
    phone.isCurrentlyEnabled switch = true ↔ phone.fileWritable (.mode switch) = true ∧
      phone.nodes (.mode switch) ≠ "" ∧ phone.nodes (.mode switch) ≠ "0" := by
  rw [Phone.isCurrentlyEnabled, Phone.getFile]
  by_cases hwritable : phone.fileWritable (.mode switch) = true
  · by_cases hempty : phone.nodes (.mode switch) = ""
    · simp [hwritable, hempty, Phone.getFileValueAsBoolean, Phone.readLine]
    · simp [hwritable, hempty, Phone.getFileValueAsBoolean, Phone.readLine]
  · simp [hwritable, Phone.getFileValueAsBoolean, Phone.readLine]

theorem isCurrentlyEnabled_congr {switch : ModeSwitch} (hwritable : after.fileWritable = before.fileWritable)
    (hnode : after.nodes (.mode switch) = before.nodes (.mode switch)) :
    after.isCurrentlyEnabled switch = before.isCurrentlyEnabled switch := by
  rw [Bool.eq_iff_iff, isCurrentlyEnabled_iff, isCurrentlyEnabled_iff, hwritable, hnode]

theorem isCurrentlyEnabled_of_onOff {switch : ModeSwitch} {enabled : Bool}
    (hwritable : phone.fileWritable (.mode switch) = true) (hnode : phone.nodes (.mode switch) = onOff enabled) :
    phone.isCurrentlyEnabled switch = enabled := by
  rw [Bool.eq_iff_iff, isCurrentlyEnabled_iff, hnode]
  cases enabled <;> simp [hwritable, onOff]

/-- Nothing has changed of the modes of the panel. -/
structure KeepsPanel (before after : Phone) : Prop where
  fileWritable : after.fileWritable = before.fileWritable
  mCurrentMode : after.mCurrentMode = before.mCurrentMode
  nodes : ∀ switch ∈ panelSwitches, after.nodes (.mode switch) = before.nodes (.mode switch)
  modes : ∀ switch ∈ panelSwitches, after.modes switch = before.modes switch

theorem KeepsPanel.refl (phone : Phone) : KeepsPanel phone phone := ⟨rfl, rfl, fun _ _ => rfl, fun _ _ => rfl⟩

theorem KeepsPanel.trans (h : KeepsPanel before mid) (h' : KeepsPanel mid after) : KeepsPanel before after :=
  ⟨h'.fileWritable.trans h.fileWritable, h'.mCurrentMode.trans h.mCurrentMode,
    fun switch hswitch => (h'.nodes switch hswitch).trans (h.nodes switch hswitch),
    fun switch hswitch => (h'.modes switch hswitch).trans (h.modes switch hswitch)⟩

theorem KeepsPanel.panelInSync (hkeeps : KeepsPanel before after) (hsync : PanelInSync before) :
    PanelInSync after := by
  have henabled : ∀ switch ∈ panelSwitches, after.isCurrentlyEnabled switch = before.isCurrentlyEnabled switch :=
    fun switch hswitch => isCurrentlyEnabled_congr hkeeps.fileWritable (hkeeps.nodes switch hswitch)
  constructor
  · intro switch hswitch other hother
    rw [henabled switch hswitch, henabled other hother]
    exact hsync.exclusive switch hswitch other hother
  · intro mode hmode switch hswitch
    rw [henabled switch hswitch, hkeeps.fileWritable]
    exact hsync.shown mode (hkeeps.mCurrentMode ▸ hmode) switch hswitch
  · intro switch hswitch
    rw [henabled switch hswitch, hkeeps.fileWritable, Phone.isStored, hkeeps.modes switch hswitch]
    exact hsync.stored switch hswitch

theorem keepsPanel_writeValue (phone : Phone) {node : Node}
    (hnode : ∀ switch ∈ panelSwitches, node ≠ .mode switch) (value : String) :
    KeepsPanel phone (phone.writeValue (some node) value) := by
  rw [Phone.writeValue]
  split
  · refine ⟨rfl, rfl, fun switch hswitch => ?_, fun _ _ => rfl⟩
    exact Function.update_of_ne (hnode switch hswitch).symm value phone.nodes
  · exact .refl phone

theorem keepsPanel_getFile (phone : Phone) {switch : ModeSwitch} (hswitch : switch ∉ panelSwitches)
    (value : String) : KeepsPanel phone (phone.writeValue (phone.getFile switch) value) := by
  rw [Phone.getFile]
  split
  · exact keepsPanel_writeValue phone (fun other hother h => hswitch (by rwa [Node.mode.inj h])) value
  · exact .refl phone

theorem keepsPanel_putInt (phone : Phone) {switch : ModeSwitch} (hswitch : switch ∉ panelSwitches) (value : Int) :
    KeepsPanel phone (phone.putInt switch value) := by
  refine ⟨rfl, rfl, fun _ _ => rfl, fun other hother => ?_⟩
  exact Function.update_of_ne (fun h => hswitch (by rwa [← h])) _ _

@[simp] theorem fileWritable_turn (phone : Phone) (switch : Option ModeSwitch) (enabled : Bool) :
    (phone.turn switch enabled).fileWritable = phone.fileWritable :=
  (keepsGestures_turn phone switch enabled).fileWritable

theorem nodes_turn (phone : Phone) (switch : Option ModeSwitch) (enabled : Bool) (other : ModeSwitch) :
    (phone.turn switch enabled).nodes (.mode other) =
      if switch = some other ∧ phone.fileWritable (.mode other) = true then onOff enabled
      else phone.nodes (.mode other) := by
  cases switch with
  | none => simp [Phone.turn]
  | some switch =>
    rw [Phone.turn, Phone.getFile]
    by_cases hwritable : phone.fileWritable (.mode switch) = true
    · by_cases hsame : switch = other
      · simp [Phone.putInt, Phone.writeValue, hsame ▸ hwritable, hsame, onOff]
      · simp [Phone.putInt, Phone.writeValue, hwritable, hsame, Ne.symm hsame]
    · by_cases hsame : switch = other
      · simp [Phone.putInt, Phone.writeValue, hsame ▸ hwritable, hsame]
      · simp [Phone.putInt, Phone.writeValue, hwritable, hsame]

/-- A mode that is turned is on or off then, if it can be, and the others are as before. -/
theorem isCurrentlyEnabled_turn (phone : Phone) (switch : Option ModeSwitch) (enabled : Bool) (other : ModeSwitch) :
    (phone.turn switch enabled).isCurrentlyEnabled other =
      if switch = some other then enabled && phone.fileWritable (.mode other)
      else phone.isCurrentlyEnabled other := by
  have hnodes := nodes_turn phone switch enabled other
  split
  next hsame =>
    by_cases hwritable : phone.fileWritable (.mode other) = true
    · rw [hwritable, Bool.and_true]
      rw [if_pos ⟨hsame, hwritable⟩] at hnodes
      exact isCurrentlyEnabled_of_onOff (by simpa using hwritable) hnodes
    · rw [Bool.eq_iff_iff, isCurrentlyEnabled_iff]
      simp [hwritable]
  next hother =>
    rw [if_neg fun h => hother h.1] at hnodes
    exact isCurrentlyEnabled_congr (fileWritable_turn _ _ _) hnodes

theorem isStored_turn (phone : Phone) (switch : Option ModeSwitch) (enabled : Bool) (other : ModeSwitch) :
    (phone.turn switch enabled).isStored other = if switch = some other then enabled else phone.isStored other := by
  cases switch with
  | none => simp [Phone.turn]
  | some switch =>
    have hmodes : (phone.turn (some switch) enabled).modes =
        Function.update phone.modes switch (some (if enabled then 1 else 0)) := by
      rw [Phone.turn, Phone.getFile]
      split
      next hwritable => simp [Phone.putInt, Phone.writeValue, hwritable]
      · rfl
    rw [Phone.isStored, hmodes]
    by_cases hsame : switch = other
    · cases enabled <;> simp [hsame]
    · simp [hsame, Ne.symm hsame, Phone.isStored]

/-- Another button is checked: its mode replaces the one that was on. -/
theorem panelInSync_onCheckedChanged (hsync : PanelInSync phone) (checkedId : PanelMode) :
    PanelInSync (phone.onCheckedChanged checkedId) := by
  cases hmode : phone.mCurrentMode with
  | none => simpa [Phone.onCheckedChanged, hmode] using hsync
  | some mode =>
    have hafter : phone.onCheckedChanged checkedId =
        { (phone.turn mode.switch false).turn checkedId.switch true with mCurrentMode := some checkedId } := by
      simp [Phone.onCheckedChanged, Phone.disableCurrenMode, hmode]
    -- the mode of the button alone is on, and stored
    have henabled : ∀ switch ∈ panelSwitches, (phone.onCheckedChanged checkedId).isCurrentlyEnabled switch =
        (decide (checkedId.switch = some switch) && phone.fileWritable (.mode switch)) := by
      intro switch hswitch
      have hturned := isCurrentlyEnabled_turn (phone.turn mode.switch false) checkedId.switch true switch
      rw [isCurrentlyEnabled_turn phone, fileWritable_turn, hsync.shown mode hmode switch hswitch] at hturned
      rw [hafter]
      refine hturned.trans ?_
      by_cases hnew : checkedId.switch = some switch <;> by_cases hold : mode.switch = some switch <;>
        simp [hnew, hold]
    have hstored : ∀ switch ∈ panelSwitches, phone.fileWritable (.mode switch) = true →
        (phone.onCheckedChanged checkedId).isStored switch = decide (checkedId.switch = some switch) := by
      intro switch hswitch hwritable
      have hbefore := hsync.stored switch hswitch hwritable
      have hturned := isStored_turn (phone.turn mode.switch false) checkedId.switch true switch
      rw [isStored_turn phone, ← hbefore, hsync.shown mode hmode switch hswitch, hwritable] at hturned
      rw [hafter]
      refine hturned.trans ?_
      by_cases hnew : checkedId.switch = some switch <;> by_cases hold : mode.switch = some switch <;>
        simp [hnew, hold]
    have hwritables : (phone.onCheckedChanged checkedId).fileWritable = phone.fileWritable := by
      rw [hafter]
      simp
    constructor
    · intro switch hswitch other hother hon honOther
      rw [henabled switch hswitch, Bool.and_eq_true, decide_eq_true_eq] at hon
      rw [henabled other hother, Bool.and_eq_true, decide_eq_true_eq] at honOther
      exact Option.some.inj (hon.1.symm.trans honOther.1)
    · intro shown hshown switch hswitch
      obtain rfl : checkedId = shown := by simpa [hafter] using hshown
      rw [henabled switch hswitch, hwritables]
    · intro switch hswitch hwritable
      rw [hwritables] at hwritable
      rw [henabled switch hswitch, hstored switch hswitch hwritable, hwritable, Bool.and_true]

/-- The panel settings show the mode that is on. -/
theorem panelInSync_onViewCreated (hsync : PanelInSync phone) : PanelInSync phone.onViewCreated := by
  refine ⟨hsync.exclusive, fun mode hmode switch hswitch => ?_, hsync.stored⟩
  have hwritable : phone.isCurrentlyEnabled switch = true → phone.fileWritable (.mode switch) = true :=
    fun hon => ((isCurrentlyEnabled_iff phone switch).mp hon).1
  have hbutton : decide (mode.switch = some switch) = phone.isCurrentlyEnabled switch := by
    obtain rfl := Option.some.inj hmode
    -- no two modes are on, so it is all the same which is asked for first
    have hdciSrgb := hsync.exclusive .DCIModeSwitch (by decide) .SRGBModeSwitch (by decide)
    have hdciWide := hsync.exclusive .DCIModeSwitch (by decide) .WideColorModeSwitch (by decide)
    have hsrgbWide := hsync.exclusive .SRGBModeSwitch (by decide) .WideColorModeSwitch (by decide)
    obtain rfl | rfl | rfl : switch = .DCIModeSwitch ∨ switch = .SRGBModeSwitch ∨
        switch = .WideColorModeSwitch := by
      simpa [panelSwitches] using hswitch
    all_goals
      cases hdci : phone.isCurrentlyEnabled .DCIModeSwitch <;>
        cases hsrgb : phone.isCurrentlyEnabled .SRGBModeSwitch <;>
        cases hwide : phone.isCurrentlyEnabled .WideColorModeSwitch <;>
        simp [hdci, hsrgb, hwide, PanelMode.switch] at hdciSrgb hdciWide hsrgbWide ⊢
  change phone.isCurrentlyEnabled switch = (_ && phone.fileWritable (.mode switch))
  rw [hbutton]
  cases hon : phone.isCurrentlyEnabled switch with
  | true => rw [hwritable hon, Bool.and_self]
  | false => rfl

theorem keepsPanel_perform (phone : Phone) {action : Action} (hopen : action ≠ .openPanel)
    (hcheck : ∀ checkedId, action ≠ .checkPanel checkedId) : KeepsPanel phone (phone.perform action) := by
  cases action with
  | HBMModeSwitch enabled =>
    exact (keepsPanel_putInt phone (by decide) _).trans (keepsPanel_getFile _ (by decide) _)
  | DCDModeSwitch enabled =>
    exact (keepsPanel_putInt phone (by decide) _).trans (keepsPanel_getFile _ (by decide) _)
  | HBMModeTile =>
    exact (keepsPanel_getFile phone (by decide) _).trans ⟨rfl, rfl, fun _ _ => rfl, fun _ _ => rfl⟩
  | mapGesture gesture value =>
    exact (keepsPanel_writeValue phone (by simp) _).trans ⟨rfl, rfl, fun _ _ => rfl, fun _ _ => rfl⟩
  | openPanel => exact absurd rfl hopen
  | checkPanel checkedId => exact absurd rfl (hcheck checkedId)

/-- Of the modes in the list, and of no others, the node is restored. -/
structure RestoredModes (before : Phone) (done : List ModeSwitch) (after : Phone) : Prop where
  fileWritable : after.fileWritable = before.fileWritable
  mCurrentMode : after.mCurrentMode = before.mCurrentMode
  modes : after.modes = before.modes
  nodes : ∀ switch, after.nodes (.mode switch) =
    if switch ∈ done ∧ before.fileWritable (.mode switch) = true then onOff (before.isStored switch)
    else before.nodes (.mode switch)

theorem restore_keeps_modes (phone : Phone) (file : Option Node) (enabled : Bool) :
    (phone.restore file enabled).modes = phone.modes ∧
      (phone.restore file enabled).mCurrentMode = phone.mCurrentMode := by
  unfold Phone.restore Phone.writeValue
  cases file with
  | none => exact ⟨rfl, rfl⟩
  | some node =>
    dsimp only
    split_ifs <;> exact ⟨rfl, rfl⟩

/-- A node that is not that of a mode can be restored as well. -/
theorem RestoredModes.of_nodes (h : RestoredModes before done mid) (hwritable : after.fileWritable = mid.fileWritable)
    (hmode : after.mCurrentMode = mid.mCurrentMode) (hmodes : after.modes = mid.modes)
    (hnodes : ∀ switch, after.nodes (.mode switch) = mid.nodes (.mode switch)) : RestoredModes before done after :=
  ⟨hwritable.trans h.fileWritable, hmode.trans h.mCurrentMode, hmodes.trans h.modes,
    fun switch => (hnodes switch).trans (h.nodes switch)⟩

theorem RestoredModes.snoc (h : RestoredModes before done mid) (switch : ModeSwitch) :
    RestoredModes before (done ++ [switch]) (mid.restoreMode switch) := by
  have hkeeps := restore_keeps mid (mid.getFile switch) ((mid.modes switch).getD 0 ≠ 0)
  have hkeepsModes := restore_keeps_modes mid (mid.getFile switch) ((mid.modes switch).getD 0 ≠ 0)
  refine ⟨hkeeps.1.trans h.fileWritable, hkeepsModes.2.trans h.mCurrentMode, hkeepsModes.1.trans h.modes,
    fun other => ?_⟩
  rw [Phone.restoreMode, Phone.getFile, h.fileWritable, h.modes]
  by_cases hwritable : before.fileWritable (.mode switch) = true
  · rw [if_pos hwritable, restore_nodes, h.fileWritable, h.nodes]
    by_cases hsame : other = switch
    · simp [hsame, hwritable, Phone.isStored]
    · simp [hsame]
  · rw [if_neg hwritable, Phone.restore, h.nodes]
    by_cases hsame : other = switch
    · simp [hsame, hwritable]
    · simp [hsame]

theorem RestoredModes.modeSwitches (h : RestoredModes before done mid) (switches : List ModeSwitch) :
    RestoredModes before (done ++ switches) (switches.foldl Phone.restoreMode mid) := by
  induction switches generalizing done mid with
  | nil => simpa using h
  | cons switch switches ih => simpa using ih (h.snoc switch)

theorem RestoredModes.gesture (h : RestoredModes before done mid) (gesture : Gesture) (entry : Option String) :
    RestoredModes before done (mid.restoreGesture gesture entry) := by
  rw [Phone.restoreGesture, getGestureFile]
  have hkeepsModes := restore_keeps_modes
  refine h.of_nodes (restore_keeps _ _ _).1 (hkeepsModes _ _ _).2 (hkeepsModes _ _ _).1 fun switch => ?_
  rw [restore_nodes, if_neg (by simp)]

theorem RestoredModes.gestures (h : RestoredModes before done mid) (list : List Gesture)
    (entries : Gesture → Option String) : RestoredModes before done
      (list.foldl (fun phone gesture => phone.restoreGesture gesture (entries gesture)) mid) := by
  induction list generalizing mid with
  | nil => exact h
  | cons gesture list ih => exact ih (h.gesture gesture (entries gesture))

theorem RestoredModes.vibrator (h : RestoredModes before done mid) :
    RestoredModes before done mid.restoreVibrator := by
  unfold Phone.restoreVibrator Phone.writeValue
  dsimp only
  split_ifs
  · exact h
  · exact h.of_nodes rfl rfl rfl fun switch => by simp
  · exact h

/-- The nodes of the modes are restored from their settings. -/
theorem restoredModes_restoreAfterUserSwitch (phone : Phone) :
    RestoredModes phone modeSwitches phone.restoreAfterUserSwitch := by
  have hstart : RestoredModes phone [] phone := ⟨rfl, rfl, rfl, fun _ => by simp⟩
  rw [restoreAfterUserSwitch_eq]
  exact ((hstart.gestures gestures Gesture.storedEntry).modeSwitches modeSwitches).vibrator

theorem isCurrentlyEnabled_restored (phone : Phone) (switch : ModeSwitch) :
    phone.restoreAfterUserSwitch.isCurrentlyEnabled switch =
      (phone.isStored switch && phone.fileWritable (.mode switch)) := by
  have hrestored := restoredModes_restoreAfterUserSwitch phone
  have hnode := hrestored.nodes switch
  by_cases hwritable : phone.fileWritable (.mode switch) = true
  · rw [if_pos ⟨mem_modeSwitches switch, hwritable⟩] at hnode
    rw [hwritable, Bool.and_true]
    exact isCurrentlyEnabled_of_onOff (by rw [hrestored.fileWritable, hwritable]) hnode
  · rw [Bool.eq_iff_iff, isCurrentlyEnabled_iff, hrestored.fileWritable]
    simp [hwritable]

theorem isStored_restored (phone : Phone) (switch : ModeSwitch) :
    phone.restoreAfterUserSwitch.isStored switch = phone.isStored switch := by
  rw [Phone.isStored, (restoredModes_restoreAfterUserSwitch phone).modes, Phone.isStored]

/-- The settings have at most one mode of the panel on, among those that can be. -/
def StoredApart (phone : Phone) : Prop :=
  ∀ switch ∈ panelSwitches, ∀ other ∈ panelSwitches, phone.fileWritable (.mode switch) = true →
    phone.fileWritable (.mode other) = true → phone.isStored switch = true → phone.isStored other = true →
      switch = other

/-- The restoration at the start, before the panel settings are opened. -/
theorem panelInSync_start (hclosed : phone.mCurrentMode = none) (hapart : StoredApart phone) :
    PanelInSync phone.restoreAfterUserSwitch := by
  have hrestored := restoredModes_restoreAfterUserSwitch phone
  constructor
  · intro switch hswitch other hother hon honOther
    rw [isCurrentlyEnabled_restored, Bool.and_eq_true] at hon honOther
    exact hapart switch hswitch other hother hon.2 honOther.2 hon.1 honOther.1
  · intro mode hmode
    rw [hrestored.mCurrentMode, hclosed] at hmode
    cases hmode
  · intro switch hswitch hwritable
    rw [hrestored.fileWritable] at hwritable
    rw [isCurrentlyEnabled_restored, isStored_restored, hwritable, Bool.and_true]

/-- A restoration in between changes nothing that is in sync. -/
theorem PanelInSync.restoreAfterUserSwitch (hsync : PanelInSync phone) :
    PanelInSync phone.restoreAfterUserSwitch := by
  have hrestored := restoredModes_restoreAfterUserSwitch phone
  have henabled : ∀ switch ∈ panelSwitches,
      phone.restoreAfterUserSwitch.isCurrentlyEnabled switch = phone.isCurrentlyEnabled switch := by
    intro switch hswitch
    rw [isCurrentlyEnabled_restored]
    by_cases hwritable : phone.fileWritable (.mode switch) = true
    · rw [hwritable, Bool.and_true, hsync.stored switch hswitch hwritable]
    · rw [Bool.eq_iff_iff, isCurrentlyEnabled_iff]
      simp [hwritable]
  constructor
  · intro switch hswitch other hother
    rw [henabled switch hswitch, henabled other hother]
    exact hsync.exclusive switch hswitch other hother
  · intro mode hmode switch hswitch
    rw [hrestored.mCurrentMode] at hmode
    rw [henabled switch hswitch, hrestored.fileWritable]
    exact hsync.shown mode hmode switch hswitch
  · intro switch hswitch hwritable
    rw [hrestored.fileWritable] at hwritable
    rw [henabled switch hswitch, isStored_restored]
    exact hsync.stored switch hswitch hwritable

theorem PanelInSync.receive (hsync : PanelInSync phone) (event : PhoneEvent) : PanelInSync (phone.receive event) := by
  cases event with
  | restoreAfterUserSwitch => exact hsync.restoreAfterUserSwitch
  | perform action =>
    by_cases hopen : action = .openPanel
    · subst hopen
      exact panelInSync_onViewCreated hsync
    · by_cases hcheck : ∃ checkedId, action = .checkPanel checkedId
      · obtain ⟨checkedId, rfl⟩ := hcheck
        exact panelInSync_onCheckedChanged hsync checkedId
      · exact (keepsPanel_perform phone hopen fun checkedId h => hcheck ⟨checkedId, h⟩).panelInSync hsync

/-- From the restoration of a phone whose settings have at most one mode on, whatever is switched,
    checked, mapped and restored in any order: at most one mode of the panel is on, it is the one
    that the panel settings show, and the settings agree. -/
theorem panel_in_sync (hclosed : phone.mCurrentMode = none) (hapart : StoredApart phone) (events : List PhoneEvent) :
    PanelInSync (events.foldl Phone.receive phone.restoreAfterUserSwitch) := by
  induction events using List.reverseRecOn with
  | nil => exact panelInSync_start hclosed hapart
  | append_singleton events event ih =>
    rw [List.foldl_append]
    exact ih.receive event

/-- Two modes are checked one after the other, with a restoration in between. -/
def modesChecked : List PhoneEvent :=
  [.perform .openPanel, .perform (.checkPanel .srgb_mode), .restoreAfterUserSwitch,
    .perform (.checkPanel .wide_color_mode)]

theorem panel_in_sync_modesChecked :
    PanelInSync (modesChecked.foldl Phone.receive plainPhone.restoreAfterUserSwitch) :=
  panel_in_sync rfl (by simp [StoredApart, Phone.isStored, plainPhone]) modesChecked

end device_parts
