import OnePlus7Pro.Startup.RestoredChoices

namespace device_parts

/-- Of the gestures in the list, and of no others, the mapping and the node are restored, each by
    what was stored for that gesture alone. -/
structure RestoredBy (entries : Gesture → Option String) (before : Phone) (done : List Gesture)
    (after : Phone) : Prop where
  fileWritable : after.fileWritable = before.fileWritable
  mappings : ∀ gesture, after.mappings gesture =
    if gesture ∈ done then restoredMapping (entries gesture) (before.mappings gesture)
    else before.mappings gesture
  nodes : ∀ gesture, after.nodes (.gesture gesture) =
    if gesture ∈ done ∧ before.fileWritable (.gesture gesture) = true then
      mappedNode (restoredMapping (entries gesture) (before.mappings gesture))
    else before.nodes (.gesture gesture)

/-- Every mapping holds what it held, or its default where it was empty, and every node that can
    be written is on or off as its mapping then says. -/
structure GesturesRestored (before after : Phone) : Prop where
  mappings : ∀ gesture, after.mappings gesture =
    restoredMapping gesture.entry (before.mappings gesture)
  nodes : ∀ gesture, after.nodes (.gesture gesture) =
    if before.fileWritable (.gesture gesture) = true then mappedNode (after.mappings gesture)
    else before.nodes (.gesture gesture)

theorem restore_nodes (phone : Phone) (node other : Node) (enabled : Bool) :
    (phone.restore (some node) enabled).nodes other =
      if other = node ∧ phone.fileWritable node = true then onOff enabled
      else phone.nodes other := by
  unfold Phone.restore Phone.writeValue
  by_cases hwritable : phone.fileWritable node = true
  · by_cases hother : other = node <;> simp [hwritable, hother, onOff]
  · simp [hwritable]

/-- Nothing but nodes is restored. -/
theorem restore_keeps (phone : Phone) (file : Option Node) (enabled : Bool) :
    (phone.restore file enabled).fileWritable = phone.fileWritable ∧
      (phone.restore file enabled).mappings = phone.mappings := by
  unfold Phone.restore Phone.writeValue
  cases file with
  | none => exact ⟨rfl, rfl⟩
  | some node =>
    dsimp only
    split_ifs <;> exact ⟨rfl, rfl⟩

variable {entries : Gesture → Option String} {before mid : Phone} {done : List Gesture}

theorem RestoredBy.start (phone : Phone) : RestoredBy entries phone [] phone :=
  ⟨rfl, fun _ => by simp, fun _ => by simp⟩

/-- One more gesture is restored, and the others are left alone. -/
theorem RestoredBy.snoc (h : RestoredBy entries before done mid) {gesture : Gesture}
    (hnew : gesture ∉ done) :
    RestoredBy entries before (done ++ [gesture]) (mid.restoreGesture gesture (entries gesture)) := by
  have hmapping : mid.mappings gesture = before.mappings gesture := by
    rw [h.mappings, if_neg hnew]
  refine ⟨?_, fun other => ?_, fun other => ?_⟩
  · rw [Phone.restoreGesture, (restore_keeps _ _ _).1]
    exact h.fileWritable
  · rw [Phone.restoreGesture, (restore_keeps _ _ _).2, hmapping]
    by_cases hother : other = gesture
    · subst hother
      simp
    · simp [hother, h.mappings]
  · rw [Phone.restoreGesture, getGestureFile, restore_nodes, hmapping, h.fileWritable]
    by_cases hother : other = gesture
    · subst hother
      simp [h.nodes, hnew, mappedNode]
    · simp [hother, h.nodes]

/-- A restoration that touches no gesture. -/
theorem RestoredBy.of_eq (h : RestoredBy entries before done mid) {after : Phone}
    (hwritable : after.fileWritable = mid.fileWritable) (hmappings : after.mappings = mid.mappings)
    (hnodes : ∀ gesture, after.nodes (.gesture gesture) = mid.nodes (.gesture gesture)) :
    RestoredBy entries before done after :=
  ⟨hwritable.trans h.fileWritable, fun gesture => hmappings ▸ h.mappings gesture,
    fun gesture => (hnodes gesture).trans (h.nodes gesture)⟩

theorem restoredBy_foldl (entries : Gesture → Option String) (phone : Phone)
    (hnodup : done.Nodup) : RestoredBy entries phone done
      (done.foldl (fun phone gesture => phone.restoreGesture gesture (entries gesture)) phone) := by
  induction done using List.reverseRecOn with
  | nil => exact .start phone
  | append_singleton done gesture ih =>
    obtain ⟨hnodup, -, hdisjoint⟩ := List.nodup_append.mp hnodup
    rw [List.foldl_append]
    exact (ih hnodup).snoc fun hmem => hdisjoint gesture hmem gesture List.mem_cons_self rfl

theorem RestoredBy.mode (h : RestoredBy entries before done mid) (switch : ModeSwitch) :
    RestoredBy entries before done (mid.restoreMode switch) := by
  refine h.of_eq (restore_keeps _ _ _).1 (restore_keeps _ _ _).2 fun gesture => ?_
  rw [Phone.restoreMode, Phone.getFile]
  by_cases hwritable : mid.fileWritable (.mode switch) = true
  · simp [hwritable, restore_nodes]
  · simp [hwritable, Phone.restore]

theorem RestoredBy.vibrator (h : RestoredBy entries before done mid) :
    RestoredBy entries before done mid.restoreVibrator := by
  unfold Phone.restoreVibrator Phone.writeValue
  dsimp only
  split_ifs
  · exact h
  · exact h.of_eq rfl rfl fun gesture => by simp
  · exact h

theorem RestoredBy.modes (h : RestoredBy entries before done mid) (switches : List ModeSwitch) :
    RestoredBy entries before done (switches.foldl Phone.restoreMode mid) := by
  induction switches generalizing mid with
  | nil => exact h
  | cons switch switches ih => exact ih (h.mode switch)

/-- The restoration restores the gestures with their defaults, the up arrow without. -/
theorem restoredBy_restoreAfterUserSwitch (phone : Phone) :
    RestoredBy Gesture.storedEntry phone gestures phone.restoreAfterUserSwitch := by
  rw [restoreAfterUserSwitch_eq]
  exact ((restoredBy_foldl _ phone nodup_gestures).modes modeSwitches).vibrator

theorem restoredMapping_storedEntry {phone : Phone} (gesture : Gesture)
    (hstored : (phone.mappings .UP_ARROW).getD "" ≠ "") :
    restoredMapping gesture.storedEntry (phone.mappings gesture) =
      restoredMapping gesture.entry (phone.mappings gesture) := by
  by_cases harrow : gesture = .UP_ARROW
  · subst harrow
    rw [restoredMapping_of_ne _ hstored, restoredMapping_of_ne _ hstored]
  · rw [Gesture.storedEntry, if_neg harrow]

/-- All gestures are restored, each by its own mapping, exactly if something is stored for the up
    arrow. -/
theorem gesturesRestored_iff (phone : Phone) :
    GesturesRestored phone phone.restoreAfterUserSwitch ↔
      (phone.mappings .UP_ARROW).getD "" ≠ "" := by
  have hrestored := restoredBy_restoreAfterUserSwitch phone
  constructor
  · intro hall hempty
    have hkept := hrestored.mappings .UP_ARROW
    rw [if_pos (mem_gestures _), hall.mappings] at hkept
    -- the default should be stored, and what was stored is kept
    have htorch : some TORCH_ENTRY = phone.mappings .UP_ARROW := by
      simpa [Gesture.entry, Gesture.storedEntry, restoredMapping_of_eq _ hempty] using hkept
    rw [← htorch] at hempty
    exact absurd hempty (by decide)
  · intro hstored
    have hmappings (gesture : Gesture) : phone.restoreAfterUserSwitch.mappings gesture =
        restoredMapping gesture.entry (phone.mappings gesture) := by
      rw [hrestored.mappings, if_pos (mem_gestures gesture), restoredMapping_storedEntry _ hstored]
    refine ⟨hmappings, fun gesture => ?_⟩
    rw [hrestored.nodes, hmappings, restoredMapping_storedEntry _ hstored]
    simp [mem_gestures]

/-- On a phone on which nothing is stored, the up arrow gets no default and stays off. -/
theorem upArrow_unrestored : ¬ ∀ phone : Phone, GesturesRestored phone phone.restoreAfterUserSwitch := by
  intro hall
  have hnode := (hall plainPhone).nodes .UP_ARROW
  rw [(hall plainPhone).mappings] at hnode
  exact absurd hnode (by decide)

end device_parts
