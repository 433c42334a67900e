import OnePlus7Pro.Slider.TriStateKey

namespace device_parts

/-- The key handler and the stored mapping carry out what the user has asked for. The status bar
    has been told so too, unless a call of it is still to be made. -/
structure SliderPhone.Serves (wanted : Wanted) (phone : SliderPhone) : Prop where
  actions : Stands phone.stored wanted.actions
  near : phone.handler.mProxyIsNear = wanted.near
  check : phone.handler.mUseProxiCheck = wanted.check
  zenMode : phone.slider.zenMode = wanted.modes.zenMode
  ringerMode : phone.slider.ringerMode = wanted.modes.ringerMode
  torch : phone.slider.mTorchState = wanted.modes.torch
  told : phone.slider.mToggleTorch = false → told phone.slider.cameraFlash = phone.slider.mTorchState

variable {phone : SliderPhone} {wanted : Wanted} {handler : ObservingKeyHandler} {zenMode : ZenMode}
  {ringerMode : RingerMode}

@[simp] theorem told_concat (cameraFlash : List (Option Bool)) (call : Option Bool) :
    told (cameraFlash ++ [call]) = call.getD (told cameraFlash) := by
  cases call <;> simp [told]

namespace Slider

/-- A call of the status bar changes what is known of the calls alone. -/
theorem toggleTorch_keeps (self : Slider) (reached : Bool) :
    (self.toggleTorch reached).zenMode = self.zenMode ∧
      (self.toggleTorch reached).ringerMode = self.ringerMode ∧
      (self.toggleTorch reached).mTorchState = self.mTorchState := by
  rw [toggleTorch]
  split_ifs <;> exact ⟨rfl, rfl, rfl⟩

/-- A status bar that is reached has been told. -/
theorem toggleTorch_told {self : Slider} (htold : self.mToggleTorch = false →
    told self.cameraFlash = self.mTorchState) (reached : Bool) :
    (self.toggleTorch reached).mToggleTorch = false →
      told (self.toggleTorch reached).cameraFlash = (self.toggleTorch reached).mTorchState := by
  rw [toggleTorch]
  split_ifs with hreached hstate
  · intro
    simp
  · simpa using htold
  · exact htold

theorem toggleTorch_reached (self : Slider) : (self.toggleTorch true).mToggleTorch = false := by
  rw [toggleTorch, if_pos rfl]
  split
  · rfl
  next hstate => simpa using hstate

end Slider

/-- What an action does to the torch. -/
def setTorch (handler : ObservingKeyHandler) (slider : Slider) (torch reached : Bool) : Slider :=
  if torch then
    if handler.mProxyIsNear && handler.mUseProxiCheck then slider
    else { slider with mToggleTorch := true, mTorchState := true }.toggleTorch reached
  else slider.disableTorch reached

/-- Every action sets its modes and then the torch. -/
theorem doHandleSliderAction_eq (handler : ObservingKeyHandler) (slider : Slider) (action : Int) (reached : Bool) :
    handler.doHandleSliderAction slider action reached =
      match actionModes action with
      | none => slider
      | some modes => setTorch handler
          { slider with zenMode := modes.zenMode, ringerMode := modes.ringerMode } modes.torch reached := by
  rw [ObservingKeyHandler.doHandleSliderAction, actionModes]
  split_ifs <;> simp [setTorch, *]

/-- An event moves the slider to the one position that its state names. -/
theorem onUEvent_eq (handler : ObservingKeyHandler) (stored : Option String) (slider : Slider)
    (STATE : Option String) (reached : Bool) : handler.onUEvent stored slider STATE reached =
      match STATE.bind sliderPosition with
      | none => slider
      | some position =>
        handler.doHandleSliderAction slider (KeyHandler.getSliderAction stored position).toInt reached := by
  cases STATE with
  | none => rfl
  | some state =>
    rw [ObservingKeyHandler.onUEvent, Option.bind_some, sliderPosition]
    cases contains state "USB=0" <;> cases contains state "(null)=0" <;>
      cases contains state "USB-HOST=0" <;> rfl

/-- Whatever is to be told, the torch is set unless something near keeps it as it is. -/
theorem setTorch_spec (handler : ObservingKeyHandler) (slider : Slider) (htold : slider.mToggleTorch = false →
    told slider.cameraFlash = slider.mTorchState) (torch reached : Bool) :
    (setTorch handler slider torch reached).zenMode = slider.zenMode ∧
      (setTorch handler slider torch reached).ringerMode = slider.ringerMode ∧
      (setTorch handler slider torch reached).mTorchState =
        (if torch && handler.mProxyIsNear && handler.mUseProxiCheck then slider.mTorchState else torch) ∧
      ((setTorch handler slider torch reached).mToggleTorch = false →
        told (setTorch handler slider torch reached).cameraFlash =
          (setTorch handler slider torch reached).mTorchState) := by
  cases torch with
  | true =>
    simp only [setTorch, if_true, Bool.true_and]
    split
    · exact ⟨rfl, rfl, rfl, htold⟩
    · obtain ⟨hzen, hringer, htorch⟩ := Slider.toggleTorch_keeps
        { slider with mToggleTorch := true, mTorchState := true } reached
      exact ⟨hzen, hringer, htorch, Slider.toggleTorch_told (by simp) reached⟩
  | false =>
    simp only [setTorch, Slider.disableTorch, Bool.false_and, Bool.false_eq_true, if_false]
    split
    · obtain ⟨hzen, hringer, htorch⟩ := Slider.toggleTorch_keeps
        { slider with mToggleTorch := true, mTorchState := false } reached
      exact ⟨hzen, hringer, htorch, Slider.toggleTorch_told (by simp) reached⟩
    next hoff => exact ⟨rfl, rfl, by simpa using hoff, htold⟩

theorem SliderPhone.Serves.move (hserves : phone.Serves wanted) (position : Fin 3) (reached : Bool) :
    SliderPhone.Serves (wanted.move position) { phone with
      slider := phone.handler.doHandleSliderAction phone.slider
        (KeyHandler.getSliderAction phone.stored position).toInt reached } := by
  have haction : KeyHandler.getSliderAction phone.stored position = wanted.actions position :=
    hserves.actions.getSliderAction position
  rw [doHandleSliderAction_eq, haction, Wanted.move]
  cases actionModes (wanted.actions position).toInt with
  | none => exact hserves
  | some modes =>
    obtain ⟨hzen, hringer, htorch, htold⟩ := setTorch_spec phone.handler
      { phone.slider with zenMode := modes.zenMode, ringerMode := modes.ringerMode }
      hserves.told modes.torch reached
    exact {
      actions := hserves.actions
      near := hserves.near
      check := hserves.check
      zenMode := hzen
      ringerMode := hringer
      torch := by
        rw [htorch, hserves.near, hserves.check]
        change (if modes.torch && wanted.near && wanted.check then phone.slider.mTorchState else _) = _
        rw [hserves.torch]
      told := htold }

theorem SliderPhone.Serves.step (hserves : phone.Serves wanted) (event : SliderEvent) :
    (phone.step event).Serves (wanted.step event) := by
  cases event with
  | setSliderAction call => exact { hserves with actions := hserves.actions.setSliderAction call }
  | onUEvent STATE reached =>
    rw [SliderPhone.step, Wanted.step, onUEvent_eq]
    cases STATE.bind sliderPosition with
    | none => exact hserves
    | some position => exact hserves.move position reached
  | proximitySensor near => exact { hserves with near := rfl }
  | update useProxiCheck => exact { hserves with check := rfl }
  | gesture reached =>
    obtain ⟨hzen, hringer, htorch⟩ := phone.slider.toggleTorch_keeps reached
    exact {
      actions := hserves.actions
      near := hserves.near
      check := hserves.check
      zenMode := hzen.trans hserves.zenMode
      ringerMode := hringer.trans hserves.ringerMode
      torch := htorch.trans hserves.torch
      told := Slider.toggleTorch_told hserves.told reached }

theorem serves_start (handler : ObservingKeyHandler) (zenMode : ZenMode) (ringerMode : RingerMode) :
    (SliderPhone.start handler zenMode ringerMode).Serves (.start handler zenMode ringerMode) where
  actions := stands_default
  near := rfl
  check := rfl
  zenMode := rfl
  ringerMode := rfl
  torch := rfl
  told := fun _ => rfl

/-- Whatever is chosen, moved, sensed and toggled in any order, and whether or not the status bar
    can be reached, the key handler carries out what was asked for. -/
theorem slider_serves (handler : ObservingKeyHandler) (zenMode : ZenMode) (ringerMode : RingerMode)
    (events : List SliderEvent) : (events.foldl SliderPhone.step (.start handler zenMode ringerMode)).Serves
      (events.foldl Wanted.step (.start handler zenMode ringerMode)) := by
  induction events using List.reverseRecOn with
  | nil => exact serves_start handler zenMode ringerMode
  | append_singleton events event ih =>
    rw [List.foldl_append, List.foldl_append]
    exact ih.step event

/-- The status bar can be reached at the event. -/
def SliderEvent.Reached : SliderEvent → Prop
  | .onUEvent _ reached | .gesture reached => reached = true
  | .setSliderAction _ | .proximitySensor _ | .update _ => True

theorem setTorch_reached (handler : ObservingKeyHandler) (slider : Slider) (hnone : slider.mToggleTorch = false)
    (torch : Bool) : (setTorch handler slider torch true).mToggleTorch = false := by
  cases torch with
  | true =>
    simp only [setTorch, if_true]
    split
    · exact hnone
    · exact Slider.toggleTorch_reached _
  | false =>
    simp only [setTorch, Slider.disableTorch, Bool.false_eq_true, if_false]
    split
    · exact Slider.toggleTorch_reached _
    · exact hnone

theorem step_reached (hnone : phone.slider.mToggleTorch = false) {event : SliderEvent}
    (hreached : event.Reached) : (phone.step event).slider.mToggleTorch = false := by
  cases event with
  | onUEvent STATE reached =>
    obtain rfl : reached = true := hreached
    rw [SliderPhone.step, onUEvent_eq]
    cases STATE.bind sliderPosition with
    | none => exact hnone
    | some position =>
      simp only [doHandleSliderAction_eq]
      split
      · exact hnone
      next modes _ =>
        exact setTorch_reached phone.handler
          { phone.slider with zenMode := modes.zenMode, ringerMode := modes.ringerMode } hnone modes.torch
  | gesture reached =>
    obtain rfl : reached = true := hreached
    exact Slider.toggleTorch_reached _
  | setSliderAction call => exact hnone
  | proximitySensor near => exact hnone
  | update useProxiCheck => exact hnone

/-- A status bar that can be reached has always been told the state of the torch that was asked
    for. -/
theorem told_of_reached {events : List SliderEvent} (hreached : ∀ event ∈ events, event.Reached) :
    told (events.foldl SliderPhone.step (.start handler zenMode ringerMode)).slider.cameraFlash =
      (events.foldl Wanted.step (.start handler zenMode ringerMode)).modes.torch := by
  have hnone : (events.foldl SliderPhone.step (.start handler zenMode ringerMode)).slider.mToggleTorch =
      false := by
    induction events using List.reverseRecOn with
    | nil => rfl
    | append_singleton events event ih =>
      rw [List.forall_mem_append] at hreached
      rw [List.foldl_append]
      exact step_reached (ih hreached.1) (hreached.2 event (List.mem_singleton_self _))
  have hserves := slider_serves handler zenMode ringerMode events
  exact (hserves.told hnone).trans hserves.torch

/-- The torch is chosen for the top position, switched on there and left again. -/
def flashOnTop : SliderCall where
  position := ⟨0, Nat.succ_pos 2⟩
  action := 4#32

def torchUsed : List SliderEvent :=
  [.setSliderAction flashOnTop, .onUEvent (some "(null)=0") true, .onUEvent (some "USB=0") true]

def plainHandler : ObservingKeyHandler := .blank (plainBoard true)

theorem told_of_reached_torchUsed :
    told (torchUsed.foldl SliderPhone.step
        (.start plainHandler .ZEN_MODE_OFF .RINGER_MODE_NORMAL)).slider.cameraFlash =
      (torchUsed.foldl Wanted.step (.start plainHandler .ZEN_MODE_OFF .RINGER_MODE_NORMAL)).modes.torch :=
  told_of_reached (by simp [torchUsed, SliderEvent.Reached])

theorem setTorch_off (handler : ObservingKeyHandler) (slider : Slider) (hoff : slider.mTorchState = false)
    {torch reached : Bool} (hstay : (setTorch handler slider torch reached).mTorchState = false) :
    (setTorch handler slider torch reached).cameraFlash = slider.cameraFlash := by
  cases torch with
  | true =>
    simp only [setTorch, if_true] at hstay ⊢
    split at hstay
    next hblocked => rw [if_pos hblocked]
    · obtain ⟨-, -, htorch⟩ := Slider.toggleTorch_keeps
        { slider with mToggleTorch := true, mTorchState := true } reached
      exact absurd (htorch.symm.trans hstay) (by simp)
  | false => simp [setTorch, Slider.disableTorch, hoff]

/-- A move that leaves the torch off calls nobody. -/
theorem step_off (hoff : phone.slider.mTorchState = false) {event : SliderEvent}
    (hslider : ∀ reached, event ≠ .gesture reached) (hstay : (phone.step event).slider.mTorchState = false) :
    (phone.step event).slider.cameraFlash = phone.slider.cameraFlash := by
  cases event with
  | onUEvent STATE reached =>
    rw [SliderPhone.step, onUEvent_eq] at hstay ⊢
    cases hposition : STATE.bind sliderPosition with
    | none => rfl
    | some position =>
      simp only [hposition, doHandleSliderAction_eq] at hstay ⊢
      cases hmodes : actionModes (KeyHandler.getSliderAction phone.stored position).toInt with
      | none => rfl
      | some modes =>
        simp only [hmodes] at hstay ⊢
        exact setTorch_off phone.handler
          { phone.slider with zenMode := modes.zenMode, ringerMode := modes.ringerMode } hoff hstay
  | gesture reached => exact absurd rfl (hslider reached)
  | setSliderAction call => rfl
  | proximitySensor near => rfl
  | update useProxiCheck => rfl

/-- While the torch is not asked for, the moves of the slider do not call the status bar: an off
    that did not reach it is not repeated, also when it can be reached again. -/
theorem off_not_repeated {start events : List SliderEvent}
    (hslider : ∀ event ∈ events, ∀ reached, event ≠ .gesture reached)
    (hoff : ∀ past, past <+: events →
      ((start ++ past).foldl Wanted.step (.start handler zenMode ringerMode)).modes.torch = false) :
    ((start ++ events).foldl SliderPhone.step (.start handler zenMode ringerMode)).slider.cameraFlash =
      (start.foldl SliderPhone.step (.start handler zenMode ringerMode)).slider.cameraFlash := by
  induction events using List.reverseRecOn with
  | nil => rw [List.append_nil]
  | append_singleton events event ih =>
    rw [List.forall_mem_append] at hslider
    have hbefore := hoff events (List.prefix_append _ _)
    have hafter := hoff (events ++ [event]) (List.prefix_refl _)
    rw [← (slider_serves handler zenMode ringerMode _).torch] at hbefore hafter
    rw [← List.append_assoc, List.foldl_append] at hafter ⊢
    rw [List.foldl_cons, List.foldl_nil] at hafter ⊢
    rw [step_off hbefore (hslider.2 event (List.mem_singleton_self _)) hafter]
    exact ih hslider.1 fun past hpast => hoff past (hpast.trans (List.prefix_append _ _))

/-- The slider leaves the torch while there is no status bar, and moves on when there is one. -/
def torchLeft : List SliderEvent :=
  [.setSliderAction flashOnTop, .onUEvent (some "(null)=0") true, .onUEvent (some "USB=0") false]

def movedOn : List SliderEvent := [.onUEvent (some "USB-HOST=0") true, .onUEvent (some "USB=0") true]

theorem off_not_repeated_torchLeft :
    ((torchLeft ++ movedOn).foldl SliderPhone.step
        (.start plainHandler .ZEN_MODE_OFF .RINGER_MODE_NORMAL)).slider.cameraFlash =
      (torchLeft.foldl SliderPhone.step
        (.start plainHandler .ZEN_MODE_OFF .RINGER_MODE_NORMAL)).slider.cameraFlash := by
  refine off_not_repeated (by simp [movedOn]) fun past hpast => ?_
  have hpasts : ∀ past ∈ movedOn.inits, ((torchLeft ++ past).foldl Wanted.step
      (.start plainHandler .ZEN_MODE_OFF .RINGER_MODE_NORMAL)).modes.torch = false := by
    decide +kernel
  exact hpasts past ((List.mem_inits past movedOn).mpr hpast)

end device_parts
