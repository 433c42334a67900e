import OnePlus7Pro.Effects.Moments
import OnePlus7Pro.Fod.FingerprintInscreen
import Mathlib.Data.List.Induction

open effects

namespace fod

def FINGERPRINT_ACQUIRED_VENDOR : Int := 6
def FINGERPRINT_ERROR_VENDOR : Int := 8

def OP_ENABLE_FP_LONGPRESS : Int := 3
def OP_DISABLE_FP_LONGPRESS : Int := 4
def OP_RESUME_FP_ENROLL : Int := 8
def OP_FINISH_FP_ENROLL : Int := 10

inductive FingerEvent where
  | onFingerDown
  | onFingerUp
  deriving DecidableEq

/-- The service with the callback it was given last, what it has told the fingerprint
    extension, and what it has told the callbacks. -/
structure FingerprintService extends FingerprintInscreen where
  mIsEnrolling : Bool
  mCallback : Option Nat
  statuses : List Int
  fingers : List (Nat × FingerEvent)

namespace FingerprintService

def init (nodes : Nodes) : FingerprintService where
  toFingerprintInscreen := .init nodes
  mIsEnrolling := false
  mCallback := none
  statuses := []
  fingers := []

def updateStatus (self : FingerprintService) (status : Int) : FingerprintService :=
  { self with statuses := self.statuses ++ [status] }

def onStartEnroll (self : FingerprintService) : FingerprintService :=
  { self with mIsEnrolling := true }.updateStatus OP_RESUME_FP_ENROLL

def onFinishEnroll (self : FingerprintService) : FingerprintService :=
  { self with mIsEnrolling := false }.updateStatus OP_FINISH_FP_ENROLL

def setMode (self : FingerprintService) (mode value : Int) : FingerprintService :=
  { self with toFingerprintInscreen := self.toFingerprintInscreen.setMode mode value }

def onPress (self : FingerprintService) : FingerprintService :=
  let self := if self.mIsEnrolling then self.setMode OP_DISPLAY_SET_DIM 8 else self
  self.setMode OP_DISPLAY_NOTIFY_PRESS 1

def onRelease (self : FingerprintService) : FingerprintService :=
  (self.setMode OP_DISPLAY_NOTIFY_PRESS 0).setMode OP_DISPLAY_SET_DIM 5

/-- The answer with the service. A callback that fails is logged, and answered as one that
    does not. -/
def handleAcquired (self : FingerprintService) (acquiredInfo vendorCode : Int) :
    Bool × FingerprintService :=
  match self.mCallback with
  | none => (false, self)
  | some callback =>
    if acquiredInfo = FINGERPRINT_ACQUIRED_VENDOR then
      if self.mFodCircleVisible && vendorCode = 0 then
        (true, { self with fingers := self.fingers ++ [(callback, .onFingerDown)] })
      else if self.mFodCircleVisible && vendorCode = 1 then
        (true, { self with fingers := self.fingers ++ [(callback, .onFingerUp)] })
      else (false, self)
    else (false, self)

def setLongPressEnabled (self : FingerprintService) (enabled : Bool) : FingerprintService :=
  self.updateStatus (if enabled then OP_ENABLE_FP_LONGPRESS else OP_DISABLE_FP_LONGPRESS)

end FingerprintService

def handleError (error vendorCode : Int) : Bool :=
  if error = FINGERPRINT_ERROR_VENDOR then vendorCode = 6 else false

inductive Request where
  | onStartEnroll
  | onFinishEnroll
  | onPress
  | onRelease
  | view (call : Call)
  | handleAcquired (acquiredInfo vendorCode : Int)
  | handleError (error vendorCode : Int)
  | setLongPressEnabled (enabled : Bool)
  | setCallback (callback : Option Nat)
  deriving DecidableEq

/-- The service after a request. The pool has one thread, so requests come one after the other. -/
def FingerprintService.serve (self : FingerprintService) : Request → FingerprintService
  | .onStartEnroll => self.onStartEnroll
  | .onFinishEnroll => self.onFinishEnroll
  | .onPress => self.onPress
  | .onRelease => self.onRelease
  | .view call => { self with toFingerprintInscreen := self.toFingerprintInscreen.call call }
  | .handleAcquired acquiredInfo vendorCode => (self.handleAcquired acquiredInfo vendorCode).2
  | .handleError _ _ => self
  | .setLongPressEnabled enabled => self.setLongPressEnabled enabled
  | .setCallback callback => { self with mCallback := callback }

/-- The value that each mode of the display was given last. -/
abbrev Panel := Int → Int

def Panel.apply (panel : Panel) (call : Int × Int) : Panel := Function.update panel call.1 call.2

/-- The colour modes of the display. -/
def colours : List Int := [16, 17, 18, 20, 21]

/-- At most one of the colour modes is on. -/
def Panel.Exclusive (panel : Panel) : Prop :=
  ∀ mode ∈ colours, ∀ other ∈ colours, panel mode ≠ 0 → panel other ≠ 0 → mode = other

/-- What the requests have made of the display: the last change of the view, and the values of
    the press and of the dimming where one has been given. -/
structure Display where
  view : Option Call
  enrolling : Bool
  press : Option Int
  dim : Option Int

def Display.init : Display := ⟨none, false, none, none⟩

def Display.step (display : Display) : Request → Display
  | .onStartEnroll => { display with enrolling := true }
  | .onFinishEnroll => { display with enrolling := false }
  | .onPress => { display with press := some 1, dim := if display.enrolling then some 8 else display.dim }
  | .onRelease => { display with press := some 0, dim := some 5 }
  | .view .onShowFODView => { display with view := some .onShowFODView }
  | .view .onHideFODView => { display with view := some .onHideFODView, press := some 0, dim := some 0 }
  | .handleAcquired _ _ | .handleError _ _ | .setLongPressEnabled _ | .setCallback _ => display

/-- The modes of a panel behind the display: 17 under the fingerprint view, 16 and 19 without. -/
def Display.panel (display : Display) (start : Panel) : Panel := fun mode =>
  if mode = OP_DISPLAY_NOTIFY_PRESS then display.press.getD (start mode)
  else if mode = OP_DISPLAY_SET_DIM then display.dim.getD (start mode)
  else if mode ∈ 19 :: colours then
    match display.view with
    | none => start mode
    | some .onShowFODView => if mode = 17 then 1 else 0
    | some .onHideFODView => if mode = 16 ∨ mode = 19 then 1 else 0
  else start mode

/-- The modes that the service gives a panel. -/
def FingerprintService.panel (self : FingerprintService) (start : Panel) : Panel :=
  self.modes.foldl Panel.apply start

/-- The calls of `setMode` that a request makes. -/
def Request.modes (enrolling : Bool) : Request → List (Int × Int)
  | .onPress =>
    (if enrolling then [(OP_DISPLAY_SET_DIM, 8)] else []) ++ [(OP_DISPLAY_NOTIFY_PRESS, 1)]
  | .onRelease => [(OP_DISPLAY_NOTIFY_PRESS, 0), (OP_DISPLAY_SET_DIM, 5)]
  | .view .onShowFODView => [(16, 0), (17, 0), (18, 0), (20, 0), (21, 0), (17, 1), (19, 0)]
  | .view .onHideFODView => [(16, 0), (17, 0), (18, 0), (20, 0), (21, 0), (16, 1), (19, 1),
      (OP_DISPLAY_SET_DIM, 0), (OP_DISPLAY_NOTIFY_PRESS, 0)]
  | .onStartEnroll | .onFinishEnroll | .handleAcquired _ _ | .handleError _ _ | .setLongPressEnabled _
  | .setCallback _ => []

variable {self : FingerprintService} {panel start : Panel}

theorem modes_serve (self : FingerprintService) (request : Request) :
    (self.serve request).modes = self.modes ++ request.modes self.mIsEnrolling := by
  cases request with
  | onPress =>
    cases henrolling : self.mIsEnrolling <;>
      simp [FingerprintService.serve, FingerprintService.onPress, FingerprintService.setMode,
        FingerprintInscreen.setMode, Request.modes, henrolling]
  | onRelease =>
    simp [FingerprintService.serve, FingerprintService.onRelease, FingerprintService.setMode,
      FingerprintInscreen.setMode, Request.modes]
  | view call =>
    cases call <;> simp [FingerprintService.serve, FingerprintInscreen.call, onShowFODView, onHideFODView,
      FingerprintInscreen.setMode, FingerprintInscreen.set, Request.modes]
  | handleAcquired acquiredInfo vendorCode =>
    simp only [FingerprintService.serve, FingerprintService.handleAcquired, Request.modes, List.append_nil]
    split
    · rfl
    · split_ifs <;> rfl
  | onStartEnroll | onFinishEnroll | handleError | setLongPressEnabled | setCallback =>
    simp [FingerprintService.serve, FingerprintService.onStartEnroll, FingerprintService.onFinishEnroll,
      FingerprintService.setLongPressEnabled, FingerprintService.updateStatus, Request.modes]

theorem mIsEnrolling_serve (self : FingerprintService) (display : Display)
    (henrolling : self.mIsEnrolling = display.enrolling) (request : Request) :
    (self.serve request).mIsEnrolling = (display.step request).enrolling := by
  cases request with
  | handleAcquired acquiredInfo vendorCode =>
    simp only [FingerprintService.serve, FingerprintService.handleAcquired, Display.step]
    split
    · exact henrolling
    · split_ifs <;> exact henrolling
  | onPress =>
    rw [FingerprintService.serve, FingerprintService.onPress]
    split <;> exact henrolling
  | view call => cases call <;> exact henrolling
  | onStartEnroll | onFinishEnroll => rfl
  | onRelease | handleError | setLongPressEnabled | setCallback => exact henrolling

/-- The calls of a request make of the panel what the request makes of the display. -/
theorem panel_step (display : Display) (start : Panel) (request : Request) :
    (request.modes display.enrolling).foldl Panel.apply (display.panel start) =
      (display.step request).panel start := by
  funext mode
  cases request with
  | onPress =>
    cases henrolling : display.enrolling <;>
      simp only [Request.modes, Panel.apply, Function.update_apply, Display.step, Display.panel, henrolling,
        OP_DISPLAY_NOTIFY_PRESS, OP_DISPLAY_SET_DIM, List.cons_append, List.nil_append, List.foldl_cons,
        List.foldl_nil, Bool.false_eq_true, if_true, if_false] <;> grind
  | onRelease =>
    simp only [Request.modes, Panel.apply, Function.update_apply, Display.step, Display.panel,
      OP_DISPLAY_NOTIFY_PRESS, OP_DISPLAY_SET_DIM, List.foldl_cons, List.foldl_nil]
    grind
  | view call =>
    cases call <;>
      simp only [Request.modes, Panel.apply, Function.update_apply, Display.step, Display.panel, colours,
        OP_DISPLAY_NOTIFY_PRESS, OP_DISPLAY_SET_DIM, List.foldl_cons, List.foldl_nil] <;> grind
  | onStartEnroll | onFinishEnroll | handleAcquired | handleError | setLongPressEnabled | setCallback => rfl

theorem exclusive_of_dark (mode : Int) (hdark : ∀ other ∈ colours, other ≠ mode → panel other = 0) :
    panel.Exclusive := by
  intro first hfirst second hsecond honFirst honSecond
  have heq : ∀ other ∈ colours, panel other ≠ 0 → other = mode := by
    intro other hother hon
    by_contra hne
    exact hon (hdark other hother hne)
  rw [heq first hfirst honFirst, heq second hsecond honSecond]

/-- A call that turns no colour on leaves at most one on. -/
theorem Panel.Exclusive.apply {call : Int × Int} (hexclusive : panel.Exclusive)
    (hcall : call.2 = 0 ∨ call.1 ∉ colours) : (panel.apply call).Exclusive := by
  have hon : ∀ mode ∈ colours, panel.apply call mode ≠ 0 → panel mode ≠ 0 := by
    intro mode hmode
    rw [Panel.apply, Function.update_apply]
    split
    next hsame =>
      intro hvalue
      obtain hzero | hother := hcall
      · exact absurd hzero hvalue
      · exact absurd (hsame ▸ hmode) hother
    · exact id
  exact fun first hfirst second hsecond honFirst honSecond =>
    hexclusive first hfirst second hsecond (hon first hfirst honFirst) (hon second hsecond honSecond)

theorem Panel.Exclusive.moments {calls : List (Int × Int)} (hexclusive : panel.Exclusive)
    (hcalls : ∀ call ∈ calls, call.2 = 0 ∨ call.1 ∉ colours) :
    ∀ moment ∈ effects.moments Panel.apply panel calls, moment.Exclusive := by
  induction calls generalizing panel with
  | nil => simpa using hexclusive
  | cons call calls ih =>
    rw [List.forall_mem_cons] at hcalls
    rw [moments_cons, List.forall_mem_cons]
    exact ⟨hexclusive, ih (hexclusive.apply hcalls.1) hcalls.2⟩

def coloursOff : List (Int × Int) := [(16, 0), (17, 0), (18, 0), (20, 0), (21, 0)]

theorem coloursOff_dark (panel : Panel) : ∀ mode ∈ colours, coloursOff.foldl Panel.apply panel mode = 0 := by
  simp [colours, coloursOff, Panel.apply, Function.update_apply]

/-- One colour is turned on once all are off. -/
theorem exclusive_switch (hexclusive : panel.Exclusive) (mode value : Int) {calls : List (Int × Int)}
    (hcalls : ∀ call ∈ calls, call.2 = 0 ∨ call.1 ∉ colours) :
    ∀ moment ∈ moments Panel.apply panel (coloursOff ++ (mode, value) :: calls), moment.Exclusive := by
  intro moment hmoment
  rw [mem_moments_append, moments_cons, List.mem_cons] at hmoment
  have hoff : ∀ moment ∈ moments Panel.apply panel coloursOff, moment.Exclusive :=
    hexclusive.moments (by simp [coloursOff])
  obtain hmoment | rfl | hmoment := hmoment
  · exact hoff moment hmoment
  · exact hoff _ ((mem_moments_iff _ _ _ _).mpr ⟨coloursOff, List.prefix_refl _, rfl⟩)
  · refine Panel.Exclusive.moments (exclusive_of_dark mode fun other hother hne => ?_) hcalls moment hmoment
    rw [Panel.apply, Function.update_of_ne hne]
    exact coloursOff_dark panel other hother

theorem exclusive_modes (hexclusive : panel.Exclusive) (enrolling : Bool) (request : Request) :
    ∀ moment ∈ moments Panel.apply panel (request.modes enrolling), moment.Exclusive := by
  cases request with
  | view call =>
    cases call with
    | onShowFODView => exact exclusive_switch hexclusive 17 1 (by simp [colours])
    | onHideFODView => exact exclusive_switch hexclusive 16 1 (by
        simp [colours, OP_DISPLAY_SET_DIM, OP_DISPLAY_NOTIFY_PRESS])
  | onPress =>
    refine hexclusive.moments ?_
    cases enrolling <;> simp [Request.modes, OP_DISPLAY_SET_DIM, OP_DISPLAY_NOTIFY_PRESS, colours]
  | onRelease =>
    exact hexclusive.moments (by simp [Request.modes, OP_DISPLAY_SET_DIM, OP_DISPLAY_NOTIFY_PRESS, colours])
  | onStartEnroll | onFinishEnroll | handleAcquired | handleError | setLongPressEnabled | setCallback =>
    exact hexclusive.moments (by simp [Request.modes])

/-- The last change of the view. -/
def lastView (past : List Request) : Option Call :=
  (past.filterMap fun request => match request with
    | .view call => some call
    | _ => none).getLast?

/-- The callback that was set last, `none` also where that is no callback. -/
def lastCallback (past : List Request) : Option Nat :=
  ((past.filterMap fun request => match request with
    | .setCallback callback => some callback
    | _ => none).getLast?).join

def fingerEvent (vendorCode : Int) : Option FingerEvent :=
  if vendorCode = 0 then some .onFingerDown else if vendorCode = 1 then some .onFingerUp else none

/-- Who is told of what, after what came before: the callback set last, of a finger under a view
    that is shown. -/
def toldOf (past : List Request) : Request → Option (Nat × FingerEvent)
  | .handleAcquired acquiredInfo vendorCode =>
    if acquiredInfo = FINGERPRINT_ACQUIRED_VENDOR ∧ lastView past = some .onShowFODView then
      (lastCallback past).bind fun callback => (fingerEvent vendorCode).map fun event => (callback, event)
    else none
  | _ => none

/-- All that the callbacks are told in a run that follows another. -/
def toldAll (past : List Request) : List Request → List (Nat × FingerEvent)
  | [] => []
  | request :: requests => (toldOf past request).toList ++ toldAll (past ++ [request]) requests

theorem toldAll_append (past requests later : List Request) :
    toldAll past (requests ++ later) = toldAll past requests ++ toldAll (past ++ requests) later := by
  induction requests generalizing past with
  | nil => simp [toldAll]
  | cons request requests ih => simp [toldAll, ih]

/-- After a run of requests the panel has the modes of the display, and at no moment of it,
    within a request or between two, was more than one colour on. The callbacks have
    been told what they were to be told. -/
structure FingerprintService.Serves (start : Panel) (past : List Request) (service : FingerprintService) :
    Prop where
  enrolling : service.mIsEnrolling = (past.foldl Display.step .init).enrolling
  visible : service.mFodCircleVisible = decide (lastView past = some .onShowFODView)
  callback : service.mCallback = lastCallback past
  panel : service.panel start = (past.foldl Display.step .init).panel start
  exclusive : ∀ moment ∈ moments Panel.apply start service.modes, moment.Exclusive
  fingers : service.fingers = toldAll [] past
  acquired : ∀ acquiredInfo vendorCode, (service.handleAcquired acquiredInfo vendorCode).1 =
    (toldOf past (.handleAcquired acquiredInfo vendorCode)).isSome

theorem handleAcquired_eq (self : FingerprintService) (past : List Request)
    (hvisible : self.mFodCircleVisible = decide (lastView past = some .onShowFODView))
    (hcallback : self.mCallback = lastCallback past) (acquiredInfo vendorCode : Int) :
    self.handleAcquired acquiredInfo vendorCode =
      ((toldOf past (.handleAcquired acquiredInfo vendorCode)).isSome,
        { self with
          fingers := self.fingers ++ (toldOf past (.handleAcquired acquiredInfo vendorCode)).toList }) := by
  obtain ⟨view, enrolling, mCallback, statuses, fingers⟩ := self
  simp only at hvisible hcallback
  rw [FingerprintService.handleAcquired, toldOf, ← hcallback]
  simp only [hvisible]
  cases mCallback with
  | none => simp
  | some callback =>
    by_cases hvendor : acquiredInfo = FINGERPRINT_ACQUIRED_VENDOR
    · by_cases hview : lastView past = some .onShowFODView
      · by_cases hdown : vendorCode = 0
        · simp [hvendor, hview, hdown, fingerEvent]
        · by_cases hup : vendorCode = 1 <;> simp [hvendor, hview, hdown, hup, fingerEvent]
      · simp [hvendor, hview]
    · simp [hvendor]

@[simp] theorem lastView_concat (past : List Request) (request : Request) :
    lastView (past ++ [request]) =
      match request with
      | .view call => some call
      | _ => lastView past := by
  cases request <;> simp [lastView, List.filterMap_append]

@[simp] theorem lastCallback_concat (past : List Request) (request : Request) :
    lastCallback (past ++ [request]) =
      match request with
      | .setCallback callback => callback
      | _ => lastCallback past := by
  cases request <;> simp [lastCallback, List.filterMap_append]

variable {past : List Request} {service : FingerprintService}

theorem mFodCircleVisible_serve (hvisible : service.mFodCircleVisible = decide (lastView past = some .onShowFODView))
    (request : Request) : (service.serve request).mFodCircleVisible =
      decide (lastView (past ++ [request]) = some .onShowFODView) := by
  rw [lastView_concat]
  cases request with
  | view call => cases call <;> rfl
  | onPress =>
    rw [FingerprintService.serve, FingerprintService.onPress]
    split <;> exact hvisible
  | handleAcquired acquiredInfo vendorCode =>
    simp only [FingerprintService.serve, FingerprintService.handleAcquired]
    split
    · exact hvisible
    · split_ifs <;> exact hvisible
  | onStartEnroll | onFinishEnroll | onRelease | handleError | setLongPressEnabled | setCallback =>
    exact hvisible

theorem mCallback_serve (hcallback : service.mCallback = lastCallback past) (request : Request) :
    (service.serve request).mCallback = lastCallback (past ++ [request]) := by
  rw [lastCallback_concat]
  cases request with
  | setCallback callback => rfl
  | onPress =>
    rw [FingerprintService.serve, FingerprintService.onPress]
    split <;> exact hcallback
  | handleAcquired acquiredInfo vendorCode =>
    simp only [FingerprintService.serve, FingerprintService.handleAcquired]
    split
    · exact hcallback
    · split_ifs <;> exact hcallback
  | onStartEnroll | onFinishEnroll | onRelease | view | handleError | setLongPressEnabled => exact hcallback

theorem fingers_serve (hvisible : service.mFodCircleVisible = decide (lastView past = some .onShowFODView))
    (hcallback : service.mCallback = lastCallback past) (request : Request) :
    (service.serve request).fingers = service.fingers ++ (toldOf past request).toList := by
  cases request with
  | handleAcquired acquiredInfo vendorCode =>
    rw [FingerprintService.serve, handleAcquired_eq service past hvisible hcallback]
  | onPress =>
    rw [FingerprintService.serve, FingerprintService.onPress]
    split <;> exact (List.append_nil _).symm
  | onStartEnroll | onFinishEnroll | onRelease | view | handleError | setLongPressEnabled | setCallback =>
    exact (List.append_nil _).symm

theorem FingerprintService.Serves.serve {start : Panel} (hserves : service.Serves start past)
    (request : Request) : (service.serve request).Serves start (past ++ [request]) where
  enrolling := by
    rw [List.foldl_append]
    exact mIsEnrolling_serve service _ hserves.enrolling request
  visible := mFodCircleVisible_serve hserves.visible request
  callback := mCallback_serve hserves.callback request
  panel := by
    have hpanel := hserves.panel
    rw [FingerprintService.panel] at hpanel ⊢
    rw [modes_serve, List.foldl_append, List.foldl_append, hpanel, hserves.enrolling]
    exact panel_step _ start request
  exclusive := by
    intro moment hmoment
    rw [modes_serve, mem_moments_append] at hmoment
    obtain hmoment | hmoment := hmoment
    · exact hserves.exclusive moment hmoment
    · exact exclusive_modes (hserves.exclusive _ ((mem_moments_iff _ _ _ _).mpr
        ⟨service.modes, List.prefix_refl _, rfl⟩)) _ request moment hmoment
  fingers := by
    rw [fingers_serve hserves.visible hserves.callback, hserves.fingers, toldAll_append]
    simp [toldAll]
  acquired acquiredInfo vendorCode := by
    rw [handleAcquired_eq _ _ (mFodCircleVisible_serve hserves.visible request)
      (mCallback_serve hserves.callback request)]

theorem serves_init (nodes : Nodes) {start : Panel} (hstart : start.Exclusive) :
    (FingerprintService.init nodes).Serves start [] where
  enrolling := rfl
  visible := rfl
  callback := rfl
  panel := by
    funext mode
    simp [FingerprintService.panel, FingerprintService.init, FingerprintInscreen.init, Display.panel, Display.init]
  exclusive := by simpa [FingerprintService.init, FingerprintInscreen.init] using hstart
  fingers := rfl
  acquired _ _ := by rw [handleAcquired_eq _ [] rfl rfl]

/-- Every run of requests, over any nodes and a panel with at most one colour on. -/
theorem requests_served (nodes : Nodes) {start : Panel} (hstart : start.Exclusive) (requests : List Request) :
    (requests.foldl FingerprintService.serve (.init nodes)).Serves start requests := by
  induction requests using List.reverseRecOn with
  | nil => exact serves_init nodes hstart
  | append_singleton requests request ih =>
    rw [List.foldl_append]
    exact ih.serve request

/-- A panel that has been given no mode. -/
theorem requests_served_dark :
    ([.setCallback (some 3), .view .onShowFODView, .onPress, .handleAcquired 6 0].foldl
      FingerprintService.serve (.init blankNodes)).fingers = [(3, .onFingerDown)] :=
  (requests_served blankNodes (by simp [Panel.Exclusive] : Panel.Exclusive fun _ => 0) _).fingers

end fod
