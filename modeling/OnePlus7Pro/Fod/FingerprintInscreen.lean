import OnePlus7Pro.Overlay.Cover
import Mathlib.Logic.Function.Basic
import Mathlib.Tactic.Ring

open overlay

namespace fod

/-- The display nodes that the fingerprint view changes. -/
inductive Node where
  | DC_DIM_PATH
  | NATIVE_DISPLAY_P3
  | NATIVE_DISPLAY_SRGB
  | NATIVE_DISPLAY_NIGHT
  | NATIVE_DISPLAY_WIDE
  deriving DecidableEq

/-- The number each node reads as. -/
abbrev Nodes := Node → Int

/-- A number that `operator>>` can put into an `int`. -/
def FitsInt (value : Int) : Prop := -2 ^ 31 ≤ value ∧ value < 2 ^ 31

instance (value : Int) : Decidable (FitsInt value) := inferInstanceAs (Decidable (_ ∧ _))

/-- The service with the globals that hold the saved display state, the nodes it writes
    and the calls of `setMode` it has made. -/
structure FingerprintInscreen where
  nodes : Nodes
  wide : Int
  p3 : Int
  srgb : Int
  night : Int
  dcDimState : Bool
  mFodCircleVisible : Bool
  modes : List (Int × Int)

def get (nodes : Nodes) (path : Node) (default : Int) : Int :=
  -- extraction of a number out of range sets the failure bit
  if FitsInt (nodes path) then nodes path else default

def FingerprintInscreen.set (self : FingerprintInscreen) (path : Node) (value : Int) :
    FingerprintInscreen :=
  { self with nodes := Function.update self.nodes path value }

def FingerprintInscreen.setMode (self : FingerprintInscreen) (mode value : Int) :
    FingerprintInscreen :=
  { self with modes := self.modes ++ [(mode, value)] }

def OP_DISPLAY_NOTIFY_PRESS : Int := 9
def OP_DISPLAY_SET_DIM : Int := 10

def onShowFODView (self : FingerprintInscreen) : FingerprintInscreen :=
  let self := { self with
    wide := get self.nodes .NATIVE_DISPLAY_WIDE 0
    p3 := get self.nodes .NATIVE_DISPLAY_P3 0
    srgb := get self.nodes .NATIVE_DISPLAY_SRGB 0
    night := get self.nodes .NATIVE_DISPLAY_NIGHT 0 }
  let self := ((((((self.setMode 16 0).setMode 17 0).setMode 18 0).setMode 20 0).setMode 21 0).setMode
    17 1).setMode 19 0
  let self := { self with dcDimState := get self.nodes .DC_DIM_PATH 0 ≠ 0 }
  let self := ((((self.set .DC_DIM_PATH 0).set .NATIVE_DISPLAY_P3 0).set .NATIVE_DISPLAY_SRGB 0).set
    .NATIVE_DISPLAY_NIGHT 0).set .NATIVE_DISPLAY_WIDE 1
  { self with mFodCircleVisible := true }

def onHideFODView (self : FingerprintInscreen) : FingerprintInscreen :=
  let self := { self with mFodCircleVisible := false }
  let self := self.set .NATIVE_DISPLAY_WIDE 0
  let self := ((((((self.setMode 16 0).setMode 17 0).setMode 18 0).setMode 20 0).setMode 21 0).setMode
    16 1).setMode 19 1
  let self := ((((self.set .NATIVE_DISPLAY_WIDE self.wide).set .NATIVE_DISPLAY_P3 self.p3).set
    .NATIVE_DISPLAY_SRGB self.srgb).set .NATIVE_DISPLAY_NIGHT self.night).set
    .DC_DIM_PATH (if self.dcDimState then 1 else 0)
  (self.setMode OP_DISPLAY_SET_DIM 0).setMode OP_DISPLAY_NOTIFY_PRESS 0

/-- The service when its process has started: the globals are zero-initialized. -/
def FingerprintInscreen.init (nodes : Nodes) : FingerprintInscreen where
  nodes := nodes
  wide := 0
  p3 := 0
  srgb := 0
  night := 0
  dcDimState := false
  mFodCircleVisible := false
  modes := []

inductive Call where
  | onShowFODView
  | onHideFODView
  deriving DecidableEq

def FingerprintInscreen.call (self : FingerprintInscreen) : Call → FingerprintInscreen
  | .onShowFODView => fod.onShowFODView self
  | .onHideFODView => fod.onHideFODView self

/-- The contents that the fingerprint view gives the nodes. -/
def fodNodes : Nodes
  | .NATIVE_DISPLAY_WIDE => 1
  | _ => 0

/-- The contents that a view puts back when it has saved none. -/
def blankNodes : Nodes := fun _ => 0

/-- The contents that a view saves: what does not fit an `int` reads as zero, and the
    dimming state is a flag. -/
def savedNodes (nodes : Nodes) : Nodes
  | .DC_DIM_PATH => if get nodes .DC_DIM_PATH 0 ≠ 0 then 1 else 0
  | path => get nodes path 0

/-- The contents held in the globals. -/
def FingerprintInscreen.saved (self : FingerprintInscreen) : Nodes
  | .DC_DIM_PATH => if self.dcDimState then 1 else 0
  | .NATIVE_DISPLAY_P3 => self.p3
  | .NATIVE_DISPLAY_SRGB => self.srgb
  | .NATIVE_DISPLAY_NIGHT => self.night
  | .NATIVE_DISPLAY_WIDE => self.wide

/-- The service seen as a cover over the nodes. -/
def FingerprintInscreen.cover (self : FingerprintInscreen) : Cover Nodes :=
  ⟨self.nodes, self.saved⟩

def Call.act : Call → Act
  | .onShowFODView => .enter
  | .onHideFODView => .leave

/-- A view is shown again before it was hidden. -/
def showsTwice (calls : List Call) : Prop := doubled (calls.map Call.act) = true

instance (calls : List Call) : Decidable (showsTwice calls) := inferInstanceAs (Decidable (_ = _))

end fod
