import OnePlus7Pro.Fod.FingerprintInscreen

open overlay

namespace fod

theorem get_of_fitsInt {nodes : Nodes} {path : Node} (hfits : FitsInt (nodes path)) :
    get nodes path 0 = nodes path := by
  rw [get, if_pos hfits]

theorem get_eq_self_iff (nodes : Nodes) (path : Node) :
    get nodes path 0 = nodes path ↔ FitsInt (nodes path) := by
  by_cases hfits : FitsInt (nodes path)
  · simp [get, hfits]
  · -- what does not fit reads as zero, which would fit
    rw [get, if_neg hfits, iff_false_right hfits]
    intro hzero
    exact hfits (by simp [← hzero, FitsInt])

theorem fitsInt_get (nodes : Nodes) (path : Node) : FitsInt (get nodes path 0) := by
  rw [get]
  split
  · assumption
  · simp [FitsInt]

@[simp] theorem savedNodes_fodNodes : savedNodes fodNodes = fodNodes := by
  funext path
  cases path <;> simp [savedNodes, get, fodNodes, FitsInt]

@[simp] theorem savedNodes_blankNodes : savedNodes blankNodes = blankNodes := by
  funext path
  cases path <;> simp [savedNodes, get, blankNodes, FitsInt]

/-- What was saved is saved again as it is. -/
@[simp] theorem savedNodes_savedNodes (nodes : Nodes) :
    savedNodes (savedNodes nodes) = savedNodes nodes := by
  funext path
  cases path with
  | DC_DIM_PATH =>
    by_cases hdim : get nodes .DC_DIM_PATH 0 = 0 <;> simp [savedNodes, get, FitsInt] at hdim ⊢ <;>
      simp [hdim]
  | NATIVE_DISPLAY_P3 => exact get_of_fitsInt (fitsInt_get nodes _)
  | NATIVE_DISPLAY_SRGB => exact get_of_fitsInt (fitsInt_get nodes _)
  | NATIVE_DISPLAY_NIGHT => exact get_of_fitsInt (fitsInt_get nodes _)
  | NATIVE_DISPLAY_WIDE => exact get_of_fitsInt (fitsInt_get nodes _)

/-- The service refines the cover: showing the view enters it, hiding the view leaves it. -/
theorem cover_call (self : FingerprintInscreen) (call : Call) :
    (self.call call).cover = self.cover.step savedNodes fodNodes call.act := by
  cases call with
  | onShowFODView =>
    simp only [FingerprintInscreen.cover, Call.act, step_enter, Cover.mk.injEq]
    constructor <;> funext path <;> cases path <;>
      simp [FingerprintInscreen.call, onShowFODView, FingerprintInscreen.set,
        FingerprintInscreen.setMode, FingerprintInscreen.saved, fodNodes, savedNodes]
  | onHideFODView =>
    simp only [FingerprintInscreen.cover, Call.act, step_leave, Cover.mk.injEq]
    constructor <;> funext path <;> cases path <;>
      simp [FingerprintInscreen.call, onHideFODView, FingerprintInscreen.set,
        FingerprintInscreen.setMode, FingerprintInscreen.saved]

theorem cover_calls (self : FingerprintInscreen) (calls : List Call) :
    (calls.foldl FingerprintInscreen.call self).cover =
      (calls.map Call.act).foldl (Cover.step savedNodes fodNodes) self.cover := by
  induction calls generalizing self with
  | nil => rfl
  | cons call calls ih => rw [List.foldl_cons, ih, List.map_cons, List.foldl_cons, cover_call]

theorem cover_init (nodes : Nodes) :
    (FingerprintInscreen.init nodes).cover = ⟨nodes, blankNodes⟩ := by
  simp only [FingerprintInscreen.cover, Cover.mk.injEq]
  refine ⟨rfl, ?_⟩
  funext path
  cases path <;> simp [FingerprintInscreen.init, FingerprintInscreen.saved, blankNodes]

/-- The contents of the nodes after a run that ends by hiding the view. -/
theorem nodes_after_hide (nodes : Nodes) (calls : List Call) :
    ((calls ++ [Call.onHideFODView]).foldl FingerprintInscreen.call (.init nodes)).nodes =
      if showsTwice calls then fodNodes
      else if calls.head? = some .onShowFODView then savedNodes nodes else blankNodes := by
  have hcover := cover_calls (.init nodes) (calls ++ [Call.onHideFODView])
  have hshown := shown_after_leave savedNodes_fodNodes savedNodes_blankNodes
    (savedNodes_savedNodes nodes) (calls.map Call.act)
  have hhead : (calls.map Call.act).head? = some .enter ↔ calls.head? = some .onShowFODView := by
    cases calls with
    | nil => simp
    | cons call calls => cases call <;> simp [Call.act]
  rw [List.map_append, cover_init] at hcover
  have hnodes := congrArg Cover.shown hcover
  simp only [hhead] at hshown
  exact hnodes.trans hshown

theorem savedNodes_eq_self_iff {nodes : Nodes}
    (hdc : nodes .DC_DIM_PATH = 0 ∨ nodes .DC_DIM_PATH = 1) :
    savedNodes nodes = nodes ↔ ∀ path, FitsInt (nodes path) := by
  have hdim : savedNodes nodes .DC_DIM_PATH = nodes .DC_DIM_PATH ∧
      FitsInt (nodes .DC_DIM_PATH) := by
    obtain hzero | hone := hdc
    · simp [savedNodes, get, hzero, FitsInt]
    · simp [savedNodes, get, hone, FitsInt]
  constructor
  · intro hsaved path
    have hpath := congrFun hsaved path
    cases path with
    | DC_DIM_PATH => exact hdim.2
    | NATIVE_DISPLAY_P3 => exact (get_eq_self_iff nodes _).mp hpath
    | NATIVE_DISPLAY_SRGB => exact (get_eq_self_iff nodes _).mp hpath
    | NATIVE_DISPLAY_NIGHT => exact (get_eq_self_iff nodes _).mp hpath
    | NATIVE_DISPLAY_WIDE => exact (get_eq_self_iff nodes _).mp hpath
  · intro hfits
    funext path
    cases path with
    | DC_DIM_PATH => exact hdim.1
    | NATIVE_DISPLAY_P3 => exact get_of_fitsInt (hfits _)
    | NATIVE_DISPLAY_SRGB => exact get_of_fitsInt (hfits _)
    | NATIVE_DISPLAY_NIGHT => exact get_of_fitsInt (hfits _)
    | NATIVE_DISPLAY_WIDE => exact get_of_fitsInt (hfits _)

/-- The runs after which hiding the view puts the panel back. The view was shown first
    and never twice in a row, over contents that fit an `int`, unless the contents happen
    to be those that such a run leaves. -/
def Restorable (nodes : Nodes) (calls : List Call) : Prop :=
  (showsTwice calls → nodes = fodNodes) ∧
  (¬ showsTwice calls → calls.head? = some .onShowFODView → ∀ path, FitsInt (nodes path)) ∧
  (¬ showsTwice calls → calls.head? ≠ some .onShowFODView → nodes = blankNodes)

/-- A run of shows and hides that ends with a hide leaves the nodes as they were exactly
    when it is restorable. -/
theorem onHideFODView_restores_iff (nodes : Nodes)
    (hdc : nodes .DC_DIM_PATH = 0 ∨ nodes .DC_DIM_PATH = 1) (calls : List Call) :
    ((calls ++ [Call.onHideFODView]).foldl FingerprintInscreen.call (.init nodes)).nodes = nodes ↔
      Restorable nodes calls := by
  rw [nodes_after_hide, Restorable]
  by_cases htwice : showsTwice calls
  · simp [htwice, eq_comm]
  · by_cases hshow : calls.head? = some .onShowFODView
    · simp [htwice, hshow, savedNodes_eq_self_iff hdc]
    · simp [htwice, hshow, eq_comm]

/-- A panel in the P3 mode with direct-current dimming. -/
def p3Nodes : Nodes
  | .NATIVE_DISPLAY_P3 => 1
  | .DC_DIM_PATH => 1
  | _ => 0

theorem onHideFODView_restores_p3Nodes :
    ((([Call.onShowFODView] ++ [Call.onHideFODView]).foldl FingerprintInscreen.call
      (.init p3Nodes)).nodes = p3Nodes ↔ Restorable p3Nodes [.onShowFODView]) ∧
    Restorable p3Nodes [.onShowFODView] :=
  ⟨onHideFODView_restores_iff p3Nodes (Or.inr rfl) [.onShowFODView],
    by
      have honce : ¬ showsTwice [.onShowFODView] := by decide
      refine ⟨fun htwice => absurd htwice honce, fun _ _ path => ?_, by simp⟩
      cases path <;> simp [p3Nodes, FitsInt]⟩

/-- Showing the view twice before it is hidden loses the mode of the panel. -/
theorem shown_twice_not_restored :
    ¬ ∀ (nodes : Nodes), (nodes .DC_DIM_PATH = 0 ∨ nodes .DC_DIM_PATH = 1) → ∀ calls : List Call,
      ((calls ++ [Call.onHideFODView]).foldl FingerprintInscreen.call (.init nodes)).nodes =
        nodes := by
  intro hrestores
  have hmode := congrFun (hrestores p3Nodes (Or.inr rfl) [.onShowFODView, .onShowFODView])
    .NATIVE_DISPLAY_P3
  rw [nodes_after_hide, if_pos (by decide)] at hmode
  cases hmode

end fod
