import Mathlib.Data.List.Basic

namespace overlay

/-- A value that is shown, and the value kept to be shown again later. -/
structure Cover (V : Type) where
  shown : V
  kept : V

inductive Act where
  | enter
  | leave
  deriving DecidableEq

/-- Entering keeps what a reading of the shown value gives and shows `cover` instead;
    leaving shows what was kept. -/
def Cover.step {V : Type} (read : V → V) (cover : V) (c : Cover V) : Act → Cover V
  | .enter => ⟨cover, read c.shown⟩
  | .leave => ⟨c.kept, c.kept⟩

/-- Somewhere in the run the cover is entered twice in a row. -/
def doubled : List Act → Bool
  | .enter :: .enter :: _ => true
  | _ :: acts => doubled acts
  | [] => false

variable {V : Type} {read : V → V} {cover : V}

@[simp] theorem step_enter (c : Cover V) : c.step read cover .enter = ⟨cover, read c.shown⟩ := rfl

@[simp] theorem step_leave (c : Cover V) : c.step read cover .leave = ⟨c.kept, c.kept⟩ := rfl

@[simp] theorem doubled_leave (acts : List Act) : doubled (.leave :: acts) = doubled acts := by
  simp [doubled]

@[simp] theorem doubled_enter_leave (acts : List Act) :
    doubled (.enter :: .leave :: acts) = doubled acts := by
  simp [doubled]

@[simp] theorem doubled_enter_enter (acts : List Act) :
    doubled (.enter :: .enter :: acts) = true := by
  simp [doubled]

/-- Once the cover itself is what is kept, it is never left. -/
theorem kept_of_kept_cover (hcover : read cover = cover) (acts : List Act) :
    (acts.foldl (Cover.step read cover) ⟨cover, cover⟩).kept = cover := by
  induction acts with
  | nil => rfl
  | cons act acts ih =>
    cases act with
    | enter => simpa [hcover] using ih
    | leave => simpa using ih

/-- A faithfully read value `v` stays kept, whether it or the cover is shown, unless the
    cover is entered while it is shown. -/
theorem kept_of_kept (hcover : read cover = cover) {v : V} (hv : read v = v) (acts : List Act) :
    (acts.foldl (Cover.step read cover) ⟨v, v⟩).kept = (if doubled acts then cover else v) ∧
      (acts.foldl (Cover.step read cover) ⟨cover, v⟩).kept =
        (if doubled (.enter :: acts) then cover else v) := by
  induction acts with
  | nil => simp [doubled]
  | cons act acts ih =>
    cases act with
    | enter =>
      have hstuck := kept_of_kept_cover hcover acts
      rw [List.foldl_cons, List.foldl_cons, step_enter, step_enter, hv, hcover, hstuck]
      simpa using ih.2
    | leave => simpa using ih.1

/-- What a last leave shows, for a run that begins with `start` shown and `blank` kept. -/
theorem shown_after_leave (hcover : read cover = cover) {start blank : V}
    (hblank : read blank = blank) (hread : read (read start) = read start) (acts : List Act) :
    ((acts ++ [Act.leave]).foldl (Cover.step read cover) ⟨start, blank⟩).shown =
      if doubled acts then cover else if acts.head? = some .enter then read start else blank := by
  rw [List.foldl_append, List.foldl_cons, List.foldl_nil, step_leave]
  cases acts with
  | nil => simp [doubled]
  | cons act acts =>
    cases act with
    | enter => simpa using (kept_of_kept hcover hread acts).2
    | leave => simpa using (kept_of_kept hcover hblank acts).1

end overlay
