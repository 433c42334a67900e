import OnePlus7Pro.Effects.Moments
import Mathlib.Data.List.Infix

open effects

namespace twins

/-- A table kept in two copies, each of which counts only while it bears its mark. The
    table of the primary copy is fixed; the secondary copy records which table it is
    supposed to hold, and holds one. -/
structure Copies (T : Type) where
  primary : Bool
  secondary : Bool
  recorded : T
  stored : T
  deriving DecidableEq

/-- One write to one of the copies. -/
inductive Act (T : Type) where
  | mark_primary (good : Bool)
  | mark_secondary (good : Bool)
  | record (table : T)
  | store (table : T)
  deriving DecidableEq

def Copies.apply {T : Type} (copies : Copies T) : Act T → Copies T
  | .mark_primary good => { copies with primary := good }
  | .mark_secondary good => { copies with secondary := good }
  | .record table => { copies with recorded := table }
  | .store table => { copies with stored := table }

/-- The stages of an update: divert readers to the secondary copy with another table,
    restore the primary copy, and settle the secondary copy on the first table again. -/
inductive Stage where
  | divert
  | restore
  | settle
  deriving DecidableEq

def Stage.acts {T : Type} (normal backup : T) : Stage → List (Act T)
  | .divert => [.record backup, .store backup, .mark_primary false]
  | .restore => [.mark_primary true, .mark_secondary false]
  | .settle => [.record normal, .store normal, .mark_secondary true]

/-- The stage that the marks alone tell to be next. -/
def Copies.due {T : Type} (copies : Copies T) : Option Stage :=
  match copies.primary, copies.secondary with
  | true, true => some .divert
  | false, true => some .restore
  | true, false => some .settle
  | false, false => none

/-- The marks by which a stage is known to be due. -/
def Stage.marks : Stage → Bool × Bool
  | .divert => (true, true)
  | .restore => (false, true)
  | .settle => (true, false)

/-- A copy can be relied on: the primary one when it bears its mark, the secondary one
    when it does and holds the table it records. -/
def Copies.Safe {T : Type} (copies : Copies T) : Prop :=
  copies.primary = true ∨ (copies.secondary = true ∧ copies.recorded = copies.stored)

/-- The copies when a stage is due in a cycle that began with `normal` in both. -/
def Stage.start {T : Type} (normal backup : T) : Stage → Copies T
  | .divert => ⟨true, true, normal, normal⟩
  | .restore => ⟨false, true, backup, backup⟩
  | .settle => ⟨true, false, backup, backup⟩

/-- The copies after a stage of that cycle. -/
def Stage.finish {T : Type} (normal backup : T) : Stage → Copies T
  | .divert => Stage.start normal backup .restore
  | .restore => Stage.start normal backup .settle
  | .settle => Stage.start normal backup .divert

variable {T : Type} {normal backup : T} {copies : Copies T} {stage : Stage} {done : List (Act T)}

theorem due_eq_some_iff :
    copies.due = some stage ↔ copies.primary = stage.marks.1 ∧
    copies.secondary = stage.marks.2 := by
  obtain ⟨primary, secondary, recorded, stored⟩ := copies
  cases stage <;> cases primary <;> cases secondary <;> simp [Copies.due, Stage.marks]

theorem start_due (normal backup : T) (stage : Stage) :
    (stage.start normal backup).due = some stage := by
  cases stage <;> rfl

theorem foldl_start (normal backup : T) (stage : Stage) :
    (stage.acts normal backup).foldl Copies.apply (stage.start normal backup) = stage.finish normal backup := by
  cases stage <;> rfl

/-- Acts that leave the mark of the primary copy alone do not change it. -/
theorem primary_foldl {acts : List (Act T)} (hacts : ∀ good, .mark_primary good ∉ acts) :
    (acts.foldl Copies.apply copies).primary = copies.primary := by
  induction acts generalizing copies with
  | nil => rfl
  | cons act acts ih =>
    rw [List.foldl_cons, ih fun good h => hacts good (List.mem_cons_of_mem _ h)]
    cases act with
    | mark_primary good => exact absurd List.mem_cons_self (hacts good)
    | mark_secondary good => rfl
    | record table => rfl
    | store table => rfl

/-- A stage that is due is safe at each of its moments. -/
theorem safe_moments (hsafe : copies.Safe) (hdue : copies.due = some stage) {moment : Copies T}
    (hmoment : moment ∈ moments Copies.apply copies (stage.acts normal backup)) : moment.Safe := by
  obtain ⟨primary, secondary, recorded, stored⟩ := copies
  cases stage with
  | divert =>
    obtain ⟨rfl, rfl⟩ := due_eq_some_iff.mp hdue
    simp only [Stage.acts, moments_cons, moments_nil, List.mem_cons, List.not_mem_nil,
      or_false] at hmoment
    rcases hmoment with rfl | rfl | rfl | rfl
    · exact hsafe
    · exact .inl rfl
    · exact .inl rfl
    · exact .inr ⟨rfl, rfl⟩
  | restore =>
    simp only [Stage.acts, moments_cons, moments_nil, List.mem_cons, List.not_mem_nil,
      or_false] at hmoment
    rcases hmoment with rfl | rfl | rfl
    · exact hsafe
    · exact .inl rfl
    · exact .inl rfl
  | settle =>
    obtain ⟨rfl, rfl⟩ := due_eq_some_iff.mp hdue
    simp only [Stage.acts, moments_cons, moments_nil, List.mem_cons, List.not_mem_nil,
      or_false] at hmoment
    rcases hmoment with rfl | rfl | rfl | rfl
    · exact .inl rfl
    · exact .inl rfl
    · exact .inl rfl
    · exact .inl rfl

/-- A stage cut short can be repeated as if it had not begun, except that once it has
    marked the primary copy again, `restore` is no longer the stage that is due. -/
theorem resume_iff (hdone : done <+: stage.acts normal backup)
    (hcut : done ≠ stage.acts normal backup) :
    ((done.foldl Copies.apply (stage.start normal backup)).due = some stage ∧
      (stage.acts normal backup).foldl Copies.apply (done.foldl Copies.apply (stage.start normal backup)) =
        stage.finish normal backup) ↔ ¬ (stage = .restore ∧ done ≠ []) := by
  have htake : done = (stage.acts normal backup).take done.length :=
    List.prefix_iff_eq_take.mp hdone
  have hlength : done.length < (stage.acts normal backup).length :=
    Nat.lt_of_le_of_ne hdone.length_le fun h => hcut (hdone.eq_of_length h)
  generalize done.length = n at htake hlength
  subst htake
  cases stage with
  | divert =>
    refine iff_of_true ?_ (by simp)
    match n, hlength with
    | 0, _ => exact ⟨rfl, rfl⟩
    | 1, _ => exact ⟨rfl, rfl⟩
    | 2, _ => exact ⟨rfl, rfl⟩
  | restore =>
    match n, hlength with
    | 0, _ => exact iff_of_true ⟨rfl, rfl⟩ (by simp)
    | 1, _ =>
      refine iff_of_false (fun h => ?_) (by simp [Stage.acts])
      exact absurd h.1 (by simp [Stage.acts, Stage.start, Copies.due, Copies.apply])
  | settle =>
    refine iff_of_true ?_ (by simp)
    match n, hlength with
    | 0, _ => exact ⟨rfl, rfl⟩
    | 1, _ => exact ⟨rfl, rfl⟩
    | 2, _ => exact ⟨rfl, rfl⟩

end twins
