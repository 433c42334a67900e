import Mathlib.Data.List.Basic

namespace effects

/-- The states a store passes through while a log of events takes effect in order,
    from the start to the end of the log: where a run may be cut short. -/
def moments {S V : Type} (apply : S → V → S) (start : S) (log : List V) : List S :=
  log.scanl apply start

@[simp] theorem moments_nil {S V : Type} (apply : S → V → S) (start : S) :
    moments apply start [] = [start] := rfl

@[simp] theorem moments_cons {S V : Type} (apply : S → V → S) (start : S) (event : V) (log : List V) :
    moments apply start (event :: log) = start :: moments apply (apply start event) log := by
  simp [moments]

/-- A moment is the effect of some first part of the log. -/
theorem mem_moments_iff {S V : Type} (apply : S → V → S) (start : S) (log : List V) (s : S) :
    s ∈ moments apply start log ↔ ∃ done, done <+: log ∧ s = done.foldl apply start := by
  induction log generalizing start with
  | nil => simp
  | cons event log ih =>
    rw [moments_cons, List.mem_cons, ih]
    constructor
    · rintro (rfl | ⟨done, hdone, rfl⟩)
      · exact ⟨[], List.nil_prefix, rfl⟩
      · exact ⟨event :: done, (List.prefix_cons_inj event).mpr hdone, rfl⟩
    · rintro ⟨done, hdone, rfl⟩
      cases done with
      | nil => exact Or.inl rfl
      | cons first done =>
        obtain ⟨rfl, hrest⟩ := List.cons_prefix_cons.mp hdone
        exact Or.inr ⟨done, hrest, rfl⟩

/-- A log with one more event has one more moment, at its end. -/
theorem moments_concat {S V : Type} (apply : S → V → S) (start : S) (log : List V) (event : V) :
    moments apply start (log ++ [event]) =
      moments apply start log ++ [(log ++ [event]).foldl apply start] := by
  induction log generalizing start with
  | nil => rfl
  | cons first log ih => rw [List.cons_append, moments_cons, moments_cons, ih, List.cons_append, List.foldl_cons]

/-- The moments of a log that goes on are those before and those from there on. -/
theorem mem_moments_append {S V : Type} (apply : S → V → S) (start : S) (log later : List V) (s : S) :
    s ∈ moments apply start (log ++ later) ↔
      s ∈ moments apply start log ∨ s ∈ moments apply (log.foldl apply start) later := by
  induction log generalizing start with
  | nil =>
    cases later with
    | nil => simp
    | cons event later => simp
  | cons event log ih => rw [List.cons_append, moments_cons, moments_cons, List.mem_cons, List.mem_cons, ih,
      List.foldl_cons, or_assoc]

/-- Events that stand for others take effect as those do. -/
theorem moments_map_log {S U V : Type} (apply : S → V → S) (event : U → V) (start : S) (log : List U) :
    moments apply start (log.map event) = moments (fun s u => apply s (event u)) start log :=
  List.scanl_map

/-- Where a store is a part of another and takes the events alike, so are its moments. -/
theorem moments_map {S T V : Type} (apply : S → V → S) (applyWider : T → V → T) (part : T → S)
    (halike : ∀ t event, part (applyWider t event) = apply (part t) event) (start : T)
    (log : List V) : (moments applyWider start log).map part = moments apply (part start) log := by
  induction log generalizing start with
  | nil => rfl
  | cons event log ih => rw [moments_cons, moments_cons, List.map_cons, ih, halike]

end effects
