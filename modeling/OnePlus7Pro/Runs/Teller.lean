import Mathlib.Data.List.Destutter

namespace runs

/-- A value as it was told last, and all those that were told. -/
structure Teller (V : Type) where
  last : V
  told : List V

/-- A value is told when it differs from the last that was. -/
def Teller.tell {V : Type} (differs : V → V → Bool) (self : Teller V) (value : V) : Teller V :=
  if differs value self.last then ⟨value, self.told ++ [value]⟩ else self

variable {V : Type} {differs : V → V → Bool}

theorem cons_tail_destutter' {R : V → V → Prop} [DecidableRel R] (first : V) (values : List V) :
    first :: (values.destutter' R first).tail = values.destutter' R first := by
  induction values generalizing first with
  | nil => rfl
  | cons value values ih =>
    by_cases hdiffers : R first value
    · rw [List.destutter'_cons_pos values hdiffers, List.tail_cons]
    · rw [List.destutter'_cons_neg values hdiffers, ih]

namespace Teller

variable (differs)

theorem foldl_tell (first : V) (told values : List V) :
    (values.foldl (tell differs) ⟨first, told⟩).told =
      told ++ (values.destutter' (fun last value => differs value last) first).tail := by
  induction values generalizing first told with
  | nil => simp
  | cons value values ih =>
    rw [List.foldl_cons, tell]
    by_cases hdiffers : differs value first = true
    · rw [if_pos hdiffers, ih, List.destutter'_cons_pos (R := fun last value => differs value last)
        values hdiffers, List.tail_cons, List.append_assoc, List.singleton_append, cons_tail_destutter']
    · rw [if_neg hdiffers, ih, List.destutter'_cons_neg (R := fun last value => differs value last)
        values hdiffers]

/-- The last value is the one that was told last. -/
theorem last_foldl_tell (first : V) (values : List V) :
    (values.foldl (tell differs) ⟨first, []⟩).last =
      (values.foldl (tell differs) ⟨first, []⟩).told.getLastD first := by
  induction values using List.reverseRecOn with
  | nil => rfl
  | append_singleton values value ih =>
    rw [List.foldl_append, List.foldl_cons, List.foldl_nil, tell]
    split
    · simp
    · exact ih

/-- No value is told that does not differ from the one told before. -/
theorem isChain_told (first : V) (values : List V) :
    (first :: (values.foldl (tell differs) ⟨first, []⟩).told).IsChain
      fun last value => differs value last := by
  rw [foldl_tell, List.nil_append, cons_tail_destutter']
  exact List.isChain_destutter' _ values first

/-- A value that was not told does not differ from the last. -/
theorem last_agrees (first : V) (values : List V) (value : V) :
    let last := ((values ++ [value]).foldl (tell differs) ⟨first, []⟩).last
    last = value ∨ differs value last = false := by
  simp only [List.foldl_append, List.foldl_cons, List.foldl_nil]
  rw [tell]
  split
  next => exact .inl rfl
  next hsame => exact .inr (Bool.eq_false_iff.mpr hsame)

end Teller

end runs
