import Mathlib.Algebra.BigOperators.Group.List.Basic
import Mathlib.Tactic.Ring

namespace effects

variable {E A : Type} [DecidableEq E]

/-- How often one thing was told more than another. -/
def balance (up down : E) (told : List E) : Int := (told.count up : Int) - told.count down

variable {up down : E}

@[simp] theorem balance_nil : balance up down [] = 0 := rfl

@[simp] theorem balance_append (told more : List E) :
    balance up down (told ++ more) = balance up down told + balance up down more := by
  rw [balance, balance, balance, List.count_append, List.count_append]
  push_cast
  ring

@[simp] theorem balance_singleton (event : E) :
    balance up down [event] =
      (if event = up then 1 else 0) - if event = down then 1 else 0 := by
  simp only [balance, List.count_singleton, beq_iff_eq]
  split_ifs <;> rfl

theorem balance_eq_zero {told : List E} (hup : up ∉ told) (hdown : down ∉ told) :
    balance up down told = 0 := by
  rw [balance, List.count_eq_zero_of_not_mem hup, List.count_eq_zero_of_not_mem hdown, sub_self]

theorem balance_flatMap_eq_zero {items : List A} {tells : A → List E}
    (hitems : ∀ x ∈ items, balance up down (tells x) = 0) :
    balance up down (items.flatMap tells) = 0 := by
  induction items with
  | nil => rfl
  | cons x items ih =>
    rw [List.forall_mem_cons] at hitems
    rw [List.flatMap_cons, balance_append, hitems.1, ih hitems.2, add_zero]

/-- When one item alone moves the balance, the items together move it as that item does,
    if it is among them. -/
theorem balance_flatMap_of_unique {items : List A} {tells : A → List E} {x : A}
    [Decidable (x ∈ items)] (hnodup : items.Nodup)
    (hothers : ∀ y ∈ items, y ≠ x → balance up down (tells y) = 0) :
    balance up down (items.flatMap tells) =
      if x ∈ items then balance up down (tells x) else 0 := by
  split_ifs with hmem
  · obtain ⟨before, after, rfl⟩ := List.append_of_mem hmem
    rw [List.nodup_append, List.nodup_cons] at hnodup
    obtain ⟨_, ⟨hafter, _⟩, hbefore⟩ := hnodup
    have hzero_before : balance up down (before.flatMap tells) = 0 :=
      balance_flatMap_eq_zero fun y hy =>
        hothers y (List.mem_append_left _ hy) (hbefore y hy x List.mem_cons_self)
    have hzero_after : balance up down (after.flatMap tells) = 0 :=
      balance_flatMap_eq_zero fun y hy => hothers y
        (List.mem_append_right _ (List.mem_cons_of_mem x hy)) (ne_of_mem_of_not_mem hy hafter)
    rw [List.flatMap_append, List.flatMap_cons, balance_append, balance_append, hzero_before,
      hzero_after, zero_add, add_zero]
  · exact balance_flatMap_eq_zero fun y hy => hothers y hy (ne_of_mem_of_not_mem hy hmem)

end effects
