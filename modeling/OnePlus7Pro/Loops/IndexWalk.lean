import Mathlib.Data.List.Chain
import Mathlib.Data.List.Nodup
import Mathlib.Algebra.Group.Nat.Even

namespace loops

/-- What the body of a loop does at one element: whether it removes it, and what it tells
    others. -/
structure Visit (E : Type) where
  removed : Bool
  told : List E

/-- `for (; i < items.size(); i++)`, where the body may remove the element at `i`. -/
def walk {A E : Type} (visit : A → Visit E) (items : List A) (i : Nat) : List A × List E :=
  if h : i < items.length then
    let now := visit items[i]
    let rest := walk visit (if now.removed then items.eraseIdx i else items) (i + 1)
    (rest.1, now.told ++ rest.2)
  else (items, [])
termination_by items.length - i
decreasing_by
  have hle := List.length_eraseIdx_le items i
  split <;> omega

/-- The elements at which the loop stands: when it removes one it passes over the next. -/
def reached {A : Type} (removes : A → Bool) : List A → List A
  | [] => []
  | [x] => [x]
  | x :: y :: rest => x :: if removes x then reached removes rest else reached removes (y :: rest)

/-- The elements that are left after the loop. -/
def survivors {A : Type} (removes : A → Bool) : List A → List A
  | [] => []
  | [x] => if removes x then [] else [x]
  | x :: y :: rest =>
    if removes x then y :: survivors removes rest else x :: survivors removes (y :: rest)

variable {A E : Type} {visit : A → Visit E} {removes : A → Bool} {x y : A} {items : List A}

/-- No two elements that the loop would remove stand side by side. -/
def Scattered (removes : A → Bool) (items : List A) : Prop :=
  items.IsChain fun x y => ¬ (removes x = true ∧ removes y = true)

instance (removes : A → Bool) (items : List A) : Decidable (Scattered removes items) :=
  inferInstanceAs (Decidable (List.IsChain _ _))

theorem walk_of_length_le {i : Nat} (h : items.length ≤ i) : walk visit items i = (items, []) := by
  rw [walk, dif_neg (Nat.not_lt.mpr h)]

/-- One turn of the loop, at the first element that is not behind it. -/
theorem walk_turn (behind : List A) (x : A) (ahead : List A) :
    walk visit (behind ++ x :: ahead) behind.length =
      let rest := walk visit (behind ++ if (visit x).removed then ahead else x :: ahead)
        (behind.length + 1)
      (rest.1, (visit x).told ++ rest.2) := by
  have hlt : behind.length < (behind ++ x :: ahead).length := by simp
  have hitem : (behind ++ x :: ahead)[behind.length] = x := by simp
  rw [walk, dif_pos hlt, hitem]
  cases hremoved : (visit x).removed with
  | true => simp [hremoved, List.eraseIdx_append_of_length_le (Nat.le_refl behind.length)]
  | false => simp [hremoved]

/-- The loop leaves the survivors and tells what its body tells at the elements reached. -/
theorem walk_eq_append (visit : A → Visit E) (behind ahead : List A) :
    walk visit (behind ++ ahead) behind.length =
      (behind ++ survivors (fun x => (visit x).removed) ahead,
        (reached (fun x => (visit x).removed) ahead).flatMap fun x => (visit x).told) := by
  induction ahead using survivors.induct (fun x => (visit x).removed) generalizing behind with
  | case1 => simp [walk_of_length_le, survivors, reached]
  | case2 x hremoved =>
    rw [walk_turn, if_pos hremoved, walk_of_length_le (by simp)]
    simp [survivors, reached, hremoved]
  | case3 x hkept =>
    rw [walk_turn, if_neg hkept, walk_of_length_le (by simp)]
    simp [survivors, reached, hkept]
  | case4 x y rest hremoved ih =>
    rw [walk_turn, if_pos hremoved]
    have hnext := ih (behind ++ [y])
    rw [List.append_assoc, List.singleton_append, List.length_append,
      List.length_singleton] at hnext
    simp [hnext, survivors, reached, hremoved]
  | case5 x y rest hkept ih =>
    rw [walk_turn, if_neg hkept]
    have hnext := ih (behind ++ [x])
    rw [List.append_assoc, List.singleton_append, List.length_append,
      List.length_singleton] at hnext
    simp [hnext, survivors, reached, hkept]

theorem walk_eq (visit : A → Visit E) (items : List A) :
    walk visit items 0 = (survivors (fun x => (visit x).removed) items,
      (reached (fun x => (visit x).removed) items).flatMap fun x => (visit x).told) := by
  simpa using walk_eq_append visit [] items

theorem scattered_cons_of_not_removes (hx : removes x = false) :
    Scattered removes (x :: items) ↔ Scattered removes items := by
  cases items with
  | nil => simp [Scattered]
  | cons y rest => simp [Scattered, List.isChain_cons_cons, hx]

/-- The loop leaves no element that it would remove exactly when no two of them stand side
    by side. -/
theorem survivors_clean_iff (removes : A → Bool) (items : List A) :
    (∀ x ∈ survivors removes items, removes x = false) ↔ Scattered removes items := by
  induction items using survivors.induct removes with
  | case1 => simp [survivors, Scattered]
  | case2 x hremoved => simp [survivors, hremoved, Scattered]
  | case3 x hkept => simp [survivors, hkept, Scattered]
  | case4 x y rest hremoved ih =>
    rw [survivors, if_pos hremoved, List.forall_mem_cons, ih]
    cases hy : removes y with
    | true => simp [Scattered, List.isChain_cons_cons, hremoved, hy]
    | false =>
      have hpair : ¬ (removes x = true ∧ removes y = true) := by simp [hy]
      have hchain : Scattered removes (x :: y :: rest) ↔ Scattered removes (y :: rest) := by
        simp only [Scattered, List.isChain_cons_cons, and_iff_right hpair]
      rw [hchain, scattered_cons_of_not_removes hy, and_iff_right rfl]
  | case5 x y rest hkept ih =>
    rw [survivors, if_neg hkept, List.forall_mem_cons, ih, Bool.not_eq_true] at *
    rw [scattered_cons_of_not_removes hkept, and_iff_right hkept]

theorem reached_sublist (removes : A → Bool) (items : List A) :
    (reached removes items).Sublist items := by
  induction items using survivors.induct removes with
  | case1 => simp [reached]
  | case2 x => simp [reached]
  | case3 x => simp [reached]
  | case4 x y rest hremoved ih =>
    rw [reached, if_pos hremoved]
    exact (ih.cons y).cons_cons x
  | case5 x y rest hkept ih =>
    rw [reached, if_neg hkept]
    exact ih.cons_cons x

theorem reached_of_kept (hkept : ∀ x ∈ items, removes x = false) :
    reached removes items = items := by
  induction items using survivors.induct removes with
  | case1 => rfl
  | case2 x => rfl
  | case3 x => rfl
  | case4 x y rest hremoved ih => simp [hkept x] at hremoved
  | case5 x y rest hleft ih =>
    rw [reached, if_neg hleft, ih fun z hz => hkept z (List.mem_cons_of_mem x hz)]

/-- How many elements at the end of a list the loop would remove. -/
def trailing (removes : A → Bool) (items : List A) : Nat :=
  (items.reverse.takeWhile removes).length

theorem trailing_append (removes : A → Bool) (behind items : List A) :
    trailing removes (behind ++ items) =
      if items.all removes then items.length + trailing removes behind
      else trailing removes items := by
  induction items using List.reverseRecOn with
  | nil => simp [trailing]
  | append_singleton items x ih =>
    have hlast (before : List A) : trailing removes (before ++ [x]) =
        if removes x then trailing removes before + 1 else 0 := by
      cases hx : removes x <;> simp [trailing, hx]
    rw [← List.append_assoc, hlast, ih, hlast]
    cases hx : removes x with
    | true =>
      by_cases hall : items.all removes
      · simp only [hx, hall, List.all_append, List.all_cons, List.all_nil, List.length_append,
          List.length_singleton, if_true, Bool.and_self]
        omega
      · simp [hx, hall]
    | false => simp [hx]

theorem trailing_of_all (hall : items.all removes = true) :
    trailing removes items = items.length := by
  simpa [hall, trailing] using trailing_append removes [] items

/-- Two elements of which the loop removes the first do not change the parity of those that
    stand at the end. -/
theorem even_trailing_cons_cons (hx : removes x = true) :
    Even (trailing removes (x :: y :: items)) ↔ Even (trailing removes items) := by
  have htwo : Even 2 := ⟨1, rfl⟩
  have hsplit := trailing_append removes [x, y] items
  rw [List.cons_append, List.singleton_append] at hsplit
  cases hall : items.all removes with
  | true =>
    rw [hsplit, if_pos hall, trailing_of_all hall]
    cases hy : removes y <;> simp [trailing, hx, hy, Nat.even_add, htwo]
  | false => simp [hsplit, hall]

theorem trailing_cons_of_not_removes (hx : removes x = false) :
    trailing removes (x :: items) = trailing removes items := by
  rw [← List.singleton_append, trailing_append]
  cases hall : items.all removes with
  | true =>
    rw [if_pos rfl, trailing_of_all hall]
    simp [trailing, hx]
  | false => simp

/-- An element is reached exactly when an even number of elements that the loop would
    remove stand directly before it. -/
theorem mem_reached_iff {before after : List A} (hnodup : (before ++ x :: after).Nodup) :
    x ∈ reached removes (before ++ x :: after) ↔ Even (trailing removes before) := by
  induction before using survivors.induct removes with
  | case1 => cases after <;> simp [reached, trailing]
  | case2 a hremoved =>
    have hfresh : x ≠ a ∧ x ∉ after := by simp at hnodup; tauto
    have hpassed : x ∉ reached removes after := fun h =>
      hfresh.2 ((reached_sublist removes after).mem h)
    simp [reached, hremoved, hfresh.1, hpassed, trailing]
  | case3 a hkept =>
    cases after <;> simp [reached, hkept, trailing]
  | case4 a b before hremoved ih =>
    have hne : x ≠ a := by simp at hnodup; tauto
    have hrest : (before ++ x :: after).Nodup := by simp at hnodup ⊢; tauto
    rw [even_trailing_cons_cons hremoved, ← ih hrest]
    simp [reached, hremoved, hne]
  | case5 a b before hkept ih =>
    have hne : x ≠ a := by simp at hnodup; tauto
    have hrest : (b :: before ++ x :: after).Nodup := by simp at hnodup ⊢; tauto
    rw [trailing_cons_of_not_removes (by simpa using hkept), ← ih hrest]
    simp [reached, hkept, hne]

end loops
