import Mathlib.Data.List.Basic
import Mathlib.Logic.Equiv.Basic

namespace exchange

/-- The first index from `start` on and below `stop` whose slot satisfies `P`. -/
def firstFrom {H : Type} (P : H → Bool) (slots : Nat → H) (start stop : Nat) : Option Nat :=
  (List.range' start (stop - start)).find? fun i => P (slots i)

/-- The first two indices below `count` whose slots satisfy `P`. -/
def firstTwo {H : Type} (P : H → Bool) (slots : Nat → H) (count : Nat) : Option (Nat × Nat) :=
  (firstFrom P slots 0 count).bind fun i =>
    (firstFrom P slots (i + 1) count).map fun j => (i, j)

/-- The slots with the first two that satisfy `P` exchanged, if there are two. -/
def exchangeFirst {H : Type} (P : H → Bool) (count : Nat) (slots : Nat → H) : Nat → H :=
  match firstTwo P slots count with
  | some (i, j) => slots ∘ Equiv.swap i j
  | none => slots

/-- One exchange for each predicate, in turn. -/
def exchangeAll {H : Type} (Ps : List (H → Bool)) (count : Nat) (slots : Nat → H) : Nat → H :=
  Ps.foldl (fun slots P => exchangeFirst P count slots) slots

/-- The pairs of indices exchanged, one at most for each predicate. -/
def pairs {H : Type} (Ps : List (H → Bool)) (count : Nat) (slots : Nat → H) : List (Nat × Nat) :=
  Ps.filterMap fun P => firstTwo P slots count

/-- No slot satisfies two of the predicates. -/
def Exclusive {H : Type} (Ps : List (H → Bool)) : Prop :=
  Ps.Pairwise fun P Q => ∀ slot, ¬ (P slot = true ∧ Q slot = true)

theorem firstFrom_eq_some {H : Type} {P : H → Bool} {slots : Nat → H} {start stop i : Nat}
    (h : firstFrom P slots start stop = some i) :
    start ≤ i ∧ i < stop ∧ P (slots i) = true ∧ ∀ k, start ≤ k → k < i → P (slots k) = false := by
  obtain ⟨hi, before, after, hsplit, hbefore⟩ := List.find?_eq_some_iff_append.mp h
  have hmem : i ∈ List.range' start (stop - start) := by
    rw [hsplit]
    simp
  rw [List.mem_range'_1] at hmem
  refine ⟨hmem.1, by omega, hi, ?_⟩
  intro k hstart hki
  have hk : k ∈ before ++ i :: after := by
    rw [← hsplit, List.mem_range'_1]
    omega
  have hsorted : (before ++ i :: after).Pairwise (· < ·) := by
    rw [← hsplit]
    exact List.pairwise_lt_range'
  rw [List.mem_append, List.mem_cons] at hk
  rcases hk with hk | rfl | hk
  · simpa using hbefore k hk
  · omega
  · have hlater := (List.pairwise_append.mp hsorted).2.1
    have := List.rel_of_pairwise_cons hlater hk
    omega

theorem firstFrom_eq_none {H : Type} {P : H → Bool} {slots : Nat → H} {start stop : Nat} :
    firstFrom P slots start stop = none ↔ ∀ k, start ≤ k → k < stop → P (slots k) = false := by
  unfold firstFrom
  rw [List.find?_eq_none]
  constructor
  · intro h k hstart hstop
    simpa using h k (List.mem_range'_1.mpr (by omega))
  · intro h k hk
    rw [List.mem_range'_1] at hk
    simp [h k (by omega) (by omega)]

/-- The search looks at one slot and goes on behind it. -/
theorem firstFrom_step {H : Type} (P : H → Bool) (slots : Nat → H) {start stop : Nat}
    (h : start < stop) :
    firstFrom P slots start stop =
      if P (slots start) then some start else firstFrom P slots (start + 1) stop := by
  have hcount : stop - start = (stop - (start + 1)) + 1 := by omega
  unfold firstFrom
  rw [hcount, List.range'_succ, List.find?_cons]
  cases P (slots start) <;> rfl

theorem firstFrom_stop {H : Type} (P : H → Bool) (slots : Nat → H) {start stop : Nat}
    (h : stop ≤ start) :
    firstFrom P slots start stop = none := by
  rw [firstFrom_eq_none]
  omega

/-- Two searches that agree on every index the second one visits find the same index. -/
theorem firstFrom_eq_of_agree {H K : Type} {P : H → Bool} {Q : K → Bool} {slots : Nat → H}
    {slots' : Nat → K} {start stop : Nat}
    (h : ∀ k, start ≤ k → k < stop → (∀ i, start ≤ i → i < k → P (slots i) = false) →
      Q (slots' k) = P (slots k)) :
    firstFrom Q slots' start stop = firstFrom P slots start stop := by
  induction hcount : stop - start generalizing start with
  | zero => rw [firstFrom_stop Q slots' (by omega), firstFrom_stop P slots (by omega)]
  | succ count ih =>
    have hlt : start < stop := by omega
    rw [firstFrom_step Q slots' hlt, firstFrom_step P slots hlt,
      h start (Nat.le_refl start) hlt (by omega)]
    cases hP : P (slots start) with
    | true => rfl
    | false =>
      refine ih (fun k hstart hstop hbefore => h k (by omega) hstop fun i hi hik => ?_) (by omega)
      by_cases hfirst : i = start
      · rw [hfirst, hP]
      · exact hbefore i (by omega) hik

theorem firstTwo_eq_some {H : Type} {P : H → Bool} {slots : Nat → H} {count i j : Nat}
    (h : firstTwo P slots count = some (i, j)) :
    i < j ∧ j < count ∧ P (slots i) = true ∧ P (slots j) = true := by
  unfold firstTwo at h
  obtain ⟨i', hi, h⟩ := Option.bind_eq_some_iff.mp h
  obtain ⟨j', hj, heq⟩ := Option.map_eq_some_iff.mp h
  cases heq
  obtain ⟨hlt, hcount, hPj, _⟩ := firstFrom_eq_some hj
  obtain ⟨_, _, hPi, _⟩ := firstFrom_eq_some hi
  exact ⟨by omega, hcount, hPi, hPj⟩

/-- Where two slots satisfy a predicate, there are two first ones. -/
theorem exists_firstTwo {H : Type} {P : H → Bool} {slots : Nat → H} {count i j : Nat} (hij : i < j)
    (hj : j < count) (hPi : P (slots i) = true) (hPj : P (slots j) = true) :
    ∃ a b, firstTwo P slots count = some (a, b) := by
  cases ha : firstFrom P slots 0 count with
  | none =>
    have h := firstFrom_eq_none.mp ha i (Nat.zero_le i) (by omega)
    rw [hPi] at h
    cases h
  | some a =>
    obtain ⟨_, _, _, hbefore⟩ := firstFrom_eq_some ha
    have hai : a ≤ i := by
      by_contra hlt
      have h := hbefore i (Nat.zero_le i) (by omega)
      rw [hPi] at h
      cases h
    cases hb : firstFrom P slots (a + 1) count with
    | none =>
      have h := firstFrom_eq_none.mp hb j (by omega) hj
      rw [hPj] at h
      cases h
    | some b => exact ⟨a, b, by rw [firstTwo, ha, Option.bind_some, hb, Option.map_some]⟩

/-- Which slots satisfy a predicate decides which two are exchanged for it. -/
theorem firstTwo_congr {H : Type} {P : H → Bool} {slots slots' : Nat → H} (count : Nat)
    (h : ∀ k, P (slots' k) = P (slots k)) : firstTwo P slots' count = firstTwo P slots count := by
  simp only [firstTwo, firstFrom, h]

theorem exchangeFirst_of_some {H : Type} {P : H → Bool} {slots : Nat → H} {count i j : Nat}
    (h : firstTwo P slots count = some (i, j)) :
    exchangeFirst P count slots = slots ∘ Equiv.swap i j := by
  simp [exchangeFirst, h]

theorem exchangeFirst_of_none {H : Type} {P : H → Bool} {slots : Nat → H} {count : Nat}
    (h : firstTwo P slots count = none) : exchangeFirst P count slots = slots := by
  simp [exchangeFirst, h]

/-- An exchange moves slots that agree on the predicate itself and on every
    predicate that excludes it, so it changes neither at any index. -/
theorem exchangeFirst_agrees {H : Type} {P Q : H → Bool} (slots : Nat → H) (count k : Nat)
    (hQ : Q = P ∨ ∀ slot, ¬ (P slot = true ∧ Q slot = true)) :
    Q (exchangeFirst P count slots k) = Q (slots k) := by
  cases hpair : firstTwo P slots count with
  | none => rw [exchangeFirst_of_none hpair]
  | some pair =>
    obtain ⟨i, j⟩ := pair
    obtain ⟨_, _, hi, hj⟩ := firstTwo_eq_some hpair
    rw [exchangeFirst_of_some hpair, Function.comp_apply]
    have hsame : Q (slots i) = Q (slots j) := by
      rcases hQ with rfl | hexclusive
      · rw [hi, hj]
      · have hni : Q (slots i) = false := by simpa [hi] using hexclusive (slots i)
        have hnj : Q (slots j) = false := by simpa [hj] using hexclusive (slots j)
        rw [hni, hnj]
    by_cases hki : k = i
    · rw [hki, Equiv.swap_apply_left, hsame]
    · by_cases hkj : k = j
      · rw [hkj, Equiv.swap_apply_right, hsame]
      · rw [Equiv.swap_apply_of_ne_of_ne hki hkj]

theorem pairs_exchangeFirst {H : Type} {P : H → Bool} {Ps : List (H → Bool)} (slots : Nat → H)
    (count : Nat) (hexclusive : ∀ Q ∈ Ps, ∀ slot, ¬ (P slot = true ∧ Q slot = true)) :
    pairs Ps count (exchangeFirst P count slots) = pairs Ps count slots := by
  unfold pairs
  apply List.filterMap_congr
  intro Q hQ
  apply firstTwo_congr
  intro k
  exact exchangeFirst_agrees slots count k (.inr (hexclusive Q hQ))

theorem pairs_cons_of_none {H : Type} {P : H → Bool} (Ps : List (H → Bool)) {slots : Nat → H}
    {count : Nat} (h : firstTwo P slots count = none) :
    pairs (P :: Ps) count slots = pairs Ps count slots := by
  simp [pairs, h]

theorem pairs_cons_of_some {H : Type} {P : H → Bool} (Ps : List (H → Bool)) {slots : Nat → H}
    {count : Nat} {pair : Nat × Nat} (h : firstTwo P slots count = some pair) :
    pairs (P :: Ps) count slots = pair :: pairs Ps count slots := by
  simp [pairs, h]

theorem exchangeAll_cons {H : Type} (P : H → Bool) (Ps : List (H → Bool)) (count : Nat)
    (slots : Nat → H) :
    exchangeAll (P :: Ps) count slots = exchangeAll Ps count (exchangeFirst P count slots) := rfl

/-- Slots outside all pairs stay. -/
theorem exchangeAll_outside {H : Type} {Ps : List (H → Bool)} (slots : Nat → H) {count k : Nat}
    (hexclusive : Exclusive Ps) (houtside : ∀ pair ∈ pairs Ps count slots, k ≠ pair.1 ∧ k ≠ pair.2) :
    exchangeAll Ps count slots k = slots k := by
  induction Ps generalizing slots with
  | nil => rfl
  | cons P Ps ih =>
    obtain ⟨hP, hPs⟩ := List.pairwise_cons.mp hexclusive
    have hrest : ∀ pair ∈ pairs Ps count slots, k ≠ pair.1 ∧ k ≠ pair.2 := by
      intro pair hpair
      obtain ⟨Q, hQ, hfirst⟩ := List.mem_filterMap.mp hpair
      exact houtside pair (List.mem_filterMap.mpr ⟨Q, List.mem_cons_of_mem P hQ, hfirst⟩)
    rw [exchangeAll_cons, ih _ hPs (by rwa [pairs_exchangeFirst slots count hP])]
    cases hpair : firstTwo P slots count with
    | none => rw [exchangeFirst_of_none hpair]
    | some pair =>
      have hne := houtside pair (List.mem_filterMap.mpr ⟨P, List.mem_cons_self, hpair⟩)
      rw [exchangeFirst_of_some hpair, Function.comp_apply,
        Equiv.swap_apply_of_ne_of_ne hne.1 hne.2]

/-- The slots of a pair are exchanged: no other predicate holds of them, so no
    other exchange moves them. -/
theorem exchangeAll_pair {H : Type} {Ps : List (H → Bool)} (slots : Nat → H) {count i j : Nat}
    (hexclusive : Exclusive Ps) (hpair : (i, j) ∈ pairs Ps count slots) :
    exchangeAll Ps count slots i = slots j ∧ exchangeAll Ps count slots j = slots i := by
  induction Ps generalizing slots with
  | nil => simp [pairs] at hpair
  | cons P Ps ih =>
    obtain ⟨hP, hPs⟩ := List.pairwise_cons.mp hexclusive
    obtain ⟨Q, hQ, hfirst⟩ := List.mem_filterMap.mp hpair
    obtain ⟨hlt, _, hQi, hQj⟩ := firstTwo_eq_some hfirst
    rw [exchangeAll_cons]
    rcases List.mem_cons.mp hQ with rfl | hQ
    · have hapart (k : Nat) (hk : Q (slots k) = true) :
          ∀ pair ∈ pairs Ps count (exchangeFirst Q count slots), k ≠ pair.1 ∧ k ≠ pair.2 := by
        rw [pairs_exchangeFirst slots count hP]
        rintro ⟨i', j'⟩ hpair'
        obtain ⟨R, hR, hfirst'⟩ := List.mem_filterMap.mp hpair'
        obtain ⟨_, _, hRi, hRj⟩ := firstTwo_eq_some hfirst'
        constructor
        · rintro rfl
          exact hP R hR _ ⟨hk, hRi⟩
        · rintro rfl
          exact hP R hR _ ⟨hk, hRj⟩
      rw [exchangeAll_outside _ hPs (hapart i hQi), exchangeAll_outside _ hPs (hapart j hQj),
        exchangeFirst_of_some hfirst]
      simp
    · have hQexclusive := hP Q hQ
      have hstay (k : Nat) (hk : Q (slots k) = true) : exchangeFirst P count slots k = slots k := by
        cases hfirstP : firstTwo P slots count with
        | none => rw [exchangeFirst_of_none hfirstP]
        | some pair =>
          obtain ⟨i', j'⟩ := pair
          obtain ⟨_, _, hPi, hPj⟩ := firstTwo_eq_some hfirstP
          rw [exchangeFirst_of_some hfirstP, Function.comp_apply, Equiv.swap_apply_of_ne_of_ne]
          · rintro rfl
            exact hQexclusive _ ⟨hPi, hk⟩
          · rintro rfl
            exact hQexclusive _ ⟨hPj, hk⟩
      have h := ih (exchangeFirst P count slots) hPs (by
        rw [pairs_exchangeFirst slots count hP]
        exact List.mem_filterMap.mpr ⟨Q, hQ, hfirst⟩)
      rwa [hstay i hQi, hstay j hQj] at h

/-- Exchanges for a predicate and for those that exclude it do not change where it holds. -/
theorem exchangeAll_agrees {H : Type} {Q : H → Bool} {Ps : List (H → Bool)} (slots : Nat → H)
    (count k : Nat) (hQ : ∀ P ∈ Ps, Q = P ∨ ∀ slot, ¬ (P slot = true ∧ Q slot = true)) :
    Q (exchangeAll Ps count slots k) = Q (slots k) := by
  induction Ps generalizing slots with
  | nil => rfl
  | cons P Ps ih =>
    rw [exchangeAll_cons, ih _ fun R hR => hQ R (List.mem_cons_of_mem P hR)]
    exact exchangeFirst_agrees slots count k (hQ P List.mem_cons_self)

/-- Of the predicates of an exclusive list, two that differ exclude one another. -/
theorem Exclusive.eq_or {H : Type} {Ps : List (H → Bool)} (hexclusive : Exclusive Ps)
    {P Q : H → Bool} (hP : P ∈ Ps) (hQ : Q ∈ Ps) :
    Q = P ∨ ∀ slot, ¬ (P slot = true ∧ Q slot = true) := by
  have hforward : Ps.Pairwise fun P Q => Q = P ∨ ∀ slot, ¬ (P slot = true ∧ Q slot = true) :=
    hexclusive.imp .inr
  have hbackward : Ps.Pairwise (flip fun P Q => Q = P ∨ ∀ slot, ¬ (P slot = true ∧ Q slot = true)) :=
    hexclusive.imp fun h => .inr fun slot h' => h slot h'.symm
  exact hforward.forall_of_forall_of_flip (fun _ _ => .inl rfl) hbackward hP hQ

theorem pairs_exchangeAll {H : Type} {Ps : List (H → Bool)} (slots : Nat → H) (count : Nat)
    (hexclusive : Exclusive Ps) : pairs Ps count (exchangeAll Ps count slots) = pairs Ps count slots := by
  unfold pairs
  apply List.filterMap_congr
  intro Q hQ
  apply firstTwo_congr
  intro k
  exact exchangeAll_agrees slots count k fun P hP => hexclusive.eq_or hP hQ

/-- Exchanging all pairs twice gives back the slots. -/
theorem exchangeAll_exchangeAll {H : Type} {Ps : List (H → Bool)} (slots : Nat → H) (count : Nat)
    (hexclusive : Exclusive Ps) : exchangeAll Ps count (exchangeAll Ps count slots) = slots := by
  have hpairs := pairs_exchangeAll slots count hexclusive
  funext k
  by_cases houtside : ∀ pair ∈ pairs Ps count slots, k ≠ pair.1 ∧ k ≠ pair.2
  · rw [exchangeAll_outside _ hexclusive (by rwa [hpairs]), exchangeAll_outside _ hexclusive houtside]
  · simp only [not_forall] at houtside
    obtain ⟨⟨i, j⟩, hpair, hk⟩ := houtside
    obtain ⟨hi, hj⟩ := exchangeAll_pair slots hexclusive hpair
    obtain ⟨hi', hj'⟩ := exchangeAll_pair (exchangeAll Ps count slots) hexclusive (by rwa [hpairs])
    by_cases hki : k = i
    · rw [hki, hi', hj]
    · have hkj : k = j := by
        by_contra hne
        exact hk ⟨hki, hne⟩
      rw [hkj, hj', hi]

end exchange
