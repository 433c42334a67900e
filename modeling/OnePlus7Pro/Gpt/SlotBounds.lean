import OnePlus7Pro.Gpt.ChainSwap
import Mathlib.Data.Fintype.BigOperators

open regions effects exchange

namespace gpt_utils

/-- Along the exchanges for the names, each of which starts from the array that the one before
    leaves, the second entry of a pair lies within the array as far as it is copied. -/
def SwapsFit (pentry_size count : Nat) : (names : List Buffer) → (pentries : Buffer) → Prop
  | [], _ => True
  | name :: names, pentries =>
    match firstTwo (carries name) (entryHead pentries pentry_size) count with
    | some (i, j) =>
      j * pentry_size + PTN_ENTRY_SIZE ≤ pentries.length ∧
        SwapsFit pentry_size count names (exchangeHeads pentries pentry_size i j)
    | none => SwapsFit pentry_size count names pentries

theorem mapM_error {A B : Type} {f : A → Except Fault B} {as : List A} {fault : Fault}
    (hcases : ∀ a ∈ as, (∃ b, f a = .ok b) ∨ f a = .error fault) {a : A} (ha : a ∈ as)
    (hfault : f a = .error fault) : as.mapM f = .error fault := by
  induction as with
  | nil => cases ha
  | cons first as ih =>
    rw [List.forall_mem_cons] at hcases
    rw [List.mapM_cons]
    obtain ⟨b, hfirst⟩ | hfirst := hcases.1
    · obtain rfl | ha := List.mem_cons.mp ha
      · rw [hfault] at hfirst
        cases hfirst
      · rw [hfirst]
        change (as.mapM f >>= fun bs => pure (b :: bs)) = _
        rw [ih hcases.2 ha]
        rfl
    · rw [hfirst]
      rfl

/-- Reading a name whose last unit lies beyond the array leaves the array. -/
theorem read_name8_error {pentries : Buffer} {pentry_size k : Nat}
    (hroom : pentries.length < k * pentry_size + 127) :
    read_name8 pentries (k * pentry_size + PARTITION_NAME_OFFSET) = .error .out_of_bounds := by
  have hload (ptr : Nat) :
      (∃ byte, load pentries ptr = .ok byte) ∨ load pentries ptr = .error .out_of_bounds := by
    unfold load
    cases pentries[ptr]? with
    | some byte => exact Or.inl ⟨byte, rfl⟩
    | none => exact Or.inr rfl
  refine mapM_error (a := 35) (fun i _ => hload _) (by decide) ?_
  rw [load, List.getElem?_eq_none (by simp only [PARTITION_NAME_OFFSET]; omega)]

variable {pentry_size : Nat}

section seek

variable {ptn_name pentries : Buffer}

theorem carries_prefix {head : Buffer} (hcarries : carries ptn_name head = true) :
    ptn_name <+: headName head := by
  rw [carries, Bool.or_eq_true, List.isPrefixOf_iff_prefix, List.isPrefixOf_iff_prefix] at hcarries
  obtain hplain | hbak := hcarries
  · exact (List.prefix_append _ _).trans hplain
  · exact (List.prefix_append _ _).trans hbak

/-- Fewer than `2 ^ 32` entries cannot carry all names of 32 letters out of two. -/
theorem exists_absent (heads : Nat → Buffer) {count : Nat} (hcount : count < 2 ^ 32) :
    ∃ name : Buffer, name.length = 32 ∧ 0 ∉ name ∧ ∀ k < count, carries name (heads k) = false := by
  let spell (letters : Fin 32 → Bool) : Buffer := List.ofFn fun i => if letters i then 0x61 else 0x62
  have hlength (letters : Fin 32 → Bool) : (spell letters).length = 32 := List.length_ofFn
  by_contra hnone
  have hcarried (letters : Fin 32 → Bool) : ∃ k : Fin count, carries (spell letters) (heads k) = true := by
    by_contra habsent
    refine hnone ⟨spell letters, hlength letters, ?_, fun k hk => ?_⟩
    · rw [List.mem_ofFn]
      rintro ⟨i, hi⟩
      revert hi
      split <;> decide
    · rw [Bool.eq_false_iff]
      exact fun hcarries => habsent ⟨⟨k, hk⟩, hcarries⟩
  choose slot hslot using hcarried
  have hinjective : Function.Injective slot := by
    intro letters letters' hsame
    have hprefix := carries_prefix (hslot letters)
    have hprefix' := carries_prefix (hslot letters')
    rw [← hsame] at hprefix'
    have hspelled : spell letters = spell letters' :=
      (List.prefix_of_prefix_length_le hprefix hprefix' (by rw [hlength, hlength])).eq_of_length
        (by rw [hlength, hlength])
    have hletters := List.ofFn_injective hspelled
    funext i
    have hi := congrFun hletters i
    cases h : letters i <;> cases h' : letters' i <;> simp_all
  have hcard := Fintype.card_le_of_injective slot hinjective
  simp only [Fintype.card_fin, Fintype.card_fun, Fintype.card_bool] at hcard
  omega

/-- A search that finds nothing before a test which fails, fails. -/
theorem findM?_error {test : Nat → Except Fault Bool} {fault : Fault} {start count k : Nat}
    (hstart : start ≤ k) (hk : k < start + count)
    (hbefore : ∀ i, start ≤ i → i < k → test i = .ok false) (hfault : test k = .error fault) :
    (List.range' start count).findM? test = .error fault := by
  induction count generalizing start with
  | zero => omega
  | succ count ih =>
    rw [List.range'_succ, List.findM?]
    by_cases hfirst : start = k
    · rw [hfirst, hfault]
      rfl
    · rw [hbefore start (Nat.le_refl start) (by omega)]
      exact ih (by omega) (by omega) fun i hi hik => hbefore i (by omega) hik

/-- Where an entry does not fit, the search for some name of 32 characters reads beyond the array. -/
theorem gpt_pentry_seek_beyond (hsize : pentries.length < 2 ^ 32)
    (hfit : ¬ SlotsFit pentries.length pentry_size) :
    ∃ name : Buffer, name.length = 32 ∧ 0 ∉ name ∧
      gpt_pentry_seek name pentries 0 pentries.length pentry_size = .error .out_of_bounds := by
  classical
  have hexists : ∃ k, k < slotCount pentries.length pentry_size ∧ pentries.length < k * pentry_size + 127 := by
    simpa [SlotsFit] using hfit
  obtain ⟨⟨hk, hbeyond⟩, hfirst⟩ := Nat.find_spec hexists, @Nat.find_min _ _ hexists
  generalize Nat.find hexists = k at hk hbeyond hfirst
  have hpositive : 0 < pentry_size := by
    by_contra hzero
    rw [slotCount, Nat.eq_zero_of_not_pos hzero, Nat.div_zero] at hk
    omega
  have hslots := slotCount_le pentries.length hpositive
  obtain ⟨name, hlength, hzero, habsent⟩ :=
    exists_absent (entryHead pentries pentry_size) (show k < 2 ^ 32 by omega)
  refine ⟨name, hlength, hzero, ?_⟩
  have hseek := @gpt_pentry_seek_slots pentries pentry_size pentries.length 0 name hpositive (Nat.zero_le _)
  rw [Nat.zero_mul] at hseek
  rw [hseek, @findM?_error _ .out_of_bounds 0 _ k (Nat.zero_le k) (by omega)]
  · rfl
  · intro i _ hik
    have hroom : i * pentry_size + 127 ≤ pentries.length := by
      by_contra hover
      exact hfirst hik ⟨by omega, by omega⟩
    rw [read_name8_eq hroom]
    exact (name_matches_eq (by omega)).trans (congrArg Except.ok (habsent i hik))
  · rw [read_name8_error hbeyond]
    rfl

end seek

/-- The loop of the exchange stays within the array if all exchanges do, and else leaves it. -/
theorem gpt_boot_chain_swap.loop_fit (env : Env) (names : List Buffer) (flag : Int) {pentries : Buffer}
    (hshort : ∀ name ∈ names, name.length + 4 ≤ 36) (hempty : pentry_size = 0 → pentries = [])
    (hfit : SlotsFit pentries.length pentry_size) :
    (SwapsFit pentry_size (slotCount pentries.length pentry_size)
        (names.filter fun name => !skipped env name) pentries →
      ∃ r pentries', names.foldlM (gpt_boot_chain_swap.turn env pentries.length pentry_size)
        (flag, pentries) = .ok (r, pentries') ∧ pentries'.length = pentries.length) ∧
    (¬ SwapsFit pentry_size (slotCount pentries.length pentry_size)
        (names.filter fun name => !skipped env name) pentries →
      names.foldlM (gpt_boot_chain_swap.turn env pentries.length pentry_size) (flag, pentries) =
        .error .out_of_bounds) := by
  induction names generalizing flag pentries with
  | nil => exact ⟨fun _ => ⟨flag, pentries, rfl, rfl⟩, fun h => absurd trivial h⟩
  | cons name names ih =>
    rw [List.forall_mem_cons] at hshort
    rw [List.foldlM_cons]
    cases hskipped : skipped env name with
    | true =>
      have hturn : gpt_boot_chain_swap.turn env pentries.length pentry_size (flag, pentries) name =
          .ok (flag, pentries) := by
        simp [turn, hskipped]
        rfl
      rw [hturn, List.filter_cons_of_neg (by simp [hskipped])]
      exact ih flag hshort.2 hempty hfit
    | false =>
      rw [turn_fit env flag hshort.1 hempty hfit hskipped, List.filter_cons_of_pos (by simp [hskipped]), SwapsFit]
      cases hpair : firstTwo (carries name) (entryHead pentries pentry_size)
          (slotCount pentries.length pentry_size) with
      | none => exact ih flag hshort.2 hempty hfit
      | some pair =>
        obtain ⟨i, j⟩ := pair
        have hlength := length_exchangeHeads pentries pentry_size i j
        have hrest := @ih 0 (exchangeHeads pentries pentry_size i j) hshort.2
          (fun hzero => by rw [← List.length_eq_zero_iff, hlength, hempty hzero]; rfl) (hlength ▸ hfit)
        rw [hlength] at hrest
        by_cases hlast : j * pentry_size + PTN_ENTRY_SIZE ≤ pentries.length
        · simp only [hlast, if_true, true_and]
          exact hrest
        · simp only [hlast, if_false, false_and, not_false_eq_true]
          exact ⟨False.elim, fun _ => rfl⟩

/-- `gpt_boot_chain_swap` stays within the array exactly if all exchanges do. -/
theorem gpt_boot_chain_swap_fit (env : Env) {pentries : Buffer} (hempty : pentry_size = 0 → pentries = [])
    (hfit : SlotsFit pentries.length pentry_size) :
    (SwapsFit pentry_size (slotCount pentries.length pentry_size) (swapNames env) pentries →
      ∃ r pentries', gpt_boot_chain_swap env pentries pentries.length pentry_size = .ok (r, pentries') ∧
        pentries'.length = pentries.length) ∧
    (¬ SwapsFit pentry_size (slotCount pentries.length pentry_size) (swapNames env) pentries →
      gpt_boot_chain_swap env pentries pentries.length pentry_size = .error .out_of_bounds) :=
  gpt_boot_chain_swap.loop_fit env PTN_SWAP_LIST 1 PTN_SWAP_LIST_short hempty hfit

/-- Where every entry has all the bytes that are exchanged, all exchanges stay within the array. -/
theorem swapsFit_of_whole {count size : Nat}
    (hwhole : ∀ k < count, k * pentry_size + PTN_ENTRY_SIZE ≤ size) (names : List Buffer)
    {pentries : Buffer} (hsize : pentries.length = size) : SwapsFit pentry_size count names pentries := by
  induction names generalizing pentries with
  | nil => trivial
  | cons name names ih =>
    rw [SwapsFit]
    cases hpair : firstTwo (carries name) (entryHead pentries pentry_size) count with
    | none => exact ih hsize
    | some pair =>
      obtain ⟨i, j⟩ := pair
      exact ⟨hsize ▸ hwhole j (firstTwo_eq_some hpair).2.1,
        ih ((length_exchangeHeads pentries pentry_size i j).trans hsize)⟩

end gpt_utils
