import OnePlus7Pro.Gpt.EntrySlots

open regions effects exchange

namespace gpt_utils

/-- What entry `k` holds behind its first 128 bytes. -/
def entryTail (pentries : Buffer) (pentry_size k : Nat) : Buffer :=
  slice pentries (k * pentry_size + PTN_ENTRY_SIZE) (pentry_size - PTN_ENTRY_SIZE)

/-- The names of the partitions whose entries are exchanged with those of their backups. -/
def swapNames (env : Env) : List Buffer := PTN_SWAP_LIST.filter fun name => !skipped env name

/-- The pairs of entries that `gpt_boot_chain_swap` handles in an array of `count` entries. -/
def handledPairs (env : Env) (pentries : Buffer) (pentry_size count : Nat) : List (Nat × Nat) :=
  pairs ((swapNames env).map carries) count (entryHead pentries pentry_size)

/-- One array is another with the handled pairs exchanged: the first 128 bytes of the
    entries of each pair change places, and no other byte differs. -/
structure ChainSwapped (env : Env) (pentry_size count : Nat) (pentries pentries' : Buffer) :
    Prop where
  length_eq : pentries'.length = pentries.length
  exchanged : ∀ pair ∈ handledPairs env pentries pentry_size count,
    entryHead pentries' pentry_size pair.1 = entryHead pentries pentry_size pair.2 ∧
    entryHead pentries' pentry_size pair.2 = entryHead pentries pentry_size pair.1
  kept : ∀ k, (∀ pair ∈ handledPairs env pentries pentry_size count, k ≠ pair.1 ∧ k ≠ pair.2) →
    entryHead pentries' pentry_size k = entryHead pentries pentry_size k
  tails : ∀ k, entryTail pentries' pentry_size k = entryTail pentries pentry_size k

private theorem mul_succ_le {k n p : Nat} (h : k < n) : k * p + p ≤ n * p := by
  rw [← Nat.succ_mul]
  exact Nat.mul_le_mul_right p h

/-- The search compares the names of the entries in array order until one matches. -/
theorem gpt_pentry_seek_findM {pentries : Buffer} {pentry_size count : Nat} (ptn_name : Buffer) (k : Nat)
    (hsize : PTN_ENTRY_SIZE ≤ pentry_size) (hlength : pentries.length = count * pentry_size)
    (hk : k ≤ count) :
    gpt_pentry_seek ptn_name pentries (k * pentry_size) (count * pentry_size) pentry_size =
      Option.map (· * pentry_size) <$> (List.range' k (count - k)).findM? fun i =>
        name_matches ptn_name (headName (entryHead pentries pentry_size i)) := by
  have hslots := slotCount_mul count hsize
  simp only [PTN_ENTRY_SIZE] at hsize
  rw [gpt_pentry_seek_slots ptn_name (by omega) (by omega), hslots]
  congr 1
  apply findM?_congr
  intro i hi
  rw [List.mem_range'_1] at hi
  have hfits := mul_succ_le (p := pentry_size) (show i < count by omega)
  rw [read_name8_eq (by omega)]
  rfl

/-- An array of entries of at least 128 bytes has all bytes of each that are exchanged. -/
theorem slots_whole {pentry_size count k : Nat} (hsize : PTN_ENTRY_SIZE ≤ pentry_size)
    (hk : k < slotCount (count * pentry_size) pentry_size) :
    k * pentry_size + PTN_ENTRY_SIZE ≤ count * pentry_size := by
  rw [slotCount_mul count hsize] at hk
  have hroom := mul_succ_le (p := pentry_size) hk
  omega

theorem slotsFit_of_whole {pentry_size : Nat} (count : Nat) (hsize : PTN_ENTRY_SIZE ≤ pentry_size) :
    SlotsFit (count * pentry_size) pentry_size := by
  intro k hk
  have hroom := slots_whole hsize hk
  simp only [PTN_ENTRY_SIZE] at hroom
  omega

private theorem entries_apart {p i k : Nat} (hsize : 128 ≤ p) (hne : k ≠ i) :
    Apart (k * p) 128 (i * p) 128 := by
  unfold Apart
  rcases Nat.lt_or_gt_of_ne hne with hlt | hgt
  · have := mul_succ_le (p := p) hlt
    omega
  · have := mul_succ_le (p := p) hgt
    omega

private theorem tail_apart {p i k : Nat} (hsize : 128 ≤ p) :
    Apart (k * p + 128) (p - 128) (i * p) 128 := by
  unfold Apart
  rcases Nat.lt_or_ge k i with hlt | hge
  · have := mul_succ_le (p := p) hlt
    omega
  · have := Nat.mul_le_mul_right p hge
    omega

section exchange

variable {pentries : Buffer} {pentry_size count : Nat}

theorem length_entryHead (hsize : PTN_ENTRY_SIZE ≤ pentry_size)
    (hlength : pentries.length = count * pentry_size) {k : Nat} (hk : k < count) :
    (entryHead pentries pentry_size k).length = 128 := by
  simp only [PTN_ENTRY_SIZE] at hsize
  have := mul_succ_le (p := pentry_size) hk
  apply length_slice_of_le
  simp only [PTN_ENTRY_SIZE]
  omega

theorem entryHead_exchangeHeads (hsize : PTN_ENTRY_SIZE ≤ pentry_size)
    (hlength : pentries.length = count * pentry_size) {i j : Nat} (hij : i < j) (hj : j < count) :
    entryHead (exchangeHeads pentries pentry_size i j) pentry_size =
      entryHead pentries pentry_size ∘ Equiv.swap i j := by
  have hi' := length_entryHead hsize hlength (Nat.lt_trans hij hj)
  have hj' := length_entryHead hsize hlength hj
  have hroomi := mul_succ_le (p := pentry_size) (Nat.lt_trans hij hj)
  have hroomj := mul_succ_le (p := pentry_size) hj
  simp only [PTN_ENTRY_SIZE] at hsize
  funext k
  rw [Function.comp_apply]
  have hself (buf data : Buffer) (offset : Nat) (hdata : data.length = 128)
      (hroom : offset + 128 ≤ buf.length) : slice (patch buf offset data) offset 128 = data := by
    rw [← hdata]
    exact slice_patch_self (by omega)
  by_cases hki : k = i
  · rw [hki, Equiv.swap_apply_left, entryHead, exchangeHeads,
      slice_patch_of_apart _ (by rw [hi']; exact entries_apart hsize (by omega))]
    exact hself _ _ _ hj' (by omega)
  · by_cases hkj : k = j
    · rw [hkj, Equiv.swap_apply_right, entryHead, exchangeHeads]
      exact hself _ _ _ hi' (by rw [length_patch]; omega)
    · rw [Equiv.swap_apply_of_ne_of_ne hki hkj, entryHead, exchangeHeads,
        slice_patch_of_apart _ (by rw [hi']; exact entries_apart hsize hkj),
        slice_patch_of_apart _ (by rw [hj']; exact entries_apart hsize hki)]
      rfl

theorem entryTail_exchangeHeads (hsize : PTN_ENTRY_SIZE ≤ pentry_size)
    (hlength : pentries.length = count * pentry_size) {i j : Nat} (hij : i < j) (hj : j < count)
    (k : Nat) :
    entryTail (exchangeHeads pentries pentry_size i j) pentry_size k = entryTail pentries pentry_size k := by
  have hi' := length_entryHead hsize hlength (Nat.lt_trans hij hj)
  have hj' := length_entryHead hsize hlength hj
  rw [entryTail, exchangeHeads, slice_patch_of_apart _ (by rw [hi']; exact tail_apart hsize),
    slice_patch_of_apart _ (by rw [hj']; exact tail_apart hsize)]
  rfl

/-- One turn of the loop exchanges the first two entries that carry the name, and
    reports that it did; with fewer than two it changes nothing. -/
theorem gpt_boot_chain_swap.turn_eq (env : Env) {ptn_name : Buffer} (flag : Int)
    (hshort : ptn_name.length + 4 ≤ 36) (hsize : PTN_ENTRY_SIZE ≤ pentry_size)
    (hlength : pentries.length = count * pentry_size) (hskipped : skipped env ptn_name = false) :
    gpt_boot_chain_swap.turn env (count * pentry_size) pentry_size (flag, pentries) ptn_name =
      match firstTwo (carries ptn_name) (entryHead pentries pentry_size) count with
      | some (i, j) => .ok (0, exchangeHeads pentries pentry_size i j)
      | none => .ok (flag, pentries) := by
  have hslots : slotCount pentries.length pentry_size = count := by rw [hlength, slotCount_mul count hsize]
  have hpositive : pentry_size ≠ 0 := by simp only [PTN_ENTRY_SIZE] at hsize; omega
  have hturn := turn_fit env flag hshort (fun hzero => absurd hzero hpositive)
    (hlength ▸ slotsFit_of_whole count hsize) hskipped
  rw [hslots, hlength] at hturn
  rw [hturn]
  cases hpair : firstTwo (carries ptn_name) (entryHead pentries pentry_size) count with
  | none => rfl
  | some pair =>
    obtain ⟨i, j⟩ := pair
    have hroom := mul_succ_le (p := pentry_size) (firstTwo_eq_some hpair).2.1
    exact if_pos (by omega)

/-- The loop over any list of names that exclude one another carries out all their
    exchanges, reports whether there was one, and touches nothing else. -/
theorem gpt_boot_chain_swap.loop_eq (env : Env) (names : List Buffer) (flag : Int)
    (hshort : ∀ name ∈ names, name.length + 4 ≤ 36) (hsize : PTN_ENTRY_SIZE ≤ pentry_size)
    (hlength : pentries.length = count * pentry_size)
    (hexclusive : Exclusive ((names.filter fun name => !skipped env name).map carries)) :
    ∃ pentries',
      names.foldlM (gpt_boot_chain_swap.turn env (count * pentry_size) pentry_size) (flag, pentries) =
        .ok (if pairs ((names.filter fun name => !skipped env name).map carries) count
          (entryHead pentries pentry_size) = [] then flag else 0, pentries') ∧
      pentries'.length = pentries.length ∧
      entryHead pentries' pentry_size =
        exchangeAll ((names.filter fun name => !skipped env name).map carries) count
          (entryHead pentries pentry_size) ∧
      (∀ k, entryTail pentries' pentry_size k = entryTail pentries pentry_size k) ∧
      (pairs ((names.filter fun name => !skipped env name).map carries) count
        (entryHead pentries pentry_size) = [] → pentries' = pentries) := by
  induction names generalizing flag pentries with
  | nil => exact ⟨pentries, rfl, rfl, rfl, fun _ => rfl, fun _ => rfl⟩
  | cons name names ih =>
    have hshortName := hshort name List.mem_cons_self
    have hshortNames : ∀ name ∈ names, name.length + 4 ≤ 36 :=
      fun other h => hshort other (List.mem_cons_of_mem name h)
    rw [List.foldlM_cons]
    cases hskipped : skipped env name with
    | true =>
      have hturn : gpt_boot_chain_swap.turn env (count * pentry_size) pentry_size (flag, pentries) name =
          .ok (flag, pentries) := by
        simp [turn, hskipped]
        rfl
      rw [hturn]
      simp only [List.filter_cons, hskipped, Bool.not_true, Bool.false_eq_true,
        if_false] at hexclusive ⊢
      exact ih flag hshortNames hlength hexclusive
    | false =>
      rw [turn_eq env flag hshortName hsize hlength hskipped]
      simp only [List.filter_cons, hskipped, Bool.not_false, if_true, List.map_cons] at hexclusive ⊢
      obtain ⟨hname, hnames⟩ := List.pairwise_cons.mp hexclusive
      cases hpair : firstTwo (carries name) (entryHead pentries pentry_size) count with
      | none =>
        obtain ⟨pentries', hloop, hlength', hheads, htails, hsame⟩ :=
          ih flag hshortNames hlength hnames
        rw [pairs_cons_of_none _ hpair, exchangeAll_cons, exchangeFirst_of_none hpair]
        exact ⟨pentries', hloop, hlength', hheads, htails, hsame⟩
      | some pair =>
        obtain ⟨i, j⟩ := pair
        obtain ⟨hij, hjcount, _, _⟩ := firstTwo_eq_some hpair
        have hhead := entryHead_exchangeHeads hsize hlength hij hjcount
        have hlength_exchanged := (length_exchangeHeads pentries pentry_size i j).trans hlength
        obtain ⟨pentries', hloop, hlength', hheads, htails, _⟩ :=
          ih 0 hshortNames hlength_exchanged hnames
        rw [ite_self] at hloop
        rw [pairs_cons_of_some _ hpair, exchangeAll_cons, exchangeFirst_of_some hpair, ← hhead]
        refine ⟨pentries', hloop, by simpa using hlength', hheads, ?_, ?_⟩
        · intro k
          rw [htails k, entryTail_exchangeHeads hsize hlength hij hjcount]
        · intro hnil
          cases hnil

/-- Two terminated strings at the start of one buffer are the same string. -/
private theorem terminated_unique {s t buf : Buffer} (hs : 0 ∉ s) (ht : 0 ∉ t)
    (hsb : (s ++ [0]).isPrefixOf buf = true) (htb : (t ++ [0]).isPrefixOf buf = true) : s = t := by
  induction s generalizing t buf with
  | nil =>
    cases t with
    | nil => rfl
    | cons d t =>
      cases buf with
      | nil => simp at hsb
      | cons b buf =>
        simp only [List.nil_append, List.cons_append, List.isPrefixOf_cons_cons, Bool.and_eq_true,
          beq_iff_eq] at hsb htb
        rw [← hsb.1] at htb
        simp [htb.1] at ht
  | cons c s ih =>
    cases buf with
    | nil => simp at hsb
    | cons b buf =>
      cases t with
      | nil =>
        simp only [List.nil_append, List.cons_append, List.isPrefixOf_cons_cons, Bool.and_eq_true,
          beq_iff_eq] at hsb htb
        rw [← htb.1] at hsb
        simp [hsb.1] at hs
      | cons d t =>
        simp only [List.cons_append, List.isPrefixOf_cons_cons, Bool.and_eq_true, beq_iff_eq,
          List.mem_cons, not_or] at hsb htb hs ht
        rw [ih hs.2 ht.2 hsb.2 htb.2, hsb.1, htb.1]

/-- Neither name is the other, nor the other followed by `bak`, nor has a terminator inside. -/
def Unrelated (name other : Buffer) : Prop :=
  0 ∉ name ∧ 0 ∉ other ∧ name ≠ other ∧ name ≠ other ++ BAK_PTN_NAME_EXT ∧
  name ++ BAK_PTN_NAME_EXT ≠ other

instance (name other : Buffer) : Decidable (Unrelated name other) :=
  inferInstanceAs (Decidable (_ ∧ _))

theorem Unrelated.exclusive {name other : Buffer} (h : Unrelated name other) (head : Buffer) :
    ¬ (carries name head = true ∧ carries other head = true) := by
  obtain ⟨hname, hother, hne, hneBak, hbakNe⟩ := h
  have hbak : (0 : UInt8) ∉ BAK_PTN_NAME_EXT := by decide
  have hnameBak : 0 ∉ name ++ BAK_PTN_NAME_EXT := by simp [hname, hbak]
  have hotherBak : 0 ∉ other ++ BAK_PTN_NAME_EXT := by simp [hother, hbak]
  unfold carries
  rw [← List.append_assoc, ← List.append_assoc, Bool.or_eq_true, Bool.or_eq_true]
  rintro ⟨hcarries | hcarries, hcarries' | hcarries'⟩
  · exact hne (terminated_unique hname hother hcarries hcarries')
  · exact hneBak (terminated_unique hname hotherBak hcarries hcarries')
  · exact hbakNe (terminated_unique hnameBak hother hcarries hcarries')
  · exact hne (List.append_cancel_right (terminated_unique hnameBak hotherBak hcarries hcarries'))

theorem PTN_SWAP_LIST_unrelated : PTN_SWAP_LIST.Pairwise Unrelated := by decide

theorem PTN_SWAP_LIST_short : ∀ name ∈ PTN_SWAP_LIST, name.length + 4 ≤ 36 := by decide

/-- No entry carries two of the names of the swap list. -/
theorem swapNames_exclusive (env : Env) : Exclusive ((swapNames env).map carries) := by
  unfold Exclusive swapNames
  rw [List.pairwise_map]
  apply (PTN_SWAP_LIST_unrelated.filter _).imp
  intro name other h
  exact h.exclusive

/-- The array that `gpt_boot_chain_swap` leaves is the given one with the handled
    pairs exchanged, and the function reports whether there was such a pair. -/
theorem gpt_boot_chain_swap_spec (env : Env) (hsize : PTN_ENTRY_SIZE ≤ pentry_size)
    (hlength : pentries.length = count * pentry_size) :
    ∃ pentries', gpt_boot_chain_swap env pentries (count * pentry_size) pentry_size =
        .ok (if handledPairs env pentries pentry_size count = [] then 1 else 0, pentries') ∧
      ChainSwapped env pentry_size count pentries pentries' ∧
      (handledPairs env pentries pentry_size count = [] → pentries' = pentries) := by
  have hexclusive := swapNames_exclusive env
  obtain ⟨pentries', hloop, hlength', hheads, htails, hsame⟩ :=
    gpt_boot_chain_swap.loop_eq env PTN_SWAP_LIST 1 PTN_SWAP_LIST_short hsize hlength hexclusive
  refine ⟨pentries', hloop, ⟨hlength', ?_, ?_, htails⟩, hsame⟩
  · intro pair hpair
    simp only [hheads]
    exact exchangeAll_pair _ hexclusive hpair
  · intro k hk
    simp only [hheads]
    exact exchangeAll_outside _ hexclusive hk

end exchange

end gpt_utils
