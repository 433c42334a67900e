import OnePlus7Pro.Gpt.NameSearch

open regions effects exchange

namespace gpt_utils

/-- Entry `i` has a name of the swap list that is not skipped, and entry `j` has that name
    followed by `bak`. -/
def Paired (env : Env) (pentries : Buffer) (pentry_size count i j : Nat) : Prop :=
  i < count ∧ j < count ∧ ∃ name ∈ PTN_SWAP_LIST, skipped env name = false ∧
    lowName (entryHead pentries pentry_size i) = name ∧
    lowName (entryHead pentries pentry_size j) = name ++ BAK_PTN_NAME_EXT

/-- No two entries have the same low-byte name, unused entries without a name apart. -/
def NamesUnique (pentries : Buffer) (pentry_size count : Nat) : Prop :=
  ∀ i < count, ∀ j < count,
    lowName (entryHead pentries pentry_size i) = lowName (entryHead pentries pentry_size j) →
    lowName (entryHead pentries pentry_size i) ≠ [] → i = j

/-- The boot chain was exchanged: the entries of every pair have changed their first 128
    bytes, no other byte differs, and the result tells whether there was a pair. -/
structure PairsExchanged (env : Env) (pentry_size count : Nat) (pentries : Buffer) (r : Int)
    (pentries' : Buffer) : Prop where
  length_eq : pentries'.length = pentries.length
  exchanged : ∀ i j, Paired env pentries pentry_size count i j →
    entryHead pentries' pentry_size i = entryHead pentries pentry_size j ∧
    entryHead pentries' pentry_size j = entryHead pentries pentry_size i
  kept : ∀ b, (∀ i j, Paired env pentries pentry_size count i j →
      ¬ (i * pentry_size ≤ b ∧ b < i * pentry_size + PTN_ENTRY_SIZE) ∧
      ¬ (j * pentry_size ≤ b ∧ b < j * pentry_size + PTN_ENTRY_SIZE)) →
    pentries'[b]? = pentries[b]?
  result : r = 0 ∧ (∃ i j, Paired env pentries pentry_size count i j) ∨
    r = 1 ∧ (¬ ∃ i j, Paired env pentries pentry_size count i j) ∧ pentries' = pentries

theorem PTN_SWAP_LIST_named : ∀ name ∈ PTN_SWAP_LIST, 0 ∉ name ∧ name ≠ [] := by decide

/-- Buffers of entries with the same heads and tails are the same, byte by byte. -/
theorem getElem?_of_entries {pentries pentries' : Buffer} {pentry_size count : Nat}
    (hpos : 0 < pentry_size) (hlength : pentries.length = count * pentry_size)
    (hlength' : pentries'.length = pentries.length)
    (htails : ∀ k, entryTail pentries' pentry_size k = entryTail pentries pentry_size k) {b : Nat}
    (hhead : ∀ k < count, k * pentry_size ≤ b → b < k * pentry_size + PTN_ENTRY_SIZE →
      entryHead pentries' pentry_size k = entryHead pentries pentry_size k) :
    pentries'[b]? = pentries[b]? := by
  have hslice {offset length i : Nat} (h : slice pentries' offset length = slice pentries offset length)
      (hi : i < length) : pentries'[offset + i]? = pentries[offset + i]? := by
    have h' := congrArg (·[i]?) h
    simpa only [getElem?_slice, if_pos hi] using h'
  by_cases hb : b < pentries.length
  · have hdiv : b / pentry_size < count := Nat.div_lt_of_lt_mul (by rwa [Nat.mul_comm, ← hlength])
    have hmod := Nat.mod_lt b hpos
    have hsplit := Nat.div_add_mod' b pentry_size
    by_cases hoffset : b % pentry_size < PTN_ENTRY_SIZE
    · have h := hslice (hhead (b / pentry_size) hdiv (by omega) (by omega)) hoffset
      rwa [hsplit] at h
    · have h := hslice (htails (b / pentry_size)) (i := b % pentry_size - PTN_ENTRY_SIZE) (by omega)
      rwa [show b / pentry_size * pentry_size + PTN_ENTRY_SIZE + (b % pentry_size - PTN_ENTRY_SIZE) = b by omega] at h
  · rw [List.getElem?_eq_none (by omega), List.getElem?_eq_none (by omega)]

section pairs

variable {env : Env} {pentries : Buffer} {pentry_size count i j : Nat}

theorem carries_iff {name : Buffer} (hname : name ∈ PTN_SWAP_LIST) (head : Buffer) :
    carries name head = true ↔ lowName head = name ∨ lowName head = name ++ BAK_PTN_NAME_EXT := by
  rw [carries_eq_named (PTN_SWAP_LIST_named name hname).1 (PTN_SWAP_LIST_short name hname), named,
    Bool.or_eq_true, beq_iff_eq, beq_iff_eq]

theorem mem_swapNames {name : Buffer} :
    name ∈ swapNames env ↔ name ∈ PTN_SWAP_LIST ∧ skipped env name = false := by
  simp [swapNames]

/-- Every pair that is handled consists of an entry and its backup, in one order or the other. -/
theorem paired_of_handled (hunique : NamesUnique pentries pentry_size count)
    (h : (i, j) ∈ handledPairs env pentries pentry_size count) :
    Paired env pentries pentry_size count i j ∨ Paired env pentries pentry_size count j i := by
  obtain ⟨P, hP, hfirst⟩ := List.mem_filterMap.mp h
  obtain ⟨name, hmem, rfl⟩ := List.mem_map.mp hP
  obtain ⟨hlist, hskipped⟩ := mem_swapNames.mp hmem
  obtain ⟨hij, hj, hcarriesi, hcarriesj⟩ := firstTwo_eq_some hfirst
  have hi := Nat.lt_trans hij hj
  have hnonempty := (PTN_SWAP_LIST_named name hlist).2
  rw [carries_iff hlist] at hcarriesi hcarriesj
  have hdistinct : lowName (entryHead pentries pentry_size i) ≠ lowName (entryHead pentries pentry_size j) := by
    intro hsame
    have := hunique i hi j hj hsame (by rcases hcarriesi with h | h <;> simp [h, hnonempty])
    omega
  rcases hcarriesi with hnamei | hnamei <;> rcases hcarriesj with hnamej | hnamej
  · exact absurd (hnamei.trans hnamej.symm) hdistinct
  · exact .inl ⟨hi, hj, name, hlist, hskipped, hnamei, hnamej⟩
  · exact .inr ⟨hj, hi, name, hlist, hskipped, hnamej, hnamei⟩
  · exact absurd (hnamei.trans hnamej.symm) hdistinct

/-- Every entry and its backup are handled, in one order or the other. -/
theorem handled_of_paired (hunique : NamesUnique pentries pentry_size count)
    (h : Paired env pentries pentry_size count i j) :
    (i, j) ∈ handledPairs env pentries pentry_size count ∨
      (j, i) ∈ handledPairs env pentries pentry_size count := by
  obtain ⟨hi, hj, name, hlist, hskipped, hnamei, hnamej⟩ := h
  have hnonempty := (PTN_SWAP_LIST_named name hlist).2
  have hcarriesi := (carries_iff hlist _).mpr (.inl hnamei)
  have hcarriesj := (carries_iff hlist _).mpr (.inr hnamej)
  -- an entry that carries the name is one of the two
  have honly (k : Nat) (hk : k < count) (hcarries : carries name (entryHead pentries pentry_size k) = true) :
      k = i ∨ k = j := by
    rcases (carries_iff hlist _).mp hcarries with hname | hname
    · exact .inl (hunique k hk i hi (hname.trans hnamei.symm) (by simp [hname, hnonempty]))
    · exact .inr (hunique k hk j hj (hname.trans hnamej.symm) (by simp [hname, hnonempty]))
  have hne : i ≠ j := by
    rintro rfl
    rw [hnamei] at hnamej
    exact absurd hnamej (by simp; decide)
  have hpair : ∃ a b, firstTwo (carries name) (entryHead pentries pentry_size) count = some (a, b) := by
    rcases Nat.lt_or_gt_of_ne hne with hlt | hgt
    · exact exists_firstTwo hlt hj hcarriesi hcarriesj
    · exact exists_firstTwo hgt hi hcarriesj hcarriesi
  obtain ⟨a, b, hfirst⟩ := hpair
  obtain ⟨hab, hb, hcarriesa, hcarriesb⟩ := firstTwo_eq_some hfirst
  have hmem : (a, b) ∈ handledPairs env pentries pentry_size count :=
    List.mem_filterMap.mpr ⟨carries name, List.mem_map_of_mem (mem_swapNames.mpr ⟨hlist, hskipped⟩), hfirst⟩
  rcases honly a (by omega) hcarriesa with rfl | rfl <;> rcases honly b hb hcarriesb with rfl | rfl
  · omega
  · exact .inl hmem
  · exact .inr hmem
  · omega

/-- A second exchange undoes the first, with the same result. -/
theorem gpt_boot_chain_swap_undone (env : Env) (hsize : PTN_ENTRY_SIZE ≤ pentry_size)
    (hlength : pentries.length = count * pentry_size) {r : Int} {pentries' : Buffer}
    (hrun : gpt_boot_chain_swap env pentries (count * pentry_size) pentry_size = .ok (r, pentries')) :
    gpt_boot_chain_swap env pentries' (count * pentry_size) pentry_size = .ok (r, pentries) := by
  have hexclusive := swapNames_exclusive env
  obtain ⟨first, hfirst, hlength', hheads, htails, _⟩ :=
    gpt_boot_chain_swap.loop_eq env PTN_SWAP_LIST 1 PTN_SWAP_LIST_short hsize hlength hexclusive
  obtain ⟨second, hsecond, hlength'', hheads', htails', _⟩ :=
    gpt_boot_chain_swap.loop_eq env PTN_SWAP_LIST 1 PTN_SWAP_LIST_short hsize (hlength'.trans hlength) hexclusive
  rw [gpt_boot_chain_swap, hfirst] at hrun
  cases hrun
  have hpairs := pairs_exchangeAll (entryHead pentries pentry_size) count hexclusive
  have hundone := exchangeAll_exchangeAll (entryHead pentries pentry_size) count hexclusive
  rw [swapNames] at hpairs hundone
  rw [hheads, hpairs] at hsecond
  rw [hheads, hundone] at hheads'
  have hback : second = pentries := by
    simp only [PTN_ENTRY_SIZE] at hsize
    apply List.ext_getElem?
    intro b
    apply getElem?_of_entries (by omega) hlength (hlength''.trans hlength')
    · exact fun k => (htails' k).trans (htails k)
    · exact fun k _ _ _ => congrFun hheads' k
  rw [gpt_boot_chain_swap, hsecond, hback]

/-- In an array without double names `gpt_boot_chain_swap` exchanges every entry with its
    backup and nothing else, reports whether it did, and undoes it when called again. -/
theorem gpt_boot_chain_swap_pairs (env : Env) (hsize : PTN_ENTRY_SIZE ≤ pentry_size)
    (hlength : pentries.length = count * pentry_size)
    (hunique : NamesUnique pentries pentry_size count) :
    ∃ r pentries',
      gpt_boot_chain_swap env pentries (count * pentry_size) pentry_size = .ok (r, pentries') ∧
      PairsExchanged env pentry_size count pentries r pentries' ∧
      gpt_boot_chain_swap env pentries' (count * pentry_size) pentry_size = .ok (r, pentries) := by
  obtain ⟨pentries', hrun, hswapped, hsame⟩ := gpt_boot_chain_swap_spec env hsize hlength
  have hundone := gpt_boot_chain_swap_undone env hsize hlength hrun
  refine ⟨_, pentries', hrun, ⟨hswapped.length_eq, ?_, ?_, ?_⟩, hundone⟩
  · intro i j hpaired
    rcases handled_of_paired hunique hpaired with hpair | hpair
    · exact hswapped.exchanged _ hpair
    · exact (hswapped.exchanged _ hpair).symm
  · intro b hb
    simp only [PTN_ENTRY_SIZE] at hsize
    apply getElem?_of_entries (by omega) hlength hswapped.length_eq hswapped.tails
    intro k _ hstart hstop
    apply hswapped.kept
    rintro ⟨i, j⟩ hpair
    have hout : k ≠ i ∧ k ≠ j := by
      rcases paired_of_handled hunique hpair with hpaired | hpaired
      · exact ⟨fun h => (hb i j hpaired).1 (h ▸ ⟨hstart, hstop⟩),
          fun h => (hb i j hpaired).2 (h ▸ ⟨hstart, hstop⟩)⟩
      · exact ⟨fun h => (hb j i hpaired).2 (h ▸ ⟨hstart, hstop⟩),
          fun h => (hb j i hpaired).1 (h ▸ ⟨hstart, hstop⟩)⟩
    exact hout
  · by_cases hnil : handledPairs env pentries pentry_size count = []
    · refine .inr ⟨if_pos hnil, ?_, hsame hnil⟩
      rintro ⟨i, j, hpaired⟩
      rcases handled_of_paired hunique hpaired with hpair | hpair <;> simp [hnil] at hpair
    · refine .inl ⟨if_neg hnil, ?_⟩
      obtain ⟨⟨i, j⟩, hpair⟩ := List.exists_mem_of_ne_nil _ hnil
      rcases paired_of_handled hunique hpair with hpaired | hpaired
      · exact ⟨i, j, hpaired⟩
      · exact ⟨j, i, hpaired⟩

end pairs

theorem ablEntries_unique : NamesUnique ablEntries 128 2 := by
  unfold NamesUnique
  decide +kernel

theorem gpt_boot_chain_swap_ablEntries :
    ∃ r pentries', gpt_boot_chain_swap emmc ablEntries (2 * 128) 128 = .ok (r, pentries') ∧
      PairsExchanged emmc 128 2 ablEntries r pentries' ∧
      gpt_boot_chain_swap emmc pentries' (2 * 128) 128 = .ok (r, ablEntries) :=
  gpt_boot_chain_swap_pairs emmc (by decide) (length_namedEntries _) ablEntries_unique

end gpt_utils
