import OnePlus7Pro.Exchange.Pairs
import OnePlus7Pro.Gpt.Entries

open regions effects exchange

namespace gpt_utils

/-- The first 128 bytes of entry `k`, the part that is exchanged. -/
def entryHead (pentries : Buffer) (pentry_size k : Nat) : Buffer :=
  slice pentries (k * pentry_size) PTN_ENTRY_SIZE

/-- The low bytes of the name in an entry. -/
def headName (head : Buffer) : Buffer :=
  (List.range (MAX_GPT_NAME_SIZE / 2)).map fun i => head.getD (PARTITION_NAME_OFFSET + i * 2) 0

/-- The entry carries the given name, or that name followed by `bak`. -/
def carries (ptn_name head : Buffer) : Bool :=
  (ptn_name ++ [0]).isPrefixOf (headName head) ||
    (ptn_name ++ (BAK_PTN_NAME_EXT ++ [0])).isPrefixOf (headName head)

theorem isPrefixOf_append (s t buf : Buffer) :
    (s ++ t).isPrefixOf buf = (s.isPrefixOf buf && t.isPrefixOf (buf.drop s.length)) := by
  induction s generalizing buf with
  | nil => simp
  | cons c s ih =>
    cases buf with
    | nil => simp
    | cons b buf => simp [List.isPrefixOf_cons_cons, ih, Bool.and_assoc]

theorem same_chars_eq {s buf : Buffer} {ptr : Nat} (hroom : ptr + s.length ≤ buf.length) :
    same_chars s buf ptr = .ok (s.isPrefixOf (buf.drop ptr)) := by
  induction s generalizing ptr with
  | nil => simp [same_chars]
  | cons c s ih =>
    have hptr : ptr < buf.length := by simp only [List.length_cons] at hroom; omega
    have htail : ptr + 1 + s.length ≤ buf.length := by simp only [List.length_cons] at hroom; omega
    rw [same_chars, load_eq hptr, List.drop_eq_getElem_cons hptr]
    change (if buf[ptr] = c then same_chars s buf (ptr + 1) else .ok false) = _
    by_cases hc : buf[ptr] = c
    · rw [if_pos hc, ih htail, List.isPrefixOf_cons_cons]
      simp [hc]
    · rw [if_neg hc, List.isPrefixOf_cons_cons]
      simp [Ne.symm hc]

theorem length_headName (head : Buffer) : (headName head).length = 36 := by
  simp [headName, MAX_GPT_NAME_SIZE]

/-- On names short enough that `bak` and the terminator fit behind them, the
    comparison stays inside the 36 characters and decides `carries`. -/
theorem name_matches_eq {ptn_name head : Buffer} (hshort : ptn_name.length + 4 ≤ 36) :
    name_matches ptn_name (headName head) = .ok (carries ptn_name head) := by
  have hlength := length_headName head
  have hbak : BAK_PTN_NAME_EXT.length = 3 := by decide
  unfold name_matches carries same_string
  rw [same_chars_eq (by omega), List.drop_zero, isPrefixOf_append, isPrefixOf_append]
  change (if ptn_name.isPrefixOf (headName head) = true then _ else _) = _
  by_cases hstart : ptn_name.isPrefixOf (headName head) = true
  · have hptr : ptn_name.length < (headName head).length := by omega
    rw [if_pos hstart, load_eq hptr, hstart,
      same_chars_eq (by simp only [List.length_append, List.length_singleton]; omega)]
    change (if (headName head)[ptn_name.length] = 0 then _ else _) = _
    by_cases hzero : (headName head)[ptn_name.length] = 0
    · rw [if_pos hzero, List.drop_eq_getElem_cons hptr, hzero]
      rfl
    · have hterminator : ([0] : Buffer).isPrefixOf ((headName head).drop ptn_name.length) = false := by
        rw [List.drop_eq_getElem_cons hptr, List.isPrefixOf_cons_cons]
        simp [Ne.symm hzero]
      rw [if_neg hzero, hterminator]
      rfl
  · rw [if_neg hstart]
    simp only [Bool.not_eq_true] at hstart
    simp [hstart]
    rfl

theorem mapM_ok {A B : Type} {f : A → Except Fault B} {g : A → B} {as : List A}
    (h : ∀ a ∈ as, f a = .ok (g a)) : as.mapM f = .ok (as.map g) := by
  induction as with
  | nil => rfl
  | cons a as ih =>
    rw [List.mapM_cons, h a List.mem_cons_self, List.map_cons]
    change (as.mapM f >>= fun bs => pure (g a :: bs)) = _
    rw [ih fun b hb => h b (List.mem_cons_of_mem a hb)]
    rfl

/-- The low bytes of a name are there once the last of them is. -/
theorem read_name8_eq {pentries : Buffer} {pentry_size k : Nat}
    (hroom : k * pentry_size + 127 ≤ pentries.length) :
    read_name8 pentries (k * pentry_size + PARTITION_NAME_OFFSET) =
      .ok (headName (entryHead pentries pentry_size k)) := by
  apply mapM_ok
  intro i hi
  simp only [List.mem_range, MAX_GPT_NAME_SIZE] at hi
  simp only [PARTITION_NAME_OFFSET]
  have hin : 56 + i * 2 < 128 := by omega
  rw [load_eq (by omega), List.getD_eq_getElem?_getD, entryHead, getElem?_slice, if_pos hin,
    ← Nat.add_assoc, List.getElem?_eq_getElem (by omega)]
  rfl

/-- How many entries begin their names within an array of `size` bytes. -/
def slotCount (size pentry_size : Nat) : Nat :=
  (size - PARTITION_NAME_OFFSET + (pentry_size - 1)) / pentry_size

theorem lt_slotCount_iff {size pentry_size k : Nat} (hpositive : 0 < pentry_size) :
    k < slotCount size pentry_size ↔ k * pentry_size + PARTITION_NAME_OFFSET < size := by
  rw [slotCount, Nat.lt_iff_add_one_le, Nat.le_div_iff_mul_le hpositive, Nat.succ_mul]
  simp only [PARTITION_NAME_OFFSET]
  omega

/-- An array of whole entries has as many as its size says. -/
theorem slotCount_mul {pentry_size : Nat} (count : Nat) (hsize : PTN_ENTRY_SIZE ≤ pentry_size) :
    slotCount (count * pentry_size) pentry_size = count := by
  simp only [PTN_ENTRY_SIZE] at hsize
  apply Nat.le_antisymm
  · by_contra hmore
    have hlast := (lt_slotCount_iff (by omega)).mp (Nat.lt_of_not_le hmore)
    omega
  · by_contra hless
    have hslot := mt (lt_slotCount_iff (k := slotCount (count * pentry_size) pentry_size) (by omega)).mpr
      (Nat.lt_irrefl _)
    have hroom := Nat.mul_le_mul_right pentry_size (Nat.lt_of_not_le hless)
    rw [Nat.succ_mul] at hroom
    simp only [PARTITION_NAME_OFFSET] at hslot
    omega

theorem slotCount_le (size : Nat) {pentry_size : Nat} (hpositive : 0 < pentry_size) :
    slotCount size pentry_size ≤ size := by
  by_contra hmore
  have hlast := (lt_slotCount_iff hpositive).mp (Nat.lt_of_not_le hmore)
  have hturn := Nat.le_mul_of_pos_right size hpositive
  omega

/-- The search reads the names of the entries in array order until one matches. -/
theorem gpt_pentry_seek_slots {pentries : Buffer} {pentry_size size k : Nat} (ptn_name : Buffer)
    (hpositive : 0 < pentry_size) (hk : k ≤ slotCount size pentry_size) :
    gpt_pentry_seek ptn_name pentries (k * pentry_size) size pentry_size =
      Option.map (· * pentry_size) <$>
        (List.range' k (slotCount size pentry_size - k)).findM? fun i =>
          read_name8 pentries (i * pentry_size + PARTITION_NAME_OFFSET) >>= name_matches ptn_name := by
  have hloop : ∀ turns k, k ≤ slotCount size pentry_size → slotCount size pentry_size < k + turns →
      gpt_pentry_seek.loop ptn_name pentries size pentry_size turns
        (k * pentry_size + PARTITION_NAME_OFFSET) =
      Option.map (· * pentry_size) <$>
        (List.range' k (slotCount size pentry_size - k)).findM? fun i =>
          read_name8 pentries (i * pentry_size + PARTITION_NAME_OFFSET) >>= name_matches ptn_name := by
    intro turns
    induction turns with
    | zero =>
      intro k hk hturns
      omega
    | succ turns ih =>
      intro k hk hturns
      rw [gpt_pentry_seek.loop]
      by_cases hslot : k < slotCount size pentry_size
      · have hcount : slotCount size pentry_size - k = (slotCount size pentry_size - (k + 1)) + 1 := by omega
        have hnext : k * pentry_size + PARTITION_NAME_OFFSET + pentry_size =
            (k + 1) * pentry_size + PARTITION_NAME_OFFSET := by
          rw [Nat.succ_mul]
          omega
        rw [if_pos ((lt_slotCount_iff hpositive).mp hslot), hcount, List.range'_succ, List.findM?,
          Nat.add_sub_cancel, hnext, ih (k + 1) hslot (by omega)]
        cases read_name8 pentries (k * pentry_size + PARTITION_NAME_OFFSET) with
        | error fault => rfl
        | ok name8 =>
          change (name_matches ptn_name name8 >>= _) = _ <$> (name_matches ptn_name name8 >>= _)
          cases name_matches ptn_name name8 with
          | error fault => rfl
          | ok found => cases found <;> rfl
      · rw [if_neg (mt (lt_slotCount_iff hpositive).mpr hslot), Nat.sub_eq_zero_of_le (by omega)]
        rfl
  exact hloop (size + 1) k hk (by have := slotCount_le size hpositive; omega)

theorem findM?_congr {A : Type} {test test' : A → Except Fault Bool} {as : List A}
    (h : ∀ a ∈ as, test a = test' a) : as.findM? test = as.findM? test' := by
  induction as with
  | nil => rfl
  | cons a as ih =>
    rw [List.findM?, List.findM?, h a List.mem_cons_self, ih fun b hb => h b (List.mem_cons_of_mem a hb)]

/-- Every entry that begins its name within the array has the low bytes of all its units there. -/
def SlotsFit (size pentry_size : Nat) : Prop :=
  ∀ k < slotCount size pentry_size, k * pentry_size + 127 ≤ size

section entries

variable {ptn_name pentries : Buffer} {pentry_size : Nat}

/-- Where the entries fit, the search returns the position of the first one that carries the name. -/
theorem gpt_pentry_seek_fit {k : Nat} (hshort : ptn_name.length + 4 ≤ 36)
    (hempty : pentry_size = 0 → pentries = []) (hfit : SlotsFit pentries.length pentry_size)
    (hk : k ≤ slotCount pentries.length pentry_size) :
    gpt_pentry_seek ptn_name pentries (k * pentry_size) pentries.length pentry_size =
      .ok ((firstFrom (carries ptn_name) (entryHead pentries pentry_size) k
        (slotCount pentries.length pentry_size)).map (· * pentry_size)) := by
  by_cases hpositive : pentry_size = 0
  · have hnone : slotCount pentries.length pentry_size = 0 := by rw [hpositive, slotCount, Nat.div_zero]
    rw [hnone, firstFrom_stop _ _ (Nat.zero_le k), hempty hpositive, gpt_pentry_seek, gpt_pentry_seek.loop,
      if_neg (by simp)]
    rfl
  have htest : ∀ i ∈ List.range' k (slotCount pentries.length pentry_size - k),
      (read_name8 pentries (i * pentry_size + PARTITION_NAME_OFFSET) >>= name_matches ptn_name) =
        pure (carries ptn_name (entryHead pentries pentry_size i)) := by
    intro i hi
    rw [List.mem_range'_1] at hi
    rw [read_name8_eq (hfit i (by omega))]
    exact name_matches_eq hshort
  rw [gpt_pentry_seek_slots ptn_name (Nat.pos_of_ne_zero hpositive) hk, findM?_congr htest]
  exact congrArg (Option.map (· * pentry_size) <$> ·) (List.findM?_pure (m := Except Fault) _ _)

/-- An array with the first 128 bytes of two of its entries exchanged. -/
def exchangeHeads (pentries : Buffer) (pentry_size i j : Nat) : Buffer :=
  patch (patch pentries (i * pentry_size) (entryHead pentries pentry_size j)) (j * pentry_size)
    (entryHead pentries pentry_size i)

@[simp] theorem length_exchangeHeads (pentries : Buffer) (pentry_size i j : Nat) :
    (exchangeHeads pentries pentry_size i j).length = pentries.length := by
  simp [exchangeHeads]

/-- Where the entries fit, one turn of the exchange leaves the array only if the second entry of a
    pair does. -/
theorem gpt_boot_chain_swap.turn_fit (env : Env) (flag : Int) (hshort : ptn_name.length + 4 ≤ 36)
    (hempty : pentry_size = 0 → pentries = []) (hfit : SlotsFit pentries.length pentry_size)
    (hskipped : skipped env ptn_name = false) :
    gpt_boot_chain_swap.turn env pentries.length pentry_size (flag, pentries) ptn_name =
      match firstTwo (carries ptn_name) (entryHead pentries pentry_size)
          (slotCount pentries.length pentry_size) with
      | some (i, j) =>
        if j * pentry_size + PTN_ENTRY_SIZE ≤ pentries.length then
          .ok (0, exchangeHeads pentries pentry_size i j)
        else .error .out_of_bounds
      | none => .ok (flag, pentries) := by
  have hseek (k : Nat) (hk : k ≤ slotCount pentries.length pentry_size) :=
    gpt_pentry_seek_fit hshort hempty hfit hk
  have hfirst := hseek 0 (Nat.zero_le _)
  rw [Nat.zero_mul] at hfirst
  unfold turn firstTwo
  simp only [hskipped, Bool.false_eq_true, if_false, hfirst]
  cases hi : firstFrom (carries ptn_name) (entryHead pentries pentry_size) 0
      (slotCount pentries.length pentry_size) with
  | none => rfl
  | some i =>
    obtain ⟨_, hicount, _, _⟩ := firstFrom_eq_some hi
    have hsecond := hseek (i + 1) hicount
    rw [Nat.succ_mul] at hsecond
    change (gpt_pentry_seek _ _ (i * pentry_size + pentry_size) _ _ >>= _) = _
    rw [hsecond]
    cases hj : firstFrom (carries ptn_name) (entryHead pentries pentry_size) (i + 1)
        (slotCount pentries.length pentry_size) with
    | none =>
      rw [Option.bind_some, hj]
      rfl
    | some j =>
      obtain ⟨hij, hjcount, _, _⟩ := firstFrom_eq_some hj
      have hroom := hfit j hjcount
      have hnext := Nat.mul_le_mul_right pentry_size hij
      rw [Nat.succ_mul] at hnext
      have hpositive : 0 < pentry_size := by
        by_contra hzero
        rw [slotCount, Nat.eq_zero_of_not_pos hzero, Nat.div_zero] at hjcount
        omega
      rw [Option.bind_some, hj]
      change (bytes_at pentries (i * pentry_size) 128 >>= _) = _
      rw [bytes_at_eq (by omega)]
      change (bytes_at pentries (j * pentry_size) 128 >>= _) =
        if j * pentry_size + PTN_ENTRY_SIZE ≤ pentries.length then _ else _
      by_cases hlast : j * pentry_size + PTN_ENTRY_SIZE ≤ pentries.length
      · have hhead (k : Nat) (hk : k * pentry_size + 128 ≤ pentries.length) :
            (entryHead pentries pentry_size k).length = 128 := length_slice_of_le hk
        have hheadi := hhead i (by omega)
        have hheadj := hhead j hlast
        rw [if_pos hlast, bytes_at_eq hlast]
        change (memcpy pentries (i * pentry_size) (entryHead pentries pentry_size j) >>= _) = _
        rw [memcpy_eq (by omega)]
        change (memcpy _ (j * pentry_size) (entryHead pentries pentry_size i) >>= _) = _
        rw [memcpy_eq (by rw [length_patch, hheadi]; exact hlast)]
        rfl
      · rw [if_neg hlast, bytes_at, if_neg hlast]
        rfl

end entries

end gpt_utils
