import OnePlus7Pro.Gpt.ChainSwap
import OnePlus7Pro.Gpt.Format

open regions effects exchange

namespace gpt_utils

/-- The low bytes of the 36 units of a name up to the first zero, all 36 if there is none. -/
def lowName (head : Buffer) : Buffer := (headName head).takeWhile (· != 0)

/-- The low-byte name of the entry is the given name or that name followed by `bak`. -/
def named (ptn_name head : Buffer) : Bool :=
  lowName head == ptn_name || lowName head == ptn_name ++ BAK_PTN_NAME_EXT

/-- The name leaves less than four of the 36 units, and the entry fills them with the
    beginning of `bak`: nothing in the copy of the name stops the comparison. -/
def Overruns (ptn_name head : Buffer) : Prop :=
  33 ≤ ptn_name.length ∧ headName head = ptn_name ++ BAK_PTN_NAME_EXT.take (36 - ptn_name.length)

instance (ptn_name head : Buffer) : Decidable (Overruns ptn_name head) :=
  inferInstanceAs (Decidable (_ ∧ _))

/-- The comparison finds the characters, or one that differs, or neither before the end of the buffer. -/
theorem same_chars_cases (s buf : Buffer) (ptr : Nat) :
    same_chars s buf ptr =
      if s.isPrefixOf (buf.drop ptr) then .ok true
      else if (buf.drop ptr).isPrefixOf s then .error .out_of_bounds
      else .ok false := by
  induction s generalizing ptr with
  | nil => simp [same_chars]
  | cons c s ih =>
    rw [same_chars]
    by_cases hptr : ptr < buf.length
    · rw [load_eq hptr, List.drop_eq_getElem_cons hptr]
      change (if buf[ptr] = c then same_chars s buf (ptr + 1) else .ok false) = _
      by_cases hc : buf[ptr] = c
      · rw [if_pos hc, ih, List.isPrefixOf_cons_cons, List.isPrefixOf_cons_cons]
        simp [hc]
      · rw [if_neg hc, List.isPrefixOf_cons_cons, List.isPrefixOf_cons_cons]
        simp [hc, Ne.symm hc]
    · rw [List.drop_eq_nil_of_le (by omega), load, List.getElem?_eq_none (by omega)]
      rfl

/-- A string is what a buffer holds up to the first zero exactly if it stands there with a
    zero behind it, or fills the buffer. -/
theorem takeWhile_eq_iff {s buf : Buffer} (hs : 0 ∉ s) :
    buf.takeWhile (· != 0) = s ↔ (s ++ [0]).isPrefixOf buf = true ∨ buf = s := by
  induction s generalizing buf with
  | nil =>
    cases buf with
    | nil => simp
    | cons b buf =>
      by_cases hb : b = 0
      · simp [hb]
      · simp [hb, Ne.symm hb]
  | cons c s ih =>
    simp only [List.mem_cons, not_or] at hs
    cases buf with
    | nil => simp
    | cons b buf =>
      rw [List.takeWhile_cons, List.cons_append, List.isPrefixOf_cons_cons]
      by_cases hbc : b = c
      · rw [if_pos (by simpa [hbc] using Ne.symm hs.1)]
        simp [hbc, ih hs.2]
      · by_cases hb : b = 0
        · simp [hb, hs.1]
          rintro rfl
          exact absurd hb hbc
        · simp [hb, hbc, Ne.symm hbc]

theorem zero_not_mem_bak : (0 : UInt8) ∉ BAK_PTN_NAME_EXT := by decide

/-- The comparison with `bak` runs beyond the buffer if the buffer ends in the beginning
    of `bak`, and else decides whether `bak` stands there up to the first zero. -/
theorem same_bak_cases (buf : Buffer) (ptr : Nat) :
    same_chars (BAK_PTN_NAME_EXT ++ [0]) buf ptr =
      if buf.drop ptr <+: BAK_PTN_NAME_EXT then .error .out_of_bounds
      else .ok ((buf.drop ptr).takeWhile (· != 0) == BAK_PTN_NAME_EXT) := by
  rw [same_chars_cases]
  generalize buf.drop ptr = rest
  by_cases hwhole : (BAK_PTN_NAME_EXT ++ [0]).isPrefixOf rest = true
  · have hnot : ¬ rest <+: BAK_PTN_NAME_EXT := by
      intro h
      have hge := (List.isPrefixOf_iff_prefix.mp hwhole).length_le
      have hle := h.length_le
      simp only [List.length_append, List.length_singleton] at hge
      omega
    rw [if_pos hwhole, if_neg hnot, (takeWhile_eq_iff zero_not_mem_bak).mpr (.inl hwhole), beq_self_eq_true]
  · rw [if_neg hwhole]
    by_cases hpart : rest <+: BAK_PTN_NAME_EXT ++ [0]
    · have hne : rest ≠ BAK_PTN_NAME_EXT ++ [0] := by
        rintro rfl
        exact hwhole (List.isPrefixOf_iff_prefix.mpr (List.prefix_refl _))
      rw [if_pos (List.isPrefixOf_iff_prefix.mpr hpart),
        if_pos ((List.prefix_concat_iff.mp hpart).resolve_left hne)]
    · have hnot : ¬ rest <+: BAK_PTN_NAME_EXT := fun h => hpart (h.trans (List.prefix_append _ _))
      have hother : rest.takeWhile (· != 0) ≠ BAK_PTN_NAME_EXT := by
        intro h
        rcases (takeWhile_eq_iff zero_not_mem_bak).mp h with h | rfl
        · exact hwhole h
        · exact hpart (List.prefix_append _ _)
      rw [if_neg (by rwa [List.isPrefixOf_iff_prefix]), if_neg hnot, beq_eq_false_iff_ne.mpr hother]

theorem lowName_of_prefix {ptn_name head rest : Buffer} (hzero : 0 ∉ ptn_name)
    (hrest : headName head = ptn_name ++ rest) :
    lowName head = ptn_name ++ rest.takeWhile (· != 0) := by
  rw [lowName, hrest, List.takeWhile_append_of_pos]
  intro c hc
  rw [bne_iff_ne]
  rintro rfl
  exact hzero hc

/-- An entry whose name does not begin with the given one is not named so. -/
theorem named_of_not_prefix {ptn_name head : Buffer}
    (hstarts : ptn_name.isPrefixOf (headName head) = false) : named ptn_name head = false := by
  have hlow : lowName head <+: headName head := List.takeWhile_prefix _
  have hnot : ¬ ptn_name <+: headName head := by
    rw [← List.isPrefixOf_iff_prefix, hstarts]
    exact Bool.false_ne_true
  unfold named
  rw [Bool.or_eq_false_iff, beq_eq_false_iff_ne, beq_eq_false_iff_ne]
  constructor
  · intro h
    exact hnot (h ▸ hlow)
  · intro h
    rw [h] at hlow
    exact hnot ((List.prefix_append _ _).trans hlow)

/-- Past a name with which an entry begins, `named` looks at what follows up to the first zero. -/
theorem named_of_prefix {ptn_name head rest : Buffer} (hzero : 0 ∉ ptn_name)
    (hrest : headName head = ptn_name ++ rest) :
    named ptn_name head =
      (rest.takeWhile (· != 0) == [] || rest.takeWhile (· != 0) == BAK_PTN_NAME_EXT) := by
  rw [named, lowName_of_prefix hzero hrest, Bool.eq_iff_iff]
  simp

/-- The comparison runs beyond the copy exactly if what follows the name is a beginning of `bak`. -/
theorem overruns_iff_of_prefix {ptn_name head rest : Buffer} (hrest : headName head = ptn_name ++ rest) :
    Overruns ptn_name head ↔ rest <+: BAK_PTN_NAME_EXT := by
  have hhead := length_headName head
  have hbak : BAK_PTN_NAME_EXT.length = 3 := by decide
  have hroom : ptn_name.length + rest.length = 36 := by rw [← List.length_append, ← hrest, hhead]
  rw [Overruns, hrest, List.append_cancel_left_eq]
  constructor
  · rintro ⟨_, hfills⟩
    rw [hfills]
    exact List.take_prefix _ _
  · intro h
    have hle := h.length_le
    refine ⟨by omega, ?_⟩
    rw [← hroom, Nat.add_sub_cancel_left]
    exact List.prefix_iff_eq_take.mp h

/-- The comparison of a name of at most 36 characters decides `named`, unless it runs
    beyond the 36 characters of the copy. -/
theorem name_matches_cases {ptn_name : Buffer} (hzero : 0 ∉ ptn_name)
    (hlength : ptn_name.length ≤ 36) (head : Buffer) :
    name_matches ptn_name (headName head) =
      if Overruns ptn_name head then .error .out_of_bounds else .ok (named ptn_name head) := by
  have hhead := length_headName head
  unfold name_matches
  rw [same_chars_eq (by omega), List.drop_zero]
  change (if ptn_name.isPrefixOf (headName head) = true then _ else _) = _
  cases hstarts : ptn_name.isPrefixOf (headName head) with
  | false =>
    have hoverruns : ¬ Overruns ptn_name head := by
      rintro ⟨_, hfills⟩
      rw [hfills, List.isPrefixOf_iff_prefix.mpr (List.prefix_append _ _)] at hstarts
      cases hstarts
    rw [if_neg Bool.false_ne_true, if_neg hoverruns, named_of_not_prefix hstarts]
    rfl
  | true =>
    obtain ⟨rest, hrest⟩ := List.isPrefixOf_iff_prefix.mp hstarts
    have hroom : ptn_name.length + rest.length = 36 := by rw [← List.length_append, hrest, hhead]
    have hdrop : (headName head).drop ptn_name.length = rest := by
      rw [← hrest, List.drop_left]
    have hnamed := named_of_prefix hzero hrest.symm
    have hoverruns := overruns_iff_of_prefix hrest.symm
    rw [if_pos rfl]
    cases rest with
    | nil =>
      rw [if_pos (hoverruns.mpr List.nil_prefix), load, List.getElem?_eq_none (by simp at hroom; omega)]
      rfl
    | cons c rest =>
      have hptr : ptn_name.length < (headName head).length := by
        simp only [List.length_cons] at hroom
        omega
      have hc : (headName head)[ptn_name.length] = c := by
        have h := List.drop_eq_getElem_cons hptr
        rw [hdrop] at h
        exact (List.cons.inj h).1.symm
      rw [load_eq hptr, hc]
      change (if c = 0 then .ok true else same_chars (BAK_PTN_NAME_EXT ++ [0]) _ _) = _
      by_cases hzero : c = 0
      · have hnot : ¬ Overruns ptn_name head := by
          rw [hoverruns, hzero]
          exact fun h => zero_not_mem_bak (h.subset List.mem_cons_self)
        rw [if_pos hzero, if_neg hnot, hnamed, hzero]
        rfl
      · have hsome : (c :: rest).takeWhile (· != 0) ≠ [] := by simp [hzero]
        rw [if_neg hzero, same_bak_cases, hdrop, hnamed, beq_eq_false_iff_ne.mpr hsome, Bool.false_or]
        simp only [hoverruns]

/-- For names that leave room for `bak` and a terminator the two readings agree. -/
theorem carries_eq_named {ptn_name : Buffer} (hzero : 0 ∉ ptn_name)
    (hshort : ptn_name.length + 4 ≤ 36) (head : Buffer) : carries ptn_name head = named ptn_name head := by
  have hnot : ¬ Overruns ptn_name head := fun h => by
    have := h.1
    omega
  have hcases := name_matches_cases hzero (by omega) head
  rw [name_matches_eq hshort, if_neg hnot] at hcases
  exact Except.ok.inj hcases

section search

variable {ptn_name pentries : Buffer} {pentry_size count : Nat}

/-- The search visits the entries up to the first that is named or makes it overrun. -/
theorem gpt_pentry_seek_cases (hzero : 0 ∉ ptn_name) (hname : ptn_name.length ≤ 36)
    (hsize : PTN_ENTRY_SIZE ≤ pentry_size) (hlength : pentries.length = count * pentry_size) :
    gpt_pentry_seek ptn_name pentries 0 (count * pentry_size) pentry_size =
      match firstFrom (fun head => decide (Overruns ptn_name head) || named ptn_name head)
        (entryHead pentries pentry_size) 0 count with
      | none => .ok none
      | some i =>
        if Overruns ptn_name (entryHead pentries pentry_size i) then .error .out_of_bounds
        else .ok (some (i * pentry_size)) := by
  have hseek := gpt_pentry_seek_findM ptn_name 0 hsize hlength (Nat.zero_le count)
  rw [Nat.zero_mul] at hseek
  simp only [hseek, name_matches_cases hzero hname, firstFrom]
  generalize List.range' 0 (count - 0) = is
  induction is with
  | nil => rfl
  | cons i is ih =>
    rw [List.findM?, List.find?_cons]
    by_cases hoverruns : Overruns ptn_name (entryHead pentries pentry_size i)
    · simp [hoverruns]
      rfl
    · cases hnamed : named ptn_name (entryHead pentries pentry_size i) with
      | true => simp [hoverruns]; rfl
      | false =>
        simp only [hoverruns, decide_false, Bool.or_false, if_false]
        exact ih

/-- The search returns the first entry that is named, and looks at nothing but the names of
    the entries up to that one. -/
structure FindsFirst (ptn_name pentries : Buffer) (pentry_size count : Nat) : Prop where
  first : gpt_pentry_seek ptn_name pentries 0 (count * pentry_size) pentry_size =
    .ok ((firstFrom (named ptn_name) (entryHead pentries pentry_size) 0 count).map (· * pentry_size))
  reads : ∀ pentries' : Buffer, pentries'.length = pentries.length →
    (∀ k < count, (∀ i < k, named ptn_name (entryHead pentries pentry_size i) = false) →
      headName (entryHead pentries' pentry_size k) = headName (entryHead pentries pentry_size k)) →
    gpt_pentry_seek ptn_name pentries' 0 (count * pentry_size) pentry_size =
      gpt_pentry_seek ptn_name pentries 0 (count * pentry_size) pentry_size

theorem named_congr {head head' : Buffer} (h : headName head' = headName head) :
    named ptn_name head' = named ptn_name head := by
  rw [named, named, lowName, lowName, h]

/-- The search succeeds as long as no entry before the first that is named, nor that one,
    makes it overrun. -/
theorem gpt_pentry_seek_of_clear (hzero : 0 ∉ ptn_name) (hname : ptn_name.length ≤ 36)
    (hsize : PTN_ENTRY_SIZE ≤ pentry_size) (hlength : pentries.length = count * pentry_size)
    (hclear : ∀ k < count, (∀ i < k, named ptn_name (entryHead pentries pentry_size i) = false) →
      ¬ Overruns ptn_name (entryHead pentries pentry_size k)) :
    gpt_pentry_seek ptn_name pentries 0 (count * pentry_size) pentry_size =
      .ok ((firstFrom (named ptn_name) (entryHead pentries pentry_size) 0 count).map (· * pentry_size)) := by
  have hagree : firstFrom (fun head => decide (Overruns ptn_name head) || named ptn_name head)
      (entryHead pentries pentry_size) 0 count =
        firstFrom (named ptn_name) (entryHead pentries pentry_size) 0 count := by
    apply firstFrom_eq_of_agree
    intro k _ hk hbefore
    simp [hclear k hk fun i hi => hbefore i (Nat.zero_le i) hi]
  rw [gpt_pentry_seek_cases hzero hname hsize hlength, hagree]
  cases hfirst : firstFrom (named ptn_name) (entryHead pentries pentry_size) 0 count with
  | none => rfl
  | some i =>
    obtain ⟨_, hi, _, hbefore⟩ := firstFrom_eq_some hfirst
    simp only []
    rw [if_neg (hclear i hi fun k hk => hbefore k (Nat.zero_le k) hk)]
    rfl

/-- The search fails if an entry makes it overrun before any is named. -/
theorem gpt_pentry_seek_of_overruns (hzero : 0 ∉ ptn_name) (hname : ptn_name.length ≤ 36)
    (hsize : PTN_ENTRY_SIZE ≤ pentry_size) (hlength : pentries.length = count * pentry_size) {k : Nat}
    (hk : k < count) (hbefore : ∀ i < k, named ptn_name (entryHead pentries pentry_size i) = false)
    (hoverruns : Overruns ptn_name (entryHead pentries pentry_size k)) :
    gpt_pentry_seek ptn_name pentries 0 (count * pentry_size) pentry_size = .error .out_of_bounds := by
  rw [gpt_pentry_seek_cases hzero hname hsize hlength]
  cases hfirst : firstFrom (fun head => decide (Overruns ptn_name head) || named ptn_name head)
      (entryHead pentries pentry_size) 0 count with
  | none =>
    have h := firstFrom_eq_none.mp hfirst k (Nat.zero_le k) hk
    simp [hoverruns] at h
  | some i =>
    obtain ⟨_, hi, hstops, hearlier⟩ := firstFrom_eq_some hfirst
    have hik : i ≤ k := by
      by_contra hlt
      have h := hearlier k (Nat.zero_le k) (by omega)
      simp [hoverruns] at h
    have hoverrunsAt : Overruns ptn_name (entryHead pentries pentry_size i) := by
      rcases Nat.lt_or_eq_of_le hik with hlt | rfl
      · simpa [hbefore i hlt] using hstops
      · exact hoverruns
    exact if_pos hoverrunsAt

/-- Entries of another array, whose names are the same as far as the search goes, are named alike. -/
theorem unnamed_of_same_names {pentries' : Buffer}
    (hnames : ∀ k < count, (∀ i < k, named ptn_name (entryHead pentries pentry_size i) = false) →
      headName (entryHead pentries' pentry_size k) = headName (entryHead pentries pentry_size k))
    {k : Nat} (hk : k ≤ count) (hbefore' : ∀ i < k, named ptn_name (entryHead pentries' pentry_size i) = false) :
    ∀ i < k, named ptn_name (entryHead pentries pentry_size i) = false := by
  induction k with
  | zero => omega
  | succ k ih =>
    intro i hi
    have hbefore := ih (by omega) fun i hi => hbefore' i (by omega)
    by_cases hik : i = k
    · rw [hik, ← named_congr (hnames k (by omega) hbefore)]
      exact hbefore' k (by omega)
    · exact hbefore i (by omega)

/-- The search finds the first entry that is named, within the bounds of its copy of a name,
    exactly if the name has at most 32 characters, or no entry up to the first that is named
    fills its name field with the name and the beginning of `bak`. -/
theorem gpt_pentry_seek_iff (hzero : 0 ∉ ptn_name) (hname : ptn_name.length ≤ 36)
    (hsize : PTN_ENTRY_SIZE ≤ pentry_size) (hlength : pentries.length = count * pentry_size) :
    FindsFirst ptn_name pentries pentry_size count ↔
      ptn_name.length ≤ 32 ∨
      ∀ k < count, (∀ i < k, named ptn_name (entryHead pentries pentry_size i) = false) →
        headName (entryHead pentries pentry_size k) ≠
          ptn_name ++ BAK_PTN_NAME_EXT.take (36 - ptn_name.length) := by
  constructor
  · rintro ⟨hfirst, _⟩
    by_contra hnot
    rw [not_or] at hnot
    obtain ⟨hlong, hnot⟩ := hnot
    simp only [not_forall, not_not] at hnot
    obtain ⟨k, hk, hbefore, hfills⟩ := hnot
    rw [gpt_pentry_seek_of_overruns hzero hname hsize hlength hk hbefore ⟨by omega, hfills⟩] at hfirst
    cases hfirst
  · intro hcondition
    have hclear : ∀ k < count, (∀ i < k, named ptn_name (entryHead pentries pentry_size i) = false) →
        ¬ Overruns ptn_name (entryHead pentries pentry_size k) := by
      rintro k hk hbefore ⟨hlong, hfills⟩
      rcases hcondition with hshort | hother
      · omega
      · exact hother k hk hbefore hfills
    have hfirst := gpt_pentry_seek_of_clear hzero hname hsize hlength hclear
    refine ⟨hfirst, fun pentries' hlength' hnames => ?_⟩
    have hclear' : ∀ k < count, (∀ i < k, named ptn_name (entryHead pentries' pentry_size i) = false) →
        ¬ Overruns ptn_name (entryHead pentries' pentry_size k) := by
      intro k hk hbefore'
      have hbefore := unnamed_of_same_names hnames (Nat.le_of_lt hk) hbefore'
      rw [Overruns, hnames k hk hbefore]
      exact hclear k hk hbefore
    rw [hfirst, gpt_pentry_seek_of_clear hzero hname hsize (hlength'.trans hlength) hclear']
    congr 2
    apply firstFrom_eq_of_agree
    intro k _ hk hbefore
    exact named_congr (hnames k hk fun i hi => hbefore i (Nat.zero_le i) hi)

end search

/-- An array of two entries, named `abl` and `ablbak`. -/
def ablEntries : Buffer := [cstr "abl", cstr "ablbak"].flatMap namedEntry

theorem gpt_pentry_seek_ablEntries : FindsFirst (cstr "abl") ablEntries 128 2 :=
  (gpt_pentry_seek_iff (by decide) (by decide) (by decide) (length_namedEntries _)).mpr (.inl (by decide))

/-- A name that fills the 36 units of its field. -/
def fullName : Buffer := List.replicate 36 0x61

/-- The search for such a name reads beyond its copy of the name of the entry that has it. -/
theorem gpt_pentry_seek_fullName :
    named fullName (namedEntry fullName) = true ∧
    gpt_pentry_seek fullName (namedEntry fullName) 0 (1 * 128) 128 = .error .out_of_bounds ∧
    ¬ FindsFirst fullName (namedEntry fullName) 128 1 := by
  have hseek : gpt_pentry_seek fullName (namedEntry fullName) 0 (1 * 128) 128 = .error .out_of_bounds := by
    decide +kernel
  refine ⟨by decide +kernel, hseek, fun h => ?_⟩
  have hfirst := h.first
  rw [hseek] at hfirst
  cases hfirst

end gpt_utils
