import Mathlib.Data.List.DropRight

namespace texts

/-- The parts of a text between its separators, without the empty ones at the end. A text
    without separators is its only part, also when it is empty. -/
def split (sep : Char) (text : String) : List String :=
  if sep ∈ text.toList then ((text.toList.splitOn sep).map String.ofList).rdropWhile (· = "")
  else [text]

def join (sep : Char) (parts : List String) : String :=
  String.ofList ([sep].intercalate (parts.map String.toList))

/-- The text has a separator, and behind it something else than separators. -/
def Continues (sep : Char) (text : String) : Prop :=
  ∃ before after, text.toList = before ++ sep :: after ∧ ∃ c ∈ after, c ≠ sep

/-- The number that decimal digits stand for. -/
def parseNat (digits : List Char) : Option Nat :=
  if digits ≠ [] ∧ digits.all Char.isDigit = true then some (Nat.ofDigitChars 10 digits 0) else none

/-- The number that decimal digits after a sign, or after none, stand for. -/
def parseInt (text : String) : Option Int :=
  match text.toList with
  | '-' :: digits => (parseNat digits).map fun n => -(n : Int)
  | '+' :: digits => (parseNat digits).map fun n => (n : Int)
  | digits => (parseNat digits).map fun n => (n : Int)

variable {sep : Char} {parts : List String}

theorem split_of_mem {text : String} (hmem : sep ∈ text.toList) :
    split sep text = ((text.toList.splitOn sep).map String.ofList).rdropWhile (· = "") :=
  if_pos hmem

theorem mem_join (hparts : 2 ≤ parts.length) : sep ∈ (join sep parts).toList := by
  match parts, hparts with
  | first :: second :: rest, _ => simp [join, List.intercalate]

/-- Joined parts are split into the same parts again, where none has a separator in it and the
    last is not empty. -/
theorem split_join (hlength : 2 ≤ parts.length) (hfree : ∀ part ∈ parts, sep ∉ part.toList)
    (hlast : parts.getLast? ≠ some "") : split sep (join sep parts) = parts := by
  have hne : parts ≠ [] := by
    rintro rfl
    simp at hlength
  have hpieces : ([sep].intercalate (parts.map String.toList)).splitOn sep =
      parts.map String.toList :=
    List.splitOn_intercalate sep (by simpa using hfree) (by simpa using hne)
  rw [split_of_mem (mem_join hlength), join, String.toList_ofList, hpieces, List.map_map]
  have hback : parts.map (String.ofList ∘ String.toList) = parts := by
    simp [Function.comp_def]
  rw [hback, List.rdropWhile_eq_self_iff]
  intro _
  simpa [List.getLast?_eq_some_getLast hne] using hlast

/-- A piece between separators is not empty exactly if there is anything else than separators. -/
theorem exists_piece_iff {sep : Char} (text : List Char) :
    (∃ piece ∈ text.splitOn sep, piece ≠ []) ↔ ∃ c ∈ text, c ≠ sep := by
  induction text with
  | nil => simp
  | cons c text ih =>
    rw [List.splitOn_cons_eq_if_modifyHead]
    by_cases hsep : c = sep
    · simp [hsep, ih]
    · obtain ⟨piece, pieces, hpieces⟩ := List.exists_cons_of_ne_nil (List.splitOn_ne_nil sep text)
      simp [hsep, hpieces]

/-- A piece behind the first is not empty exactly if the text goes on behind a separator. -/
theorem exists_later_piece_iff {sep : Char} (text : List Char) :
    (∃ piece ∈ (text.splitOn sep).tail, piece ≠ []) ↔
      ∃ before after, text = before ++ sep :: after ∧ ∃ c ∈ after, c ≠ sep := by
  induction text with
  | nil => simp
  | cons c text ih =>
    rw [List.splitOn_cons_eq_if_modifyHead]
    by_cases hsep : c = sep
    · subst hsep
      rw [if_pos (beq_self_eq_true c), List.tail_cons, exists_piece_iff]
      constructor
      · exact fun hother => ⟨[], text, rfl, hother⟩
      · rintro ⟨before, after, htext, d, hd, hne⟩
        refine ⟨d, ?_, hne⟩
        have hmem : d ∈ c :: text := htext ▸ List.mem_append_right _ (List.mem_cons_of_mem _ hd)
        exact (List.mem_cons.mp hmem).resolve_left hne
    · have htail : ((text.splitOn sep).modifyHead (List.cons c)).tail = (text.splitOn sep).tail := by
        cases text.splitOn sep <;> rfl
      rw [if_neg (by simpa using hsep), htail, ih]
      constructor
      · rintro ⟨before, after, htext, hother⟩
        exact ⟨c :: before, after, by rw [htext, List.cons_append], hother⟩
      · rintro ⟨before, after, htext, hother⟩
        cases before with
        | nil => exact absurd (List.cons.inj htext).1 hsep
        | cons _ before => exact ⟨before, after, (List.cons.inj htext).2, hother⟩

/-- Without the empty parts at its end a list has two parts if one behind the first is not
    empty. -/
theorem two_le_length_rdropWhile_iff (part : String) (parts : List String) :
    2 ≤ ((part :: parts).rdropWhile (· = "")).length ↔ ∃ later ∈ parts, later ≠ "" := by
  induction parts using List.reverseRecOn with
  | nil =>
    have hlength := (List.rdropWhile_prefix (fun s : String => (s = "" : Bool)) [part]).length_le
    simp only [List.length_singleton] at hlength
    simp only [List.not_mem_nil, false_and, exists_false, iff_false]
    omega
  | append_singleton parts last ih =>
    rw [← List.cons_append, List.rdropWhile_concat]
    by_cases hlast : last = ""
    · simp [hlast, ih]
    · simp [hlast]

/-- A text is split in two parts or more exactly if it goes on behind a separator. -/
theorem two_le_length_split_iff (sep : Char) (text : String) :
    2 ≤ (split sep text).length ↔ Continues sep text := by
  by_cases hmem : sep ∈ text.toList
  · obtain ⟨piece, pieces, hpieces⟩ :=
      List.exists_cons_of_ne_nil (List.splitOn_ne_nil sep text.toList)
    rw [split_of_mem hmem, Continues, ← exists_later_piece_iff, hpieces, List.map_cons,
      two_le_length_rdropWhile_iff, List.tail_cons]
    simp
  · refine iff_of_false (by simp [split, hmem]) ?_
    rintro ⟨before, after, htext, -⟩
    exact hmem (htext ▸ by simp)

theorem parseNat_toDigits (n : Nat) : parseNat (Nat.toDigits 10 n) = some n := by
  have hdigits : (Nat.toDigits 10 n).all Char.isDigit = true := by
    rw [List.all_eq_true]
    exact fun c hc => Nat.isDigit_of_mem_toDigits (by omega) (by omega) hc
  rw [parseNat, if_pos ⟨Nat.toDigits_ne_nil, hdigits⟩, Nat.ofDigitChars_ten_toDigits]

/-- Digits after no sign are read as they are. -/
theorem parseInt_of_digits {text : String} (hdigits : ∀ c ∈ text.toList, c.isDigit = true) :
    parseInt text = (parseNat text.toList).map fun n => (n : Int) := by
  rw [parseInt]
  split
  · next digits htext =>
    rw [htext] at hdigits
    exact absurd (hdigits '-' List.mem_cons_self) (by decide)
  · next digits htext =>
    rw [htext] at hdigits
    exact absurd (hdigits '+' List.mem_cons_self) (by decide)
  · rfl

theorem isDigit_of_mem_repr (n : Nat) : ∀ c ∈ (Nat.repr n).toList, c.isDigit = true := by
  rw [Nat.toList_repr]
  exact fun c hc => Nat.isDigit_of_mem_toDigits (by omega) (by omega) hc

/-- A number is read back from its text. -/
theorem parseInt_repr (n : Int) : parseInt n.repr = some n := by
  cases n with
  | ofNat n =>
    rw [Int.repr, parseInt_of_digits (isDigit_of_mem_repr n), Nat.toList_repr, parseNat_toDigits]
    rfl
  | negSucc n =>
    have htext : (Int.negSucc n).repr.toList = '-' :: Nat.toDigits 10 (n + 1) := by
      simp [Int.repr]
    rw [parseInt, htext]
    simp only [parseNat_toDigits]
    rfl

/-- The text of a number is not empty, and has nothing in it but digits and a sign. -/
theorem mem_repr {n : Int} {c : Char} (hc : c ∈ n.repr.toList) : c.isDigit = true ∨ c = '-' := by
  cases n with
  | ofNat n => exact .inl (isDigit_of_mem_repr n c hc)
  | negSucc n =>
    rw [Int.repr, String.toList_append, List.mem_append] at hc
    obtain hsign | hdigit := hc
    · exact .inr (by simpa using hsign)
    · exact .inl (isDigit_of_mem_repr _ c hdigit)

theorem repr_ne_empty (n : Int) : n.repr ≠ "" := by
  intro hempty
  have hparsed := parseInt_repr n
  rw [hempty] at hparsed
  exact absurd hparsed (by simp [parseInt, parseNat])

end texts
