import Mathlib.Data.List.Basic

namespace regions

/-- The `count` elements of a buffer from `offset` on, cut short at its end. -/
def slice {T : Type} (buffer : List T) (offset count : Nat) : List T :=
  (buffer.drop offset).take count

/-- A buffer with `data` stored from `offset` on. Whatever would fall beyond the
    end is dropped, so a store never changes the length. -/
def patch {T : Type} (buffer : List T) (offset : Nat) (data : List T) : List T :=
  buffer.take offset ++ data.take (buffer.length - offset) ++ buffer.drop (offset + data.length)

/-- Two half-open intervals, each given by its start and its length, share no index. -/
def Apart (offset count offset' count' : Nat) : Prop :=
  offset + count ≤ offset' ∨ offset' + count' ≤ offset

instance (offset count offset' count' : Nat) : Decidable (Apart offset count offset' count') :=
  inferInstanceAs (Decidable (_ ∨ _))

theorem Apart.symm {offset count offset' count' : Nat} (h : Apart offset count offset' count') :
    Apart offset' count' offset count :=
  Or.symm h

/-- Parts of two intervals that lie apart lie apart. -/
theorem Apart.mono {offset count offset' count' start length start' length' : Nat}
    (h : Apart offset count offset' count') (hstart : offset ≤ start)
    (hstop : start + length ≤ offset + count) (hstart' : offset' ≤ start')
    (hstop' : start' + length' ≤ offset' + count') : Apart start length start' length' := by
  unfold Apart at h ⊢
  omega

theorem getElem?_slice {T : Type} (buffer : List T) (offset count i : Nat) :
    (slice buffer offset count)[i]? = if i < count then buffer[offset + i]? else none := by
  simp [slice, List.getElem?_take, List.getElem?_drop]

@[simp] theorem length_slice {T : Type} (buffer : List T) (offset count : Nat) :
    (slice buffer offset count).length = min count (buffer.length - offset) := by
  simp [slice]

theorem length_slice_of_le {T : Type} {buffer : List T} {offset count : Nat}
    (hroom : offset + count ≤ buffer.length) : (slice buffer offset count).length = count := by
  rw [length_slice]
  omega

@[simp] theorem length_patch {T : Type} (buffer : List T) (offset : Nat) (data : List T) :
    (patch buffer offset data).length = buffer.length := by
  simp only [patch, List.length_append, List.length_take, List.length_drop]
  omega

/-- The one pointwise description of a store, from which the algebra below follows. -/
theorem getElem?_patch {T : Type} (buffer : List T) (offset : Nat) (data : List T) (i : Nat) :
    (patch buffer offset data)[i]? =
      if offset ≤ i ∧ i < offset + data.length ∧ i < buffer.length then data[i - offset]?
      else buffer[i]? := by
  unfold patch
  by_cases hlo : i < offset
  · by_cases hend : i < buffer.length
    · rw [if_neg (by omega), List.append_assoc, List.getElem?_append_left (by simp; omega),
        List.getElem?_take_of_lt hlo]
    · rw [if_neg (by omega), List.getElem?_eq_none (by simp; omega),
        List.getElem?_eq_none (by omega)]
  · by_cases hend : i < buffer.length
    · have htake : (buffer.take offset).length = offset := by simp; omega
      by_cases hhi : i < offset + data.length
      · rw [if_pos (by omega), List.append_assoc, List.getElem?_append_right (by omega), htake,
          List.getElem?_append_left (by simp; omega), List.getElem?_take_of_lt (by omega)]
      · rw [if_neg (by omega), List.getElem?_append_right (by simp; omega), List.getElem?_drop]
        congr 1
        simp
        omega
    · rw [if_neg (by omega), List.getElem?_eq_none (by simp; omega),
        List.getElem?_eq_none (by omega)]

/-- Reading back the region just stored gives the stored data. -/
theorem slice_patch_self {T : Type} {buffer data : List T} {offset : Nat}
    (hroom : offset + data.length ≤ buffer.length) :
    slice (patch buffer offset data) offset data.length = data := by
  apply List.ext_getElem?
  intro i
  rw [getElem?_slice, getElem?_patch]
  by_cases hi : i < data.length
  · rw [if_pos hi, if_pos (by omega), Nat.add_sub_cancel_left]
  · rw [if_neg hi, List.getElem?_eq_none (by omega)]

/-- A store leaves every region apart from it as it was. -/
theorem slice_patch_of_apart {T : Type} (buffer : List T) {data : List T}
    {offset start length : Nat} (hapart : Apart start length offset data.length) :
    slice (patch buffer offset data) start length = slice buffer start length := by
  apply List.ext_getElem?
  intro i
  rw [getElem?_slice, getElem?_slice, getElem?_patch]
  by_cases hi : i < length
  · rw [if_pos hi, if_pos hi, if_neg (by unfold Apart at hapart; omega)]
  · rw [if_neg hi, if_neg hi]

/-- Storing what a region already holds changes nothing. -/
@[simp] theorem patch_slice_self {T : Type} (buffer : List T) (offset count : Nat) :
    patch buffer offset (slice buffer offset count) = buffer := by
  apply List.ext_getElem?
  intro i
  rw [getElem?_patch]
  split
  · next h =>
    rw [length_slice] at h
    rw [getElem?_slice, if_pos (by omega)]
    congr 1
    omega
  · rfl

theorem patch_eq_self {T : Type} {buffer data : List T} {offset : Nat}
    (hdata : slice buffer offset data.length = data) : patch buffer offset data = buffer := by
  conv_lhs => rw [← hdata]
  exact patch_slice_self buffer offset data.length

/-- A store over the whole buffer leaves the data alone. -/
theorem patch_all {T : Type} {buffer data : List T} (hlength : data.length = buffer.length) :
    patch buffer 0 data = data := by
  simp [patch, ← hlength]

/-- A store hides an earlier one that it covers. -/
theorem patch_patch_cover {T : Type} (buffer : List T) {data data' : List T} {offset offset' : Nat}
    (hstart : offset ≤ offset') (hstop : offset' + data'.length ≤ offset + data.length) :
    patch (patch buffer offset' data') offset data = patch buffer offset data := by
  apply List.ext_getElem?
  intro i
  simp only [getElem?_patch, length_patch]
  by_cases hin : offset ≤ i ∧ i < offset + data.length ∧ i < buffer.length
  · rw [if_pos hin, if_pos hin]
  · rw [if_neg hin, if_neg hin, if_neg (by omega)]

theorem patch_patch_same {T : Type} (buffer : List T) {data data' : List T} {offset : Nat}
    (hlength : data'.length = data.length) :
    patch (patch buffer offset data') offset data = patch buffer offset data :=
  patch_patch_cover buffer (Nat.le_refl _) (by omega)

/-- Stores to regions that lie apart commute. -/
theorem patch_comm {T : Type} (buffer : List T) {data data' : List T} {offset offset' : Nat}
    (hapart : Apart offset data.length offset' data'.length) :
    patch (patch buffer offset data) offset' data' = patch (patch buffer offset' data') offset data := by
  apply List.ext_getElem?
  intro i
  simp only [getElem?_patch, length_patch]
  unfold Apart at hapart
  by_cases hin : offset ≤ i ∧ i < offset + data.length ∧ i < buffer.length
  · have hout : ¬ (offset' ≤ i ∧ i < offset' + data'.length ∧ i < buffer.length) := by omega
    rw [if_neg hout, if_pos hin, if_pos hin]
  · rw [if_neg hin, if_neg hin]

/-- A store of two pieces is a store of the first and then of the second behind it. -/
theorem patch_append {T : Type} (buffer data data' : List T) (offset : Nat) :
    patch buffer offset (data ++ data') =
      patch (patch buffer offset data) (offset + data.length) data' := by
  apply List.ext_getElem?
  intro i
  simp only [getElem?_patch, length_patch, List.length_append]
  by_cases hsecond : offset + data.length ≤ i ∧ i < offset + data.length + data'.length ∧
    i < buffer.length
  · rw [if_pos hsecond, if_pos (by omega), List.getElem?_append_right (by omega)]
    congr 1
    omega
  · rw [if_neg hsecond]
    by_cases hfirst : offset ≤ i ∧ i < offset + data.length ∧ i < buffer.length
    · rw [if_pos hfirst, if_pos (by omega), List.getElem?_append_left (by omega)]
    · rw [if_neg hfirst, if_neg (by omega)]

theorem set_eq_patch {T : Type} (buffer : List T) (i : Nat) (a : T) :
    buffer.set i a = patch buffer i [a] := by
  apply List.ext_getElem?
  intro j
  rw [getElem?_patch, List.getElem?_set, List.length_singleton]
  by_cases hj : i = j
  · subst hj
    by_cases hroom : i < buffer.length
    · rw [if_pos rfl, if_pos hroom, if_pos (by omega), Nat.sub_self]
      rfl
    · rw [if_pos rfl, if_neg hroom, if_neg (by omega), List.getElem?_eq_none (by omega)]
  · rw [if_neg hj, if_neg (by omega)]

theorem slice_concat {T : Type} {buffer : List T} {offset count : Nat} {a : T}
    (h : buffer[offset + count]? = some a) :
    slice buffer offset (count + 1) = slice buffer offset count ++ [a] := by
  rw [slice, List.take_add_one, List.getElem?_drop, h]
  rfl

@[simp] theorem slice_count_zero {T : Type} (buffer : List T) (offset : Nat) :
    slice buffer offset 0 = [] := by
  simp [slice]

/-- Outside the stored region a buffer keeps its elements. -/
theorem getElem?_patch_outside {T : Type} (buffer : List T) {data : List T} {offset i : Nat}
    (houtside : i < offset ∨ offset + data.length ≤ i) :
    (patch buffer offset data)[i]? = buffer[i]? := by
  rw [getElem?_patch, if_neg (by omega)]

theorem slice_slice {T : Type} (buffer : List T) {start length inner count : Nat}
    (hinside : inner + count ≤ length) :
    slice (slice buffer start length) inner count = slice buffer (start + inner) count := by
  apply List.ext_getElem?
  intro i
  simp only [getElem?_slice]
  by_cases hi : i < count
  · rw [if_pos hi, if_pos hi, if_pos (by omega), Nat.add_assoc]
  · rw [if_neg hi, if_neg hi]

/-- A store into a part of a buffer is a store into that part. -/
theorem slice_patch_inside {T : Type} (buffer : List T) {data : List T} {start inner length : Nat}
    (hinside : inner + data.length ≤ length) :
    slice (patch buffer (start + inner) data) start length = patch (slice buffer start length) inner data := by
  apply List.ext_getElem?
  intro i
  rw [getElem?_slice, getElem?_patch, getElem?_patch, getElem?_slice, length_slice]
  by_cases hi : i < length
  · rw [if_pos hi, if_pos hi]
    by_cases hstored : inner ≤ i ∧ i < inner + data.length ∧ start + i < buffer.length
    · rw [if_pos (by omega), if_pos (by omega), Nat.add_sub_add_left]
    · rw [if_neg (by omega), if_neg (by omega)]
  · rw [if_neg hi, if_neg (by omega), if_neg hi]

theorem take_patch {T : Type} (buffer : List T) {data : List T} {offset count : Nat}
    (hinside : offset + data.length ≤ count) :
    (patch buffer offset data).take count = patch (buffer.take count) offset data := by
  have h := @slice_patch_inside T buffer data 0 offset count hinside
  rwa [Nat.zero_add] at h

end regions
