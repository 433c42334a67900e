import OnePlus7Pro.Loops.IndexWalk
import Mathlib.Data.List.Find
import Mathlib.Order.Basic
import Mathlib.Logic.Relation

namespace loops

/-- A vector of values in the order of their keys, each key at most once. -/
structure KeyedVector (K V : Type) [LT K] where
  entries : List (K × V)
  sorted : entries.Pairwise fun a b => a.1 < b.1

section

variable {K V E : Type} [LinearOrder K]

def KeyedVector.empty : KeyedVector K V := ⟨[], List.Pairwise.nil⟩

def KeyedVector.keys (v : KeyedVector K V) : List K := v.entries.map Prod.fst

def KeyedVector.removeItem (v : KeyedVector K V) (key : K) : KeyedVector K V :=
  ⟨v.entries.filter fun entry => entry.1 ≠ key, v.sorted.filter _⟩

def KeyedVector.valueFor (v : KeyedVector K V) (key : K) : Option V :=
  (v.entries.find? fun entry => entry.1 = key).map Prod.snd

/-- The vector with a value put at a key, in place of one that is there. -/
def KeyedVector.add (v : KeyedVector K V) (key : K) (value : V) : KeyedVector K V where
  entries := v.entries.filter (fun entry => entry.1 < key) ++
    (key, value) :: v.entries.filter fun entry => key < entry.1
  sorted := by
    rw [List.pairwise_append, List.pairwise_cons]
    refine ⟨v.sorted.filter _, ⟨?_, v.sorted.filter _⟩, ?_⟩
    · simp
    · intro a ha b hb
      have hlow : a.1 < key := by simpa using (List.mem_filter.mp ha).2
      obtain rfl | hb := List.mem_cons.mp hb
      · exact hlow
      · exact hlow.trans (by simpa using (List.mem_filter.mp hb).2)

/-- The vector with the value at a key replaced. -/
def KeyedVector.modify (v : KeyedVector K V) (key : K) (f : V → V) : KeyedVector K V where
  entries := v.entries.map fun entry => if entry.1 = key then (entry.1, f entry.2) else entry
  sorted := by
    rw [List.pairwise_map]
    refine v.sorted.imp fun {a b} hlt => ?_
    split_ifs <;> exact hlt

/-- `for (; i < v.size(); i++)`, where the body may remove the item with the key at `i`. -/
def KeyedVector.walk (visit : K → V → Visit E) (v : KeyedVector K V) (i : Nat) :
    KeyedVector K V × List E :=
  if h : i < v.entries.length then
    let key := v.entries[i].1
    let now := visit key v.entries[i].2
    let rest := KeyedVector.walk visit (if now.removed then v.removeItem key else v) (i + 1)
    (rest.1, now.told ++ rest.2)
  else (v, [])
termination_by v.entries.length - i
decreasing_by
  have hle : (v.removeItem v.entries[i].1).entries.length ≤ v.entries.length :=
    List.length_filter_le _ _
  split <;> omega

variable {v : KeyedVector K V}

theorem KeyedVector.nodup_entries (v : KeyedVector K V) : v.entries.Nodup :=
  v.sorted.imp fun {a b} hlt heq => by simp [heq] at hlt

theorem KeyedVector.nodup_keys (v : KeyedVector K V) : v.keys.Nodup := by
  rw [KeyedVector.keys, List.nodup_iff_pairwise_ne, List.pairwise_map]
  exact v.sorted.imp fun hlt => ne_of_lt hlt

theorem KeyedVector.mem_keys_iff {key : K} : key ∈ v.keys ↔ ∃ x, (key, x) ∈ v.entries := by
  simp [KeyedVector.keys]

/-- A key has one value. -/
theorem KeyedVector.value_unique {key : K} {x y : V} (hx : (key, x) ∈ v.entries)
    (hy : (key, y) ∈ v.entries) : x = y := by
  have hsame := List.inj_on_of_nodup_map v.nodup_keys hx hy rfl
  exact congrArg Prod.snd hsame

theorem KeyedVector.valueFor_eq_some_iff {key : K} {x : V} :
    v.valueFor key = some x ↔ (key, x) ∈ v.entries := by
  rw [KeyedVector.valueFor, Option.map_eq_some_iff]
  constructor
  · rintro ⟨entry, hfound, rfl⟩
    have hkey : entry.1 = key := by simpa using List.find?_some hfound
    rw [← hkey]
    exact List.mem_of_find?_eq_some hfound
  · intro hmem
    have hexists : (v.entries.find? fun entry => entry.1 = key).isSome = true :=
      List.find?_isSome.mpr ⟨(key, x), hmem, by simp⟩
    obtain ⟨entry, hfound⟩ := Option.isSome_iff_exists.mp hexists
    have hkey : entry.1 = key := by simpa using List.find?_some hfound
    refine ⟨entry, hfound, v.value_unique ?_ hmem⟩
    rw [← hkey]
    exact List.mem_of_find?_eq_some hfound

/-- A value put at a key is found there, and at no other key. -/
theorem KeyedVector.valueFor_add (key other : K) (value : V) :
    (v.add key value).valueFor other = if other = key then some value else v.valueFor other := by
  by_cases hother : other = key
  · rw [if_pos hother, KeyedVector.valueFor_eq_some_iff, KeyedVector.add, List.mem_append, List.mem_cons]
    exact .inr (.inl (by rw [hother]))
  · rw [if_neg hother]
    apply Option.ext
    intro x
    rw [KeyedVector.valueFor_eq_some_iff, KeyedVector.valueFor_eq_some_iff, KeyedVector.add,
      List.mem_append, List.mem_cons, List.mem_filter, List.mem_filter]
    have hne : (other, x) ≠ (key, value) := fun h => hother (congrArg Prod.fst h)
    rcases lt_or_gt_of_ne hother with hlt | hgt
    · simp only [hne, hlt, decide_true, and_true, false_or]
      exact or_iff_left_of_imp fun h => h.1
    · simp only [hne, hgt, decide_true, and_true, false_or]
      exact or_iff_right_of_imp fun h => h.1

theorem KeyedVector.mem_removeItem {key : K} {entry : K × V} :
    entry ∈ (v.removeItem key).entries ↔ entry ∈ v.entries ∧ entry.1 ≠ key := by
  simp [KeyedVector.removeItem]

theorem KeyedVector.mem_keys_removeItem {key other : K} :
    other ∈ (v.removeItem key).keys ↔ other ∈ v.keys ∧ other ≠ key := by
  simp only [KeyedVector.keys, List.mem_map, KeyedVector.mem_removeItem]
  constructor
  · rintro ⟨entry, ⟨hmem, hne⟩, rfl⟩
    exact ⟨⟨entry, hmem, rfl⟩, hne⟩
  · rintro ⟨⟨entry, hmem, rfl⟩, hne⟩
    exact ⟨entry, ⟨hmem, hne⟩, rfl⟩

theorem KeyedVector.valueFor_removeItem_of_ne {key other : K} (hne : other ≠ key) :
    (v.removeItem key).valueFor other = v.valueFor other := by
  ext x
  simp [KeyedVector.valueFor_eq_some_iff, KeyedVector.mem_removeItem, hne]

/-- Removing the item with the key of an entry removes that entry. -/
theorem KeyedVector.removeItem_of_split {before after : List (K × V)} {entry : K × V}
    (hsplit : v.entries = before ++ entry :: after) :
    (v.removeItem entry.1).entries = before ++ after := by
  have hsorted := v.sorted
  rw [hsplit, List.pairwise_append, List.pairwise_cons] at hsorted
  obtain ⟨_, ⟨hafter, _⟩, hbefore⟩ := hsorted
  have hkeep_before : before.filter (fun other => other.1 ≠ entry.1) = before := by
    rw [List.filter_eq_self]
    intro other hother
    simpa using (hbefore other hother entry List.mem_cons_self).ne
  have hkeep_after : after.filter (fun other => other.1 ≠ entry.1) = after := by
    rw [List.filter_eq_self]
    intro other hother
    simpa using (hafter other hother).ne'
  have hfilter : (v.removeItem entry.1).entries = v.entries.filter fun other => other.1 ≠ entry.1 :=
    rfl
  rw [hfilter, hsplit, List.filter_append, hkeep_before, List.filter_cons]
  simpa using hkeep_after

theorem KeyedVector.entries_perm {key : K} {x : V} (hmem : (key, x) ∈ v.entries) :
    v.entries.Perm ((key, x) :: (v.removeItem key).entries) := by
  obtain ⟨before, after, hsplit⟩ := List.append_of_mem hmem
  rw [KeyedVector.removeItem_of_split hsplit, hsplit]
  exact List.perm_middle

/-- Replacing the value at a key leaves the other entries. -/
theorem KeyedVector.modify_perm {key : K} {x : V} (hmem : (key, x) ∈ v.entries) (f : V → V) :
    (v.modify key f).entries.Perm ((key, f x) :: (v.removeItem key).entries) := by
  have hothers : ((v.removeItem key).entries.map fun entry =>
      if entry.1 = key then (entry.1, f entry.2) else entry) = (v.removeItem key).entries := by
    rw [List.map_congr_left (g := id), List.map_id]
    intro entry hentry
    rw [if_neg (KeyedVector.mem_removeItem.mp hentry).2, id]
  have hperm := (KeyedVector.entries_perm hmem).map fun entry =>
    if entry.1 = key then (entry.1, f entry.2) else entry
  rw [List.map_cons, if_pos rfl, hothers] at hperm
  exact hperm

theorem KeyedVector.countP_entries {key : K} {x : V} (hmem : (key, x) ∈ v.entries)
    (p : K × V → Bool) :
    v.entries.countP p =
      (v.removeItem key).entries.countP p + if p (key, x) then 1 else 0 := by
  rw [(KeyedVector.entries_perm hmem).countP_eq, List.countP_cons]

theorem KeyedVector.countP_modify {key : K} {x : V} (hmem : (key, x) ∈ v.entries) (f : V → V)
    (p : K × V → Bool) :
    (v.modify key f).entries.countP p =
      (v.removeItem key).entries.countP p + if p (key, f x) then 1 else 0 := by
  rw [(KeyedVector.modify_perm hmem f).countP_eq, List.countP_cons]

theorem KeyedVector.any_entries {key : K} {x : V} (hmem : (key, x) ∈ v.entries)
    (p : K × V → Bool) : v.entries.any p = (p (key, x) || (v.removeItem key).entries.any p) := by
  rw [(KeyedVector.entries_perm hmem).any_eq, List.any_cons]

theorem KeyedVector.any_modify {key : K} {x : V} (hmem : (key, x) ∈ v.entries) (f : V → V)
    (p : K × V → Bool) :
    (v.modify key f).entries.any p = (p (key, f x) || (v.removeItem key).entries.any p) := by
  rw [(KeyedVector.modify_perm hmem f).any_eq, List.any_cons]

theorem KeyedVector.keys_modify (key : K) (f : V → V) : (v.modify key f).keys = v.keys := by
  rw [KeyedVector.keys, KeyedVector.modify, List.map_map]
  refine List.map_congr_left fun entry _ => ?_
  simp only [Function.comp_apply]
  split_ifs <;> rfl

/-- Where the new value at a key is judged as the old one was, the same entry is found. -/
theorem KeyedVector.find?_modify (key : K) {f : V → V} {p : K × V → Bool}
    (hjudged : ∀ x, (key, x) ∈ v.entries → p (key, f x) = p (key, x)) :
    (v.modify key f).entries.find? p = (v.entries.find? p).map fun entry =>
      if entry.1 = key then (entry.1, f entry.2) else entry := by
  have hsame : ∀ entry ∈ v.entries,
      p (if entry.1 = key then (entry.1, f entry.2) else entry) = p entry := by
    rintro ⟨other, x⟩ hmem
    by_cases hother : other = key
    · subst hother
      rw [if_pos rfl]
      exact hjudged x hmem
    · rw [if_neg hother]
  exact List.find?_map.trans (congrArg _ (List.find?_congr hsame))

theorem KeyedVector.valueFor_modify (key other : K) (f : V → V) :
    (v.modify key f).valueFor other =
      if other = key then (v.valueFor key).map f else v.valueFor other := by
  have hfind := KeyedVector.find?_modify key (v := v) (f := f)
    (p := fun entry => decide (entry.1 = other)) fun _ _ => rfl
  rw [KeyedVector.valueFor, hfind, Option.map_map]
  cases hfound : v.entries.find? fun entry => entry.1 = other with
  | none =>
    split_ifs with heq
    · rw [KeyedVector.valueFor, ← heq, hfound]
      rfl
    · rw [KeyedVector.valueFor, hfound]
      rfl
  | some entry =>
    have hkey : entry.1 = other := by simpa using List.find?_some hfound
    split_ifs with heq
    · rw [KeyedVector.valueFor, ← heq, hfound]
      simp [hkey, heq]
    · rw [KeyedVector.valueFor, hfound]
      simp [hkey, heq]

/-- The entries before one are those up to its key. -/
theorem KeyedVector.takeWhile_of_split {before after : List (K × V)} {entry : K × V}
    (hsplit : v.entries = before ++ entry :: after) :
    v.entries.takeWhile (fun other => other.1 ≠ entry.1) = before := by
  have hsorted := v.sorted
  rw [hsplit, List.pairwise_append] at hsorted
  have hbefore : ∀ other ∈ before, other.1 ≠ entry.1 := fun other hother =>
    (hsorted.2.2 other hother entry List.mem_cons_self).ne
  rw [hsplit, List.takeWhile_append_of_pos (by simpa using hbefore)]
  simp

theorem KeyedVector.removeItem_keyAt {i : Nat} (h : i < v.entries.length) :
    (v.removeItem v.entries[i].1).entries = v.entries.eraseIdx i := by
  have hsplit : v.entries = v.entries.take i ++ v.entries[i] :: v.entries.drop (i + 1) := by
    rw [← List.drop_eq_getElem_cons h, List.take_append_drop]
  rw [KeyedVector.removeItem_of_split hsplit, List.eraseIdx_eq_take_drop_succ]

/-- The loop over the vector is the loop over its entries. -/
theorem KeyedVector.walk_entries (visit : K → V → Visit E) (v : KeyedVector K V) (i : Nat) :
    ((v.walk visit i).1.entries, (v.walk visit i).2) =
      loops.walk (fun entry => visit entry.1 entry.2) v.entries i := by
  induction v, i using KeyedVector.walk.induct visit with
  | case1 v i h key now ih =>
    rw [KeyedVector.walk, loops.walk, dif_pos h, dif_pos h]
    have hentries : (if now.removed then v.removeItem key else v).entries =
        if now.removed then v.entries.eraseIdx i else v.entries := by
      rw [apply_ite KeyedVector.entries, KeyedVector.removeItem_keyAt h]
    simp only [dite_eq_ite, hentries] at ih
    have hitems := congrArg Prod.fst ih
    have htold := congrArg (now.told ++ ·) (congrArg Prod.snd ih)
    exact Prod.ext hitems htold
  | case2 v i h => rw [KeyedVector.walk, loops.walk, dif_neg h, dif_neg h]

/-- What is left after the loop, and what it has told. -/
theorem KeyedVector.walk_eq (visit : K → V → Visit E) (v : KeyedVector K V) :
    (v.walk visit 0).1.entries =
        survivors (fun entry => (visit entry.1 entry.2).removed) v.entries ∧
    (v.walk visit 0).2 = (reached (fun entry => (visit entry.1 entry.2).removed) v.entries).flatMap
      fun entry => (visit entry.1 entry.2).told := by
  have hwalk := v.walk_entries visit 0
  rw [loops.walk_eq, Prod.mk.injEq] at hwalk
  exact hwalk

/-- A loop takes steps of a relation when its body does at every item that is there. -/
theorem KeyedVector.walk_steps {visit : K → V → Visit E}
    {R : KeyedVector K V × List E → KeyedVector K V × List E → Prop}
    (hvisit : ∀ (v : KeyedVector K V) told key x, v.valueFor key = some x →
      Relation.ReflTransGen R (v, told)
        (if (visit key x).removed then v.removeItem key else v, told ++ (visit key x).told))
    (v : KeyedVector K V) (i : Nat) (told : List E) :
    Relation.ReflTransGen R (v, told) ((v.walk visit i).1, told ++ (v.walk visit i).2) := by
  induction v, i using KeyedVector.walk.induct visit generalizing told with
  | case1 v i h key now ih =>
    have hopen : v.valueFor key = some v.entries[i].2 :=
      KeyedVector.valueFor_eq_some_iff.mpr (List.getElem_mem h)
    have hnext := ih (told ++ now.told)
    rw [List.append_assoc] at hnext
    rw [KeyedVector.walk, dif_pos h]
    exact (hvisit v told key _ hopen).trans hnext
  | case2 v i h =>
    rw [KeyedVector.walk, dif_neg h, List.append_nil]

/-- The loop leaves no item that it would remove exactly when no two of them are neighbours. -/
theorem KeyedVector.walk_clean_iff (visit : K → V → Visit E) (v : KeyedVector K V) :
    (∀ entry ∈ (v.walk visit 0).1.entries, (visit entry.1 entry.2).removed = false) ↔
      Scattered (fun entry => (visit entry.1 entry.2).removed) v.entries := by
  rw [(v.walk_eq visit).1]
  exact survivors_clean_iff (fun entry => (visit entry.1 entry.2).removed) v.entries

end

end loops
