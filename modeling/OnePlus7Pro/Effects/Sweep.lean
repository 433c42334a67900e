import OnePlus7Pro.Effects.Run
import Mathlib.Data.List.Nodup

namespace effects

variable {E S K V : Type}

/-- One turn of a loop over the keys of a store: from an admissible value at its key it
    raises the flag if the value is `bad`, leaves a related value there, and does not
    touch the other keys. -/
def TurnsKeys (get : S → K → Option V) (turn : Bool → K → EStateM E S Bool)
    (admissible bad : V → Prop) (related : V → V → Prop) : Prop :=
  ∀ flag key s value, get s key = some value → admissible value →
    Returns (turn flag key) s fun flag' s' => (flag' = true ↔ flag = true ∨ bad value) ∧
      (∃ value', get s' key = some value' ∧ related value value') ∧
      ∀ other, other ≠ key → get s' other = get s other

/-- The loop over distinct keys returns with the flag raised if one of the values was bad,
    and every key has had its own turn. -/
theorem TurnsKeys.foldlM {get : S → K → Option V} {turn : Bool → K → EStateM E S Bool}
    {admissible bad : V → Prop} {related : V → V → Prop}
    (hturn : TurnsKeys get turn admissible bad related) {keys : List K} (hnodup : keys.Nodup)
    {s : S} (flag : Bool)
    (hadmissible : ∀ key ∈ keys, ∃ value, get s key = some value ∧ admissible value) :
    Returns (keys.foldlM turn flag) s fun flag' s' =>
      (flag' = true ↔ flag = true ∨ ∃ key ∈ keys, ∃ value, get s key = some value ∧ bad value) ∧
      (∀ key ∈ keys, ∀ value, get s key = some value → ∃ value', get s' key = some value' ∧ related value value') ∧
      ∀ other, other ∉ keys → get s' other = get s other := by
  induction keys generalizing s flag with
  | nil =>
    refine .pure ⟨?_, ?_, fun _ _ => rfl⟩
    · simp
    · simp
  | cons key keys ih =>
    obtain ⟨hfresh, hrest⟩ := List.nodup_cons.mp hnodup
    obtain ⟨value, hvalue, hadm⟩ := hadmissible key List.mem_cons_self
    rw [List.foldlM_cons]
    refine (hturn flag key s value hvalue hadm).bind fun flag1 s1 h => ?_
    obtain ⟨hflag1, hkey1, hothers1⟩ := h
    -- the keys that are left have not been touched
    have hsame (other : K) (hother : other ∈ keys) : get s1 other = get s other :=
      hothers1 other fun h => hfresh (h ▸ hother)
    have hadmissible1 : ∀ other ∈ keys, ∃ value, get s1 other = some value ∧ admissible value := by
      intro other hother
      rw [hsame other hother]
      exact hadmissible other (List.mem_cons_of_mem _ hother)
    refine (ih hrest flag1 hadmissible1).mono fun flag2 s2 h => ?_
    obtain ⟨hflag2, hkeys2, hothers2⟩ := h
    refine ⟨?_, ?_, ?_⟩
    · rw [hflag2, hflag1, or_assoc]
      refine or_congr_right ?_
      constructor
      · rintro (hbad | ⟨other, hother, value', hvalue', hbad⟩)
        · exact ⟨key, List.mem_cons_self, value, hvalue, hbad⟩
        · exact ⟨other, List.mem_cons_of_mem _ hother, value', hsame other hother ▸ hvalue', hbad⟩
      · rintro ⟨other, hother, value', hvalue', hbad⟩
        rcases List.mem_cons.mp hother with rfl | hmem
        · rw [hvalue] at hvalue'
          cases hvalue'
          exact .inl hbad
        · exact .inr ⟨other, hmem, value', (hsame other hmem).trans hvalue', hbad⟩
    · intro other hother value' hvalue'
      rcases List.mem_cons.mp hother with rfl | hmem
      · rw [hvalue] at hvalue'
        cases hvalue'
        rw [hothers2 other hfresh]
        exact hkey1
      · exact hkeys2 other hmem value' ((hsame other hmem).trans hvalue')
    · intro other hother
      rw [List.mem_cons, not_or] at hother
      rw [hothers2 other hother.2, hothers1 other hother.1]

end effects
