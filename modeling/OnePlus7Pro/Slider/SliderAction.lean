import OnePlus7Pro.Texts.Separated
import Mathlib.Data.List.Induction

open texts

namespace device_parts

def SLIDER_DEFAULT_VALUE : String := "2,1,0"

/-- `String.valueOf` of an `int`. -/
def stringValueOf (value : BitVec 32) : String := value.toInt.repr

/-- `Integer.valueOf`: `none` where it throws, since the text is no number or one that an `int`
    does not hold. Only the digits from `0` to `9` are taken for digits. -/
def integerValueOf (text : String) : Option (BitVec 32) :=
  (parseInt text).bind fun n =>
    if -2147483648 ≤ n ∧ n ≤ 2147483647 then some (BitVec.ofInt 32 n) else none

/-- The stored mapping, or the default where nothing is stored or what is stored has no comma. -/
def sliderMapping (defaultValue : String) (stored : Option String) : String :=
  match stored with
  | none => defaultValue
  | some value => if ',' ∈ value.toList then value else defaultValue

/-- The action at a position of the stored mapping, 0 where an exception is caught. -/
def sliderActionAt (defaultValue : String) (stored : Option String) (position : Nat) : BitVec 32 :=
  let parts := texts.split ',' (sliderMapping defaultValue stored)
  match parts[position]? with
  | none => 0
  | some part => (integerValueOf part).getD 0

/-- `getSliderAction` of the settings, given what is stored for the user. -/
def DeviceSettings.getSliderAction (stored : Option String) (position : Nat) : BitVec 32 :=
  sliderActionAt SLIDER_DEFAULT_VALUE stored position

/-- `getSliderAction` of the key handler, given what is stored for the current user. -/
def KeyHandler.getSliderAction (stored : Option String) (position : Nat) : BitVec 32 :=
  sliderActionAt SLIDER_DEFAULT_VALUE stored position

/-- What is stored after `setSliderAction`. -/
def DeviceSettings.setSliderAction (stored : Option String) (position : Nat) (action : BitVec 32) :
    Option String :=
  let parts := texts.split ',' (sliderMapping SLIDER_DEFAULT_VALUE stored)
  -- an array access out of range is caught before anything is stored
  if position < parts.length then some (join ',' (parts.set position (stringValueOf action)))
  else stored

/-- A call of `setSliderAction` for one of the three positions. -/
structure SliderCall where
  position : Fin 3
  action : BitVec 32
  deriving DecidableEq

def storeSlider (stored : Option String) (call : SliderCall) : Option String :=
  DeviceSettings.setSliderAction stored call.position call.action

/-- The default action at a position. -/
def defaultAction (position : Fin 3) : BitVec 32 := [2, 1, 0][position]

/-- The action of the last call for a position, or the default. -/
def lastAction (calls : List SliderCall) (position : Fin 3) : BitVec 32 :=
  ((calls.filter fun call => call.position = position).getLast?.map SliderCall.action).getD
    (defaultAction position)

/-- What is stored stands for an action at each position. -/
def Stands (stored : Option String) (actions : Fin 3 → BitVec 32) : Prop :=
  texts.split ',' (sliderMapping SLIDER_DEFAULT_VALUE stored) =
    (List.ofFn actions).map stringValueOf

variable {stored : Option String} {actions : Fin 3 → BitVec 32} {call : SliderCall}

theorem stringValueOf_free (value : BitVec 32) : ',' ∉ (stringValueOf value).toList := by
  intro hmem
  obtain hdigit | hsign := mem_repr hmem
  · exact absurd hdigit (by decide)
  · exact absurd hsign (by decide)

/-- Every `int` is read back from its text. -/
theorem integerValueOf_stringValueOf (value : BitVec 32) :
    integerValueOf (stringValueOf value) = some value := by
  have hlow := value.le_toInt
  have hhigh := value.toInt_lt
  rw [integerValueOf, stringValueOf, parseInt_repr, Option.bind_some,
    if_pos (by omega), BitVec.ofInt_toInt]

theorem stands_default : Stands none defaultAction := by
  rw [Stands]
  decide

/-- Where a mapping stands for actions, one of them is read at each position. -/
theorem Stands.getSliderAction (hstands : Stands stored actions) (position : Fin 3) :
    sliderActionAt SLIDER_DEFAULT_VALUE stored position = actions position := by
  rw [Stands] at hstands
  rw [sliderActionAt, hstands, List.getElem?_map, List.getElem?_ofFn, dif_pos position.isLt]
  simp only [Option.map_some, integerValueOf_stringValueOf]
  rfl

theorem set_ofFn (position : Fin 3) (action : BitVec 32) :
    (List.ofFn actions).set position action = List.ofFn (Function.update actions position action) := by
  apply List.ext_getElem
  · simp
  · intro i hi hi'
    rw [List.getElem_set, List.getElem_ofFn, List.getElem_ofFn, Function.update_apply]
    refine if_congr ?_ rfl rfl
    rw [Fin.ext_iff, eq_comm]

/-- A mapping of texts of actions stands for them. -/
theorem stands_join (actions : Fin 3 → BitVec 32) :
    Stands (some (join ',' ((List.ofFn actions).map stringValueOf))) actions := by
  have hlength : 2 ≤ ((List.ofFn actions).map stringValueOf).length := by simp
  rw [Stands, sliderMapping]
  simp only [if_pos (mem_join hlength)]
  refine split_join hlength ?_ ?_
  · simp only [List.forall_mem_map]
    exact fun value _ => stringValueOf_free value
  · simp [stringValueOf, repr_ne_empty]

/-- Setting an action at a position changes what the mapping stands for there alone. -/
theorem Stands.setSliderAction (hstands : Stands stored actions) (call : SliderCall) :
    Stands (storeSlider stored call) (Function.update actions call.position call.action) := by
  rw [Stands] at hstands
  rw [storeSlider, DeviceSettings.setSliderAction, hstands]
  rw [if_pos (by simp), ← List.map_set, set_ofFn]
  exact stands_join _

theorem lastAction_append (calls : List SliderCall) (call : SliderCall) :
    lastAction (calls ++ [call]) = Function.update (lastAction calls) call.position call.action := by
  funext position
  rw [lastAction, List.filter_append, Function.update_apply]
  by_cases hposition : call.position = position
  · rw [if_pos hposition.symm]
    simp [hposition]
  · rw [if_neg (Ne.symm hposition), lastAction]
    simp [hposition]

/-- What a sequence of calls leaves stands for the actions that were set last. -/
theorem stands_lastAction (calls : List SliderCall) :
    Stands (calls.foldl storeSlider none) (lastAction calls) := by
  induction calls using List.reverseRecOn with
  | nil => exact stands_default
  | append_singleton calls call ih =>
    rw [List.foldl_append, lastAction_append]
    exact ih.setSliderAction call

/-- After any sequence of calls the settings and the key handler read the same action at each
    position: that of the last call for it, or the default. -/
theorem slider_actions_read (calls : List SliderCall) (position : Fin 3) :
    DeviceSettings.getSliderAction (calls.foldl storeSlider none) position =
        KeyHandler.getSliderAction (calls.foldl storeSlider none) position ∧
      DeviceSettings.getSliderAction (calls.foldl storeSlider none) position =
        lastAction calls position :=
  ⟨rfl, (stands_lastAction calls).getSliderAction position⟩

end device_parts
