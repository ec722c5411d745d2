import Xnestjs.Model.Separator
import Mathlib.Data.Rat.Init

/-!
# JavaScript values, `??` and `||`, and environment variables

The values that an option or an environment variable can hold, as far as programs that
only pass them on can tell them apart: `undefined` and `null`, which `??` replaces, the
falsy values that `||` replaces too, and the rest. `process.env` is a function from names to
texts.
-/

set_option autoImplicit false

namespace Xnestjs.Model

/-- A value. Arrays occur as lists of strings; any other object is known by its identity. -/
inductive Value where
  | undefined
  | null
  | bool (b : Bool)
  | num (x : ℚ)
  | infinity (negative : Bool)
  | nan
  | str (s : String)
  | strs (l : List String)
  | obj (id : ℕ)
  deriving DecidableEq

namespace Value

/-- `v == null`: the value is `null` or `undefined`. -/
def nullish : Value → Bool
  | undefined => true
  | null => true
  | _ => false

/-- Whether a condition takes the value for true. -/
def truthy : Value → Bool
  | undefined => false
  | null => false
  | bool b => b
  | num x => x != 0
  | infinity _ => true
  | nan => false
  | str s => s != ""
  | strs _ => true
  | obj _ => true

/-- `v > 0` of a number; nothing else is compared here. -/
def positive : Value → Bool
  | num x => decide (0 < x)
  | infinity negative => !negative
  | _ => false

/-- `v ?? w` -/
def coalesce (v w : Value) : Value := if v.nullish then w else v

/-- `v || w` -/
def orElse (v w : Value) : Value := if v.truthy then v else w

/-- `undefined` is nullish. -/
@[simp] theorem nullish_undefined : nullish undefined = true := rfl

/-- `null` is nullish. -/
@[simp] theorem nullish_null : nullish null = true := rfl

/-- A text is not, not even an empty one. -/
@[simp] theorem nullish_str (s : String) : nullish (str s) = false := rfl

/-- Nor is a list. -/
@[simp] theorem nullish_strs (l : List String) : nullish (strs l) = false := rfl

/-- `undefined` is falsy. -/
@[simp] theorem truthy_undefined : truthy undefined = false := rfl

/-- A text is truthy unless it is empty. -/
@[simp] theorem truthy_str (s : String) : truthy (str s) = (s != "") := rfl

/-- `||` keeps what is truthy. -/
theorem orElse_of_truthy {v : Value} (w : Value) (h : v.truthy = true) : v.orElse w = v :=
  if_pos h

/-- `||` replaces what is falsy. -/
theorem orElse_of_falsy {v : Value} (w : Value) (h : v.truthy = false) : v.orElse w = w := by
  simp [orElse, h]

/-- `??` replaces what is nullish. -/
theorem coalesce_of_nullish {v : Value} (w : Value) (h : v.nullish = true) :
    v.coalesce w = w := if_pos h

/-- `??` keeps what is given. -/
theorem coalesce_of_given {v : Value} (w : Value) (h : v.nullish = false) :
    v.coalesce w = v := by simp [coalesce, h]

/-- `undefined ?? w` is `w`. -/
@[simp] theorem undefined_coalesce (w : Value) : undefined.coalesce w = w := rfl

/-- `null ?? w` is `w`. -/
@[simp] theorem null_coalesce (w : Value) : null.coalesce w = w := rfl

/-- A text is given. -/
@[simp] theorem str_coalesce (s : String) (w : Value) : (str s).coalesce w = str s := rfl

/-- So is a list. -/
@[simp] theorem strs_coalesce (l : List String) (w : Value) :
    (strs l).coalesce w = strs l := rfl

/-- `v.split(/\s*,\s*/)` of a text. Other values have no such method, and nothing here
splits them. -/
def splitList : Value → Value
  | str s => strs (splitCommas s)
  | _ => undefined

/-- A field as `omitNullish` leaves it: `null` and `undefined` both become absent. -/
def omitNullish (v : Value) : Value := if v.nullish then undefined else v

/-- A text is split at its commas. -/
@[simp] theorem splitList_str (s : String) : splitList (str s) = strs (splitCommas s) := rfl

/-- `undefined` stays out. -/
@[simp] theorem omitNullish_undefined : omitNullish undefined = undefined := rfl

/-- What is nullish is left out. -/
theorem omitNullish_of_nullish {v : Value} (h : v.nullish = true) :
    v.omitNullish = undefined := if_pos h

/-- What is given is left in. -/
theorem omitNullish_of_given {v : Value} (h : v.nullish = false) : v.omitNullish = v := by
  simp [omitNullish, h]

/-- Leaving out what is nullish changes no condition. -/
theorem truthy_omitNullish (v : Value) : v.omitNullish.truthy = v.truthy := by
  cases v <;> rfl

/-- Only what is nullish is left out. -/
theorem omitNullish_eq_undefined_iff (v : Value) :
    v.omitNullish = undefined ↔ v.nullish = true := by
  by_cases h : v.nullish = true
  · simp [omitNullish_of_nullish h, h]
  · rw [Bool.not_eq_true] at h
    rw [omitNullish_of_given h]
    refine ⟨?_, fun h' => ?_⟩
    · rintro rfl
      rfl
    · rw [h] at h'
      exact absurd h' Bool.false_ne_true

/-- A chain of `??` may be read from either end. -/
theorem coalesce_assoc (u v w : Value) :
    (u.coalesce v).coalesce w = u.coalesce (v.coalesce w) := by
  by_cases h : u.nullish = true
  · rw [coalesce_of_nullish v h, coalesce_of_nullish _ h]
  · rw [Bool.not_eq_true] at h
    rw [coalesce_of_given v h, coalesce_of_given w h, coalesce_of_given _ h]

/-- A value is no fallback of itself. -/
theorem coalesce_self (v : Value) : v.coalesce v = v := ite_self v

/-- A default that is filled in twice. -/
theorem coalesce_idem (v w : Value) : (v.coalesce w).coalesce w = v.coalesce w := by
  rw [coalesce_assoc, coalesce_self]

/-- A fallback by `||` is needed once. -/
theorem orElse_idem (v w : Value) : (v.orElse w).orElse w = v.orElse w := by
  by_cases h : v.truthy = true
  · rw [orElse_of_truthy w h, orElse_of_truthy w h]
  · rw [Bool.not_eq_true] at h
    rw [orElse_of_falsy w h]
    exact ite_self w

/-- A fallback changes nothing exactly when a nullish value is equal to it. -/
theorem eq_coalesce_iff (v w : Value) :
    v = v.coalesce w ↔ (v.nullish = true → v = w) := by
  by_cases h : v.nullish = true
  · simp [coalesce_of_nullish w h, h]
  · rw [Bool.not_eq_true] at h
    simp [coalesce_of_given w h, h]

/-- A link between a value and its default shows only when it is given and the value is
not. -/
theorem coalesce_shadowed_iff (u v w : Value) :
    u.coalesce (v.coalesce w) = u.coalesce w ↔
      (u.nullish = true → v.nullish = true ∨ v = w) := by
  by_cases hu : u.nullish = true
  · rw [coalesce_of_nullish _ hu, coalesce_of_nullish _ hu]
    by_cases hv : v.nullish = true
    · simp [coalesce_of_nullish w hv, hv]
    · rw [Bool.not_eq_true] at hv
      simp [coalesce_of_given w hv, hv, hu]
  · rw [Bool.not_eq_true] at hu
    simp [coalesce_of_given _ hu, hu]

/-- A fallback behind another one and before itself is passed by when the other one is
given. -/
theorem coalesce_round_iff (u v w : Value) :
    ((u.coalesce v).coalesce w).coalesce v = u.coalesce v ↔
      (u.nullish = true → v.nullish = true → w.nullish = true) := by
  by_cases hu : u.nullish = true
  · rw [coalesce_of_nullish v hu]
    by_cases hv : v.nullish = true
    · rw [coalesce_of_nullish w hv]
      by_cases hw : w.nullish = true
      · simp [coalesce_of_nullish v hw, hw]
      · rw [Bool.not_eq_true] at hw
        rw [coalesce_of_given v hw]
        refine ⟨fun hwv _ _ => hwv ▸ hv, fun hall => ?_⟩
        rw [hall hu hv] at hw
        cases hw
    · rw [Bool.not_eq_true] at hv
      simp [coalesce_of_given _ hv, hv]
  · rw [Bool.not_eq_true] at hu
    simp [coalesce_of_given _ hu, hu]

/-- Two fallbacks one after the other, filled in twice. -/
theorem coalesce_coalesce_idem (u v w : Value) :
    (((u.coalesce v).coalesce w).coalesce v).coalesce w = (u.coalesce v).coalesce w := by
  rw [coalesce_assoc u v w, coalesce_assoc _ v w, coalesce_idem]

/-- Falling back to `undefined` is leaving out. -/
@[simp] theorem coalesce_undefined_omitNullish (v : Value) :
    (v.coalesce undefined).omitNullish = v.omitNullish := by
  by_cases h : v.nullish = true
  · rw [coalesce_of_nullish _ h, omitNullish_of_nullish h, omitNullish_undefined]
  · rw [Bool.not_eq_true] at h
    rw [coalesce_of_given _ h]

/-- What is left out is left out once. -/
theorem omitNullish_idem (v : Value) : v.omitNullish.omitNullish = v.omitNullish := by
  by_cases h : v.nullish = true
  · rw [omitNullish_of_nullish h, omitNullish_undefined]
  · rw [Bool.not_eq_true] at h
    rw [omitNullish_of_given h, omitNullish_of_given h]

/-- The same default after `omitNullish` changes nothing. -/
theorem omitNullish_coalesce_idem (v w : Value) :
    ((v.coalesce w).omitNullish.coalesce w).omitNullish = (v.coalesce w).omitNullish := by
  by_cases h : (v.coalesce w).nullish = true
  · have hw : w.nullish = true := by
      by_cases hv : v.nullish = true
      · rwa [coalesce_of_nullish w hv] at h
      · rw [Bool.not_eq_true] at hv
        rw [coalesce_of_given w hv, hv] at h
        cases h
    rw [omitNullish_of_nullish h, undefined_coalesce, omitNullish_of_nullish hw]
  · rw [Bool.not_eq_true] at h
    rw [omitNullish_of_given h, coalesce_idem]
    exact omitNullish_of_given h

/-- Two fallbacks come to the same exactly when the value is given or they are the same. -/
theorem coalesce_omitNullish_congr_iff (v w w' : Value) :
    (v.coalesce w).omitNullish = (v.coalesce w').omitNullish ↔
      (v.nullish = true → w.omitNullish = w'.omitNullish) := by
  by_cases h : v.nullish = true
  · simp [coalesce_of_nullish _ h, h]
  · rw [Bool.not_eq_true] at h
    simp [coalesce_of_given _ h, h]

/-- A fallback comes to nothing exactly when the value is given or it is nullish itself. -/
theorem omitNullish_eq_coalesce_iff (v w : Value) :
    v.omitNullish = (v.coalesce w).omitNullish ↔ (v.nullish = true → w.nullish = true) := by
  rw [← coalesce_undefined_omitNullish v, coalesce_omitNullish_congr_iff,
    omitNullish_undefined, eq_comm (a := undefined), omitNullish_eq_undefined_iff]

end Value

/-- `process.env` -/
abbrev Env := String → Option String

/-- `env[name]`: a text, or `undefined` when the variable is not set. -/
def Env.get (env : Env) (name : String) : Value :=
  match env name with
  | some s => .str s
  | none => .undefined

/-- A variable is nullish when it is not set. -/
theorem Env.get_nullish_iff (env : Env) (name : String) :
    (env.get name).nullish = true ↔ env name = none := by
  unfold Env.get
  cases env name with
  | none => simp
  | some s => simp

/-- It is truthy when it is set to a text that is not empty. -/
theorem Env.get_truthy_iff (env : Env) (name : String) :
    (env.get name).truthy = true ↔ ∃ s, env name = some s ∧ s ≠ "" := by
  unfold Env.get
  cases env name with
  | none => simp
  | some s => simp

/-- And falsy when it is not set, or to the empty text. -/
theorem Env.get_falsy_iff (env : Env) (name : String) :
    (env.get name).truthy = false ↔ ∀ s, env name = some s → s = "" := by
  unfold Env.get
  cases env name with
  | none => simp
  | some s => simp

/-- The conversions of variables to typed values. They come from a library; all that is
used of them is that an unset variable stays `undefined`. -/
structure VarHelpers where
  toInt : Value → Value
  toBoolean : Value → Value
  toInt_undefined : toInt .undefined = .undefined
  toBoolean_undefined : toBoolean .undefined = .undefined

inductive VarType where
  | text
  | int
  | boolean
  | list
  deriving DecidableEq, Repr

def VarHelpers.convert (h : VarHelpers) : VarType → Value → Value
  | .text => id
  | .int => h.toInt
  | .boolean => h.toBoolean
  | .list => Value.splitList

/-- Of a variable that is not set there is nothing to convert. -/
@[simp] theorem VarHelpers.convert_undefined (h : VarHelpers) (t : VarType) :
    h.convert t .undefined = .undefined := by
  cases t with
  | text => rfl
  | int => exact h.toInt_undefined
  | boolean => exact h.toBoolean_undefined
  | list => rfl

end Xnestjs.Model
