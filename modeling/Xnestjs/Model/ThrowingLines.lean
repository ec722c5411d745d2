import Xnestjs.Model.Assignments

/-!
# Defaulting assignments whose conversions may throw

The lines `o.target = o.source ?? convert(env[pre + name])` again, with conversions that refuse
some texts: they throw, and the lines after them are not executed. `??` converts the variable only
when there is no value. Without a refusal the lines do what they do with total conversions
(`performEnvLines_total`).
-/

set_option autoImplicit false

namespace Xnestjs.Model

/-- The conversions of variables to typed values, which throw when they refuse a text. -/
structure Conversions where
  toInt : Value → Except String Value
  toBoolean : Value → Except String Value
  toInt_undefined : toInt .undefined = .ok .undefined
  toBoolean_undefined : toBoolean .undefined = .ok .undefined

def Conversions.convert (c : Conversions) : VarType → Value → Except String Value
  | .text => .ok
  | .int => c.toInt
  | .boolean => c.toBoolean
  | .list => fun v => .ok v.splitList

/-- Conversions that refuse nothing. -/
def VarHelpers.conversions (h : VarHelpers) : Conversions where
  toInt v := .ok (h.toInt v)
  toBoolean v := .ok (h.toBoolean v)
  toInt_undefined := by rw [h.toInt_undefined]
  toBoolean_undefined := by rw [h.toBoolean_undefined]

section

variable {K : Type} [DecidableEq K] (c : Conversions) (env : Env) (pre : String)

/-- One line, executed. -/
def EnvLine.perform (l : EnvLine K) (o : K → Value) : Except String (K → Value) :=
  if (o l.source).nullish then
    (c.convert l.type (env.get (pre ++ l.name))).map fun v k => if k = l.target then v else o k
  else .ok fun k => if k = l.target then o l.source else o k

/-- The lines of a list, executed in order. -/
def performEnvLines : List (EnvLine K) → (K → Value) → Except String (K → Value)
  | [], o => .ok o
  | l :: ls, o => l.perform c env pre o >>= performEnvLines ls

/-- The line that assigns a setting from itself. -/
def Setting.line {K : Type} (s : Setting K) : EnvLine K := ⟨s.field, s.field, s.type, s.name⟩

/-- What the user asks of a setting, if its variable is not refused. -/
def Setting.tryAsked {K : Type} (s : Setting K) (o : K → Value) : Except String Value :=
  if (o s.field).nullish then c.convert s.type (env.get (pre ++ s.name)) else .ok (o s.field)

/-- The error with which the variable of a setting is refused. -/
def Setting.refusal {K : Type} (o : K → Value) (s : Setting K) : Option String :=
  match s.tryAsked c env pre o with
  | .ok _ => none
  | .error e => some e

/-- The value of a setting whose variable is not refused. -/
def Setting.value {K : Type} (o : K → Value) (s : Setting K) : Value :=
  match s.tryAsked c env pre o with
  | .ok v => v
  | .error _ => .undefined

/-- Conversions that refuse nothing give the converted value. -/
theorem convert_total (h : VarHelpers) (t : VarType) (v : Value) :
    h.conversions.convert t v = .ok (h.convert t v) := by
  cases t <;> rfl

/-- Lines whose conversions refuse nothing are the assignments that they stand for. -/
theorem performEnvLines_total (h : VarHelpers) (ls : List (EnvLine K)) (o : K → Value) :
    performEnvLines h.conversions env pre ls o = .ok (runEnvLines h env pre ls o) := by
  induction ls generalizing o with
  | nil => rfl
  | cons l ls ih =>
    have hline : l.perform h.conversions env pre o = .ok ((l.assignment h env pre).run o) := by
      unfold EnvLine.perform
      rw [convert_total]
      by_cases hnull : (o l.source).nullish = true
      · simp only [hnull, if_true, Except.map, Except.ok.injEq]
        funext k
        simp only [Assignment.run, EnvLine.assignment, Value.coalesce_of_nullish _ hnull]
      · rw [Bool.not_eq_true] at hnull
        simp only [hnull, Bool.false_eq_true, if_false, Except.ok.injEq]
        funext k
        simp only [Assignment.run, EnvLine.assignment, Value.coalesce_of_given _ hnull]
    rw [performEnvLines, hline]
    exact ih _

/-- A line that assigns a setting from itself asks for it. -/
theorem perform_line (s : Setting K) (o : K → Value) :
    s.line.perform c env pre o =
      (s.tryAsked c env pre o).map fun v k => if k = s.field then v else o k := by
  unfold EnvLine.perform Setting.tryAsked Setting.line
  split_ifs
  · rfl
  · rfl

omit [DecidableEq K] in
/-- What is asked of a setting depends on its own option only. -/
theorem tryAsked_congr {s : Setting K} {o o' : K → Value} (h : o s.field = o' s.field) :
    s.tryAsked c env pre o = s.tryAsked c env pre o' := by
  rw [Setting.tryAsked, Setting.tryAsked, h]

omit [DecidableEq K] in
/-- What is refused of settings depends on their own options only. -/
theorem refusals_congr {ss : List (Setting K)} {o o' : K → Value}
    (h : ∀ s ∈ ss, s.tryAsked c env pre o' = s.tryAsked c env pre o) :
    ss.findSome? (Setting.refusal c env pre o') = ss.findSome? (Setting.refusal c env pre o) := by
  rw [← List.head?_filterMap, ← List.head?_filterMap]
  refine congrArg List.head? (List.filterMap_congr fun s hs => ?_)
  rw [Setting.refusal, Setting.refusal, h s hs]

/-- What settings end as, once the first of them has been assigned. -/
theorem values_cons {s : Setting K} {ss : List (Setting K)}
    (hnew : s.field ∉ ss.map Setting.field) {o o' : K → Value}
    (hassigned : o' s.field = s.value c env pre o) (hother : ∀ k, k ≠ s.field → o' k = o k)
    (k : K) :
    ((ss.find? fun s => s.field = k).map (Setting.value c env pre o')).getD (o' k) =
      (((s :: ss).find? fun s => s.field = k).map (Setting.value c env pre o)).getD (o k) := by
  by_cases hk : s.field = k
  · have hlater : (ss.find? fun s => s.field = k) = none := by
      rw [List.find?_eq_none]
      intro s' hs' hfield
      apply hnew
      rw [hk, ← of_decide_eq_true hfield]
      exact List.mem_map_of_mem hs'
    rw [hlater, List.find?_cons_of_pos (by simpa using hk), ← hk, hassigned]
    rfl
  · rw [List.find?_cons_of_neg (by simpa using hk), hother k (Ne.symm hk)]
    cases hfind : ss.find? fun s => s.field = k with
    | none => rfl
    | some s' =>
      have hs' : s'.field ≠ s.field := by
        have hfield : s'.field = k := by simpa using List.find?_some hfind
        rw [hfield]
        exact Ne.symm hk
      simp only [Option.map_some, Option.getD_some]
      rw [Setting.value, Setting.value, tryAsked_congr c env pre (hother _ hs')]

/-- **A list of settings**, each assigned from itself: the first variable that is refused ends it,
and if there is none, every setting ends as what is asked of it. The induction is on the lines, and
a line leaves alone what the lines after it look at. -/
theorem performEnvLines_own {ss : List (Setting K)} (hnodup : (ss.map Setting.field).Nodup)
    (o : K → Value) :
    performEnvLines c env pre (ss.map Setting.line) o =
      match ss.findSome? (Setting.refusal c env pre o) with
      | some e => .error e
      | none => .ok fun k =>
          ((ss.find? fun s => s.field = k).map (Setting.value c env pre o)).getD (o k) := by
  induction ss generalizing o with
  | nil => rfl
  | cons s ss ih =>
    rw [List.map_cons, List.nodup_cons] at hnodup
    rw [List.map_cons, performEnvLines, perform_line, List.findSome?_cons]
    cases hasked : s.tryAsked c env pre o with
    | error e =>
      have hrefusal : Setting.refusal c env pre o s = some e := by rw [Setting.refusal, hasked]
      rw [hrefusal]
      rfl
    | ok v =>
      have hrefusal : Setting.refusal c env pre o s = none := by rw [Setting.refusal, hasked]
      have hvalue : Setting.value c env pre o s = v := by rw [Setting.value, hasked]
      let o' : K → Value := fun k => if k = s.field then v else o k
      have hsame : ∀ s' ∈ ss, s'.tryAsked c env pre o' = s'.tryAsked c env pre o := by
        intro s' hs'
        refine tryAsked_congr c env pre (if_neg fun hfield => hnodup.1 ?_)
        rw [← hfield]
        exact List.mem_map_of_mem hs'
      rw [hrefusal]
      show performEnvLines c env pre (ss.map Setting.line) o' = _
      rw [ih hnodup.2, refusals_congr c env pre hsame]
      cases ss.findSome? (Setting.refusal c env pre o) with
      | some e => rfl
      | none =>
        refine congrArg Except.ok (funext fun k => ?_)
        exact values_cons c env pre hnodup.1 ((if_pos rfl).trans hvalue.symm)
          (fun k hk => if_neg hk) k

end

end Xnestjs.Model
