import Xnestjs.Model.Value

/-!
# Sequences of defaulting assignments

Code that resolves a configuration is often a long list of lines
`o.target = o.source ?? fallback`, executed in order on one object `o`. A line reads what
the lines before it have written, so the value of a field at the end is settled by the last
line that assigns it and by what its source held at that point.
-/

set_option autoImplicit false

namespace Xnestjs.Model

variable {K : Type} [DecidableEq K]

/-- `o.target = o.source ?? fallback` -/
structure Assignment (K : Type) where
  target : K
  source : K
  fallback : Value

def Assignment.run (a : Assignment K) (o : K → Value) : K → Value :=
  fun k => if k = a.target then (o a.source).coalesce a.fallback else o k

/-- The fields after the assignments of a list, executed in order. -/
def runAssignments : List (Assignment K) → (K → Value) → K → Value
  | [], o => o
  | a :: as, o => runAssignments as (a.run o)

/-- The target gets the value of the source, or else the fallback. -/
theorem Assignment.run_target (a : Assignment K) (o : K → Value) :
    a.run o a.target = (o a.source).coalesce a.fallback := if_pos rfl

/-- No other key is touched. -/
theorem Assignment.run_other (a : Assignment K) (o : K → Value) {k : K}
    (h : k ≠ a.target) : a.run o k = o k := if_neg h

/-- Assignments are executed one after the other. -/
theorem runAssignments_append (as bs : List (Assignment K)) (o : K → Value) :
    runAssignments (as ++ bs) o = runAssignments bs (runAssignments as o) := by
  induction as generalizing o with
  | nil => rfl
  | cons a as ih => exact ih (a.run o)

/-- A field that no line assigns keeps its value. -/
theorem runAssignments_untouched {as : List (Assignment K)} {k : K}
    (h : k ∉ as.map Assignment.target) (o : K → Value) : runAssignments as o k = o k := by
  induction as generalizing o with
  | nil => rfl
  | cons a as ih =>
    rw [List.map_cons, List.mem_cons, not_or] at h
    calc runAssignments as (a.run o) k = a.run o k := ih h.2 _
      _ = o k := a.run_other o h.1

/-- INTERNAL: the last line that assigns a field settles it: its source, as the lines before it left
it, or its fallback. -/
theorem runAssignments_last (as : List (Assignment K)) (a : Assignment K)
    {bs : List (Assignment K)} (h : a.target ∉ bs.map Assignment.target) (o : K → Value) :
    runAssignments (as ++ a :: bs) o a.target =
      (runAssignments as o a.source).coalesce a.fallback := by
  rw [runAssignments_append]
  show runAssignments bs (a.run (runAssignments as o)) a.target = _
  rw [runAssignments_untouched h, a.run_target]

/-- The line at place `i`, when no later one assigns its field, settles that field. -/
theorem runAssignments_settled {as : List (Assignment K)} {i : ℕ} {a : Assignment K}
    (hi : as[i]? = some a) (h : a.target ∉ (as.drop (i + 1)).map Assignment.target)
    (o : K → Value) :
    runAssignments as o a.target =
      (runAssignments (as.take i) o a.source).coalesce a.fallback := by
  obtain ⟨hlt, hget⟩ := List.getElem?_eq_some_iff.mp hi
  have hsplit : as = as.take i ++ a :: as.drop (i + 1) := by
    rw [← hget, List.getElem_cons_drop, List.take_append_drop]
  calc runAssignments as o a.target
      = runAssignments (as.take i ++ a :: as.drop (i + 1)) o a.target := by rw [← hsplit]
    _ = _ := runAssignments_last _ a h o

/-- **One assignment of its own.** A field assigned once, from itself, ends as its own value
or the fallback. -/
theorem runAssignments_own {as : List (Assignment K)} {k : K} {fallback : Value}
    (h : as.filter (fun a => a.target = k) = [⟨k, k, fallback⟩]) (o : K → Value) :
    runAssignments as o k = (o k).coalesce fallback := by
  induction as generalizing o with
  | nil => simp at h
  | cons a as ih =>
    by_cases ha : a.target = k
    · rw [List.filter_cons_of_pos (by simpa using ha)] at h
      obtain ⟨rfl, hrest⟩ := List.cons.inj h
      have hnot : k ∉ as.map Assignment.target := by
        intro hmem
        obtain ⟨b, hb, hbk⟩ := List.mem_map.mp hmem
        have := List.filter_eq_nil_iff.mp hrest b hb
        simp [hbk] at this
      calc runAssignments as (Assignment.run ⟨k, k, fallback⟩ o) k
          = Assignment.run ⟨k, k, fallback⟩ o k := runAssignments_untouched hnot _
        _ = (o k).coalesce fallback := Assignment.run_target ⟨k, k, fallback⟩ o
    · rw [List.filter_cons_of_neg (by simpa using ha)] at h
      calc runAssignments as (a.run o) k = (a.run o k).coalesce fallback := ih h _
        _ = (o k).coalesce fallback := by rw [a.run_other o (Ne.symm ha)]

/-! ## Fallbacks from the environment -/

/-- A documented setting: the option and the variable that sets it when the option is not
given. -/
structure Setting (K : Type) where
  field : K
  type : VarType
  name : String
  deriving DecidableEq

/-- What the user asks of a setting: the option when it is given, otherwise the converted
variable. -/
def Setting.asked (h : VarHelpers) (env : Env) (pre : String) (s : Setting K)
    (o : K → Value) : Value :=
  (o s.field).coalesce (h.convert s.type (env.get (pre ++ s.name)))

omit [DecidableEq K] in
/-- What is asked of a setting depends on its own option and its own variable only. -/
theorem Setting.asked_congr (h : VarHelpers) {env env' : Env} {pre : String} {s : Setting K}
    {o o' : K → Value} (hoption : o s.field = o' s.field)
    (hvariable : env (pre ++ s.name) = env' (pre ++ s.name)) :
    s.asked h env pre o = s.asked h env' pre o' := by
  have hget : env.get (pre ++ s.name) = env'.get (pre ++ s.name) := by
    simp only [Env.get, hvariable]
  rw [Setting.asked, Setting.asked, hoption, hget]

/-- The line `o.target = o.source ?? convert(env[pre + name])` -/
structure EnvLine (K : Type) where
  target : K
  source : K
  type : VarType
  name : String
  deriving DecidableEq

def EnvLine.assignment (h : VarHelpers) (env : Env) (pre : String) (l : EnvLine K) :
    Assignment K :=
  ⟨l.target, l.source, h.convert l.type (env.get (pre ++ l.name))⟩

/-- The fields after a list of such lines. -/
def runEnvLines (h : VarHelpers) (env : Env) (pre : String) (ls : List (EnvLine K))
    (o : K → Value) : K → Value :=
  runAssignments (ls.map (EnvLine.assignment h env pre)) o

variable (h : VarHelpers) (env : Env) (pre : String)

/-- So are lines. -/
theorem runEnvLines_append (ls ms : List (EnvLine K)) (o : K → Value) :
    runEnvLines h env pre (ls ++ ms) o =
      runEnvLines h env pre ms (runEnvLines h env pre ls o) := by
  unfold runEnvLines
  rw [List.map_append, runAssignments_append]

/-- A key that is the target of no line keeps its value. -/
theorem runEnvLines_untouched {ls : List (EnvLine K)} {k : K}
    (hk : k ∉ ls.map EnvLine.target) (o : K → Value) : runEnvLines h env pre ls o k = o k := by
  refine runAssignments_untouched ?_ o
  rwa [List.map_map]

/-- A key ends as the last line that assigns it leaves it. -/
theorem runEnvLines_settled (ls : List (EnvLine K)) (i : ℕ) {l : EnvLine K}
    (hi : ls[i]? = some l) (hl : l.target ∉ (ls.drop (i + 1)).map EnvLine.target)
    (o : K → Value) :
    runEnvLines h env pre ls o l.target =
      (runEnvLines h env pre (ls.take i) o l.source).coalesce
        (h.convert l.type (env.get (pre ++ l.name))) := by
  have hi' : (ls.map (EnvLine.assignment h env pre))[i]? =
      some (l.assignment h env pre) := by rw [List.getElem?_map, hi, Option.map_some]
  have hl' : (l.assignment h env pre).target ∉
      ((ls.map (EnvLine.assignment h env pre)).drop (i + 1)).map Assignment.target := by
    rw [← List.map_drop, List.map_map]
    exact hl
  have := runAssignments_settled hi' hl' o
  rwa [← List.map_take] at this

/-- **A setting with one line of its own** ends as what is asked of it, whatever the other
lines do. -/
theorem runEnvLines_own (ls : List (EnvLine K)) (s : Setting K)
    (hs : ls.filter (fun l => l.target = s.field) = [⟨s.field, s.field, s.type, s.name⟩])
    (o : K → Value) : runEnvLines h env pre ls o s.field = s.asked h env pre o := by
  refine runAssignments_own ?_ o
  rw [List.filter_map]
  show (ls.filter fun l => l.target = s.field).map _ = _
  rw [hs]
  rfl

end Xnestjs.Model
