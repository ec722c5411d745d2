import Xnestjs.Model.Assignments

/-!
# The variables that code reads

Code that reads variables under a prefix depends on those variables only: in two environments
that agree on them it does the same. Variables under two prefixes of which neither begins the
other are different variables.
-/

set_option autoImplicit false

namespace Xnestjs.Model

/-- The environments agree on the variables of these names under the prefix. -/
def SameVariables (names : List String) (pre : String) (env env' : Env) : Prop :=
  ∀ n ∈ names, env (pre ++ n) = env' (pre ++ n)

namespace SameVariables

variable {names : List String} {pre : String} {env env' : Env}

/-- Environments with the same variables give the same values. -/
theorem get (hsame : SameVariables names pre env env') {n : String} (hn : n ∈ names) :
    env.get (pre ++ n) = env'.get (pre ++ n) := by
  unfold Env.get
  rw [hsame n hn]

/-- **Lines** depend on the variables they name. -/
theorem runEnvLines_eq {K : Type} [DecidableEq K] (h : VarHelpers)
    (ls : List (EnvLine K)) (hsame : SameVariables names pre env env')
    (hnames : ls.map EnvLine.name ⊆ names) (o : K → Value) :
    runEnvLines h env pre ls o = runEnvLines h env' pre ls o := by
  have hassignments : ls.map (EnvLine.assignment h env pre) =
      ls.map (EnvLine.assignment h env' pre) := by
    refine List.map_congr_left fun l hl => ?_
    unfold EnvLine.assignment
    rw [hsame.get (hnames (List.mem_map_of_mem hl))]
  unfold runEnvLines
  rw [hassignments]

end SameVariables

/-- Neither of the prefixes begins the other. -/
def Apart (pre pre' : String) : Prop :=
  ¬ pre.toList <+: pre'.toList ∧ ¬ pre'.toList <+: pre.toList

instance (pre pre' : String) : Decidable (Apart pre pre') :=
  inferInstanceAs (Decidable (_ ∧ _))

/-- A variable is under one of two such prefixes at most. -/
theorem Apart.ne {pre pre' : String} (hapart : Apart pre pre') (n n' : String) :
    pre ++ n ≠ pre' ++ n' := by
  intro heq
  have hlist : pre.toList ++ n.toList = pre'.toList ++ n'.toList := by
    rw [← String.toList_append, ← String.toList_append, heq]
  have hpre : pre.toList <+: pre'.toList ++ n'.toList := ⟨n.toList, hlist⟩
  rcases List.prefix_or_prefix_of_prefix hpre (List.prefix_append _ _) with hbegins | hbegins
  · exact hapart.1 hbegins
  · exact hapart.2 hbegins

/-- **A change of one variable** leaves the variables under one of two such prefixes as they
are. -/
theorem Apart.sameVariables {pre pre' : String} (hapart : Apart pre pre') {env env' : Env}
    {x : String} (hother : ∀ y, y ≠ x → env y = env' y) :
    (∀ names, SameVariables names pre env env') ∨ ∀ names, SameVariables names pre' env env' := by
  by_cases hx : ∃ n, x = pre ++ n
  · obtain ⟨n, rfl⟩ := hx
    exact Or.inr fun _ n' _ => hother _ (hapart.ne n n').symm
  · exact Or.inl fun _ n _ => hother _ fun heq => hx ⟨n, heq.symm⟩

end Xnestjs.Model
