import Xnestjs.Program.CreateLogCreator
import Mathlib.Data.List.Forall2

/-!
# What reaches the logger of kafkajs entries

Each entry for which the logger has a method is reported by one call, from which the entry can be
read back, except for a field of its own that is called `namespace`.
-/

set_option autoImplicit false

namespace Xnestjs.Analysis

open Xnestjs.Model Xnestjs.Program.CreateLogCreator

/-- The method for a level. -/
def methodOf : Program.CreateLogCreator.LogLevel → LogMethod
  | .error => .error
  | .warn => .warn
  | .info => .log
  | .debug => .debug
  | .other _ => .verbose

/-- The logger has the method for the entry. -/
def Takes (logger : LoggerService) (entry : LogEntry) : Bool :=
  match methodOf entry.level with
  | .debug => logger.hasDebug
  | .verbose => logger.hasVerbose
  | _ => true

/-- The call says all that the entry does. -/
structure Reported (entry : LogEntry) (call : LoggerCall) : Prop where
  method : call.method = methodOf entry.level
  message : call.message = messageOf entry.log
  error : call.newError = if entry.level = .error then some (messageOf entry.log) else none
  ns : call.details.lookup "namespace" = some entry.ns
  noMessage : call.details.lookup "message" = none
  fields : ∀ k, k ≠ "message" → k ≠ "namespace" → call.details.lookup k = entry.log.lookup k

/-- INTERNAL: the details are the entry without its message, under its namespace.
SOURCE: create-log-creator.ts:7-9 -/
theorem lookup_details (log : Record Value) (ns : Value) (k : String) :
    ((extraOf log).set "namespace" ns).lookup k =
      if k = "namespace" then some ns else if k = "message" then none else log.lookup k := by
  rw [Record.lookup_set]
  by_cases hk : k = "namespace"
  · rw [if_pos hk.symm, if_pos hk]
  · rw [if_neg (Ne.symm hk), if_neg hk]
    by_cases hmessage : k = "message"
    · rw [if_pos hmessage, extraOf, Record.lookup_eq_none_iff, Record.keys_delete]
      simp [hmessage]
    · rw [if_neg hmessage, extraOf, Record.lookup_delete_other _ hmessage]

/-- INTERNAL: **one entry** is reported when the logger takes it, and is dropped otherwise.
SOURCE: create-log-creator.ts:5-35 -/
theorem createLogCreator_cases (logger : LoggerService) (entry : LogEntry) :
    (Takes logger entry = true ∧
      ∃ call, createLogCreator (some logger) entry = some call ∧ Reported entry call) ∨
    (Takes logger entry = false ∧ createLogCreator (some logger) entry = none) := by
  have hreported : ∀ newError,
      newError = (if entry.level = .error then some (messageOf entry.log) else none) →
      Reported entry ⟨methodOf entry.level, messageOf entry.log, newError,
        (extraOf entry.log).set "namespace" entry.ns⟩ := by
    intro newError herror
    refine ⟨rfl, rfl, herror, ?_, ?_, fun k hmessage hns => ?_⟩
    · rw [lookup_details, if_pos rfl]
    · rw [lookup_details, if_neg (by decide), if_pos rfl]
    · rw [lookup_details, if_neg hns, if_neg hmessage]
  obtain ⟨ns, level, log⟩ := entry
  cases level with
  | error => exact Or.inl ⟨rfl, _, rfl, hreported _ rfl⟩
  | warn => exact Or.inl ⟨rfl, _, rfl, hreported _ rfl⟩
  | info => exact Or.inl ⟨rfl, _, rfl, hreported _ rfl⟩
  | debug =>
    cases hdebug : logger.hasDebug with
    | true =>
      exact Or.inl ⟨hdebug, _, by simp [createLogCreator, methodOf, hdebug], hreported _ rfl⟩
    | false => exact Or.inr ⟨hdebug, by simp [createLogCreator, hdebug]⟩
  | other n =>
    cases hverbose : logger.hasVerbose with
    | true =>
      exact Or.inl ⟨hverbose, _, by simp [createLogCreator, methodOf, hverbose], hreported _ rfl⟩
    | false => exact Or.inr ⟨hverbose, by simp [createLogCreator, hverbose]⟩

/-- INTERNAL: levels with one method are the same, or both of them are other ones. -/
theorem level_of_method {l l' : Program.CreateLogCreator.LogLevel} (h : methodOf l = methodOf l') :
    l = l' ∨ ∃ n n', l = .other n ∧ l' = .other n' := by
  cases l <;> cases l' <;> first | exact Or.inl rfl | exact Or.inr ⟨_, _, rfl, rfl⟩ | cases h

/-- **Log entries.** Of any sequence of entries those for which the logger has a method are reported
in their order by one call each, and two entries with the same report are the same: in level, up to
the ones that kafkajs does not name, in namespace and message, and in every other field, up to one
that is called `namespace`. SOURCE: create-log-creator.ts:4-37 -/
theorem entries_reported (logger : LoggerService) (entries : List LogEntry) :
    List.Forall₂ Reported (entries.filter (Takes logger))
      (entries.filterMap (createLogCreator (some logger))) ∧
    ∀ entry entry' call, Reported entry call → Reported entry' call →
      (entry.level = entry'.level ∨ ∃ n n', entry.level = .other n ∧ entry'.level = .other n') ∧
      entry.ns = entry'.ns ∧ messageOf entry.log = messageOf entry'.log ∧
      ∀ k, k ≠ "message" → k ≠ "namespace" → entry.log.lookup k = entry'.log.lookup k := by
  constructor
  · induction entries with
    | nil => exact .nil
    | cons entry entries ih =>
      rcases createLogCreator_cases logger entry with
        ⟨htakes, call, hcall, hreported⟩ | ⟨htakes, hcall⟩
      · rw [List.filter_cons_of_pos htakes, List.filterMap_cons_some hcall]
        exact .cons hreported ih
      · rw [List.filter_cons_of_neg (by simp [htakes]), List.filterMap_cons_none hcall]
        exact ih
  · intro entry entry' call h h'
    refine ⟨level_of_method (h.method.symm.trans h'.method),
      Option.some.inj (h.ns.symm.trans h'.ns), h.message.symm.trans h'.message, ?_⟩
    intro k hmessage hns
    exact (h.fields k hmessage hns).symm.trans (h'.fields k hmessage hns)

end Xnestjs.Analysis
