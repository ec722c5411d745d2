import Xnestjs.Program.MongodbHealth

/-!
# Several health checks

The results of several checks are merged into one record, which should have the status of each
check under its key. A result of `pingCheck` has the status of the check under the name
`status`, whatever the key, so that no key is found in the merged record and the last check
hides the others.
-/

set_option autoImplicit false

namespace Xnestjs.Analysis

open Xnestjs.Model Xnestjs.Program.MongodbHealth

/-- A check with everything it meets. -/
structure Check where
  key : String
  options : Option MongodbPingCheckSettings
  services : CheckServices

/-- The call of the indicator. -/
def Check.run (c : Check) : Except Thrown (Record ResultField) :=
  pingCheck c.services c.key c.options

/-- There is a connection and its ping resolves. -/
def Check.Pings (c : Check) : Prop :=
  ∃ connection, findConnection c.services c.options = .ok (some connection) ∧
    c.services.ping connection (timeoutOf c.options) = .ok ()

/-- `r[key].status`, `undefined` when it is not there. -/
def statusAt (r : Record ResultField) (key : String) : Value :=
  match r.lookup key with
  | some (.fields entry) => (entry.lookup "status").getD .undefined
  | _ => .undefined

/-- Every call resolves, and the merged record has for every check its own status under its
key. -/
def ChecksKept (checks : List Check) : Prop :=
  ∃ results, checks.map Check.run = results.map .ok ∧ ∀ c ∈ checks,
    (c.Pings → statusAt (.spreadAll results) c.key = .str "up") ∧
      (¬ c.Pings → statusAt (.spreadAll results) c.key = .str "down")

/-- INTERNAL: a caught value makes a failed check, when its message can be read. -/
theorem down_of_caught {err : Thrown} {r : Record ResultField}
    (h : (messageOf err).map down = .ok r) : ∃ message, r = down message := by
  cases err with
  | withMessage message => exact ⟨message, (Except.ok.inj h).symm⟩
  | null => cases h
  | undefined => cases h

/-- INTERNAL: a check that resolves has one of two results.
SOURCE: mongodb.health.ts:32-50 -/
theorem pingCheck_result {services : CheckServices} {key : String}
    {options : Option MongodbPingCheckSettings} {r : Record ResultField}
    (h : pingCheck services key options = .ok r) : (∃ message, r = down message) ∨ r = up := by
  unfold pingCheck at h
  cases hfind : findConnection services options with
  | error err =>
    rw [hfind] at h
    exact Or.inl (down_of_caught h)
  | ok found =>
    rw [hfind] at h
    cases found with
    | none => exact Or.inl ⟨_, (Except.ok.inj h).symm⟩
    | some connection =>
      cases hping : services.ping connection (timeoutOf options) with
      | error err =>
        simp only [hping] at h
        exact Or.inl (down_of_caught h)
      | ok _ =>
        simp only [hping] at h
        exact Or.inr (Except.ok.inj h).symm

/-- INTERNAL: the failed check has values only. SOURCE: mongodb.health.ts:39-41, 48 -/
theorem down_values {message : Value} {k : String} {x : ResultField}
    (hk : (down message).lookup k = some x) : ∃ v, x = .value v := by
  by_cases hstatus : "status" = k
  · subst hstatus
    exact ⟨.str "down", (Option.some.inj hk).symm⟩
  · by_cases hmessage : "message" = k
    · subst hmessage
      exact ⟨message, (Option.some.inj hk).symm⟩
    · simp [Record.lookup, down, entryLookup, hstatus, hmessage] at hk

/-- INTERNAL: and so has the other one. SOURCE: mongodb.health.ts:50 -/
theorem up_values {k : String} {x : ResultField} (hk : up.lookup k = some x) :
    ∃ v, x = .value v := by
  by_cases hstatus : "status" = k
  · subst hstatus
    exact ⟨.str "up", (Option.some.inj hk).symm⟩
  · simp [Record.lookup, up, entryLookup, hstatus] at hk

/-- INTERNAL: a result has values only. SOURCE: mongodb.health.ts:27-51 -/
theorem run_values {c : Check} {r : Record ResultField} (h : c.run = .ok r) {k : String}
    {x : ResultField} (hk : r.lookup k = some x) : ∃ v, x = .value v := by
  rcases pingCheck_result h with ⟨message, rfl⟩ | rfl
  · exact down_values hk
  · exact up_values hk

/-- INTERNAL: no status is found under a key of the merged record. -/
theorem statusAt_merged {checks : List Check} {results : List (Record ResultField)}
    (h : checks.map Check.run = results.map .ok) (key : String) :
    statusAt (.spreadAll results) key = .undefined := by
  unfold statusAt
  cases hmerged : (Record.spreadAll results).lookup key with
  | none => rfl
  | some x =>
    obtain ⟨r, hr, hx⟩ := Record.mem_of_lookup_spreadAll hmerged
    have hmem : Except.ok r ∈ checks.map Check.run := by
      rw [h]
      exact List.mem_map_of_mem hr
    obtain ⟨c, -, hrun⟩ := List.mem_map.mp hmem
    obtain ⟨v, rfl⟩ := run_values hrun hx
    rfl

/-- **The checks are kept** in the merged record only when there is none.
SOURCE: mongodb.health.ts:27-51, types.ts:34-47 -/
theorem checks_kept_iff (checks : List Check) : ChecksKept checks ↔ checks = [] := by
  constructor
  · rintro ⟨results, hresults, hkept⟩
    cases checks with
    | nil => rfl
    | cons c rest =>
      obtain ⟨hup, hdown⟩ := hkept c List.mem_cons_self
      rw [statusAt_merged hresults] at hup hdown
      by_cases hpings : c.Pings
      · cases hup hpings
      · cases hdown hpings
  · rintro rfl
    exact ⟨[], rfl, fun c hc => absurd hc List.not_mem_nil⟩

/-- A check that fails and one that does not: the merged record has the status of the second
one, and nothing under the keys. -/
theorem failing_check_hidden :
    let failing : Check :=
      ⟨"orders", none, ⟨fun _ => .ok (some 0), fun _ _ => .error (.withMessage (.str "lost"))⟩⟩
    let working : Check := ⟨"users", none, ⟨fun _ => .ok (some 1), fun _ _ => .ok ()⟩⟩
    failing.run = .ok (down (.str "lost")) ∧ working.run = .ok up ∧
      ((Record.spreadAll [down (.str "lost"), up]).lookup "status" =
        some (.value (.str "up"))) ∧
      statusAt (.spreadAll [down (.str "lost"), up]) "orders" = .undefined ∧
      ¬ ChecksKept [failing, working] := by
  intro failing working
  refine ⟨rfl, rfl, by rfl, by rfl, ?_⟩
  rintro ⟨results, hresults, hkept⟩
  have hworking : working.Pings := ⟨1, rfl, rfl⟩
  have hstatus := (hkept working (by simp)).1 hworking
  rw [statusAt_merged hresults] at hstatus
  cases hstatus

end Xnestjs.Analysis
