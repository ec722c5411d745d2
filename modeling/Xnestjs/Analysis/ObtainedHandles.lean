import Xnestjs.Analysis.LockKinds
import Xnestjs.Model.NumberAllocation

/-!
# Handles obtained over a run

Whatever lock objects are and whatever their users do to them between the calls, the registry
hands out handles as an allocator does: the registered one of the key again, or a new one. The map
`locks` is then the last handle that each key was answered with.
-/

set_option autoImplicit false

namespace Xnestjs.Analysis

open Xnestjs.Model Xnestjs.Program.RedisClient

section

variable {L : Type}

/-- A call of one of the `obtain` methods, or a change of the object behind a handle. -/
inductive ObtainEvent (L : Type) where
  | obtain (m : ObtainMethod) (key : String) (limit : ℕ)
  | change (handle : ℕ) (object : L)

/-- The client, and the handles that its keys were answered with. -/
structure ObtainRun (L : Type) where
  client : Client L
  answers : List (String × ℕ)

def freshObtains : ObtainRun L := ⟨.fresh, []⟩

/-- A call that throws is answered with nothing. -/
def answered (answers : List (String × ℕ)) (key : String) : Except String ℕ → List (String × ℕ)
  | .ok h => answers ++ [(key, h)]
  | .error _ => answers

variable (api : LockApi L)

/-- One step of a run. -/
def obtainStep (s : ObtainRun L) : ObtainEvent L → Option (ObtainRun L)
  | .obtain m key limit =>
    let (answer, client) := obtainBy api s.client m key limit
    some ⟨client, answered s.answers key answer⟩
  | .change h o =>
    if h < s.client.heap.length then
      some { s with client := { s.client with heap := s.client.heap.set h o } }
    else none

/-- The answers are those of an allocator of handles, and the map has the last one of each key. -/
structure AnswersAllocated (s : ObtainRun L) : Prop where
  allocation : Allocation s.answers s.client.heap.length
  registered : ∀ key, s.client.locks key = lastNumber key s.answers

variable {api}

/-- INTERNAL: at the start there are no answers and no locks. -/
theorem answersAllocated_fresh : AnswersAllocated (freshObtains : ObtainRun L) :=
  ⟨.nil, fun _ => rfl⟩

/-- INTERNAL: **an `obtain`** is a step of the allocator. SOURCE: redis-client.ts:40-84 -/
theorem AnswersAllocated.obtain {s : ObtainRun L} (h : AnswersAllocated s) (m : ObtainMethod)
    (key : String) (limit : ℕ) :
    AnswersAllocated ⟨(obtainBy api s.client m key limit).2,
      answered s.answers key (obtainBy api s.client m key limit).1⟩ := by
  rw [obtainBy_eq]
  rcases obtain_cases api s.client m.kind (m.creates key limit) with
    ⟨i, o, hentry, -, -, heq⟩ | ⟨i, o, -, -, -, heq⟩ | ⟨-, heq⟩
  · rw [creates_key] at hentry
    have hlocks := ((entry_eq_some_iff _ _ _ _).mp hentry).1
    rw [h.registered] at hlocks
    rw [heq]
    refine ⟨h.allocation.again hlocks, fun key' => ?_⟩
    simp only [answered, lastNumber_answered, h.registered]
    split_ifs with hkey
    · rw [hkey, hlocks]
    · rfl
  · rw [heq]
    exact h
  · rw [heq, creates_key]
    constructor
    · simpa [answered] using h.allocation.fresh
    · intro key'
      simp only [answered, lastNumber_answered, Function.update_apply, h.registered]

/-- INTERNAL: **one step** keeps the answers those of an allocator. -/
theorem answersAllocated_step (s : ObtainRun L) (e : ObtainEvent L) (t : ObtainRun L)
    (h : AnswersAllocated s) (hst : obtainStep api s e = some t) : AnswersAllocated t := by
  cases e with
  | obtain m key limit =>
    cases hst
    exact h.obtain m key limit
  | change i o =>
    simp only [obtainStep] at hst
    split_ifs at hst with hi
    cases hst
    exact ⟨by simpa using h.allocation, h.registered⟩

/-- INTERNAL: a handle that is not new is answered only while its lock is in use and of the kind
asked for. SOURCE: redis-client.ts:40-84 -/
theorem obtained_again {s : ObtainRun L} {m : ObtainMethod} {key : String} {limit i : ℕ}
    (hanswer : (obtainBy api s.client m key limit).1 = .ok i)
    (hold : i < s.client.heap.length) :
    ∃ o, s.client.entry key = some (i, o) ∧ api.inUse o = true ∧ api.kind o = m.kind := by
  rw [obtainBy_eq] at hanswer
  rcases obtain_cases api s.client m.kind (m.creates key limit) with
    ⟨j, o, hentry, huse, hkind, heq⟩ | ⟨j, o, -, -, -, heq⟩ | ⟨-, heq⟩
  · rw [heq] at hanswer
    cases hanswer
    rw [creates_key] at hentry
    exact ⟨o, hentry, huse, hkind⟩
  · rw [heq] at hanswer
    cases hanswer
  · rw [heq] at hanswer
    cases hanswer
    exact absurd hold (Nat.lt_irrefl _)

/-- **The handles of a run.** Over any lock objects, in a run of the three `obtain` methods on any
keys while the objects change in any way: the map has under each key the last handle that the key
was answered with; each lock created is answered for one key; and the handles of a key only go up,
so that a replaced one never comes back. A handle is answered again only while its lock is in use
and of the kind asked for. SOURCE: redis-client.ts:18, 40-84 -/
theorem obtained_handles (api : LockApi L) {es : List (ObtainEvent L)} {s : ObtainRun L}
    (hrun : runFrom (obtainStep api) freshObtains es = some s) :
    (∀ key, s.client.locks key = lastNumber key s.answers) ∧
    (∀ i, i < s.client.heap.length ↔ ∃ key, (key, i) ∈ s.answers) ∧
    (∀ key key' i, (key, i) ∈ s.answers → (key', i) ∈ s.answers → key = key') ∧
    (∀ key, (numbersOf key s.answers).Pairwise (· ≤ ·)) ∧
    ∀ m key limit i, (obtainBy api s.client m key limit).1 = .ok i →
      (∃ key', (key', i) ∈ s.answers) →
      lastNumber key s.answers = some i ∧
        ∃ o, s.client.heap[i]? = some o ∧ api.inUse o = true ∧ api.kind o = m.kind := by
  obtain ⟨halloc, hregistered⟩ :=
    invariant_of_run answersAllocated_step answersAllocated_fresh hrun
  refine ⟨hregistered, halloc.lt_iff, fun key key' i => halloc.key_unique, halloc.pairwise_le, ?_⟩
  intro m key limit i hanswer hold
  obtain ⟨o, hentry, huse, hkind⟩ := obtained_again hanswer ((halloc.lt_iff i).mpr hold)
  obtain ⟨hlocks, hheap⟩ := (entry_eq_some_iff _ _ _ _).mp hentry
  exact ⟨(hregistered key).symm.trans hlocks, o, hheap, huse, hkind⟩

end

/-- The mutex of "a" is obtained again while it is held, and replaced once it is idle. -/
theorem handles_of_two_keys :
    ∃ s, runFrom (obtainStep countedApi) freshObtains
        [.obtain .mutex "a" 1, .change 0 ⟨⟨.mutex, "a", none⟩, 1⟩, .obtain .mutex "a" 1,
          .obtain .semaphore "b" 2, .change 0 ⟨⟨.mutex, "a", none⟩, 0⟩,
          .obtain .mutex "a" 1] = some s ∧
      s.answers = [("a", 0), ("a", 0), ("b", 1), ("a", 2)] ∧
      s.client.locks "a" = some 2 := by
  obtain ⟨s, hrun, hanswers⟩ : ∃ s, runFrom (obtainStep countedApi) freshObtains
      [.obtain .mutex "a" 1, .change 0 ⟨⟨.mutex, "a", none⟩, 1⟩, .obtain .mutex "a" 1,
        .obtain .semaphore "b" 2, .change 0 ⟨⟨.mutex, "a", none⟩, 0⟩,
        .obtain .mutex "a" 1] = some s ∧
      s.answers = [("a", 0), ("a", 0), ("b", 1), ("a", 2)] := ⟨_, rfl, rfl⟩
  refine ⟨s, hrun, hanswers, ?_⟩
  rw [(obtained_handles countedApi hrun).1, hanswers]
  decide

end Xnestjs.Analysis
