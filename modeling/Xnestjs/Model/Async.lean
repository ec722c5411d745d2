import Mathlib.Data.List.Basic

/-!
# Async functions over one shared mutable state

The body of an `async` function runs without interruption from one `await` to the next:
between two of them it reads and writes the state it shares with the other calls, at an
`await` it hands an operation to the outside and waits until that operation settles.

`Async σ Op R ε α` is the syntax of such a body: state `σ`, awaited operations `Op` which
resolve with an `R` or reject with an `ε`, result `α`. It has two meanings:

* `Async.advance` runs one uninterrupted segment, up to the next `await` or the end. The
  `Pool` of calls in flight below interleaves segments of any number of calls;
* `Async.exec` runs the whole body with every operation answered as soon as it is asked:
  one call, awaited before anything else happens.

`exec_eq_advance` ties the second to the first.
-/

set_option autoImplicit false

namespace Xnestjs.Model

/-- The body of an `async` function. -/
inductive Async (σ Op R ε α : Type) : Type where
  | done (result : Except ε α)
  | read (k : σ → Async σ Op R ε α)
  | write (s : σ) (k : Async σ Op R ε α)
  | await (op : Op) (k : Except ε R → Async σ Op R ε α)

/-- Where a segment ends: the call settles, or it waits for an operation. -/
inductive Status (σ Op R ε α : Type) : Type where
  | finished (result : Except ε α)
  | suspended (op : Op) (resume : Except ε R → Async σ Op R ε α)

namespace Async

variable {σ Op R ε α β : Type}

/-- `body; f(result)`: a rejection skips what follows. -/
def bind : Async σ Op R ε α → (α → Async σ Op R ε β) → Async σ Op R ε β
  | done (.ok a), f => f a
  | done (.error e), _ => done (.error e)
  | read k, f => read fun s => (k s).bind f
  | write s k, f => write s (k.bind f)
  | await op k, f => await op fun r => (k r).bind f

instance : Monad (Async σ Op R ε) where
  pure a := done (.ok a)
  bind := bind

def get : Async σ Op R ε σ := read fun s => done (.ok s)

def set (s : σ) : Async σ Op R ε Unit := write s (done (.ok ()))

/-- `await op`: a rejected operation rejects the call. -/
def perform (op : Op) : Async σ Op R ε R := await op done

/-- `try { await op } catch`: the rejection is a value the body goes on with. -/
def attempt (op : Op) : Async σ Op R ε (Except ε R) := await op fun r => done (.ok r)

/-- `try { return body } finally { cleanup }`: the cleanup runs in either case and the
outcome of the body is kept, unless the cleanup rejects itself. -/
def tryFinally : Async σ Op R ε α → Async σ Op R ε Unit → Async σ Op R ε α
  | done r, cleanup => cleanup.bind fun _ => done r
  | read k, cleanup => read fun s => (k s).tryFinally cleanup
  | write s k, cleanup => write s (k.tryFinally cleanup)
  | await op k, cleanup => await op fun r => (k r).tryFinally cleanup

/-- A body whose caller goes on either way: what follows is given how the body settled. -/
def settled : Async σ Op R ε α → (Except ε α → Async σ Op R ε β) → Async σ Op R ε β
  | done r, f => f r
  | read k, f => read fun s => (k s).settled f
  | write s k, f => write s (k.settled f)
  | await op k, f => await op fun r => (k r).settled f

/-- The same body among calls that await other operations as well. -/
def lift {Op' : Type} (f : Op → Op') : Async σ Op R ε α → Async σ Op' R ε α
  | done r => done r
  | read k => read fun s => (k s).lift f
  | write s k => write s (k.lift f)
  | await op k => await (f op) fun r => (k r).lift f

/-- One uninterrupted segment: up to the next `await`, or to the end. -/
def advance : Async σ Op R ε α → σ → σ × Status σ Op R ε α
  | done r, s => (s, .finished r)
  | read k, s => (k s).advance s
  | write t k, _ => k.advance t
  | await op k, s => (s, .suspended op k)

/-- `pure` is a body that has resolved. -/
@[simp] theorem pure_eq (a : α) : (pure a : Async σ Op R ε α) = done (.ok a) := rfl

/-- Sequencing in `do` blocks is `bind`. -/
@[simp] theorem bind_eq (b : Async σ Op R ε α) (f : α → Async σ Op R ε β) :
    b >>= f = b.bind f := rfl

/-- What follows a resolved body runs with its value. -/
@[simp] theorem bind_done_ok (a : α) (f : α → Async σ Op R ε β) :
    (done (.ok a) : Async σ Op R ε α).bind f = f a := rfl

/-- What follows a rejected body does not run. -/
@[simp] theorem bind_done_error (e : ε) (f : α → Async σ Op R ε β) :
    (done (.error e) : Async σ Op R ε α).bind f = done (.error e) := rfl

/-- A read stays in front of what follows. -/
@[simp] theorem bind_read (k : σ → Async σ Op R ε α) (f : α → Async σ Op R ε β) :
    (read k).bind f = read fun s => (k s).bind f := rfl

/-- So does a write. -/
@[simp] theorem bind_write (s : σ) (k : Async σ Op R ε α) (f : α → Async σ Op R ε β) :
    (write s k).bind f = write s (k.bind f) := rfl

/-- So does an `await`. -/
@[simp] theorem bind_await (op : Op) (k : Except ε R → Async σ Op R ε α)
    (f : α → Async σ Op R ε β) : (await op k).bind f = await op fun r => (k r).bind f := rfl

/-- What follows `get` reads the state. -/
@[simp] theorem bind_get (f : σ → Async σ Op R ε β) : (get).bind f = read f := rfl

/-- What follows `set` comes after the write. -/
@[simp] theorem bind_set (s : σ) (f : Unit → Async σ Op R ε β) :
    (set s).bind f = write s (f ()) := rfl

/-- What follows a caught operation sees how it settled. -/
@[simp] theorem bind_attempt (op : Op) (f : Except ε R → Async σ Op R ε β) :
    (attempt op).bind f = await op f := rfl

/-- What follows an operation runs when it resolves. -/
@[simp] theorem bind_perform (op : Op) (f : R → Async σ Op R ε β) :
    (perform op).bind f = await op fun r => (done r).bind f := rfl

section

variable {Op' : Type} (g : Op → Op')

/-- A settled body stays settled among other operations. -/
@[simp] theorem lift_done (r : Except ε α) : (done r : Async σ Op R ε α).lift g = done r := rfl

/-- A read stays a read. -/
@[simp] theorem lift_read (k : σ → Async σ Op R ε α) :
    (read k).lift g = read fun s => (k s).lift g := rfl

/-- A write stays a write. -/
@[simp] theorem lift_write (s : σ) (k : Async σ Op R ε α) :
    (write s k).lift g = write s (k.lift g) := rfl

/-- An `await` asks for the operation under its new name. -/
@[simp] theorem lift_await (op : Op) (k : Except ε R → Async σ Op R ε α) :
    (await op k).lift g = await (g op) fun r => (k r).lift g := rfl

end

/-- A settled body has finished. -/
@[simp] theorem advance_done (r : Except ε α) (s : σ) :
    (done r : Async σ Op R ε α).advance s = (s, .finished r) := rfl

/-- A read goes on with the state. -/
@[simp] theorem advance_read (k : σ → Async σ Op R ε α) (s : σ) :
    (read k).advance s = (k s).advance s := rfl

/-- A write goes on with the new state. -/
@[simp] theorem advance_write (t : σ) (k : Async σ Op R ε α) (s : σ) :
    (write t k).advance s = k.advance t := rfl

/-- `set` changes the state and resolves. -/
@[simp] theorem advance_set (t s : σ) :
    (set t : Async σ Op R ε Unit).advance s = (t, .finished (.ok ())) := rfl

/-- An `await` ends the segment. -/
@[simp] theorem advance_await (op : Op) (k : Except ε R → Async σ Op R ε α) (s : σ) :
    (await op k).advance s = (s, .suspended op k) := rfl

/-! ## One call, awaited -/

/-- The shared state together with the operations awaited so far and how each settled,
oldest first. -/
structure World (σ Op R ε : Type) where
  state : σ
  asked : List (Op × Except ε R)

/-- The whole body, each operation answered when it is asked. The answers may depend on
how many operations were asked before. -/
def exec (answer : ℕ → Op → Except ε R) :
    Async σ Op R ε α → World σ Op R ε → World σ Op R ε × Except ε α
  | done r, w => (w, r)
  | read k, w => (k w.state).exec answer w
  | write s k, w => k.exec answer { w with state := s }
  | await op k, w =>
    (k (answer w.asked.length op)).exec answer
      { w with asked := w.asked ++ [(op, answer w.asked.length op)] }

/-- Running a body awaited is running its first segment and, when that waits for an
operation, going on at once with the answer. -/
theorem exec_eq_advance (answer : ℕ → Op → Except ε R) (b : Async σ Op R ε α)
    (w : World σ Op R ε) :
    b.exec answer w = match b.advance w.state with
      | (s, .finished r) => ({ w with state := s }, r)
      | (s, .suspended op k) =>
        (k (answer w.asked.length op)).exec answer
          ⟨s, w.asked ++ [(op, answer w.asked.length op)]⟩ := by
  induction b generalizing w with
  | done r => rfl
  | read k ih => exact ih w.state w
  | write s k ih => exact ih { w with state := s }
  | await op k ih => rfl

/-- Awaited bodies run one after the other, the second one unless the first rejects. -/
theorem exec_bind (answer : ℕ → Op → Except ε R) (b : Async σ Op R ε α)
    (f : α → Async σ Op R ε β) (w : World σ Op R ε) :
    (b.bind f).exec answer w = match b.exec answer w with
      | (w', .ok a) => (f a).exec answer w'
      | (w', .error e) => (w', .error e) := by
  induction b generalizing w with
  | done r => cases r <;> rfl
  | read k ih => exact ih w.state w
  | write s k ih => exact ih { w with state := s }
  | await op k ih => exact ih _ _

/-- After a rejection nothing runs. -/
theorem exec_bind_error (answer : ℕ → Op → Except ε R) {b : Async σ Op R ε α}
    {w w' : World σ Op R ε} {e : ε} (h : b.exec answer w = (w', .error e))
    (f : α → Async σ Op R ε β) : (b.bind f).exec answer w = (w', .error e) := by
  rw [exec_bind, h]

/-- What the caller goes on with runs after the body, however that settled. -/
theorem exec_settled (answer : ℕ → Op → Except ε R) (b : Async σ Op R ε α)
    (f : Except ε α → Async σ Op R ε β) (w : World σ Op R ε) :
    (b.settled f).exec answer w =
      (f (b.exec answer w).2).exec answer (b.exec answer w).1 := by
  induction b generalizing w with
  | done r => rfl
  | read k ih => exact ih w.state w
  | write s k ih => exact ih { w with state := s }
  | await op k ih => exact ih _ _

/-- The cleanup runs after the body, whose outcome is kept unless the cleanup rejects. -/
theorem exec_tryFinally (answer : ℕ → Op → Except ε R) (b : Async σ Op R ε α)
    (cleanup : Async σ Op R ε Unit) (w : World σ Op R ε) :
    (b.tryFinally cleanup).exec answer w =
      match cleanup.exec answer (b.exec answer w).1 with
      | (w', .ok _) => (w', (b.exec answer w).2)
      | (w', .error e) => (w', .error e) := by
  induction b generalizing w with
  | done r =>
    refine (exec_bind answer cleanup (fun _ => done r) w).trans ?_
    show _ = match cleanup.exec answer w with
      | (w', .ok _) => (w', r)
      | (w', .error e) => (w', .error e)
    rcases cleanup.exec answer w with ⟨w', e | u⟩ <;> rfl
  | read k ih => exact ih w.state w
  | write s k ih => exact ih { w with state := s }
  | await op k ih => exact ih _ _

/-! ## What a call passes through -/

/-- The worlds a call leaves behind on its way, the last one not among them: where it
starts if it changes anything, and each one it changes. -/
def passed (answer : ℕ → Op → Except ε R) :
    Async σ Op R ε α → World σ Op R ε → List (World σ Op R ε)
  | done _, _ => []
  | read k, w => (k w.state).passed answer w
  | write s k, w => w :: k.passed answer { w with state := s }
  | await op k, w =>
    w :: (k (answer w.asked.length op)).passed answer
      { w with asked := w.asked ++ [(op, answer w.asked.length op)] }

/-- Everything the call passes through, its first and its last world among it. -/
def during (answer : ℕ → Op → Except ε R) (b : Async σ Op R ε α) (w : World σ Op R ε) :
    List (World σ Op R ε) :=
  b.passed answer w ++ [(b.exec answer w).1]

/-- A sequence passes through its first body and, when that resolves, through the second. -/
theorem passed_bind (answer : ℕ → Op → Except ε R) (b : Async σ Op R ε α)
    (f : α → Async σ Op R ε β) (w : World σ Op R ε) :
    (b.bind f).passed answer w = b.passed answer w ++ match b.exec answer w with
      | (w', .ok a) => (f a).passed answer w'
      | (_, .error _) => [] := by
  induction b generalizing w with
  | done r => cases r <;> rfl
  | read k ih => exact ih w.state w
  | write s k ih => exact congrArg (w :: ·) (ih { w with state := s })
  | await op k ih => exact congrArg (w :: ·) (ih _ _)

/-- After a body that resolves, its continuation follows. -/
theorem passed_bind_ok (answer : ℕ → Op → Except ε R) {b : Async σ Op R ε α}
    {w w' : World σ Op R ε} {a : α} (h : b.exec answer w = (w', .ok a))
    (f : α → Async σ Op R ε β) :
    (b.bind f).passed answer w = b.passed answer w ++ (f a).passed answer w' := by
  rw [passed_bind, h]

/-- After a body that rejects, nothing follows. -/
theorem passed_bind_error (answer : ℕ → Op → Except ε R) {b : Async σ Op R ε α}
    {w w' : World σ Op R ε} {e : ε} (h : b.exec answer w = (w', .error e))
    (f : α → Async σ Op R ε β) : (b.bind f).passed answer w = b.passed answer w := by
  rw [passed_bind, h, List.append_nil]

/-- A body that is gone on from in either case is followed in either case. -/
theorem passed_settled (answer : ℕ → Op → Except ε R) (b : Async σ Op R ε α)
    (f : Except ε α → Async σ Op R ε β) (w : World σ Op R ε) :
    (b.settled f).passed answer w =
      b.passed answer w ++ (f (b.exec answer w).2).passed answer (b.exec answer w).1 := by
  induction b generalizing w with
  | done r => rfl
  | read k ih => exact ih w.state w
  | write s k ih => exact congrArg (w :: ·) (ih { w with state := s })
  | await op k ih => exact congrArg (w :: ·) (ih _ _)

/-- A cleanup is passed through in either case. -/
theorem passed_tryFinally (answer : ℕ → Op → Except ε R) (b : Async σ Op R ε α)
    (cleanup : Async σ Op R ε Unit) (w : World σ Op R ε) :
    (b.tryFinally cleanup).passed answer w =
      b.passed answer w ++ cleanup.passed answer (b.exec answer w).1 := by
  induction b generalizing w with
  | done r =>
    refine (passed_bind answer cleanup (fun _ => done r) w).trans ?_
    show _ = cleanup.passed answer w
    rcases cleanup.exec answer w with ⟨w', e | u⟩ <;> simp [passed]
  | read k ih => exact ih w.state w
  | write s k ih => exact congrArg (w :: ·) (ih { w with state := s })
  | await op k ih => exact congrArg (w :: ·) (ih _ _)

end Async

/-! ## Calls in flight -/

structure Task (σ Op R ε α ι : Type) where
  tag : ι
  op : Op
  resume : Except ε R → Async σ Op R ε α

/-- The shared state and the calls in flight. -/
structure Pool (σ Op R ε α ι : Type) where
  shared : σ
  inFlight : List (Task σ Op R ε α ι)

/-- What one segment lets an observer see of the call it belongs to. -/
inductive Observation (Op ε α ι : Type) : Type where
  | issued (tag : ι) (op : Op)
  | returned (tag : ι) (result : Except ε α)

namespace Pool

variable {σ Op R ε α ι : Type}

/-- The end of a segment: the call leaves with its result or joins the calls in flight. -/
def place (p : Pool σ Op R ε α ι) (tag : ι) :
    σ × Status σ Op R ε α → Pool σ Op R ε α ι × Observation Op ε α ι
  | (s, .finished r) => ({ p with shared := s }, .returned tag r)
  | (s, .suspended op k) => (⟨s, p.inFlight ++ [⟨tag, op, k⟩]⟩, .issued tag op)

def start (p : Pool σ Op R ε α ι) (tag : ι) (body : Async σ Op R ε α) :
    Pool σ Op R ε α ι × Observation Op ε α ι :=
  p.place tag (body.advance p.shared)

/-- The operation that the `i`-th call in flight waits for settles, and the call runs its
next segment. -/
def settle (p : Pool σ Op R ε α ι) (i : ℕ) (r : Except ε R) :
    Option (Op × Pool σ Op R ε α ι × Observation Op ε α ι) :=
  p.inFlight[i]?.map fun task =>
    (task.op, { p with inFlight := p.inFlight.eraseIdx i }.place task.tag
      ((task.resume r).advance p.shared))

/-- A call that has finished leaves with its result. -/
@[simp] theorem place_finished (p : Pool σ Op R ε α ι) (tag : ι) (s : σ) (r : Except ε α) :
    p.place tag (s, .finished r) = ({ p with shared := s }, .returned tag r) := rfl

/-- A call that is suspended joins the calls in flight. -/
@[simp] theorem place_suspended (p : Pool σ Op R ε α ι) (tag : ι) (s : σ) (op : Op)
    (k : Except ε R → Async σ Op R ε α) :
    p.place tag (s, .suspended op k) = (⟨s, p.inFlight ++ [⟨tag, op, k⟩]⟩, .issued tag op) :=
  rfl

end Pool

end Xnestjs.Model
