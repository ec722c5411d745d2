import Xnestjs.Model.Value
import Mathlib.Logic.Function.Basic

/-!
# The lifecycle hooks of `KafkaCoreModule`

At bootstrap the module replaces the factories `consumer` and `producer` of its client, so
that it comes to know the objects created from then on and forgets each of them when it
emits its disconnect event; at shutdown it disconnects the objects it knows. The objects
belong to kafkajs. Of them the model has what the hooks depend on: the kind, whether the
object is connected, and whether the module listens to its disconnect event. Logging is left
out.
-/

set_option autoImplicit false

namespace Xnestjs.Program.KafkaCoreModule

open Xnestjs.Model

inductive ObjectKind where
  | admin
  | consumer
  | producer
  deriving DecidableEq, Repr

structure KafkaObject where
  kind : ObjectKind
  connected : Bool
  listened : Bool
  deriving DecidableEq, Repr

/-- The objects a client has created, in order, whether its factories are replaced, and the
sets `_admins`, `_consumers` and `_producers` of the module. An object is known by its place
in the order. -/
structure KafkaApp where
  objects : List KafkaObject
  patched : Bool
  known : ObjectKind → List ℕ

def KafkaApp.fresh : KafkaApp := ⟨[], false, fun _ => []⟩

/-- `client.admin()`, `client.consumer()` or `client.producer()`. The factory of admins is
the one of kafkajs; the replaced ones add the new object to their set and listen to it.
SOURCE: kafka-core.module.ts:126-147 -/
def KafkaApp.create (a : KafkaApp) (kind : ObjectKind) : KafkaApp :=
  let replaced : Bool := a.patched && kind != .admin
  { a with
    objects := a.objects ++ [⟨kind, false, replaced⟩]
    known :=
      if replaced then Function.update a.known kind (a.known kind ++ [a.objects.length])
      else a.known }

def KafkaApp.connect (a : KafkaApp) (i : ℕ) : KafkaApp :=
  { a with objects := a.objects.modify i fun o => { o with connected := true } }

/-- `disconnect()` of an object, with the event that it emits: a module that listens deletes
the object from its set. SOURCE: kafka-core.module.ts:133-135, 142-144 -/
def KafkaApp.disconnect (a : KafkaApp) (i : ℕ) : KafkaApp :=
  { a with
    objects := a.objects.modify i fun o => { o with connected := false }
    known :=
      match a.objects[i]? with
      | some o =>
        if o.listened then Function.update a.known o.kind ((a.known o.kind).filter (· ≠ i))
        else a.known
      | none => a.known }

structure BootstrapOptions where
  lazyConnect : Value
  brokers : Value

/-- How the calls on the admin of `onApplicationBootstrap` settle. -/
structure AdminOutcomes where
  connect : Except String Unit
  fetchTopicMetadata : Except String Unit
  disconnect : Except String Unit

/-- The `finally` of the connection attempt: a rejected `disconnect` replaces the outcome and
leaves the admin as it was. SOURCE: kafka-core.module.ts:168-170 -/
def finallyDisconnect (outcomes : AdminOutcomes) (admin : ℕ) (result : Except String Unit)
    (a : KafkaApp) : Except String Unit × KafkaApp :=
  match outcomes.disconnect with
  | .ok () => (result, a.disconnect admin)
  | .error e => (.error e, a)

/-- `onApplicationBootstrap()`. SOURCE: kafka-core.module.ts:126-171 -/
def onApplicationBootstrap (options : BootstrapOptions) (outcomes : AdminOutcomes)
    (a : KafkaApp) : Except String Unit × KafkaApp :=
  let a := { a with patched := true }
  if options.lazyConnect.truthy || !options.brokers.truthy then (.ok (), a)
  else
    let admin := a.objects.length
    let a := a.create .admin
    match outcomes.connect with
    | .error e => finallyDisconnect outcomes admin (.error e) a
    | .ok () =>
      let a := a.connect admin
      match outcomes.fetchTopicMetadata with
      | .error e => finallyDisconnect outcomes admin (.error e) a
      | .ok () => finallyDisconnect outcomes admin (.ok ()) a

/-- `onApplicationShutdown()`: `disconnect()` is called on every object of the three sets,
and `Promise.allSettled` takes each outcome as it is. The result lists the calls with their
outcomes. SOURCE: kafka-core.module.ts:173-179 -/
def onApplicationShutdown (a : KafkaApp) (disconnect : ℕ → Except String Unit) :
    List (ℕ × Except String Unit) :=
  (a.known .admin).map (fun i => (i, disconnect i)) ++
    (a.known .consumer).map (fun i => (i, disconnect i)) ++
    (a.known .producer).map (fun i => (i, disconnect i))

/-- `disconnect()` is called on exactly the known objects, whatever the outcomes. -/
theorem called_iff (a : KafkaApp) (disconnect : ℕ → Except String Unit) (i : ℕ) :
    (∃ r, (i, r) ∈ onApplicationShutdown a disconnect) ↔ ∃ kind, i ∈ a.known kind := by
  unfold onApplicationShutdown
  constructor
  · rintro ⟨r, hr⟩
    simp only [List.mem_append, List.mem_map, Prod.mk.injEq] at hr
    rcases hr with (⟨j, hj, rfl, -⟩ | ⟨j, hj, rfl, -⟩) | ⟨j, hj, rfl, -⟩
    · exact ⟨.admin, hj⟩
    · exact ⟨.consumer, hj⟩
    · exact ⟨.producer, hj⟩
  · rintro ⟨kind, hi⟩
    refine ⟨disconnect i, ?_⟩
    simp only [List.mem_append, List.mem_map, Prod.mk.injEq]
    cases kind with
    | admin => exact Or.inl (Or.inl ⟨i, hi, rfl, rfl⟩)
    | consumer => exact Or.inl (Or.inr ⟨i, hi, rfl, rfl⟩)
    | producer => exact Or.inr ⟨i, hi, rfl, rfl⟩

end Xnestjs.Program.KafkaCoreModule
