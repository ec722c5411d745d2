import Xnestjs.Program.KafkaCoreModule
import Xnestjs.Model.Heap
import Xnestjs.Model.Run

/-!
# What `KafkaCoreModule` disconnects at shutdown

The module knows a consumer or producer from its creation to its first disconnect, and no
admin at all. An object that is connected outside that time is connected behind its back and
stays so after shutdown.
-/

set_option autoImplicit false

namespace Xnestjs.Analysis

open Xnestjs.Model Xnestjs.Program.KafkaCoreModule

inductive KafkaEvent where
  | create (kind : ObjectKind)
  | connect (object : ℕ)
  | disconnect (object : ℕ)
  deriving DecidableEq, Repr

/-- The application, and the objects that have been disconnected at some time. -/
structure KafkaRun where
  app : KafkaApp
  disconnected : List ℕ

/-- One step of a run; objects can be used once they are created. -/
def kafkaStep (s : KafkaRun) : KafkaEvent → Option KafkaRun
  | .create kind => some { s with app := s.app.create kind }
  | .connect i =>
    if i < s.app.objects.length then some { s with app := s.app.connect i } else none
  | .disconnect i =>
    if i < s.app.objects.length then
      some ⟨s.app.disconnect i, i :: s.disconnected⟩
    else none

/-- Were the application shut down now, `disconnect()` would be called on every connected
object, however these calls settle. -/
def ShutdownReachesAll (s : KafkaRun) : Prop :=
  ∀ (i : ℕ) (o : KafkaObject), s.app.objects[i]? = some o → o.connected = true →
    ∀ disconnect, ∃ r, (i, r) ∈ onApplicationShutdown s.app disconnect

/-- An object that the module can know: a consumer or producer never disconnected. -/
def NeverDisconnected (s : KafkaRun) (i : ℕ) (o : KafkaObject) : Prop :=
  o.kind ≠ .admin ∧ i ∉ s.disconnected

/-- Only consumers and producers are connected, and only before their first disconnect. -/
def ConnectsKnown (s : KafkaRun) : KafkaEvent → Prop
  | .connect i => ∀ o, s.app.objects[i]? = some o → NeverDisconnected s i o
  | _ => True

/-- What holds of every run: the module listens to consumers and producers, and knows those
that were never disconnected. -/
structure KafkaInv (s : KafkaRun) : Prop where
  patched : s.app.patched = true
  listened : ∀ (i : ℕ) (o : KafkaObject), s.app.objects[i]? = some o →
    (o.listened = true ↔ o.kind ≠ .admin)
  known : ∀ kind i, i ∈ s.app.known kind ↔
    ∃ o, s.app.objects[i]? = some o ∧ o.kind = kind ∧ NeverDisconnected s i o
  created : ∀ i ∈ s.disconnected, i < s.app.objects.length

/-- INTERNAL: at shutdown `disconnect()` is called on an object exactly when it is a consumer
or producer that was never disconnected. SOURCE: kafka-core.module.ts:173-179 -/
theorem KafkaInv.called_iff {s : KafkaRun} (h : KafkaInv s) {i : ℕ} {o : KafkaObject}
    (ho : s.app.objects[i]? = some o) (disconnect : ℕ → Except String Unit) :
    (∃ r, (i, r) ∈ onApplicationShutdown s.app disconnect) ↔ NeverDisconnected s i o := by
  rw [Xnestjs.Program.KafkaCoreModule.called_iff]
  constructor
  · rintro ⟨kind, hi⟩
    obtain ⟨o', ho', -, hnever⟩ := (h.known kind i).mp hi
    rw [ho] at ho'
    cases ho'
    exact hnever
  · intro hnever
    exact ⟨o.kind, (h.known o.kind i).mpr ⟨o, ho, rfl, hnever⟩⟩

def ConnectedKnown (s : KafkaRun) : Prop :=
  ∀ (i : ℕ) (o : KafkaObject), s.app.objects[i]? = some o → o.connected = true →
    NeverDisconnected s i o

/-- INTERNAL: shutdown reaches all connected objects when each is a consumer or producer that
was never disconnected. -/
theorem KafkaInv.reachesAll_iff {s : KafkaRun} (h : KafkaInv s) :
    ShutdownReachesAll s ↔ ConnectedKnown s := by
  constructor
  · intro hall i o ho hconn
    exact (h.called_iff ho fun _ => .ok ()).mp (hall i o ho hconn _)
  · intro hall i o ho hconn disconnect
    exact (h.called_iff ho disconnect).mpr (hall i o ho hconn)

/-! ## One step -/

/-- INTERNAL: a creation makes a new consumer or producer known, and nothing else.
SOURCE: kafka-core.module.ts:126-147 -/
theorem mem_known_create {a : KafkaApp} (hpatched : a.patched = true) (kind kind' : ObjectKind)
    (j : ℕ) :
    j ∈ (a.create kind).known kind' ↔
      j ∈ a.known kind' ∨ j = a.objects.length ∧ kind' = kind ∧ kind ≠ .admin := by
  by_cases hadmin : kind = .admin
  · simp [KafkaApp.create, hadmin]
  · by_cases hkind : kind' = kind
    · subst hkind
      simp [KafkaApp.create, hpatched, hadmin]
    · simp [KafkaApp.create, hpatched, hadmin, hkind]

/-- INTERNAL: a disconnect makes the object unknown, if it was known.
SOURCE: kafka-core.module.ts:133-135, 142-144 -/
theorem KafkaInv.mem_known_disconnect {s : KafkaRun} (h : KafkaInv s) {i : ℕ}
    {o : KafkaObject} (ho : s.app.objects[i]? = some o) (kind : ObjectKind) (j : ℕ) :
    j ∈ (s.app.disconnect i).known kind ↔ j ∈ s.app.known kind ∧ j ≠ i := by
  have hkind : i ∈ s.app.known kind → o.kind = kind ∧ o.kind ≠ .admin := by
    intro hi
    obtain ⟨o', ho', hk, hnever⟩ := (h.known kind i).mp hi
    rw [ho] at ho'
    cases ho'
    exact ⟨hk, hnever.1⟩
  simp only [KafkaApp.disconnect, ho]
  by_cases hlistened : o.listened = true
  · rw [if_pos hlistened]
    by_cases hk : kind = o.kind
    · subst hk
      simp [List.mem_filter]
    · rw [Function.update_of_ne hk]
      refine ⟨fun hj => ⟨hj, ?_⟩, fun hj => hj.1⟩
      rintro rfl
      exact hk (hkind hj).1.symm
  · rw [if_neg hlistened]
    refine ⟨fun hj => ⟨hj, ?_⟩, fun hj => hj.1⟩
    rintro rfl
    exact hlistened ((h.listened j o ho).mpr (hkind hj).2)

/-- INTERNAL: connecting or disconnecting an object changes no kind and no listening, and
no other object. -/
theorem marked_object {l : List KafkaObject} {i j : ℕ} {b : Bool} {o : KafkaObject}
    (ho : (l.modify i fun o => { o with connected := b })[j]? = some o) :
    ∃ o', l[j]? = some o' ∧ o'.kind = o.kind ∧ o'.listened = o.listened ∧
      (j = i → o.connected = b) ∧ (j ≠ i → o' = o) := by
  obtain ⟨o', ho', rfl⟩ := getElem?_modify_eq_some_iff.mp ho
  by_cases hj : i = j
  · rw [if_pos hj]
    exact ⟨o', ho', rfl, rfl, fun _ => rfl, fun hne => absurd hj.symm hne⟩
  · rw [if_neg hj]
    exact ⟨o', ho', rfl, rfl, fun heq => absurd heq.symm hj, fun _ => rfl⟩

/-- INTERNAL: and every object is still there, with its kind. -/
theorem kind_marked_iff (l : List KafkaObject) (i j : ℕ) (b : Bool) (kind : ObjectKind) :
    (∃ o, (l.modify i fun o => { o with connected := b })[j]? = some o ∧ o.kind = kind) ↔
      ∃ o, l[j]? = some o ∧ o.kind = kind := by
  constructor
  · rintro ⟨o, ho, hk⟩
    obtain ⟨o', ho', hkind, -⟩ := marked_object ho
    exact ⟨o', ho', hkind.trans hk⟩
  · rintro ⟨o, ho, hk⟩
    refine ⟨_, getElem?_modify_eq_some_iff.mpr ⟨o, ho, rfl⟩, ?_⟩
    split_ifs
    · exact hk
    · exact hk

/-- INTERNAL: so the same objects are listened to. -/
theorem listened_marked {l : List KafkaObject}
    (hl : ∀ (i : ℕ) (o : KafkaObject), l[i]? = some o → (o.listened = true ↔ o.kind ≠ .admin))
    {i j : ℕ} {b : Bool} {o : KafkaObject}
    (ho : (l.modify i fun o => { o with connected := b })[j]? = some o) :
    o.listened = true ↔ o.kind ≠ .admin := by
  obtain ⟨o', ho', hkind, hlistened, -⟩ := marked_object ho
  rw [← hlistened, ← hkind]
  exact hl j o' ho'

/-- INTERNAL: what the module should know, with the object and its history apart. -/
theorem neverDisconnected_kind_iff {s : KafkaRun} {j : ℕ} {kind : ObjectKind} :
    (∃ o, s.app.objects[j]? = some o ∧ o.kind = kind ∧ NeverDisconnected s j o) ↔
      (∃ o, s.app.objects[j]? = some o ∧ o.kind = kind) ∧ kind ≠ .admin ∧
        j ∉ s.disconnected := by
  constructor
  · rintro ⟨o, ho, rfl, hnever⟩
    exact ⟨⟨o, ho, rfl⟩, hnever⟩
  · rintro ⟨⟨o, ho, rfl⟩, hnever⟩
    exact ⟨o, ho, rfl, hnever⟩

/-- INTERNAL: creating an object. SOURCE: kafka-core.module.ts:129-147 -/
theorem kafkaInv_create {s : KafkaRun} (h : KafkaInv s) (kind : ObjectKind) :
    KafkaInv { s with app := s.app.create kind } := by
  refine ⟨h.patched, ?_, ?_, ?_⟩
  · intro i o ho
    rcases getElem?_concat_eq_some_iff.mp ho with ho | ⟨-, rfl⟩
    · exact h.listened i o ho
    · simp [h.patched]
  · intro kind' j
    rw [mem_known_create h.patched, h.known]
    constructor
    · rintro (⟨o, ho, hk, hnever⟩ | ⟨rfl, rfl, hadmin⟩)
      · exact ⟨o, getElem?_concat_eq_some_iff.mpr (Or.inl ho), hk, hnever⟩
      · have hnew : s.app.objects.length ∉ s.disconnected :=
          fun hmem => absurd (h.created _ hmem) (Nat.lt_irrefl _)
        exact ⟨_, getElem?_concat_eq_some_iff.mpr (Or.inr ⟨rfl, rfl⟩), rfl, hadmin, hnew⟩
    · rintro ⟨o, ho, hk, hnever⟩
      rcases getElem?_concat_eq_some_iff.mp ho with ho | ⟨hj, rfl⟩
      · exact Or.inl ⟨o, ho, hk, hnever⟩
      · exact Or.inr ⟨hj, hk.symm, hnever.1⟩
  · intro i hi
    have hlt := h.created i hi
    simp only [KafkaApp.create, List.length_append, List.length_singleton]
    omega

/-- INTERNAL: connecting an object; the module does not listen to that. -/
theorem kafkaInv_connect {s : KafkaRun} (h : KafkaInv s) (i : ℕ) :
    KafkaInv { s with app := s.app.connect i } := by
  refine ⟨h.patched, fun _ _ => listened_marked h.listened, ?_, ?_⟩
  · intro kind j
    rw [show (s.app.connect i).known = s.app.known from rfl, h.known,
      neverDisconnected_kind_iff, neverDisconnected_kind_iff,
      ← kind_marked_iff s.app.objects i j true kind]
    rfl
  · simpa [KafkaApp.connect] using h.created

/-- INTERNAL: disconnecting an object. SOURCE: kafka-core.module.ts:133-135, 142-144 -/
theorem kafkaInv_disconnect {s : KafkaRun} (h : KafkaInv s) {i : ℕ}
    (hi : i < s.app.objects.length) :
    KafkaInv ⟨s.app.disconnect i, i :: s.disconnected⟩ := by
  refine ⟨h.patched, fun _ _ => listened_marked h.listened, ?_, ?_⟩
  · intro kind j
    have hobjects : (s.app.disconnect i).objects =
        s.app.objects.modify i fun o => { o with connected := false } := rfl
    rw [h.mem_known_disconnect (List.getElem?_eq_getElem hi), h.known,
      neverDisconnected_kind_iff, neverDisconnected_kind_iff, hobjects, kind_marked_iff]
    simp only [List.mem_cons, not_or]
    tauto
  · intro j hj
    rcases List.mem_cons.mp hj with rfl | hj
    · simpa [KafkaApp.disconnect] using hi
    · simpa [KafkaApp.disconnect] using h.created j hj

/-- INTERNAL: **one step** keeps what the module knows. -/
theorem kafkaInv_step (s : KafkaRun) (e : KafkaEvent) (t : KafkaRun) (h : KafkaInv s)
    (hst : kafkaStep s e = some t) : KafkaInv t := by
  cases e with
  | create kind =>
    cases hst
    exact kafkaInv_create h kind
  | connect i =>
    simp only [kafkaStep] at hst
    split_ifs at hst with hi
    cases hst
    exact kafkaInv_connect h i
  | disconnect i =>
    simp only [kafkaStep] at hst
    split_ifs at hst with hi
    cases hst
    exact kafkaInv_disconnect h hi

/-- INTERNAL: while every connected object is known, a step keeps it so exactly when it
connects, if it connects at all, a known one. -/
theorem connectedKnown_step {s t : KafkaRun} {e : KafkaEvent} (hall : ConnectedKnown s)
    (hst : kafkaStep s e = some t) : ConnectedKnown t ↔ ConnectsKnown s e := by
  cases e with
  | create kind =>
    cases hst
    refine ⟨fun _ => trivial, fun _ i o ho hconn => ?_⟩
    rcases getElem?_concat_eq_some_iff.mp ho with ho | ⟨-, rfl⟩
    · exact hall i o ho hconn
    · exact absurd hconn Bool.false_ne_true
  | connect i =>
    simp only [kafkaStep] at hst
    split_ifs at hst with hi
    cases hst
    constructor
    · intro hall' o ho
      have hnever := hall' i { o with connected := true }
        (getElem?_modify_eq_some_iff.mpr ⟨o, ho, (if_pos rfl).symm⟩) rfl
      exact hnever
    · intro hC j o ho hconn
      obtain ⟨o', ho', hkind, -, -, hother⟩ := marked_object ho
      by_cases hj : j = i
      · subst hj
        obtain ⟨hadmin, hnever⟩ := hC o' ho'
        exact ⟨by rwa [← hkind], hnever⟩
      · rw [← hother hj] at hconn ⊢
        exact hall j o' ho' hconn
  | disconnect i =>
    simp only [kafkaStep] at hst
    split_ifs at hst with hi
    cases hst
    refine ⟨fun _ => trivial, fun _ j o ho hconn => ?_⟩
    obtain ⟨o', ho', -, -, hself, hother⟩ := marked_object ho
    by_cases hj : j = i
    · rw [hself hj] at hconn
      exact absurd hconn Bool.false_ne_true
    · rw [← hother hj] at hconn ⊢
      obtain ⟨hadmin, hnever⟩ := hall j o' ho' hconn
      exact ⟨hadmin, List.not_mem_cons_of_ne_of_not_mem hj hnever⟩

/-! ## Bootstrap and every run after it -/

/-- The module listens, knows nothing yet, and its client has created at most admins that are
not connected. -/
structure Bootstrapped (a : KafkaApp) : Prop where
  patched : a.patched = true
  known : a.known = fun _ => []
  objects : ∀ o ∈ a.objects, o = ⟨.admin, false, false⟩

/-- INTERNAL: the `finally` of a bootstrap that resolves disconnects the one admin.
SOURCE: kafka-core.module.ts:168-170 -/
theorem bootstrapped_of_finally {outcomes : AdminOutcomes} {a b : KafkaApp}
    {r : Except String Unit} (hpatched : b.patched = true) (hknown : b.known = fun _ => [])
    {c : Bool} (hobjects : b.objects = [⟨.admin, c, false⟩])
    (hfinally : finallyDisconnect outcomes 0 r b = (.ok (), a)) : Bootstrapped a := by
  unfold finallyDisconnect at hfinally
  cases hd : outcomes.disconnect with
  | error e => simp [hd] at hfinally
  | ok u =>
    simp only [hd, Prod.mk.injEq] at hfinally
    obtain ⟨-, rfl⟩ := hfinally
    constructor
    · exact hpatched
    · simp [KafkaApp.disconnect, hobjects, hknown]
    · simp [KafkaApp.disconnect, hobjects]

/-- INTERNAL: a bootstrap that resolves leaves the factories replaced and at most its own
admin, disconnected. SOURCE: kafka-core.module.ts:126-171 -/
theorem bootstrapped {options : BootstrapOptions} {outcomes : AdminOutcomes} {a : KafkaApp}
    (hboot : onApplicationBootstrap options outcomes .fresh = (.ok (), a)) : Bootstrapped a := by
  unfold onApplicationBootstrap at hboot
  by_cases hskip : (options.lazyConnect.truthy || !options.brokers.truthy) = true
  · simp only [hskip, if_true, Prod.mk.injEq, true_and] at hboot
    subst hboot
    exact ⟨rfl, rfl, fun o ho => absurd ho List.not_mem_nil⟩
  · simp only [hskip] at hboot
    cases hc : outcomes.connect with
    | error e =>
      rw [hc] at hboot
      exact bootstrapped_of_finally rfl rfl rfl hboot
    | ok u =>
      rw [hc] at hboot
      cases hf : outcomes.fetchTopicMetadata with
      | error e =>
        rw [hf] at hboot
        exact bootstrapped_of_finally rfl rfl rfl hboot
      | ok u =>
        rw [hf] at hboot
        exact bootstrapped_of_finally rfl rfl rfl hboot

/-- INTERNAL: the module knows what it should after the bootstrap. -/
theorem Bootstrapped.kafkaInv {a : KafkaApp} (h : Bootstrapped a) : KafkaInv ⟨a, []⟩ := by
  have hadmin : ∀ (i : ℕ) (o : KafkaObject), a.objects[i]? = some o →
      o = ⟨.admin, false, false⟩ := fun i o ho => h.objects o (List.mem_of_getElem? ho)
  refine ⟨h.patched, ?_, ?_, fun i hi => absurd hi List.not_mem_nil⟩
  · intro i o ho
    simp [hadmin i o ho]
  · intro kind i
    rw [show KafkaApp.known a = fun _ => [] from h.known]
    refine ⟨fun hi => absurd hi List.not_mem_nil, ?_⟩
    rintro ⟨o, ho, -, hnever⟩
    have hkind : o.kind = .admin := by rw [hadmin i o ho]
    exact absurd hkind hnever.1

/-- INTERNAL: nothing is connected after the bootstrap. -/
theorem Bootstrapped.connectedKnown {a : KafkaApp} (h : Bootstrapped a) :
    ConnectedKnown ⟨a, []⟩ := by
  intro i o ho hconn
  rw [h.objects o (List.mem_of_getElem? ho)] at hconn
  exact absurd hconn Bool.false_ne_true

/-- **Shutdown reaches all connected objects** throughout a run after bootstrap exactly when
every `connect()` in it is made on a consumer or producer that has not been disconnected
before; and at the end of a run it does exactly when every object connected then is such a
one. SOURCE: kafka-core.module.ts:108-179 -/
theorem shutdown_reaches_all_iff (options : BootstrapOptions) (outcomes : AdminOutcomes)
    {a : KafkaApp} (hboot : onApplicationBootstrap options outcomes .fresh = (.ok (), a))
    (es : List KafkaEvent) :
    (Throughout kafkaStep ShutdownReachesAll ⟨a, []⟩ es ↔
      EachStep kafkaStep ConnectsKnown ⟨a, []⟩ es) ∧
    ∀ s, runFrom kafkaStep ⟨a, []⟩ es = some s →
      (ShutdownReachesAll s ↔ ∀ (i : ℕ) (o : KafkaObject), s.app.objects[i]? = some o →
        o.connected = true → o.kind ≠ .admin ∧ i ∉ s.disconnected) := by
  have hinv : KafkaInv ⟨a, []⟩ := (bootstrapped hboot).kafkaInv
  have hconnected : ConnectedKnown ⟨a, []⟩ := (bootstrapped hboot).connectedKnown
  constructor
  · exact throughout_iff_eachStep (I := fun s => KafkaInv s ∧ ConnectedKnown s)
      (fun s e t h hC hst =>
        ⟨kafkaInv_step s e t h.1 hst, (connectedKnown_step h.2 hst).mpr hC⟩)
      (fun s h => h.1.reachesAll_iff.mpr h.2)
      (fun s e t h hC hst hall => hC ((connectedKnown_step h.2 hst).mp
        ((kafkaInv_step s e t h.1 hst).reachesAll_iff.mp hall)))
      ⟨hinv, hconnected⟩
  · intro s hrun
    exact (invariant_of_run kafkaInv_step hinv hrun).reachesAll_iff

/-- A lazily connected client whose producer is connected: at shutdown it is reached. -/
theorem shutdown_reaches_producer :
    Throughout kafkaStep ShutdownReachesAll ⟨{ KafkaApp.fresh with patched := true }, []⟩
        [.create .producer, .connect 0] := by
  have hknown : EachStep kafkaStep ConnectsKnown ⟨{ KafkaApp.fresh with patched := true }, []⟩
      [.create .producer, .connect 0] := by
    intro s hs
    cases hs
    refine ⟨trivial, fun t _ => ⟨fun o ho => ?_, trivial⟩⟩
    cases ho
    exact ⟨by decide, List.not_mem_nil⟩
  exact (shutdown_reaches_all_iff ⟨.bool true, .undefined⟩ ⟨.ok (), .ok (), .ok ()⟩ rfl
    [.create .producer, .connect 0]).1.mpr hknown

/-- A connected admin, and a consumer connected again after a disconnect: at shutdown
nothing is disconnected. -/
theorem admin_and_reconnected_consumer_left :
    ∃ a s, onApplicationBootstrap ⟨.bool true, .undefined⟩ ⟨.ok (), .ok (), .ok ()⟩ .fresh =
        (.ok (), a) ∧
      runFrom kafkaStep ⟨a, []⟩ [.create .admin, .connect 0, .create .consumer, .connect 1,
        .disconnect 1, .connect 1] = some s ∧
      s.app.objects.map KafkaObject.connected = [true, true] ∧
      (∀ disconnect, onApplicationShutdown s.app disconnect = []) ∧ ¬ ShutdownReachesAll s := by
  refine ⟨_, _, rfl, rfl, rfl, fun _ => rfl, fun hall => ?_⟩
  obtain ⟨r, hr⟩ := hall 0 ⟨.admin, true, false⟩ rfl rfl fun _ => .ok ()
  exact absurd hr List.not_mem_nil

end Xnestjs.Analysis
