import Xnestjs.Analysis.KafkaShutdown

/-!
# What a shutdown of `KafkaCoreModule` leaves

At shutdown the module calls `disconnect()` of every object it knows and waits for all of these
calls, which settle in any order. Each one that resolves takes its object out of the module's sets,
so that in the end the module knows the objects whose call was rejected, and a second shutdown
would try these again and no other.
-/

set_option autoImplicit false

namespace Xnestjs.Analysis

open Xnestjs.Model Xnestjs.Program.KafkaCoreModule

/-- The calls of `disconnect()` settle in the given order. Those that resolve have disconnected
their object, which emits its event; a rejected one leaves the object as it was.
SOURCE: kafka-core.module.ts:133-135, 142-144, 173-179 -/
def settledDisconnects (disconnect : ℕ → Except String Unit) (order : List ℕ) :
    List KafkaEvent :=
  (order.filter fun i => (disconnect i).isOk).map .disconnect

/-- INTERNAL: a shutdown calls `disconnect()` of the objects that are known.
SOURCE: kafka-core.module.ts:173-179 -/
theorem mem_called_iff (a : KafkaApp) (disconnect : ℕ → Except String Unit) (i : ℕ) :
    i ∈ (onApplicationShutdown a disconnect).map Prod.fst ↔ ∃ kind, i ∈ a.known kind := by
  rw [← Xnestjs.Program.KafkaCoreModule.called_iff a disconnect i]
  simp

/-- INTERNAL: **the objects of a list are disconnected**, one after the other. The induction is on
the list. -/
theorem run_disconnects (l : List ℕ) (s : KafkaRun) (hl : ∀ i ∈ l, i < s.app.objects.length) :
    ∃ t, runFrom kafkaStep s (l.map .disconnect) = some t ∧
      t.disconnected = l.reverse ++ s.disconnected ∧
      (∀ (i : ℕ) (kind : ObjectKind), (∃ o, t.app.objects[i]? = some o ∧ o.kind = kind) ↔
        ∃ o, s.app.objects[i]? = some o ∧ o.kind = kind) ∧
      ∀ (i : ℕ) (o : KafkaObject), s.app.objects[i]? = some o → ∃ o',
        t.app.objects[i]? = some o' ∧ o'.kind = o.kind ∧
        (o'.connected = true ↔ o.connected = true ∧ i ∉ l) := by
  induction l generalizing s with
  | nil => exact ⟨s, rfl, rfl, fun _ _ => Iff.rfl, fun i o ho => ⟨o, ho, rfl, by simp⟩⟩
  | cons j l ih =>
    have hj := hl j List.mem_cons_self
    have hlength : (s.app.disconnect j).objects.length = s.app.objects.length := by
      simp [KafkaApp.disconnect]
    have hrest : ∀ i ∈ l, i < (s.app.disconnect j).objects.length := by
      intro i hi
      rw [hlength]
      exact hl i (List.mem_cons_of_mem j hi)
    obtain ⟨t, hrun, hdisconnected, hkinds, hobjects⟩ :=
      ih ⟨s.app.disconnect j, j :: s.disconnected⟩ hrest
    refine ⟨t, ?_, ?_, fun i kind => ?_, ?_⟩
    · rw [List.map_cons, runFrom_cons]
      simp only [kafkaStep, if_pos hj, Option.bind_some]
      exact hrun
    · rw [hdisconnected]
      simp
    · rw [hkinds]
      exact kind_marked_iff s.app.objects j i false kind
    · intro i o ho
      have hmarked : (s.app.disconnect j).objects[i]? =
          some (if j = i then { o with connected := false } else o) :=
        getElem?_modify_eq_some_iff.mpr ⟨o, ho, rfl⟩
      obtain ⟨o', ho', hkind, hconnected⟩ := hobjects i _ hmarked
      refine ⟨o', ho', ?_, ?_⟩
      · rw [hkind]
        split_ifs <;> rfl
      · rw [hconnected]
        by_cases hji : j = i
        · simp [hji]
        · simp [hji, Ne.symm hji]

/-- **What a shutdown leaves.** After any run that follows a bootstrap, in whatever order the calls
of `disconnect()` at shutdown settle: an object is connected afterwards exactly when it was before
and its `disconnect()` was not called or was rejected; the module still knows exactly the objects
whose call was rejected; and a second shutdown calls `disconnect()` of these and of no other.
SOURCE: kafka-core.module.ts:126-179 -/
theorem shutdown_leaves_rejected (options : BootstrapOptions) (outcomes : AdminOutcomes)
    {a : KafkaApp} (hboot : onApplicationBootstrap options outcomes .fresh = (.ok (), a))
    {es : List KafkaEvent} {s : KafkaRun} (hrun : runFrom kafkaStep ⟨a, []⟩ es = some s)
    (disconnect : ℕ → Except String Unit) {order : List ℕ}
    (horder : order.Perm ((onApplicationShutdown s.app disconnect).map Prod.fst)) :
    ∃ t, runFrom kafkaStep s (settledDisconnects disconnect order) = some t ∧
      (∀ (i : ℕ) (o : KafkaObject), s.app.objects[i]? = some o → ∃ o',
        t.app.objects[i]? = some o' ∧ o'.kind = o.kind ∧
        (o'.connected = true ↔
          o.connected = true ∧ (i ∈ order → (disconnect i).isOk = false))) ∧
      (∀ kind i, i ∈ t.app.known kind ↔
        i ∈ s.app.known kind ∧ (disconnect i).isOk = false) ∧
      ∀ again i, (∃ r, (i, r) ∈ onApplicationShutdown t.app again) ↔
        i ∈ order ∧ (disconnect i).isOk = false := by
  have hinv : KafkaInv s := invariant_of_run kafkaInv_step (bootstrapped hboot).kafkaInv hrun
  have hcalled : ∀ i, i ∈ order ↔ ∃ kind, i ∈ s.app.known kind := fun i =>
    horder.mem_iff.trans (mem_called_iff s.app disconnect i)
  have hresolved : ∀ i, i ∈ order.filter (fun i => (disconnect i).isOk) ↔
      i ∈ order ∧ (disconnect i).isOk = true := fun i => List.mem_filter
  have hcreated : ∀ i ∈ order.filter (fun i => (disconnect i).isOk),
      i < s.app.objects.length := by
    intro i hi
    obtain ⟨kind, hknown⟩ := (hcalled i).mp ((hresolved i).mp hi).1
    obtain ⟨o, ho, -⟩ := (hinv.known kind i).mp hknown
    exact (List.getElem?_eq_some_iff.mp ho).1
  obtain ⟨t, ht, hdisconnected, hkinds, hobjects⟩ := run_disconnects _ s hcreated
  have hinv' : KafkaInv t := invariant_of_run kafkaInv_step hinv ht
  have hknown : ∀ kind i, i ∈ t.app.known kind ↔
      i ∈ s.app.known kind ∧ (disconnect i).isOk = false := by
    intro kind i
    have hbefore := (hinv.known kind i).trans neverDisconnected_kind_iff
    have hafter := (hinv'.known kind i).trans neverDisconnected_kind_iff
    rw [hkinds, hdisconnected, List.mem_append, List.mem_reverse, hresolved] at hafter
    constructor
    · intro hi
      obtain ⟨hobject, hadmin, hnever⟩ := hafter.mp hi
      have hi' := hbefore.mpr ⟨hobject, hadmin, fun hmem => hnever (Or.inr hmem)⟩
      refine ⟨hi', Bool.eq_false_iff.mpr fun hok => hnever (Or.inl ⟨?_, hok⟩)⟩
      exact (hcalled i).mpr ⟨kind, hi'⟩
    · rintro ⟨hi, hrejected⟩
      obtain ⟨hobject, hadmin, hnever⟩ := hbefore.mp hi
      refine hafter.mpr ⟨hobject, hadmin, ?_⟩
      rintro (⟨-, hok⟩ | hmem)
      · rw [hrejected] at hok
        cases hok
      · exact hnever hmem
  refine ⟨t, ht, ?_, hknown, ?_⟩
  · intro i o ho
    obtain ⟨o', ho', hk, hconnected⟩ := hobjects i o ho
    refine ⟨o', ho', hk, ?_⟩
    rw [hconnected, hresolved, not_and, Bool.not_eq_true]
  · intro again i
    rw [Xnestjs.Program.KafkaCoreModule.called_iff, hcalled]
    simp only [hknown]
    exact exists_and_right

/-- A consumer and a producer are connected, and the `disconnect()` of the consumer is rejected. -/
theorem rejected_consumer_left :
    ∃ s t, runFrom kafkaStep ⟨{ KafkaApp.fresh with patched := true }, []⟩
        [.create .consumer, .create .producer, .connect 0, .connect 1] = some s ∧
      runFrom kafkaStep s (settledDisconnects
        (fun i => if i = 0 then .error "timeout" else .ok ()) [1, 0]) = some t ∧
      ∀ again i, (∃ r, (i, r) ∈ onApplicationShutdown t.app again) ↔ i = 0 := by
  obtain ⟨s, hrun, hcalled⟩ : ∃ s, runFrom kafkaStep
      ⟨{ KafkaApp.fresh with patched := true }, []⟩
      [.create .consumer, .create .producer, .connect 0, .connect 1] = some s ∧
      ∀ disconnect, (onApplicationShutdown s.app disconnect).map Prod.fst = [0, 1] :=
    ⟨_, rfl, fun _ => rfl⟩
  obtain ⟨t, ht, -, -, hagain⟩ := shutdown_leaves_rejected ⟨.bool true, .undefined⟩
    ⟨.ok (), .ok (), .ok ()⟩ rfl hrun (fun i => if i = 0 then .error "timeout" else .ok ())
    (show List.Perm [1, 0] _ by rw [hcalled]; decide)
  refine ⟨s, t, hrun, ht, fun again i => ?_⟩
  rw [hagain]
  by_cases hi : i = 0
  · simp [hi, Except.isOk, Except.toBool]
  · simp [hi, Except.isOk, Except.toBool]

end Xnestjs.Analysis
