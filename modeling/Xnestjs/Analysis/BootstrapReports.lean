import Xnestjs.Model.Heap
import Xnestjs.Program.Bootstraps

/-!
# What a bootstrap reports

The five hooks that connect a client report the same way: nothing when there is nothing to
connect, and otherwise one message at the end, which says how the awaited calls have settled.
The timer may write one message before that. How a hook itself ends is what was reported, except
in Kafka, where disconnecting the admin client can fail after the connection was reported as
established.
-/

set_option autoImplicit false

namespace Xnestjs.Analysis

open Xnestjs.Model Xnestjs.Program

section

variable (blue : String → String)

/-- The name of the service in the messages. -/
def service : ConnectingModule → String
  | .redis _ _ => "Redis"
  | .mongodb _ => "MongoDB"
  | .elasticsearch _ => "ElasticSearch"
  | .rabbitmq _ => "RabbitMQ"
  | .kafka _ => "Kafka"

/-- There is nothing to connect: the client is lazy, or the options name nothing to connect to. -/
def NothingToConnect : ConnectingModule → Prop
  | .redis opts _ => (opts.settings .lazyConnect).truthy = true ∨
      RedisCoreModule.hostsText opts = ""
  | .mongodb options => options.lazyConnect.truthy = true
  | .elasticsearch options => options.lazyConnect.truthy = true
  | .rabbitmq options => (options .lazyConnect).truthy = true ∨
      RabbitmqCoreModule.hasLength (options .hosts) = false
  | .kafka options => options.lazyConnect.truthy = true ∨ options.brokers.truthy = false

/-- How many calls there are in the `try` after the first: `ping()` after the `connect()` of a
waiting Redis client, and `fetchTopicMetadata()`. -/
def furtherCalls : ConnectingModule → ℕ
  | .redis _ status => if status = "wait" then 1 else 0
  | .kafka _ => 1
  | _ => 0

/-- What is written before the first call. -/
def greeting : ConnectingModule → List LogMessage
  | .redis opts _ =>
    [⟨.log, "Connecting to redis at " ++ blue (RedisCoreModule.hostsText opts)⟩]
  | _ => []

/-- The report of an outcome. -/
def reportOf (m : ConnectingModule) : Settled → LogMessage
  | .ok () => ⟨.log, service m ++ " connection established"⟩
  | .error message => ⟨.error, service m ++ " connection failed: " ++ message⟩

/-- INTERNAL: the hook returns at once. -/
theorem bootstrapState_of_nothing {m : ConnectingModule} (h : NothingToConnect m) :
    m.bootstrapState blue = .idle := by
  cases m with
  | redis opts status =>
    rcases h with hlazy | hhosts
    · exact if_pos hlazy
    · simp [ConnectingModule.bootstrapState, RedisCoreModule.bootstrapState, hhosts]
  | mongodb options => exact if_pos h
  | elasticsearch options => exact if_pos h
  | rabbitmq options => exact if_pos h
  | kafka options => exact if_pos h

/-- INTERNAL: or awaits its first call, with the timer set. -/
theorem bootstrapState_of_something {m : ConnectingModule} (h : ¬ NothingToConnect m) :
    m.bootstrapState blue = ⟨furtherCalls m + 1, true, greeting blue m⟩ := by
  cases m with
  | redis opts status =>
    obtain ⟨hlazy, hhosts⟩ := not_or.mp h
    simp only [ConnectingModule.bootstrapState, RedisCoreModule.bootstrapState, hlazy, hhosts,
      if_false, Bool.false_eq_true, furtherCalls, greeting]
    split_ifs <;> rfl
  | mongodb options => exact if_neg h
  | elasticsearch options => exact if_neg h
  | rabbitmq options => exact if_neg h
  | kafka options => exact if_neg h

/-- INTERNAL: the reports of the five modules. -/
theorem report_attempt (m : ConnectingModule) (x : Settled) :
    (m.attempt blue).report x = reportOf m x := by
  cases m <;> cases x <;> rfl

/-- INTERNAL: **a hook with something to connect**, in any run. -/
theorem run_of_something {m : ConnectingModule} (h : ¬ NothingToConnect m)
    {es : List AttemptEvent} {s : GuardedState LogMessage}
    (hrun : m.onApplicationBootstrap blue es = some s) :
    s.written = greeting blue m ++ (if .timer ∈ es then [(m.attempt blue).waiting] else []) ++
        ((GuardedAttempt.tryResult (furtherCalls m) (settlements es)).map (reportOf m)).toList ∧
      ∀ r, s.phase = .ended r ↔
        (m.attempt blue).result (furtherCalls m) (settlements es) = some r := by
  unfold ConnectingModule.onApplicationBootstrap at hrun
  rw [bootstrapState_of_something blue h] at hrun
  obtain ⟨hwritten, hphase, -⟩ := (m.attempt blue).run_trying hrun
  have hreport : (m.attempt blue).report = reportOf m := funext (report_attempt blue m)
  rw [GuardedAttempt.transcript, hreport] at hwritten
  exact ⟨hwritten, hphase⟩

/-- **What the hooks report.** In any order of the timer and the calls, a hook with nothing to
connect writes nothing and has ended; any other writes its greeting, the message of the timer if
that has fired, and the report once the `try` has ended, and it ends with what the calls make of
it. Until then it goes on, however the next call settles.
SOURCE: redis-core.module.ts:153-188, mongodb-core.module.ts:145-166,
elasticsearch-core.module.ts:146-168, rabbitmq-core.module.ts:126-147,
kafka-core.module.ts:149-171 -/
theorem bootstrap_reports (m : ConnectingModule) {es : List AttemptEvent}
    {s : GuardedState LogMessage} (hrun : m.onApplicationBootstrap blue es = some s) :
    (NothingToConnect m → es = [] ∧ s.written = [] ∧ s.phase = .ended (.ok ())) ∧
    (¬ NothingToConnect m →
      s.written = greeting blue m ++ (if .timer ∈ es then [(m.attempt blue).waiting] else []) ++
        ((GuardedAttempt.tryResult (furtherCalls m) (settlements es)).map (reportOf m)).toList ∧
      (∀ r, s.phase = .ended r ↔
        (m.attempt blue).result (furtherCalls m) (settlements es) = some r) ∧
      ((∀ r, s.phase ≠ .ended r) → ∀ e x, AttemptEvent.settled e = some x →
        ∃ t, m.onApplicationBootstrap blue (es ++ [e]) = some t)) := by
  refine ⟨fun hnothing => ?_, fun hsomething => ?_⟩
  · unfold ConnectingModule.onApplicationBootstrap at hrun
    rw [bootstrapState_of_nothing blue hnothing] at hrun
    obtain ⟨rfl, rfl⟩ := (m.attempt blue).run_ended (w := []) hrun
    exact ⟨rfl, rfl, rfl⟩
  · obtain ⟨hwritten, hphase⟩ := run_of_something blue hsomething hrun
    refine ⟨hwritten, hphase, fun hopen e x hx => ?_⟩
    obtain ⟨t, ht⟩ := (m.attempt blue).exists_step_of_not_ended hopen hx
    unfold ConnectingModule.onApplicationBootstrap at hrun ⊢
    refine ⟨t, ?_⟩
    rw [runFrom_append, hrun]
    simp [ht]

end

/-- A waiting Redis client whose `ping()` is rejected after the timer has fired. -/
theorem rejected_ping_reported :
    ∃ s, (ConnectingModule.redis
        { GetRedisConfig.RedisConnectionOptions.empty with host := some "cache" } "wait"
        ).onApplicationBootstrap id [.resolved, .timer, .rejected "closed"] = some s ∧
      s.written = [⟨.log, "Connecting to redis at cache"⟩,
        ⟨.verbose, "Waiting to connect to redis at cache"⟩,
        ⟨.error, "Redis connection failed: closed"⟩] := by
  have hsomething : ¬ NothingToConnect (.redis
      { GetRedisConfig.RedisConnectionOptions.empty with host := some "cache" } "wait") :=
    not_or.mpr ⟨by decide, by decide⟩
  obtain ⟨s, hrun⟩ : ∃ s, (ConnectingModule.redis
      { GetRedisConfig.RedisConnectionOptions.empty with host := some "cache" } "wait"
      ).onApplicationBootstrap id [.resolved, .timer, .rejected "closed"] = some s := ⟨_, rfl⟩
  exact ⟨s, hrun, ((bootstrap_reports id _ hrun).2 hsomething).1⟩

/-! ## Kafka -/

section

open Xnestjs.Program.KafkaCoreModule

/-- The calls on the admin that are made, with how they settle.
SOURCE: kafka-core.module.ts:159-170 -/
def adminCalls (outcomes : AdminOutcomes) : List Settled :=
  match outcomes.connect with
  | .ok () => [.ok (), outcomes.fetchTopicMetadata, outcomes.disconnect]
  | .error e => [.error e, outcomes.disconnect]

/-- How the `try` ends. -/
def tryOf (outcomes : AdminOutcomes) : Settled :=
  match outcomes.connect with
  | .ok () => outcomes.fetchTopicMetadata
  | .error e => .error e

/-- INTERNAL: the calls of the admin, up to its `disconnect()`. SOURCE: kafka-core.module.ts:159-170
-/
theorem tryCalls_adminCalls (outcomes : AdminOutcomes) :
    GuardedAttempt.tryCalls 1 (adminCalls outcomes) =
      some (tryOf outcomes, [outcomes.disconnect]) := by
  unfold adminCalls tryOf
  cases outcomes.connect with
  | error e => rfl
  | ok u => cases outcomes.fetchTopicMetadata <;> rfl

/-- INTERNAL: the `try` ends well when both of its calls resolve.
SOURCE: kafka-core.module.ts:159-163 -/
theorem tryOf_eq_ok_iff (outcomes : AdminOutcomes) :
    tryOf outcomes = .ok () ↔
      outcomes.connect = .ok () ∧ outcomes.fetchTopicMetadata = .ok () := by
  unfold tryOf
  cases outcomes.connect with
  | error e => simp
  | ok u => simp

/-- INTERNAL: the hook that takes the outcomes at once ends with the same result.
SOURCE: kafka-core.module.ts:126-171 -/
theorem onApplicationBootstrap_result {options : BootstrapOptions}
    (hsomething : ¬ NothingToConnect (.kafka options)) (outcomes : AdminOutcomes)
    (a : KafkaApp) :
    (onApplicationBootstrap options outcomes a).1 =
      GuardedAttempt.afterFinally (tryOf outcomes) outcomes.disconnect := by
  obtain ⟨hlazy, hbrokers⟩ := not_or.mp hsomething
  rw [Bool.not_eq_true] at hlazy
  rw [Bool.not_eq_false] at hbrokers
  have hfinally : ∀ (n : ℕ) (r : Settled) (b : KafkaApp),
      (finallyDisconnect outcomes n r b).1 =
        GuardedAttempt.afterFinally r outcomes.disconnect := by
    intro n r b
    unfold finallyDisconnect
    cases outcomes.disconnect <;> rfl
  unfold onApplicationBootstrap tryOf
  simp only [hlazy, hbrokers, Bool.not_true, Bool.or_self, Bool.false_eq_true, if_false]
  cases outcomes.connect with
  | error e => exact hfinally _ _ _
  | ok u =>
    cases outcomes.fetchTopicMetadata with
    | error e => exact hfinally _ _ _
    | ok u => exact hfinally _ _ _

/-- INTERNAL: its admin stays connected when it was connected and cannot be disconnected; the
other objects and the known ones are as before. SOURCE: kafka-core.module.ts:126-171 -/
theorem onApplicationBootstrap_admin {options : BootstrapOptions}
    (hsomething : ¬ NothingToConnect (.kafka options)) (outcomes : AdminOutcomes)
    (a : KafkaApp) :
    ∃ c, (onApplicationBootstrap options outcomes a).2 =
        ⟨a.objects ++ [⟨.admin, c, false⟩], true, a.known⟩ ∧
      (c = true ↔ outcomes.connect = .ok () ∧ outcomes.disconnect ≠ .ok ()) := by
  obtain ⟨hlazy, hbrokers⟩ := not_or.mp hsomething
  rw [Bool.not_eq_true] at hlazy
  rw [Bool.not_eq_false] at hbrokers
  have hfinally : ∀ (c : Bool) (r : Settled),
      (finallyDisconnect outcomes a.objects.length r
        ⟨a.objects ++ [⟨.admin, c, false⟩], true, a.known⟩).2 =
      ⟨a.objects ++ [⟨.admin, c && outcomes.disconnect != .ok (), false⟩], true, a.known⟩ := by
    intro c r
    unfold finallyDisconnect
    cases outcomes.disconnect with
    | error e => simp
    | ok u =>
      simp [KafkaApp.disconnect, modify_concat_last]
  unfold onApplicationBootstrap
  simp only [hlazy, hbrokers, Bool.not_true, Bool.or_self, Bool.false_eq_true, if_false]
  have hcreate : KafkaApp.create { a with patched := true } .admin =
      ⟨a.objects ++ [⟨.admin, false, false⟩], true, a.known⟩ := rfl
  have hconnect : KafkaApp.connect ⟨a.objects ++ [⟨.admin, false, false⟩], true, a.known⟩
      a.objects.length = ⟨a.objects ++ [⟨.admin, true, false⟩], true, a.known⟩ := by
    simp [KafkaApp.connect, modify_concat_last]
  simp only [hcreate, hconnect]
  cases outcomes.connect with
  | error e => exact ⟨_, hfinally _ _, by simp⟩
  | ok u =>
    cases outcomes.fetchTopicMetadata with
    | error e => exact ⟨_, hfinally _ _, by simp⟩
    | ok u => exact ⟨_, hfinally _ _, by simp⟩

/-- **The hook of Kafka**, in any run in which the calls on the admin settle in a given way. It
ends as the function of these outcomes says; it has reported the connection as established exactly
when `connect()` and `fetchTopicMetadata()` were resolved, and then it still rejects if
`disconnect()` does. Of the objects of the client only its admin is new, which the module never
knows and which stays connected exactly when it was connected and `disconnect()` rejects.
SOURCE: kafka-core.module.ts:126-171 -/
theorem kafka_bootstrap_settles (blue : String → String) (options : BootstrapOptions)
    (hsomething : ¬ NothingToConnect (.kafka options)) (outcomes : AdminOutcomes) (a : KafkaApp)
    {es : List AttemptEvent} {s : GuardedState LogMessage}
    (hrun : (ConnectingModule.kafka options).onApplicationBootstrap blue es = some s)
    (hcalls : settlements es = adminCalls outcomes) :
    s.phase = .ended (onApplicationBootstrap options outcomes a).1 ∧
    (⟨.log, "Kafka connection established"⟩ ∈ s.written ↔
      outcomes.connect = .ok () ∧ outcomes.fetchTopicMetadata = .ok ()) ∧
    ((onApplicationBootstrap options outcomes a).1 = .ok () ↔
      ⟨.log, "Kafka connection established"⟩ ∈ s.written ∧ outcomes.disconnect = .ok ()) ∧
    ∃ c, (onApplicationBootstrap options outcomes a).2 =
        ⟨a.objects ++ [⟨.admin, c, false⟩], true, a.known⟩ ∧
      (c = true ↔ outcomes.connect = .ok () ∧ outcomes.disconnect ≠ .ok ()) := by
  obtain ⟨hwritten, hphase⟩ := run_of_something blue hsomething hrun
  have hresult := onApplicationBootstrap_result hsomething outcomes a
  have hestablished : ⟨.log, "Kafka connection established"⟩ ∈ s.written ↔
      tryOf outcomes = .ok () := by
    have hreport : reportOf (.kafka options) (.ok ()) =
        ⟨.log, "Kafka connection established"⟩ := rfl
    rw [hwritten, hcalls, GuardedAttempt.tryResult, show furtherCalls (.kafka options) = 1 from rfl,
      tryCalls_adminCalls, ← hreport]
    have hwaiting : reportOf (.kafka options) (.ok ()) ≠
        ((ConnectingModule.kafka options).attempt blue).waiting := by
      intro h
      cases congrArg LogMessage.level h
    have hok : ∀ x, reportOf (.kafka options) (.ok ()) = reportOf (.kafka options) x ↔
        x = .ok () := by
      intro x
      cases x with
      | error e => simp [reportOf]
      | ok u => simp
    split_ifs <;> simp [greeting, hwaiting, hok]
  refine ⟨?_, hestablished.trans (tryOf_eq_ok_iff outcomes), ?_,
    onApplicationBootstrap_admin hsomething outcomes a⟩
  · rw [hphase, hcalls, hresult, GuardedAttempt.result,
      show furtherCalls (.kafka options) = 1 from rfl, tryCalls_adminCalls]
    rfl
  · rw [hresult, hestablished]
    cases outcomes.disconnect with
    | error e => simp [GuardedAttempt.afterFinally]
    | ok u => simp [GuardedAttempt.afterFinally]

/-- Brokers that answer, and an admin that cannot be disconnected: the connection is reported as
established, and the hook rejects. -/
theorem established_and_rejected :
    ∃ s, (ConnectingModule.kafka ⟨.undefined, .strs ["localhost"]⟩).onApplicationBootstrap id
        [.resolved, .resolved, .rejected "closed"] = some s ∧
      s.phase = .ended (.error "closed") ∧
      ⟨.log, "Kafka connection established"⟩ ∈ s.written := by
  have hsomething : ¬ NothingToConnect (.kafka ⟨.undefined, .strs ["localhost"]⟩) :=
    not_or.mpr ⟨by decide, by decide⟩
  obtain ⟨s, hrun⟩ : ∃ s, (ConnectingModule.kafka ⟨.undefined, .strs ["localhost"]⟩
      ).onApplicationBootstrap id [.resolved, .resolved, .rejected "closed"] = some s := ⟨_, rfl⟩
  obtain ⟨hphase, hestablished, -⟩ := kafka_bootstrap_settles id _ hsomething
    ⟨.ok (), .ok (), .error "closed"⟩ .fresh hrun rfl
  exact ⟨s, hrun, hphase, hestablished.mpr ⟨rfl, rfl⟩⟩

end

end Xnestjs.Analysis
