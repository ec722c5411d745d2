import Xnestjs.Program.RedisCoreModule
import Xnestjs.Program.MongodbCoreModule

/-!
# Passwords and the messages of the bootstrap

Two runs of the bootstrap that differ only in the password should not be told apart by their
messages. The messages have the host or the URL in them as it was given, so a password in an
option of its own stays out of them, and one in the user info of the host or the URL does not.
`colors.blue` is a parameter of which it is used that it tells texts apart.
-/

set_option autoImplicit false

namespace Xnestjs.Analysis

open Xnestjs.Model
open Xnestjs.Program.GetRedisConfig (RedisConnectionOptions isClusterOptions)
open Xnestjs.Program.GetMongodbConfig (MongodbAuth)
open Xnestjs.Program.MongodbCoreModule (ModuleConnectionOptions textOf)

/-- A URL with user info, of which the password may be missing. -/
def withUserInfo (scheme username : String) (password : Option String) (rest : String) :
    String :=
  scheme ++ "://" ++ username ++ (password.elim "" fun p => ":" ++ p) ++ "@" ++ rest

/-- The texts are the same, or URLs that differ only in the password of their user info. -/
def SameButPassword (s s' : String) : Prop :=
  s = s' ∨ ∃ scheme username rest password password',
    s = withUserInfo scheme username password rest ∧
      s' = withUserInfo scheme username password' rest

/-- Two standalone configurations that differ only in the password. -/
structure SameRedisButPassword (o o' : RedisConnectionOptions) : Prop where
  standalone : isClusterOptions o = false
  standalone' : isClusterOptions o' = false
  host : o.host = o'.host ∨
    ∃ s s', o.host = some s ∧ o'.host = some s' ∧ SameButPassword s s'
  settings : ∀ k ≠ .password, o.settings k = o'.settings k
  reconnectOnError : o.reconnectOnError = o'.reconnectOnError
  redisOptions : o.redisOptions = o'.redisOptions

/-- Two MongoDB configurations that differ only in the password. -/
structure SameMongodbButPassword (o o' : ModuleConnectionOptions) : Prop where
  url : o.url = o'.url ∨ ∃ s s', o.url = .str s ∧ o'.url = .str s' ∧ SameButPassword s s'
  username : o.auth.map MongodbAuth.username = o'.auth.map MongodbAuth.username
  settings : o.settings = o'.settings
  lazyConnect : o.lazyConnect = o'.lazyConnect

section

variable {blue : String → String}

/-! ## Redis -/

section

open Xnestjs.Program.RedisCoreModule

variable {o o' : RedisConnectionOptions}

/-- INTERNAL: the password is not what decides whether to connect. -/
theorem SameRedisButPassword.lazyConnect (h : SameRedisButPassword o o') :
    o.settings .lazyConnect = o'.settings .lazyConnect := h.settings .lazyConnect (by decide)

/-- INTERNAL: a lazy module writes nothing. SOURCE: redis-core.module.ts:155 -/
theorem redis_messages_lazy (hlazy : (o.settings .lazyConnect).truthy = true)
    (hlazy' : (o'.settings .lazyConnect).truthy = true) (status : String)
    (es : List AttemptEvent) :
    onApplicationBootstrap blue o status es = onApplicationBootstrap blue o' status es := by
  unfold onApplicationBootstrap bootstrapState
  rw [if_pos hlazy, if_pos hlazy']
  exact TimedAttempt.messages_settled _ _ rfl rfl es

/-- INTERNAL: the messages depend on `lazyConnect` and on the text of the hosts.
SOURCE: redis-core.module.ts:153-188 -/
theorem redis_messages_congr (hlazy : o.settings .lazyConnect = o'.settings .lazyConnect)
    (hhosts : hostsText o = hostsText o') (status : String) (es : List AttemptEvent) :
    onApplicationBootstrap blue o status es = onApplicationBootstrap blue o' status es := by
  have hattempt : connectionAttempt blue o = connectionAttempt blue o' := by
    unfold connectionAttempt
    rw [hhosts]
  have hstate : bootstrapState blue o status = bootstrapState blue o' status := by
    unfold bootstrapState
    rw [hlazy, hhosts]
  unfold onApplicationBootstrap
  rw [hattempt, hstate]

/-- INTERNAL: the first message gives the text of the hosts away.
SOURCE: redis-core.module.ts:168-169 -/
theorem redis_hosts_of_messages (hblue : Function.Injective blue)
    (hlazy : (o.settings .lazyConnect).truthy = false)
    (hlazy' : (o'.settings .lazyConnect).truthy = false)
    (h : onApplicationBootstrap blue o "wait" [] = onApplicationBootstrap blue o' "wait" []) :
    hostsText o = hostsText o' := by
  unfold onApplicationBootstrap bootstrapState at h
  simp only [hlazy, hlazy', Bool.false_eq_true, if_false, TimedAttempt.messages_nil,
    Option.some.injEq] at h
  by_cases hempty : hostsText o = ""
  · by_cases hempty' : hostsText o' = ""
    · rw [hempty, hempty']
    · simp [hempty, hempty', AttemptState.idle] at h
  · by_cases hempty' : hostsText o' = ""
    · simp [hempty, hempty', AttemptState.idle] at h
    · simp only [hempty, hempty', if_false, List.cons.injEq, LogMessage.mk.injEq, true_and,
        and_true] at h
      exact hblue (String.append_right_inj _ |>.mp h)

/-- INTERNAL: **Redis**. SOURCE: redis-core.module.ts:153-188 -/
theorem redis_messages_iff (hblue : Function.Injective blue) (h : SameRedisButPassword o o') :
    (∀ status es,
      onApplicationBootstrap blue o status es = onApplicationBootstrap blue o' status es) ↔
      (o.settings .lazyConnect).truthy = true ∨ o.host = o'.host := by
  have hhosts : hostsText o = o.host.getD "" := by
    unfold hostsText
    rw [h.standalone]
    rfl
  have hhosts' : hostsText o' = o'.host.getD "" := by
    unfold hostsText
    rw [h.standalone']
    rfl
  constructor
  · intro hmessages
    cases hlazy : (o.settings .lazyConnect).truthy with
    | true => exact Or.inl rfl
    | false =>
      have hlazy' : (o'.settings .lazyConnect).truthy = false := h.lazyConnect ▸ hlazy
      have htext := redis_hosts_of_messages hblue hlazy hlazy' (hmessages "wait" [])
      rw [hhosts, hhosts'] at htext
      rcases h.host with hhost | ⟨s, s', hs, hs', -⟩
      · exact Or.inr hhost
      · rw [hs, hs'] at htext
        rw [hs, hs']
        exact Or.inr (congrArg some htext)
  · rintro (hlazy | hhost) status es
    · exact redis_messages_lazy hlazy (h.lazyConnect ▸ hlazy) status es
    · apply redis_messages_congr h.lazyConnect
      rw [hhosts, hhosts', hhost]

end

/-! ## MongoDB -/

section

open Xnestjs.Program.MongodbCoreModule

variable {o o' : ModuleConnectionOptions}

/-- INTERNAL: **MongoDB**. The timer gives the URL away. SOURCE: mongodb-core.module.ts:145-166 -/
theorem mongodb_messages_iff (hblue : Function.Injective blue)
    (h : SameMongodbButPassword o o') :
    (∀ es, onApplicationBootstrap blue o es = onApplicationBootstrap blue o' es) ↔
      o.lazyConnect.truthy = true ∨ o.url = o'.url := by
  constructor
  · intro hmessages
    cases hlazy : o.lazyConnect.truthy with
    | true => exact Or.inl rfl
    | false =>
      have hlazy' : o'.lazyConnect.truthy = false := h.lazyConnect ▸ hlazy
      have hstate : bootstrapState o = ⟨1, true, []⟩ := by simp [bootstrapState, hlazy]
      have hstate' : bootstrapState o' = ⟨1, true, []⟩ := by simp [bootstrapState, hlazy']
      have htimer := hmessages [.timer]
      unfold onApplicationBootstrap at htimer
      rw [hstate, hstate', TimedAttempt.messages_timer _ rfl,
        TimedAttempt.messages_timer _ rfl] at htimer
      simp only [connectionAttempt, List.nil_append, Option.some.injEq, List.cons.injEq,
        LogMessage.mk.injEq, true_and, and_true, String.append_left_inj,
        String.append_right_inj] at htimer
      have htext : textOf o.url = textOf o'.url := hblue htimer
      rcases h.url with hurl | ⟨s, s', hs, hs', -⟩
      · exact Or.inr hurl
      · rw [hs, hs'] at htext
        rw [hs, hs']
        exact Or.inr (congrArg Value.str htext)
  · rintro (hlazy | hurl) es
    · unfold onApplicationBootstrap bootstrapState
      rw [if_pos hlazy, if_pos (h.lazyConnect ▸ hlazy)]
      exact TimedAttempt.messages_settled _ _ rfl rfl es
    · unfold onApplicationBootstrap connectionAttempt bootstrapState
      rw [hurl, h.lazyConnect]

end

/-- **The messages keep a password to themselves** exactly when the module connects lazily or
the password is not in the host or the URL: of two configurations that differ only in it, all
runs write the same. SOURCE: redis-core.module.ts:153-188, mongodb-core.module.ts:145-166 -/
theorem password_unseen_iff (hblue : Function.Injective blue) :
    (∀ o o', SameRedisButPassword o o' →
      ((∀ status es, Program.RedisCoreModule.onApplicationBootstrap blue o status es =
          Program.RedisCoreModule.onApplicationBootstrap blue o' status es) ↔
        (o.settings .lazyConnect).truthy = true ∨ o.host = o'.host)) ∧
    ∀ o o', SameMongodbButPassword o o' →
      ((∀ es, Program.MongodbCoreModule.onApplicationBootstrap blue o es =
          Program.MongodbCoreModule.onApplicationBootstrap blue o' es) ↔
        o.lazyConnect.truthy = true ∨ o.url = o'.url) :=
  ⟨fun _ _ h => redis_messages_iff hblue h, fun _ _ h => mongodb_messages_iff hblue h⟩

end

/-- The colour codes around a text. -/
def ansiBlue (s : String) : String := "\x1b[34m" ++ s ++ "\x1b[39m"

/-- Colouring loses nothing. -/
theorem ansiBlue_injective : Function.Injective ansiBlue := by
  intro s s' h
  unfold ansiBlue at h
  rw [String.append_left_inj, String.append_right_inj] at h
  exact h

def redisWith (host : String) (password : Value) : RedisConnectionOptions :=
  ⟨⟨some host, fun k => if k = .password then password else .undefined, none⟩, none, none⟩

def mongodbWith (url : String) (password : Value) : ModuleConnectionOptions :=
  ⟨⟨.str url, some ⟨.str "app", password⟩, fun _ => .undefined⟩, .undefined⟩

/-- Two configurations of one host differ in the password. -/
theorem redisWith_same (host : String) (p p' : Value) :
    SameRedisButPassword (redisWith host p) (redisWith host p') where
  standalone := rfl
  standalone' := rfl
  host := Or.inl rfl
  settings k hk := by simp [redisWith, hk]
  reconnectOnError := rfl
  redisOptions := rfl

/-- Two configurations of one URL differ in the password. -/
theorem mongodbWith_same (url : String) (p p' : Value) :
    SameMongodbButPassword (mongodbWith url p) (mongodbWith url p') where
  url := Or.inl rfl
  username := rfl
  settings := rfl
  lazyConnect := rfl

/-- Two passwords in an option of their own. -/
theorem password_unseen_in_own_option :
    ((∀ status es, Program.RedisCoreModule.onApplicationBootstrap ansiBlue
          (redisWith "localhost" (.str "one")) status es =
        Program.RedisCoreModule.onApplicationBootstrap ansiBlue
          (redisWith "localhost" (.str "two")) status es) ↔
      ((redisWith "localhost" (.str "one")).settings .lazyConnect).truthy = true ∨
        (redisWith "localhost" (.str "one")).host = (redisWith "localhost" (.str "two")).host) ∧
    ((∀ es, Program.MongodbCoreModule.onApplicationBootstrap ansiBlue
          (mongodbWith "mongodb://db" (.str "one")) es =
        Program.MongodbCoreModule.onApplicationBootstrap ansiBlue
          (mongodbWith "mongodb://db" (.str "two")) es) ↔
      (mongodbWith "mongodb://db" (.str "one")).lazyConnect.truthy = true ∨
        (mongodbWith "mongodb://db" (.str "one")).url =
          (mongodbWith "mongodb://db" (.str "two")).url) := by
  obtain ⟨hredis, hmongodb⟩ := password_unseen_iff ansiBlue_injective
  exact ⟨hredis _ _ (redisWith_same _ _ _), hmongodb _ _ (mongodbWith_same _ _ _)⟩

/-- Two passwords in the user info of the host, and of the URL: the first message and the
message of the timer tell them apart. -/
theorem password_seen_in_user_info :
    (¬ ∀ o o', SameRedisButPassword o o' → ∀ status es,
      Program.RedisCoreModule.onApplicationBootstrap ansiBlue o status es =
        Program.RedisCoreModule.onApplicationBootstrap ansiBlue o' status es) ∧
    ¬ ∀ o o', SameMongodbButPassword o o' → ∀ es,
      Program.MongodbCoreModule.onApplicationBootstrap ansiBlue o es =
        Program.MongodbCoreModule.onApplicationBootstrap ansiBlue o' es := by
  refine ⟨fun hsame => ?_, fun hsame => ?_⟩
  · have hinfo : SameButPassword "redis://app:one@db" "redis://app:two@db" :=
      Or.inr ⟨"redis", "app", "db", some "one", some "two", by decide, by decide⟩
    have hredis : SameRedisButPassword (redisWith "redis://app:one@db" .undefined)
        (redisWith "redis://app:two@db" .undefined) :=
      { redisWith_same "redis://app:one@db" .undefined .undefined with
        standalone' := rfl
        host := Or.inr ⟨_, _, rfl, rfl, hinfo⟩ }
    have hmessages := hsame _ _ hredis "wait" []
    revert hmessages
    decide
  · have hinfo : SameButPassword "mongodb://app:one@db" "mongodb://app:two@db" :=
      Or.inr ⟨"mongodb", "app", "db", some "one", some "two", by decide, by decide⟩
    have hmongodb : SameMongodbButPassword (mongodbWith "mongodb://app:one@db" .undefined)
        (mongodbWith "mongodb://app:two@db" .undefined) :=
      { mongodbWith_same "mongodb://app:one@db" .undefined .undefined with
        url := Or.inr ⟨_, _, rfl, rfl, hinfo⟩ }
    have hmessages := hsame _ _ hmongodb [.timer]
    revert hmessages
    decide

end Xnestjs.Analysis
