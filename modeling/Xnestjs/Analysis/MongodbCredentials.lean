import Xnestjs.Program.MongodbCoreModule

/-!
# The credentials of the MongoDB client

An explicit user name keeps the credentials of the environment out, and without one these are
asked for as a whole. The loader and the client factory take an empty user name for none, but
the loader fills in only what is nullish: an empty name stays and the factory drops the
credentials, and a password without a name stays beside the name of the environment.
-/

set_option autoImplicit false

namespace Xnestjs.Analysis

open Xnestjs.Model Xnestjs.Program.GetMongodbConfig Xnestjs.Program.MongodbCoreModule

/-- `auth?.password`, `undefined` without `auth`. -/
def passwordOf (auth : Option MongodbAuth) : Value :=
  match auth with
  | some a => a.password
  | none => .undefined

section

variable (env : Env) (pre : String)

/-- The credentials asked for: the explicit ones when they have a user name, otherwise those of
the environment when they have one, otherwise none. -/
def askedAuth (auth : Option MongodbAuth) : Option MongodbAuth :=
  if (usernameOf auth).truthy then auth
  else if (env.get (pre ++ "USERNAME")).truthy then
    some ⟨env.get (pre ++ "USERNAME"), env.get (pre ++ "PASSWORD")⟩
  else none

/-- There is an explicit user name, or none in the environment; or the explicit user name is
not an empty text, and an explicit password is that of the environment. -/
def AuthFromOneSource (auth : Option MongodbAuth) : Prop :=
  (usernameOf auth).truthy = true ∨ (env.get (pre ++ "USERNAME")).truthy = false ∨
    ((usernameOf auth).nullish = true ∧
      ((passwordOf auth).nullish = true ∨ passwordOf auth = env.get (pre ++ "PASSWORD")))

/-- INTERNAL: without an own user name, each credential is filled in for itself.
SOURCE: get-mongodb-config.ts:50-54 -/
theorem authFromEnv_filled {auth : Option MongodbAuth}
    (hname : (usernameOf auth).truthy = false) :
    authFromEnv env pre auth =
      some ⟨(usernameOf auth).coalesce (env.get (pre ++ "USERNAME")),
        (passwordOf auth).coalesce (env.get (pre ++ "PASSWORD"))⟩ := by
  cases auth with
  | none => rfl
  | some a =>
    have hname' : a.username.truthy = false := hname
    simp [authFromEnv, passwordOf, hname']

/-- INTERNAL: credentials with a user name are kept. SOURCE: get-mongodb-config.ts:50 -/
theorem authFromEnv_explicit {auth : Option MongodbAuth}
    (hname : (usernameOf auth).truthy = true) : authFromEnv env pre auth = auth := by
  cases auth with
  | none => cases hname
  | some a =>
    have hname' : a.username.truthy = true := hname
    simp [authFromEnv, hname']

/-- INTERNAL: the factory drops credentials without a user name.
SOURCE: mongodb-core.module.ts:86-87 -/
theorem createClient_auth (o : ModuleConnectionOptions) :
    (createClient o).options.auth = if (usernameOf o.auth).truthy then o.auth else none := by
  unfold createClient
  cases hauth : o.auth with
  | none => simp
  | some a => cases hname : a.username.truthy <;> simp [hname]

/-- INTERNAL: the credentials that the client gets. -/
theorem client_auth (h : VarHelpers) (o : ModuleConnectionOptions) :
    (createClient (connectionOptions h env o pre)).options.auth =
      if (usernameOf (authFromEnv env pre o.auth)).truthy then authFromEnv env pre o.auth
      else none :=
  createClient_auth (connectionOptions h env o pre)

/-- INTERNAL: a value comes to its fallback when it is nullish or equal to it. -/
theorem coalesce_eq_iff (v w : Value) : v.coalesce w = w ↔ v.nullish = true ∨ v = w := by
  by_cases hv : v.nullish = true
  · simp [Value.coalesce_of_nullish w hv, hv]
  · rw [Bool.not_eq_true] at hv
    simp [Value.coalesce_of_given w hv, hv]

/-- **The credentials of the client** are the ones asked for exactly when they come from one
source. SOURCE: get-mongodb-config.ts:50-54, mongodb-core.module.ts:74-89 -/
theorem mongodb_credentials_iff (h : VarHelpers) (o : ModuleConnectionOptions) :
    (createClient (connectionOptions h env o pre)).options.auth = askedAuth env pre o.auth ↔
      AuthFromOneSource env pre o.auth := by
  rw [client_auth]
  unfold askedAuth AuthFromOneSource
  cases hname : (usernameOf o.auth).truthy with
  | true => simp [authFromEnv_explicit env pre hname, hname]
  | false =>
    rw [authFromEnv_filled env pre hname, usernameOf_some]
    by_cases hnull : (usernameOf o.auth).nullish = true
    · -- the user name of the environment takes the place of an absent one
      rw [Value.coalesce_of_nullish _ hnull]
      cases henv : (env.get (pre ++ "USERNAME")).truthy with
      | true => simp [hnull, coalesce_eq_iff]
      | false => simp
    · -- an empty user name stays, and the credentials are dropped
      rw [Bool.not_eq_true] at hnull
      rw [Value.coalesce_of_given _ hnull]
      cases henv : (env.get (pre ++ "USERNAME")).truthy with
      | true => simp [hname, hnull]
      | false => simp [hname]

end

/-- An empty user name in the options, and credentials in the environment: the client gets
none. -/
theorem empty_username_drops_credentials :
    let h : VarHelpers := ⟨id, id, rfl, rfl⟩
    let env : Env := fun name =>
      if name = "MONGODB_USERNAME" then some "app"
      else if name = "MONGODB_PASSWORD" then some "secret" else none
    let o : ModuleConnectionOptions :=
      ⟨⟨.undefined, some ⟨.str "", .undefined⟩, fun _ => .undefined⟩, .undefined⟩
    (createClient (connectionOptions h env o)).options.auth = none ∧
      askedAuth env "MONGODB_" o.auth = some ⟨.str "app", .str "secret"⟩ := by
  intro h env o
  exact ⟨by decide, by decide⟩

end Xnestjs.Analysis
