import Xnestjs.Program.GetMongodbConfig
import Xnestjs.Model.TimedAttempt
import Mathlib.Logic.Function.Basic

/-!
# `MongodbCoreModule`

The resolved options are injected into the client factory, which passes all but three of them
on to the constructor of the client, and read again at bootstrap, where the module connects
the client and writes to the logger how it goes. The call `connect()` settles as the driver
makes it settle.
-/

set_option autoImplicit false

namespace Xnestjs.Program.MongodbCoreModule

open Xnestjs.Model Xnestjs.Program.GetMongodbConfig

/-- The connection options with the one that only the module reads. -/
structure ModuleConnectionOptions extends MongodbConnectionOptions where
  lazyConnect : Value

/-- The value of `MONGODB_CONNECTION_OPTIONS`. `getMongodbConfig` neither reads nor writes
`lazyConnect`. SOURCE: mongodb-core.module.ts:30-43 -/
def connectionOptions (h : VarHelpers) (env : Env) (useValue : ModuleConnectionOptions)
    (envPrefix : String := "MONGODB_") : ModuleConnectionOptions where
  toMongodbConnectionOptions :=
    getMongodbConfig h env useValue.toMongodbConnectionOptions envPrefix
  lazyConnect := useValue.lazyConnect

structure MongoClientOptions where
  auth : Option MongodbAuth
  settings : MongodbSetting → Value

/-- The arguments of `new MongoClient`. -/
structure MongoClientArgs where
  url : Value
  options : MongoClientOptions

/-- `auth?.username`, `undefined` without `auth`. -/
def usernameOf (auth : Option MongodbAuth) : Value :=
  match auth with
  | some a => a.username
  | none => .undefined

/-- `auth.username`, when there is an `auth`. -/
@[simp] theorem usernameOf_some (a : MongodbAuth) : usernameOf (some a) = a.username := rfl

/-- The client factory. SOURCE: mongodb-core.module.ts:74-89 -/
def createClient (options : ModuleConnectionOptions) : MongoClientArgs :=
  let mongoOptions : MongoClientOptions :=
    ⟨options.auth, Function.update options.settings .database .undefined⟩
  let mongoOptions :=
    if mongoOptions.auth.isSome ∧ (usernameOf mongoOptions.auth).truthy = false then
      { mongoOptions with auth := none }
    else mongoOptions
  ⟨options.url, mongoOptions⟩

/-- The text of an option that is a text or absent; `colors.blue` makes the empty text of an
absent one as well. -/
def textOf : Value → String
  | .str s => s
  | _ => ""

section

variable (blue : String → String)

/-- The messages of the connection attempt. SOURCE: mongodb-core.module.ts:149-165 -/
def connectionAttempt (options : ModuleConnectionOptions) : TimedAttempt LogMessage where
  waiting := ⟨.verbose, "Waiting to connect to MongoDB [" ++ blue (textOf options.url) ++ "]"⟩
  established := ⟨.log, "MongoDB connection established"⟩
  failed message := ⟨.error, "MongoDB connection failed: " ++ message⟩

/-- Where the attempt begins: with `connect()` to settle and the timer set, or not at all.
SOURCE: mongodb-core.module.ts:145-154 -/
def bootstrapState (options : ModuleConnectionOptions) : AttemptState LogMessage :=
  if options.lazyConnect.truthy then .idle else ⟨1, true, []⟩

/-- What `onApplicationBootstrap()` sends to the logger when the timer and the call come in a
given order. SOURCE: mongodb-core.module.ts:145-166 -/
def onApplicationBootstrap (options : ModuleConnectionOptions) (es : List AttemptEvent) :
    Option (List LogMessage) :=
  (connectionAttempt blue options).messages (bootstrapState options) es

end

end Xnestjs.Program.MongodbCoreModule
