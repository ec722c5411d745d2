import Xnestjs.Model.Record
import Xnestjs.Model.Value

/-!
# `MongodbHealthIndicator`

A check takes the client from its options or from the module reference and pings it. Its result
is a record, with a message when the check fails. The module reference and the client are
parameters: what they give and what they throw.
-/

set_option autoImplicit false

namespace Xnestjs.Program.MongodbHealth

open Xnestjs.Model

/-- What is thrown: a value with the given `message`, or `null` or `undefined`, of which no
message can be read. -/
inductive Thrown where
  | withMessage (message : Value)
  | null
  | undefined
  deriving DecidableEq

/-- `options.connection`: a client, known by its identity, or a token. -/
inductive ConnectionOption where
  | client (id : ℕ)
  | token (t : Value)

structure MongodbPingCheckSettings where
  connection : ConnectionOption
  timeout : Value

/-- A field of a result: a value, or a record of its own. -/
inductive ResultField where
  | value (v : Value)
  | fields (r : Record Value)

/-- `moduleRef.get(token)`, with `none` for the token `MongoClient`, and `ping` of a client with
a timeout. `get` gives `none` when there is no connection. -/
structure CheckServices where
  get : Option Value → Except Thrown (Option ℕ)
  ping : ℕ → Value → Except Thrown Unit

/-- `err.message` of a caught value: reading it may throw as well. -/
def messageOf : Thrown → Except Thrown Value
  | .withMessage message => .ok message
  | .null => .error (.withMessage (.str "Cannot read properties of null (reading 'message')"))
  | .undefined =>
    .error (.withMessage (.str "Cannot read properties of undefined (reading 'message')"))

/-- `{ status: 'down', message }` -/
def down (message : Value) : Record ResultField :=
  ⟨[("status", .value (.str "down")), ("message", .value message)], by simp⟩

/-- `{ status: 'up' }` -/
def up : Record ResultField := ⟨[("status", .value (.str "up"))], by decide⟩

/-- The client of a check. SOURCE: mongodb.health.ts:33-36 -/
def findConnection (services : CheckServices) (options : Option MongodbPingCheckSettings) :
    Except Thrown (Option ℕ) :=
  match options.map MongodbPingCheckSettings.connection with
  | some (.client id) => .ok (some id)
  | some (.token t) => services.get (if t.truthy then some t else none)
  | none => services.get none

/-- `options?.timeout || 5000` -/
def timeoutOf (options : Option MongodbPingCheckSettings) : Value :=
  ((options.map MongodbPingCheckSettings.timeout).getD .undefined).orElse (.num 5000)

/-- `pingCheck(key, options)`: the result, or what the call rejects with. Nothing reads the key.
SOURCE: mongodb.health.ts:27-51 -/
def pingCheck (services : CheckServices) (_key : String)
    (options : Option MongodbPingCheckSettings) : Except Thrown (Record ResultField) :=
  match findConnection services options with
  | .error err => (messageOf err).map down
  | .ok none => .ok (down (.str "No connection provided"))
  | .ok (some connection) =>
    match services.ping connection (timeoutOf options) with
    | .error err => (messageOf err).map down
    | .ok () => .ok up

end Xnestjs.Program.MongodbHealth
