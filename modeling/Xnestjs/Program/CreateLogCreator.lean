import Xnestjs.Model.Record
import Xnestjs.Model.Value
import Mathlib.Data.Int.Notation

/-!
# `createLogCreator`

kafkajs hands its log entries to the function that the module gives it, which calls the method of
the logger for the level of the entry: with the message, and with the other fields of the entry and
its namespace together.
-/

set_option autoImplicit false

namespace Xnestjs.Program.CreateLogCreator

open Xnestjs.Model

/-- `logLevel` of kafkajs; any other level is `NOTHING` or unknown. -/
inductive LogLevel where
  | error
  | warn
  | info
  | debug
  | other (level : ℤ)
  deriving DecidableEq, Repr

/-- An entry. The key of `namespace` in a record is `"namespace"`. -/
structure LogEntry where
  ns : Value
  level : LogLevel
  log : Record Value

/-- The methods of a logger that are called. -/
inductive LogMethod where
  | error
  | warn
  | log
  | debug
  | verbose
  deriving DecidableEq, Repr

/-- A logger: two of its methods are optional. -/
structure LoggerService where
  hasDebug : Bool
  hasVerbose : Bool

/-- A call of the logger. `newError` is what the `Error` in it is made from. -/
structure LoggerCall where
  method : LogMethod
  message : Value
  newError : Option Value
  details : Record Value

/-- `log.message` and the other fields, `const { message, ...extra } = log`. -/
def messageOf (log : Record Value) : Value := (log.lookup "message").getD .undefined

def extraOf (log : Record Value) : Record Value := log.delete "message"

/-- What the function that `createLogCreator(logger)` returns does with an entry.
SOURCE: create-log-creator.ts:4-37 -/
def createLogCreator (logger : Option LoggerService) (entry : LogEntry) : Option LoggerCall :=
  match logger with
  | none => none
  | some logger =>
    let message := messageOf entry.log
    let details := (extraOf entry.log).set "namespace" entry.ns
    match entry.level with
    | .error => some ⟨.error, message, some message, details⟩
    | .warn => some ⟨.warn, message, none, details⟩
    | .info => some ⟨.log, message, none, details⟩
    | .debug => if logger.hasDebug then some ⟨.debug, message, none, details⟩ else none
    | .other _ => if logger.hasVerbose then some ⟨.verbose, message, none, details⟩ else none

end Xnestjs.Program.CreateLogCreator
