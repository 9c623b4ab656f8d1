import Mathlib.Tactic.Common
import Mathlib.Data.Rat.Defs

/-! Names every part of the model shares: identifiers, instants and the errors the
services throw. -/
namespace OmniSupport

abbrev Uuid := Nat

/-- Milliseconds since the epoch, as `Date.now()` returns them. -/
abbrev Time := Nat

/-- The error classes of `shared/errors`; `validationOf` names fields, `plain` is an `Error` of no such class,
`database` whatever a failed statement or a failed call to another service throws. -/
inductive AppError where
  | unauthorized (message : String)
  | forbidden (message : String)
  | domain (message errorCode : String)
  | notFound (resource : String) (id : Uuid)
  | conflict (message : String)
  | validation (message : String)
  | validationOf (message : String) (errors : List (String × List String))
  | infrastructure (message : String)
  | plain (message : String)
  | database
  deriving DecidableEq, Repr

/-- The characters of the text form: lower-case hexadecimal digits and hyphens. -/
def isUuidChar (ch : Char) : Bool :=
  ch.isDigit || ('a' ≤ ch && ch ≤ 'f') || ch = '-'

/-- The identifier of a domain event as text, where the text matters: ledger keys are
built from it. -/
structure EventId where
  text : String
  alphabet : text.toList.all isUuidChar = true
  deriving DecidableEq

/-- Who an action is recorded under: a user, or `SYSTEM_ACTOR_ID` for automated ones. -/
inductive Actor where
  | system
  | user (id : Uuid)
  deriving DecidableEq, Repr

def toActorUserId : Actor → Option Uuid
  | .system => none
  | .user id => some id

/-- The values that stand in the JSON columns. -/
inductive JsonValue where
  | id (id : Uuid)
  | number (r : Rat)
  | text (s : String)
  | texts (ss : List String)
  | date (t : Option Time)
  | null
  deriving DecidableEq, Repr

abbrev JsonObject := List (String × JsonValue)

end OmniSupport
