import Hostlink.CallbackTable
import Hostlink.Time.Instant

/-!
# Payloads

The arguments that events carry and callbacks take.
-/

namespace Hostlink

/-- An observation of the network; the clock's own time is left out. -/
structure Availability where
  available : Bool
  at? : Option Time.Instant
  deriving DecidableEq, Repr

/-- The argument of a call. -/
inductive Payload where
  | int (value : Int)
  | text (value : String)
  /-- An observation as the native source reports it. -/
  | status (value : Availability)
  /-- An observation as callers receive it. -/
  | change (value : Availability)
  deriving DecidableEq, Repr

/-- How a native argument becomes the argument of the caller's callback. -/
inductive Converter where
  /-- An observation is handed on with its time as a calendar time. -/
  | availability
  /-- The caller's own code with this number does it. -/
  | client (code : Nat)
  deriving DecidableEq, Repr

end Hostlink
