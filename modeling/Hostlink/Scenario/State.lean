import Hostlink.Activity.Wrapper
import Hostlink.Conversion
import Hostlink.Scenario.Trace

/-!
# The state of a scenario

The names that the steps have given, and what the scenario's own code does: the steps of its
callbacks and hooks, its conversions, and how its native objects answer to being closed.
-/

namespace Hostlink.Scenario

/-- A callback of the scenario. -/
structure Body where
  label : String
  steps : List Step

/-- What an attachment does to register its native callback. -/
structure RegistrarBody where
  attachment : Attachment
  event : Option EventId

/-- The hook of a member. -/
structure HookBody where
  key : MemberKey
  event : Option EventId
  steps : List Step
  tag : Option String

/-- A native object of the scenario. -/
structure Counter where
  label : String
  closes : Nat
  /-- How many of the next closes fail; negative for all. -/
  failures : Int
  panics : Bool
  deriving Repr

/-- A named function. -/
structure NamedFunction where
  id : FunctionId
  takes : ArgType
  deriving DecidableEq, Repr

/-- A named event. -/
structure NamedEvent where
  id : EventId
  takes : ArgType
  deriving DecidableEq, Repr

/-- The state of a scenario.  In each list of names the latest one for a name counts. -/
structure State where
  /-- The name of the type of the native objects. -/
  nativeType : String
  functions : List (String × NamedFunction)
  events : List (String × NamedEvent)
  bridges : List (String × BridgeId)
  natives : List (String × Nat)
  wrappers : List (String × WrapperId)
  /-- The wrappers that running steps use. -/
  inUse : List WrapperId
  bodies : List (FunctionId × Body)
  registrars : Registry RegistrarBody
  hooks : Registry HookBody
  conversions : Registry Conversion
  counters : Registry Counter
  /-- How many registrations there have been. -/
  registrations : Nat
  trace : Trace

/-- The state before the first step. -/
def State.initial (nativeType : String) : State :=
  ⟨nativeType, [], [], [], [], [], [], [], .empty, .empty, .empty, .empty, 0, .empty⟩

/-- The thing that a name stands for. -/
def lookup? {α : Type} (names : List (String × α)) (name : String) : Option α :=
  (names.find? (·.1 = name)).map (·.2)

/-- The names without one of them. -/
def forget {α : Type} (names : List (String × α)) (name : String) : List (String × α) :=
  names.filter (·.1 ≠ name)

/-- The names with one of them standing for something new. -/
def bindName {α : Type} (names : List (String × α)) (name : String) (thing : α) :
    List (String × α) :=
  (name, thing) :: forget names name

/-- The smaller of two names. -/
def smallerName (a b : String) : String := if a < b then a else b

/-- The name by which a function is shown: the smallest of its names, if it has one left. -/
def State.functionName? (s : State) (f : FunctionId) : Option String :=
  match (s.functions.filter (·.2.id = f)).map (·.1) with
  | [] => none
  | name :: rest => some (rest.foldl smallerName name)

/-- Whether a wrapper has a name or is used by a step that still runs. -/
def State.keepsWrapper (s : State) (w : WrapperId) : Bool :=
  s.wrappers.any (·.2 = w) || s.inUse.contains w

/-- The native object with a number. -/
def State.native (s : State) (index : Nat) : Native := ⟨s.nativeType, index⟩

/-- The name with which a native object was made. -/
def State.nativeName (s : State) (native : Native) : String :=
  ((s.counters.get? native.identity).map (·.label)).getD "?"

/-- Changes the trace. -/
def State.onTrace (s : State) (f : Trace → Trace) : State := { s with trace := f s.trace }

/-- The 64-bit integer that an integer wraps to. -/
def wrapInt (i : Int) : Int := i.bmod (Nat.pow 2 64)

/-- Converts an argument for the caller. -/
def Conversion.apply (c : Conversion) (argument : Payload) : Payload :=
  match c.target, argument with
  | .int, .int i => .int (wrapInt (i + c.add))
  | .int, .text s => .int (wrapInt (s.length + c.add))
  | .text, .int i => .text (c.before ++ toString i)
  | .text, .text s => .text (c.before ++ s)
  | _, other => other

/-- The argument for a type; one that is missing or of another type is empty or zero. -/
def argumentFor (takes : ArgType) (argument : Option Payload) : Payload :=
  match takes, argument with
  | .text, some (.text s) => .text s
  | .text, _ => .text ""
  | _, some (.int i) => .int i
  | _, _ => .int 0

end Hostlink.Scenario
