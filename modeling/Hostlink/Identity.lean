/-!
# Identities

Functions, events, wrappers and sources are compared by identity, never by what they do or hold.
An identity is a number given out by a registry; each kind has a type of its own.
-/

namespace Hostlink

/-- A function that can be called with a payload. -/
structure FunctionId where
  index : Nat
  deriving DecidableEq, Repr

/-- A multicast event of a native object. -/
structure EventId where
  index : Nat
  deriving DecidableEq, Repr

/-- A wrapper. -/
structure WrapperId where
  index : Nat
  deriving DecidableEq, Repr

/-- A network status source. -/
structure SourceId where
  index : Nat
  deriving DecidableEq, Repr

/-- A callback bridge: one of its own, or the one that a wrapper holds. -/
inductive BridgeId where
  | standalone (index : Nat)
  | ofWrapper (wrapper : WrapperId)
  deriving DecidableEq, Repr

/-- A native object: its type and its identity. -/
structure Native where
  typeName : String
  identity : Nat
  deriving DecidableEq, Repr

end Hostlink
