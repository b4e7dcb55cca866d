import Hostlink.CallbackTable
import Hostlink.Error
import Hostlink.Log.Event

/-!
# Wrappers

A wrapper holds one native object for its whole life, together with the callbacks registered
through it and with how far its disposal has come.  Two wrappers are the same to their users when
they hold the same native object.
-/

namespace Hostlink

/-- Whether a wrapper has to close its native object. -/
inductive Ownership where
  /-- The object is only referred to; disposal never closes it. -/
  | borrowed
  /-- The wrapper closes the object when it is disposed. -/
  | owned
  deriving DecidableEq, Repr

/-- The name of a mode of ownership. -/
def Ownership.name : Ownership → String
  | .borrowed => "Borrowed"
  | .owned => "Owned"

/-- A native object with the state that belongs to one wrapper. -/
structure Wrapper where
  native : Native
  ownership : Ownership
  callbacks : CallbackTable
  /-- Whether disposal has begun. -/
  disposed : Bool
  /-- Whether a close has succeeded. -/
  closed : Bool
  deriving DecidableEq, Repr

namespace Wrapper

/-- A fresh wrapper. -/
def make (ownership : Ownership) (native : Native) : Wrapper :=
  ⟨native, ownership, .empty, false, false⟩

/-- A wrapper that only refers to its native object. -/
def borrowed (native : Native) : Wrapper := make .borrowed native

/-- A wrapper that closes its native object. -/
def owned (native : Native) : Wrapper := make .owned native

/-- A wrapper around an object that has to be there. -/
def ofOptional (ownership : Ownership) (native : Option Native) : Except HostError Wrapper :=
  match native with
  | some native => .ok (make ownership native)
  | none => .error (.missingRequiredValue "native")

/-- Wrappers are equal when they hold the same native object. -/
def sameNative (a b : Wrapper) : Bool := a.native = b.native

/-- Feeds a hash with the place where the native object is. -/
def hashInto {η : Type} (write : η → Nat → η) (place : Native → Nat) (state : η) (w : Wrapper) :
    η :=
  write state (place w.native)

/-- Fails once disposal has begun. -/
def ensureLive (w : Wrapper) : Except HostError Unit :=
  if w.disposed then .error (.objectDisposed w.native.typeName) else .ok ()

/-- Whether a disposal still has to close the native object. -/
def needsClose (w : Wrapper) : Bool := w.ownership = .owned && !w.closed

/-- The wrapper for diagnosis; `address` stands for the place of the native object. -/
def shown (w : Wrapper) (address : String) : Text.Diagnostic :=
  .record "Wrapper" [
    ("native", .quoted w.native.typeName),
    ("addr", .atom address),
    ("ownership", .atom w.ownership.name),
    ("disposed", .bool w.disposed)]

/-! ## Log events -/

/-- The target of the log events about wrappers. -/
def logTarget : String := "core_interop::wrapper"

/-- The log event of a finished first phase. -/
def disposalNotice (w : Wrapper) (released : Nat) : Log.Event :=
  .notice .debug logTarget "Disposed wrapper"
    [⟨"native", .text w.native.typeName⟩, ⟨"ownership", .shown w.ownership.name⟩,
      ⟨"released", .int released⟩]

/-- What the end of a wrapper without callbacks logs: nothing more once it is disposed. -/
def endNotices (w : Wrapper) : List Log.Event :=
  if w.disposed then [] else [w.disposalNotice 0]

/-- The log event of a drop that could not close the native object. -/
def dropNotice (w : Wrapper) (error : HostError) : Log.Event :=
  .notice .warn logTarget "Failed to close native object on drop"
    [⟨"native", .text w.native.typeName⟩, ⟨"error", .shown error.message⟩]

end Wrapper
end Hostlink
