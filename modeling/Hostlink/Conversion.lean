import Hostlink.Wrapper

/-!
# Conversion between native objects and adapters

Wrapping puts a native object into a fresh wrapper.  Unwrapping gives back the native object that
an adapter exposes, if it is one of the wanted type.  Sequences are converted element by element:
the nullable variants keep gaps, the others report the first gap by its position, and every
variant stops at the first element that fails.
-/

namespace Hostlink

/-- What an adapter can hand out as its native side. -/
inductive Exposed where
  /-- A shared reference to an object; that object can be a shared reference in its turn. -/
  | shared (native : Native)
  /-- A value that is no shared reference, known by its type. -/
  | other (typeName : String)
  deriving DecidableEq, Repr

/-- An interface value, known by what it exposes; a handwritten one exposes nothing. -/
structure Adapter where
  raw : Option Exposed
  deriving DecidableEq, Repr

/-- The adapter that a wrapper is: it exposes a shared reference to its native object. -/
def Wrapper.adapter (w : Wrapper) : Adapter := ⟨some (.shared w.native)⟩

namespace Conversion

/-- The native object of type `target` behind an adapter. -/
def rawNative (target : String) (adapter : Adapter) : Except HostError Native :=
  match adapter.raw with
  | some (.shared native) =>
    if native.typeName = target then .ok native else .error (.unsupportedImplementation target)
  | _ => .error (.unsupportedImplementation target)

/-- Wraps a native object; nothing gives nothing. -/
def wrap (native : Option Native) : Option Wrapper := native.map .borrowed

/-- Recovers a native object; nothing gives nothing. -/
def unwrap (target : String) (adapter : Option Adapter) : Except HostError (Option Native) :=
  match adapter with
  | none => .ok none
  | some adapter => some <$> rawNative target adapter

/-! ## Sequences -/

/-- What a conversion of a sequence gives, and how many elements it took. -/
structure Batched (β : Type) where
  result : Except HostError (List β)
  consumed : Nat

/-- Converts the elements from position `index` on and stops at the first failure. -/
def convertFrom {α β : Type} (convert : Nat → α → Except HostError β) (index : Nat) :
    List α → Batched β
  | [] => ⟨.ok [], 0⟩
  | x :: rest =>
    match convert index x with
    | .error e => ⟨.error e, 1⟩
    | .ok y =>
      let tail := convertFrom convert (index + 1) rest
      ⟨(y :: ·) <$> tail.result, tail.consumed + 1⟩

/-- Converts an element that has to be there. -/
def required {α β : Type} (convert : α → Except HostError β) (index : Nat) (x : Option α) :
    Except HostError β :=
  match x with
  | none => .error (.nullElement index)
  | some x => convert x

/-- Wraps every element; gaps stay. -/
def wrapAll (natives : List (Option Native)) : Batched (Option Wrapper) :=
  convertFrom (fun _ native => .ok (wrap native)) 0 natives

/-- Wraps every element of a sequence without gaps. -/
def wrapAllRequired (natives : List (Option Native)) : Batched Wrapper :=
  convertFrom (required fun native => .ok (.borrowed native)) 0 natives

/-- Unwraps every element; gaps stay. -/
def unwrapAll (target : String) (adapters : List (Option Adapter)) : Batched (Option Native) :=
  convertFrom (fun _ adapter => unwrap target adapter) 0 adapters

/-- Unwraps every element of a sequence without gaps. -/
def unwrapAllRequired (target : String) (adapters : List (Option Adapter)) : Batched Native :=
  convertFrom (required (rawNative target)) 0 adapters

/-- The position of the first wrapper that is equal to the one at each position. -/
def firstEqual (wrappers : List (Option Wrapper)) (w : Wrapper) : Nat :=
  wrappers.findIdx fun other =>
    match other with
    | some other => w.sameNative other
    | none => false

end Conversion
end Hostlink
