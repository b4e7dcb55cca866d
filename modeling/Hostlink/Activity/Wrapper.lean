import Hostlink.Activity.Bridge

/-!
# Wrappers

Disposal of a wrapper has two phases.  The first disposal releases the callbacks registered
through the wrapper; every disposal then closes the native object if the wrapper owns it and no
close has succeeded yet.  A close that failed stays pending.  Dropping a wrapper disposes of it and
reports a failure instead of returning it.
-/

namespace Hostlink

variable {σ : Type}

namespace WrapperId

/-- Makes a wrapper around a native object. -/
def make (ownership : Ownership) (native : Native) : Activity σ WrapperId :=
  Activity.exchange (·.nextWrapper) (.addWrapper ownership native)

/-- Looks at a wrapper that exists. -/
def view {α : Type} (w : WrapperId) (default : α) (f : Wrapper → α) : Activity σ α :=
  Activity.inspect fun o => ((o.wrapper? w).map f).getD default

/-- Closes the native object if that is still to be done. -/
def closeNative (w : WrapperId) : Activity σ (Except HostError Unit) := do
  let wrapper? ← Activity.inspect (·.wrapper? w)
  match wrapper? with
  | none => return .ok ()
  | some wrapper =>
    match wrapper.ownership with
    | .borrowed => return .ok ()
    | .owned =>
      Activity.take (.closing w)
      let closed ← w.view true (·.closed)
      if closed then
        Activity.give (.closing w)
        return .ok ()
      else
        let result ← Activity.upcall (.close wrapper.native)
        match (result : Except HostError Unit) with
        | .ok _ =>
          Activity.update (.markClosed w)
          Activity.give (.closing w)
          return .ok ()
        | .error e =>
          Activity.give (.closing w)
          return .error e

/-- Marks the wrapper as disposed; tells whether it had been already. -/
def beginDisposal (w : WrapperId) : Activity σ Bool :=
  Activity.exchange (fun o => ((o.wrapper? w).map (·.disposed)).getD true) (.markDisposed w)

/-- Releases the callbacks, the first time, and closes the native object if it is owned. -/
def dispose (w : WrapperId) : Activity σ (Except HostError Unit) := do
  let already ← w.beginDisposal
  if !already then
    let released ← (BridgeId.ofWrapper w).releaseAll
    let wrapper? ← Activity.inspect (·.wrapper? w)
    match wrapper? with
    | some wrapper => Activity.report (wrapper.disposalNotice released)
    | none => pure ()
  w.closeNative

/-- Disposes of the wrapper for the last time; a failure is only reported. -/
def drop (w : WrapperId) : Activity σ Unit := do
  let result ← w.dispose
  match result with
  | .ok _ => return ()
  | .error e =>
    let wrapper? ← Activity.inspect (·.wrapper? w)
    match wrapper? with
    | some wrapper => Activity.report (wrapper.dropNotice e)
    | none => return ()

/-- Whether disposal has begun. -/
def isDisposed (w : WrapperId) : Activity σ Bool := w.view true (·.disposed)

/-- Fails once disposal has begun. -/
def ensureLive (w : WrapperId) : Activity σ (Except HostError Unit) :=
  w.view (.ok ()) (·.ensureLive)

end WrapperId
end Hostlink
