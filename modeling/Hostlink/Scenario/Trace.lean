import Hostlink.Scenario.Step

/-!
# Traces

What a step logs while it runs.  The entry of a hook holds what was logged inside the hook, so a
trace in the making has a stack of hooks that are still open; a panic closes them all.
-/

namespace Hostlink.Scenario

/-- What the entry of a hook says about its call. -/
structure HookCall where
  key : MemberKey
  /-- The name that the native callback has left. -/
  native : Option String
  /-- Whether the event had the callback, if the hook removes it from one. -/
  removed : Option Bool
  tag : Option String
  deriving DecidableEq, Repr

/-- One entry of a trace. -/
inductive Entry where
  | called (function : String) (argument : Payload)
  | registered (native : String)
  | closed (native : String)
  | did (step : String) (answer : Answer)
  | depthLimit
  | hook (call : HookCall) (inner : List Entry)

instance : Inhabited Entry := ⟨.depthLimit⟩

/-- A trace in the making, the latest entries first. -/
structure Trace where
  /-- The hooks that are open, the innermost first, each with what was logged in it. -/
  opened : List (HookCall × List Entry)
  entries : List Entry

namespace Trace

/-- An empty trace. -/
def empty : Trace := ⟨[], []⟩

instance : Inhabited Trace := ⟨empty⟩

/-- Adds an entry inside the innermost open hook. -/
def log (t : Trace) (entry : Entry) : Trace :=
  match t.opened with
  | [] => { t with entries := entry :: t.entries }
  | (call, inner) :: rest => { t with opened := (call, entry :: inner) :: rest }

/-- Opens a hook. -/
def openHook (t : Trace) (call : HookCall) : Trace := { t with opened := (call, []) :: t.opened }

/-- Closes the innermost hook; its entry goes where the hook was opened. -/
def closeHook (t : Trace) : Trace :=
  match t.opened with
  | [] => t
  | (call, inner) :: rest => { t with opened := rest }.log (.hook call inner.reverse)

/-- Closes a number of hooks. -/
def closeHooks : Nat → Trace → Trace
  | 0, t => t
  | n + 1, t => closeHooks n t.closeHook

/-- All entries in order, with every hook closed. -/
def finish (t : Trace) : List Entry := (closeHooks t.opened.length t).entries.reverse

end Trace
end Hostlink.Scenario
