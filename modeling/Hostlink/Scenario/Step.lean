import Hostlink.Error
import Hostlink.Json.Printer
import Hostlink.Payload
import Hostlink.Wrapper

/-!
# Steps of a scenario

A scenario is a list of steps over named objects.  A callback or a hook may hold steps of its own,
which run whenever it is called.
-/

namespace Hostlink.Scenario

/-- How a step refers to a bridge. -/
inductive BridgeName where
  | standalone (name : String)
  | ofWrapper (wrapper : String)
  deriving DecidableEq, Repr

/-- The ways to make a wrapper. -/
inductive Making where
  /-- From an object that may be missing, which is a failure. -/
  | checked
  /-- From an object that is there. -/
  | direct
  /-- By conversion: nothing gives nothing, and the wrapper never owns its object. -/
  | converted
  deriving DecidableEq, Repr

/-- How the argument of a native callback is converted for the caller. -/
structure Conversion where
  target : ArgType
  /-- Text put before the argument. -/
  before : String
  /-- Number added to the argument. -/
  add : Int
  deriving DecidableEq, Repr

/-- What to attach, and what its registration does. -/
structure Attachment where
  bridge : BridgeName
  key : MemberKey
  callback : String
  conversion : Conversion
  event : Option String
  /-- The name for the native callback. -/
  name : Option String
  /-- The message of a panic at the end of the registration. -/
  panic : Option String
  deriving DecidableEq, Repr

/-- One step. -/
inductive Step where
  | makeCallback (name : String) (takes : ArgType) (steps : List Step)
  | makeEvent (name : String) (takes : ArgType)
  | addHandler (event function : String)
  | removeHandler (event function : String)
  | raise (event : String) (argument : Option Payload)
  | countHandlers (event : String)
  | clearHandlers (event : String)
  | showEvent (event : String)
  | invoke (function : String) (argument : Option Payload)
  | sameFunction (a b : String)
  | panic (message : String)
  | makeBridge (name : String)
  | registerMember (bridge : BridgeName) (key : MemberKey) (event : Option String)
      (steps : List Step) (tag : Option String)
  | attach (attachment : Attachment)
  | detach (bridge : BridgeName) (key : MemberKey) (callback : String) (event : Option String)
  | memberLength (bridge : BridgeName) (member : String)
  | totalLength (bridge : BridgeName)
  | bridgeIsEmpty (bridge : BridgeName)
  | bridgeIsReleased (bridge : BridgeName)
  | showBridge (bridge : BridgeName) (onLines : Bool)
  | releaseAll (bridge : BridgeName)
  | runThreads (bridge : BridgeName) (member event : String) (threads rounds : Nat)
  | makeNative (name : String) (failures : Int)
  | setFailures (native : String) (failures : Int) (panics : Bool)
  | countCloses (native : String)
  | makeWrapper (name : String) (native : Option String) (owned : Bool) (making : Making)
  | dispose (wrapper : String)
  | ensureLive (wrapper : String)
  | isDisposed (wrapper : String)
  | showOwnership (wrapper : String)
  | nativeOf (wrapper : String)
  | showWrapper (wrapper : String) (onLines : Bool)
  | drop (wrapper : String)
  | equalWrappers (a b : String)
  | countDistinct (wrappers : List String)

instance : Inhabited Step := ⟨.panic ""⟩

/-- The word that a step goes by. -/
def Step.word : Step → String
  | .makeCallback .. => "callback"
  | .makeEvent .. => "event"
  | .addHandler .. => "add"
  | .removeHandler .. => "remove"
  | .raise .. => "raise"
  | .countHandlers .. => "count"
  | .clearHandlers .. => "clear"
  | .showEvent .. => "debug_event"
  | .invoke .. => "invoke"
  | .sameFunction .. => "same"
  | .panic .. => "panic"
  | .makeBridge .. => "bridge"
  | .registerMember .. => "member"
  | .attach .. => "attach"
  | .detach .. => "detach"
  | .memberLength .. => "len"
  | .totalLength .. => "total_len"
  | .bridgeIsEmpty .. => "is_empty"
  | .bridgeIsReleased .. => "is_released"
  | .showBridge .. => "debug_bridge"
  | .releaseAll .. => "release_all"
  | .runThreads .. => "threads"
  | .makeNative .. => "native"
  | .setFailures .. => "set_fail"
  | .countCloses .. => "closes"
  | .makeWrapper .. => "wrapper"
  | .dispose .. => "dispose"
  | .ensureLive .. => "ensure_live"
  | .isDisposed .. => "is_disposed"
  | .showOwnership .. => "ownership"
  | .nativeOf .. => "raw_native"
  | .showWrapper .. => "debug_wrapper"
  | .drop .. => "drop"
  | .equalWrappers .. => "equal"
  | .countDistinct .. => "distinct"

/-! ## Answers -/

/-- What happened in a run of several threads. -/
structure ThreadReport where
  attached : Nat
  detached : Nat
  length : Nat
  handlers : Nat
  deriving DecidableEq, Repr

/-- The value of a step that succeeded. -/
inductive Value where
  | nothing
  | bool (value : Bool)
  | nat (value : Nat)
  | text (value : String)
  /-- The name that a detached native callback has left, and whether the event had it. -/
  | detached (native : Option String) (removed : Bool)
  | threads (report : ThreadReport)
  deriving DecidableEq, Repr

/-- A name, or nothing for a thing that has none. -/
def Value.name (name : Option String) : Value := (name.map .text).getD .nothing

/-- How a step ended. -/
inductive Answer where
  | ok (value : Value)
  | failed (error : HostError)
  /-- The step names something that does not exist. -/
  | unknown (name : String)
  | panicked (message : String)
  deriving DecidableEq, Repr

/-- The sentence for a name that does not exist. -/
def unknownMessage (name : String) : String :=
  "unknown name " ++ String.ofList (Json.writeString name)

end Hostlink.Scenario
