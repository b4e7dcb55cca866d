import Hostlink.Json.Printer
import Hostlink.Network.Adapter

/-!
# Scenarios on network availability

Lists of steps over named sources, adapters and callbacks.  A callback may hold steps of its own,
which run whenever it is called.
-/

namespace Hostlink.Network

/-- How a source is made. -/
inductive Probe where
  | standard
  | address (given : String)
  deriving DecidableEq, Repr

/-- One step. -/
inductive Step where
  | makeSource (name : String) (probe : Probe)
  /-- Makes an adapter over a source, which may get a further name. -/
  | adaptSource (name source : String) (otherName : Option String)
  /-- Makes an adapter over a source of its own, which may get a name. -/
  | adaptProbe (name : String) (probe : Probe) (source : Option String)
  | makeCallback (name : String) (steps : List Step)
  | on (adapter callback : String)
  | off (adapter callback : String)
  | record (source : String) (value : Bool)
  | raise (source : String) (value : Bool) (time : Time.Instant)
  | isAvailable (adapter : String)
  | poll (adapter : String)
  | dispose (adapter : String)
  | drop (adapter : String)
  | sourceIsAvailable (source : String)
  | probeAddress (source : String)
  | countHandlers (source : String)
  | clearHandlers (source : String)
  | probe (source : String)
  | stopListening
  | unwrap (adapter : String)
  /-- Asks an adapter for a native object of another type. -/
  | unwrapAs (adapter typeName : String)
  | sameSource (a b : String)

instance : Inhabited Step := ⟨.stopListening⟩

/-- The word that a step goes by. -/
def Step.word : Step → String
  | .makeSource .. => "source"
  | .adaptSource .. => "adapter"
  | .adaptProbe .. => "adapter"
  | .makeCallback .. => "callback"
  | .on .. => "on"
  | .off .. => "off"
  | .record .. => "record"
  | .raise .. => "raise"
  | .isAvailable .. => "available"
  | .poll .. => "poll"
  | .dispose .. => "dispose"
  | .drop .. => "drop"
  | .sourceIsAvailable .. => "source_available"
  | .probeAddress .. => "probe_addr"
  | .countHandlers .. => "handlers"
  | .clearHandlers .. => "clear"
  | .probe .. => "probe"
  | .stopListening => "stop_listening"
  | .unwrap .. => "unwrap"
  | .unwrapAs .. => "unwrap_wrong"
  | .sameSource .. => "same_source"

/-- The value of a step that succeeded. -/
inductive Value where
  | nothing
  | bool (value : Bool)
  | nat (value : Nat)
  | text (value : String)
  deriving DecidableEq, Repr

/-- How a step ended. -/
inductive Answer where
  | ok (value : Value)
  | failed (error : HostError)
  /-- The step names something that does not exist. -/
  | unknown (name : String)
  | panicked (message : String)
  deriving DecidableEq, Repr

/-- The sentence for a name that does not exist. -/
def unknownMessage (name : String) : String :=
  "unknown name " ++ String.ofList (Json.writeString name)

/-- One entry of a log. -/
inductive Entry where
  | called (function : String) (observation : Availability)
  | did (step : String) (answer : Answer)
  | depthLimit
  deriving DecidableEq, Repr

/-- A callback of the scenario. -/
structure Body where
  label : String
  steps : List Step

/-- The state of a scenario.  In each list of names the latest one for a name counts. -/
structure State where
  sources : List (String × SourceId)
  adapters : List (String × NetworkAdapter)
  /-- The adapters that running steps use. -/
  inUse : List NetworkAdapter
  callbacks : List (String × FunctionId)
  bodies : List (FunctionId × Body)
  /-- The addresses that accept a connection. -/
  listening : List String
  /-- What has been logged, the latest entries first. -/
  log : List Entry

/-- An activity of a scenario. -/
abbrev Act := Activity State

/-- Adds an entry to the log. -/
def log (entry : Entry) : Act Unit :=
  Activity.updateClient fun s => { s with log := entry :: s.log }

/-- Answers with a value. -/
def answer (value : Value) : Act Answer := .done (.ok value)

/-- Looks up a name and goes on with what it stands for. -/
def withName {α : Type} (names : State → List (String × α)) (name : String)
    (next : α → Act Answer) : Act Answer := do
  let s ← Activity.clientState
  match (names s).find? (·.1 = name) with
  | some (_, thing) => next thing
  | none => return .unknown name

/-- Looks up a source. -/
def withSource (name : String) (next : SourceId → Act Answer) : Act Answer :=
  withName (·.sources) name next

/-- Looks up an adapter. -/
def withAdapter (name : String) (next : NetworkAdapter → Act Answer) : Act Answer :=
  withName (·.adapters) name next

/-- Looks up a callback. -/
def withCallback (name : String) (next : FunctionId → Act Answer) : Act Answer :=
  withName (·.callbacks) name next

/-- The address to probe. -/
def Probe.toAddress : Probe → String
  | .standard => SourceId.defaultProbeAddress
  | .address given => given

/-- Which addresses can be reached now. -/
def reachability : Act Reachability := do
  let s ← Activity.clientState
  return fun address => address ∈ s.listening

/-- Names a source. -/
def nameSource (name : String) (source : SourceId) : Act Unit :=
  Activity.updateClient fun s => { s with sources := (name, source) :: s.sources }

/-- Whether an adapter has a name or is used by a step that still runs. -/
def State.keepsAdapter (s : State) (adapter : NetworkAdapter) : Bool :=
  s.adapters.any (·.2 = adapter) || s.inUse.contains adapter

/-- Drops an adapter unless it is still named or used. -/
def dropUnused (adapter : NetworkAdapter) : Act Unit := do
  let s ← Activity.clientState
  if s.keepsAdapter adapter then return () else adapter.drop

/-- Uses an adapter, which lives on meanwhile even if it loses its name. -/
def whileUsing {α : Type} (adapter : NetworkAdapter) (act : Act α) : Act α := do
  Activity.updateClient fun s => { s with inUse := adapter :: s.inUse }
  let result ← act
  Activity.updateClient fun s => { s with inUse := s.inUse.erase adapter }
  dropUnused adapter
  return result

/-- Gives up the uses that a panic has cut short. -/
def endUses : Act Unit := do
  let s ← Activity.clientState
  Activity.updateClient fun s => { s with inUse := [] }
  Activity.forEach s.inUse.eraseDups dropUnused

/-- Takes a name away from an adapter and drops the adapter if nothing else keeps it. -/
def forgetAdapter (name : String) : Act Unit := do
  let s ← Activity.clientState
  Activity.updateClient fun s => { s with adapters := s.adapters.filter (·.1 ≠ name) }
  Activity.forEach ((s.adapters.filter (·.1 = name)).map (·.2)) dropUnused

/-- Makes an adapter over a source and names it and, if asked to, the source; an adapter that had
the name is dropped. -/
def nameAdapter (name : String) (source : SourceId) (otherName : Option String) : Act Answer := do
  let adapter ← NetworkAdapter.ofSource source
  match otherName with
  | some otherName => nameSource otherName source
  | none => pure ()
  forgetAdapter name
  Activity.updateClient fun s => { s with adapters := (name, adapter) :: s.adapters }
  answer .nothing

/-- What a step does. -/
def perform : Step → Act Answer
  | .makeSource name probe => do
    let source ← SourceId.make probe.toAddress
    nameSource name source
    answer .nothing
  | .adaptSource name source otherName =>
    withSource source fun source => nameAdapter name source otherName
  | .adaptProbe name probe otherName => do
    let source ← SourceId.make probe.toAddress
    nameAdapter name source otherName
  | .makeCallback name steps => do
    let f ← FunctionId.make
    Activity.updateClient fun s => { s with
      callbacks := (name, f) :: s.callbacks, bodies := (f, ⟨name, steps⟩) :: s.bodies }
    answer .nothing
  | .on adapter callback =>
    withAdapter adapter fun adapter => withCallback callback fun callback => do
      let result ← adapter.on callback
      match result with
      | .ok _ => answer .nothing
      | .error e => return .failed e
  | .off adapter callback =>
    withAdapter adapter fun adapter => withCallback callback fun callback => do
      let removed ← adapter.off callback
      answer (.bool removed)
  | .record source value =>
    withSource source fun source => do
      let changed ← source.record value
      answer (.bool changed)
  | .raise source value time =>
    withSource source fun source => do
      let event ← source.changed
      let count ← event.raise (.status ⟨value, some time⟩)
      answer (.nat count)
  | .isAvailable adapter =>
    withAdapter adapter fun adapter => do
      let available ← adapter.isAvailable
      answer (.bool available)
  | .poll adapter =>
    withAdapter adapter fun adapter => do
      let reachable ← reachability
      let result ← whileUsing adapter (adapter.poll reachable)
      match result with
      | .ok available => answer (.bool available)
      | .error e => return .failed e
  | .dispose adapter =>
    withAdapter adapter fun adapter => do
      let result ← adapter.dispose
      match result with
      | .ok _ => answer .nothing
      | .error e => return .failed e
  | .drop adapter =>
    withAdapter adapter fun _ => do
      forgetAdapter adapter
      answer .nothing
  | .sourceIsAvailable source =>
    withSource source fun source => do
      let available ← source.isAvailable
      answer (.bool available)
  | .probeAddress source =>
    withSource source fun source => do
      let address ← source.probeAddress
      answer (.text address)
  | .countHandlers source =>
    withSource source fun source => do
      let event ← source.changed
      let count ← event.count
      answer (.nat count)
  | .clearHandlers source =>
    withSource source fun source => do
      let event ← source.changed
      event.clear
      answer .nothing
  | .probe source =>
    withSource source fun source => do
      let reachable ← reachability
      let available ← source.probe reachable
      answer (.bool available)
  | .stopListening => do
    Activity.updateClient fun s => { s with listening := [] }
    answer .nothing
  | .unwrap adapter =>
    withAdapter adapter fun adapter =>
      match Conversion.rawNative SourceId.typeName adapter.adapter with
      | .ok native => answer (.bool (native = adapter.source.native))
      | .error e => return .failed e
  | .unwrapAs adapter typeName =>
    withAdapter adapter fun adapter =>
      match Conversion.rawNative typeName adapter.adapter with
      | .ok _ => answer (.bool true)
      | .error e => return .failed e
  | .sameSource a b =>
    withAdapter a fun a => withAdapter b fun b => answer (.bool (a.source = b.source))

/-- Runs the steps of a callback and logs what each one did. -/
def performNested (depth : Nat) (steps : List Step) : Act Unit :=
  if steps.isEmpty then .done ()
  else if depth = 0 then log .depthLimit
  else Activity.forEach steps fun step => do
    let result ← perform step
    log (.did step.word result)

/-- The scenario as a client: only its callbacks are its own code. -/
def client : Client State := fun depth call =>
  match call with
  | .invoke f argument => do
    let s ← Activity.clientState
    match s.bodies.find? (·.1 = f), argument with
    | some (_, body), .change observation =>
      log (.called body.label observation)
      performNested depth body.steps
    | _, _ => return ()
  | .convert _ argument => (.done argument : Act Payload)
  | .register _ _ => (.done () : Act Unit)
  | .unregister _ _ => (.done () : Act Unit)
  | .close _ => (.done (.ok ()) : Act (Except HostError Unit))

/-- How many levels of calls may be nested. -/
def maxLevels : Nat := 6

/-- The answer to a step and what it logged. -/
structure Report where
  answer : Answer
  log : List Entry

/-- Performs one step from start to end. -/
def runStep (w : World State) (step : Step) : Report × World State :=
  let (outcome, w) := client.perform maxLevels (perform step) w
  let answer :=
    match outcome with
    | .returned answer => answer
    | .panicked message => .panicked message
    | .stuck => .panicked "stuck"
  let (_, w) := client.perform maxLevels endUses w
  (⟨answer, w.client.log.reverse⟩, { w with client := { w.client with log := [] } })

/-- Performs the steps of a scenario in order. -/
def runSteps (w : World State) : List Step → List Report × World State
  | [] => ([], w)
  | step :: rest =>
    let (report, w) := runStep w step
    let (reports, w) := runSteps w rest
    (report :: reports, w)

/-- Performs a scenario while some addresses accept connections; the result also has the log
events that it caused. -/
def run (listening : List String) (steps : List Step) : List Report × List Log.Event :=
  let (reports, w) := runSteps ⟨.empty, ⟨[], [], [], [], [], listening, []⟩⟩ steps
  (reports, w.objects.notices.reverse)

end Hostlink.Network
