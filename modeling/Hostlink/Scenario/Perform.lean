import Hostlink.Scenario.State

/-!
# Performing steps

Each step is an activity of the scenario, which is the client of the library.  The scenario's own
code is called back with the number of levels that may still be nested; at the last level a
callback with steps only notes that the limit is reached.
-/

namespace Hostlink.Scenario

/-- An activity of a scenario. -/
abbrev Act := Activity State

/-- Adds an entry to the trace. -/
def log (entry : Entry) : Act Unit := Activity.updateClient (·.onTrace (·.log entry))

/-- Answers with a value. -/
def answer (value : Value) : Act Answer := .done (.ok value)

/-- Looks up a name and goes on with what it stands for. -/
def withName {α : Type} (names : State → List (String × α)) (name : String)
    (next : α → Act Answer) : Act Answer := do
  let s ← Activity.clientState
  match lookup? (names s) name with
  | some thing => next thing
  | none => return .unknown name

/-- Looks up a function. -/
def withFunction (name : String) (next : NamedFunction → Act Answer) : Act Answer :=
  withName (·.functions) name next

/-- Looks up an event. -/
def withEvent (name : String) (next : NamedEvent → Act Answer) : Act Answer :=
  withName (·.events) name next

/-- Looks up an event that need not be given. -/
def withEvent? (name : Option String) (next : Option EventId → Act Answer) : Act Answer :=
  match name with
  | none => next none
  | some name => withEvent name fun event => next (some event.id)

/-- Looks up a wrapper. -/
def withWrapper (name : String) (next : WrapperId → Act Answer) : Act Answer :=
  withName (·.wrappers) name next

/-- Looks up a bridge. -/
def withBridge (bridge : BridgeName) (next : BridgeId → Act Answer) : Act Answer :=
  match bridge with
  | .standalone name => withName (·.bridges) name next
  | .ofWrapper name => withWrapper name fun w => next (.ofWrapper w)

/-- The answer for an operation that returns nothing or fails. -/
def ofResult (result : Except HostError Unit) : Answer :=
  match result with
  | .ok _ => .ok .nothing
  | .error e => .failed e

/-! ## Attaching and detaching -/

/-- What the scenario does when a native callback is registered. -/
def performRegister (body : RegistrarBody) (native : FunctionId) : Act Unit := do
  let a := body.attachment
  Activity.updateClient fun s =>
    let count := s.registrations + 1
    let name := a.name.getD s!"#{count}"
    { s with
      registrations := count
      functions := bindName s.functions name ⟨native, a.key.native⟩ }
  let s ← Activity.clientState
  log (.registered (a.name.getD s!"#{s.registrations}"))
  match body.event with
  | some event => event.add native
  | none => pure ()
  match a.panic with
  | some message => .panicked message
  | none => return ()

/-- Records a conversion; the result is its number. -/
def addConversion (c : Conversion) : Act Nat := do
  let s ← Activity.clientState
  Activity.updateClient fun s => { s with conversions := s.conversions.insert c }
  return s.conversions.next

/-- Records how an attachment registers; the result is its number. -/
def addRegistrar (body : RegistrarBody) : Act Nat := do
  let s ← Activity.clientState
  Activity.updateClient fun s => { s with registrars := s.registrars.insert body }
  return s.registrars.next

/-- Attaches a callback. -/
def performAttach (a : Attachment) : Act Answer :=
  withBridge a.bridge fun bridge =>
  withFunction a.callback fun callback =>
  withEvent? a.event fun event => do
    let code ← addConversion a.conversion
    let registrar ← addRegistrar ⟨a, event⟩
    let result ← bridge.attach a.key callback.id (.client code) (.client registrar)
    match result with
    | .error e => return .failed e
    | .ok native =>
      let s ← Activity.clientState
      return .ok (.name (s.functionName? native))

/-- Detaches a callback, and removes its native callback from an event if one is given. -/
def performDetach (bridge : BridgeName) (key : MemberKey) (callback : String)
    (event : Option String) : Act Answer :=
  withBridge bridge fun bridge =>
  withFunction callback fun callback =>
  withEvent? event fun event => do
    let found ← bridge.tryDetach key callback.id
    let s ← Activity.clientState
    match found, event with
    | none, _ => return .ok .nothing
    | some native, none => return .ok (.name (s.functionName? native))
    | some native, some event =>
      let removed ← event.remove native
      return .ok (.detached (s.functionName? native) removed)

/-! ## Threads -/

/-- Attaches a function to a member and an event and detaches it again; adds up the successes. -/
def attachAndDetach (bridge : BridgeId) (key : MemberKey) (event : EventId) (converter : Converter)
    (function : FunctionId) (report : ThreadReport) : Act ThreadReport := do
  let attached ← bridge.attach key function converter (.addTo event)
  let found ← bridge.tryDetach key function
  let removed ←
    match found with
    | some native => event.remove native
    | none => pure false
  return { report with
    attached := report.attached + if attached.isOk then 1 else 0
    detached := report.detached + if removed then 1 else 0 }

/-- Repeats an activity on a value. -/
def repeatAct {α : Type} (act : Nat → α → Act α) : Nat → α → Act α
  | 0, value => .done value
  | n + 1, value => do
    let value ← repeatAct act n value
    act n value

/-- The work of all threads.  Every thread undoes what it does, so the order does not show. -/
def performThreads (bridge : BridgeName) (member event : String) (threads rounds : Nat) :
    Act Answer :=
  withBridge bridge fun bridge =>
  withEvent event fun event => do
    let key : MemberKey := ⟨member, .int, .int⟩
    let code ← addConversion ⟨.int, "", 0⟩
    let shared ← FunctionId.make
    let thread (_ : Nat) (report : ThreadReport) : Act ThreadReport := do
      let own ← FunctionId.make
      repeatAct (fun round report =>
        attachAndDetach bridge key event.id (.client code)
          (if round % 2 = 0 then shared else own) report) rounds report
    let report ← repeatAct thread threads ⟨0, 0, 0, 0⟩
    let length ← bridge.len member
    let handlers ← event.id.count
    return .ok (.threads { report with length, handlers })

/-! ## Wrappers -/

/-- Drops a wrapper unless it is still named or used. -/
def dropUnused (w : WrapperId) : Act Unit := do
  let s ← Activity.clientState
  if s.keepsWrapper w then return () else w.drop

/-- Uses a wrapper, which lives on meanwhile even if it loses its name. -/
def whileUsing {α : Type} (w : WrapperId) (act : Act α) : Act α := do
  Activity.updateClient fun s => { s with inUse := w :: s.inUse }
  let result ← act
  Activity.updateClient fun s => { s with inUse := s.inUse.erase w }
  dropUnused w
  return result

/-- Uses the wrapper that a bridge belongs to, if it belongs to one. -/
def usingOwner {α : Type} (bridge : BridgeId) (act : Act α) : Act α :=
  match bridge with
  | .standalone _ => act
  | .ofWrapper w => whileUsing w act

/-- Gives up the uses that a panic has cut short. -/
def endUses : Act Unit := do
  let s ← Activity.clientState
  Activity.updateClient fun s => { s with inUse := [] }
  Activity.forEach s.inUse.eraseDups dropUnused

/-- Makes a wrapper and names it; a wrapper that had the name is dropped after that. -/
def nameWrapper (name : String) (wrapper : Wrapper) : Act Answer := do
  let w ← WrapperId.make wrapper.ownership wrapper.native
  let s ← Activity.clientState
  Activity.updateClient fun s => { s with wrappers := bindName s.wrappers name w }
  match lookup? s.wrappers name with
  | some replaced => dropUnused replaced
  | none => pure ()
  answer (.text "made")

/-- Makes a wrapper in one of the ways. -/
def performMakeWrapper (name : String) (native : Option Native) (owned : Bool) (making : Making) :
    Act Answer :=
  let ownership : Ownership := if owned then .owned else .borrowed
  match making with
  | .checked | .direct =>
    match Wrapper.ofOptional ownership native with
    | .ok wrapper => nameWrapper name wrapper
    | .error e => return .failed e
  | .converted =>
    match Hostlink.Conversion.wrap native with
    | some wrapper => nameWrapper name wrapper
    | none => answer .nothing

/-- Looks up several wrappers. -/
def withWrappers (names : List String) (next : List WrapperId → Act Answer) : Act Answer :=
  match names with
  | [] => next []
  | name :: rest => withWrapper name fun w => withWrappers rest fun ws => next (w :: ws)

/-- Shows something on one line or on several. -/
def showText (onLines : Bool) (value : Text.Diagnostic) : Act Answer :=
  answer (.text (value.render onLines))

/-! ## Steps -/

/-- What a step does. -/
def perform : Step → Act Answer
  | .makeCallback name takes steps => do
    let f ← FunctionId.make
    Activity.updateClient fun s => { s with
      functions := bindName s.functions name ⟨f, takes⟩
      bodies := (f, ⟨name, steps⟩) :: s.bodies }
    answer .nothing
  | .makeEvent name takes => do
    let e ← EventId.make
    Activity.updateClient fun s => { s with events := bindName s.events name ⟨e, takes⟩ }
    answer .nothing
  | .addHandler event function =>
    withEvent event fun event => withFunction function fun function => do
      event.id.add function.id
      answer .nothing
  | .removeHandler event function =>
    withEvent event fun event => withFunction function fun function => do
      let removed ← event.id.remove function.id
      answer (.bool removed)
  | .raise event argument =>
    withEvent event fun event => do
      let count ← event.id.raise (argumentFor event.takes argument)
      answer (.nat count)
  | .countHandlers event =>
    withEvent event fun event => do
      let count ← event.id.count
      answer (.nat count)
  | .clearHandlers event =>
    withEvent event fun event => do
      event.id.clear
      answer .nothing
  | .showEvent event =>
    withEvent event fun event => do
      let shown ← event.id.shown
      showText false shown
  | .invoke function argument =>
    withFunction function fun function => do
      function.id.invoke (argumentFor function.takes argument)
      answer .nothing
  | .sameFunction a b =>
    withFunction a fun a => withFunction b fun b => answer (.bool (a.id = b.id))
  | .panic message => .panicked message
  | .makeBridge name => do
    let b ← BridgeId.make
    Activity.updateClient fun s => { s with bridges := bindName s.bridges name b }
    answer .nothing
  | .registerMember bridge key event steps tag =>
    withBridge bridge fun bridge => withEvent? event fun event => do
      let s ← Activity.clientState
      Activity.updateClient fun s => { s with hooks := s.hooks.insert ⟨key, event, steps, tag⟩ }
      bridge.registerMember key (.client s.hooks.next)
      answer .nothing
  | .attach attachment => performAttach attachment
  | .detach bridge key callback event => performDetach bridge key callback event
  | .memberLength bridge member =>
    withBridge bridge fun bridge => do
      let length ← bridge.len member
      answer (.nat length)
  | .totalLength bridge =>
    withBridge bridge fun bridge => do
      let length ← bridge.totalLen
      answer (.nat length)
  | .bridgeIsEmpty bridge =>
    withBridge bridge fun bridge => do
      let empty ← bridge.isEmpty
      answer (.bool empty)
  | .bridgeIsReleased bridge =>
    withBridge bridge fun bridge => do
      let released ← bridge.isReleased
      answer (.bool released)
  | .showBridge bridge onLines =>
    withBridge bridge fun bridge => do
      let shown ← bridge.shown
      showText onLines shown
  | .releaseAll bridge =>
    withBridge bridge fun bridge => do
      let released ← usingOwner bridge bridge.releaseAll
      answer (.nat released)
  | .runThreads bridge member event threads rounds =>
    performThreads bridge member event threads rounds
  | .makeNative name failures => do
    Activity.updateClient fun s => { s with
      natives := bindName s.natives name s.counters.next
      counters := s.counters.insert ⟨name, 0, failures, false⟩ }
    answer .nothing
  | .setFailures native failures panics =>
    withName (·.natives) native fun index => do
      Activity.updateClient fun s => { s with
        counters := s.counters.modify index fun c => { c with failures, panics } }
      answer .nothing
  | .countCloses native =>
    withName (·.natives) native fun index => do
      let s ← Activity.clientState
      answer (.nat (((s.counters.get? index).map (·.closes)).getD 0))
  | .makeWrapper name native owned making =>
    match native with
    | none => performMakeWrapper name none owned making
    | some native =>
      withName (·.natives) native fun index => do
        let s ← Activity.clientState
        performMakeWrapper name (some (s.native index)) owned making
  | .dispose wrapper =>
    withWrapper wrapper fun w => do
      let result ← whileUsing w w.dispose
      return ofResult result
  | .ensureLive wrapper =>
    withWrapper wrapper fun w => do
      let result ← w.ensureLive
      return ofResult result
  | .isDisposed wrapper =>
    withWrapper wrapper fun w => do
      let disposed ← w.isDisposed
      answer (.bool disposed)
  | .showOwnership wrapper =>
    withWrapper wrapper fun w => do
      let name ← w.view "" (·.ownership.name)
      answer (.text name)
  | .nativeOf wrapper =>
    withWrapper wrapper fun w => do
      let s ← Activity.clientState
      let name ← w.view "" fun w => s.nativeName w.native
      answer (.text name)
  | .showWrapper wrapper onLines =>
    withWrapper wrapper fun w => do
      let s ← Activity.clientState
      let shown ← w.view (.atom "") fun w => w.shown ("@" ++ s.nativeName w.native)
      showText onLines shown
  | .drop wrapper =>
    withWrapper wrapper fun w => do
      Activity.updateClient fun s => { s with wrappers := forget s.wrappers wrapper }
      dropUnused w
      answer .nothing
  | .equalWrappers a b =>
    withWrapper a fun a => withWrapper b fun b => do
      let same ← Activity.inspect fun o =>
        match o.wrapper? a, o.wrapper? b with
        | some a, some b => a.sameNative b
        | _, _ => false
      answer (.bool same)
  | .countDistinct wrappers =>
    withWrappers wrappers fun ws => do
      let natives ← Activity.inspect fun o => ws.filterMap fun w => (o.wrapper? w).map (·.native)
      answer (.nat natives.eraseDups.length)

/-! ## The scenario's own code -/

/-- Runs the steps of a callback or hook and logs what each one did. -/
def performNested (depth : Nat) (steps : List Step) : Act Unit :=
  if steps.isEmpty then .done ()
  else if depth = 0 then log .depthLimit
  else Activity.forEach steps fun step => do
    let result ← perform step
    log (.did step.word result)

/-- Runs the hook of a member for one native callback. -/
def performHook (depth : Nat) (hook : HookBody) (native : FunctionId) : Act Unit := do
  let removed ←
    match hook.event with
    | some event => some <$> event.remove native
    | none => pure none
  Activity.updateClient fun s =>
    s.onTrace (·.openHook ⟨hook.key, s.functionName? native, removed, hook.tag⟩)
  performNested depth hook.steps
  Activity.updateClient (·.onTrace (·.closeHook))

/-- Closes a native object: counts, then panics or fails if that is what it is set to do. -/
def performClose (native : Native) : Act (Except HostError Unit) := do
  let s ← Activity.clientState
  match s.counters.get? native.identity with
  | none => return .ok ()
  | some counter =>
    Activity.updateClient fun s => { s with
      counters := s.counters.modify native.identity fun c => { c with closes := c.closes + 1 } }
    log (.closed counter.label)
    if counter.panics then .panicked s!"close panicked: {counter.label}"
    else if counter.failures = 0 then return .ok ()
    else
      Activity.updateClient fun s => { s with
        counters := s.counters.modify native.identity fun c =>
          { c with failures := if 0 < c.failures then c.failures - 1 else c.failures } }
      return .error (.operationFailed s!"close failed: {counter.label}")

/-- The scenario as a client. -/
def client : Client State := fun depth call =>
  match call with
  | .invoke f argument => do
    let s ← Activity.clientState
    match s.bodies.find? (·.1 = f) with
    | none => return ()
    | some (_, body) =>
      log (.called body.label argument)
      performNested depth body.steps
  | .convert code argument => do
    let s ← Activity.clientState
    match s.conversions.get? code with
    | some conversion => (.done (conversion.apply argument) : Act Payload)
    | none => (.done argument : Act Payload)
  | .register code native => do
    let s ← Activity.clientState
    match s.registrars.get? code with
    | some body => performRegister body native
    | none => return ()
  | .unregister code native => do
    let s ← Activity.clientState
    match s.hooks.get? code with
    | some hook => performHook depth hook native
    | none => return ()
  | .close native => performClose native

/-! ## Whole scenarios -/

/-- How many levels of calls may be nested. -/
def maxLevels : Nat := 6

/-- The answer to a step and what it logged. -/
structure Report where
  answer : Answer
  log : List Entry

/-- Performs one step from start to end. -/
def runStep (w : World State) (step : Step) : Report × World State :=
  let (outcome, w) := client.perform maxLevels (perform step) w
  let answer :=
    match outcome with
    | .returned answer => answer
    | .panicked message => .panicked message
    | .stuck => .panicked "stuck"
  let (_, w) := client.perform maxLevels endUses w
  (⟨answer, w.client.trace.finish⟩, { w with client := w.client.onTrace fun _ => .empty })

/-- Performs the steps of a scenario in order. -/
def runSteps (w : World State) : List Step → List Report × World State
  | [] => ([], w)
  | step :: rest =>
    let (report, w) := runStep w step
    let (reports, w) := runSteps w rest
    (report :: reports, w)

/-- Performs a scenario whose native objects are of a type; the result also has the log events
that it caused. -/
def run (nativeType : String) (steps : List Step) : List Report × List Log.Event :=
  let (reports, w) := runSteps ⟨.empty, .initial nativeType⟩ steps
  (reports, w.objects.notices.reverse)

end Hostlink.Scenario
