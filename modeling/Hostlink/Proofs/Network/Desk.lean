import Hostlink.Proofs.Network.Machine

/-!
# A desk with sources and adapters

A run of commands against sources and adapters themselves.  The desk has the live objects and keeps
what it has made in lists, so a command can name it by its number.  Its client notes every call of
a callback and does nothing else.
-/

namespace Hostlink.Network

/-- The calls of callbacks that a client has noted. -/
abbrev Calls := List (FunctionId × Payload)

/-- The client that notes which functions are called, with their arguments. -/
def recorder : Client Calls := fun _ upcall =>
  match upcall with
  | .invoke f argument => Activity.updateClient (· ++ [(f, argument)])
  | .convert _ argument => .done argument
  | .register _ _ => .done ()
  | .unregister _ _ => .done ()
  | .close _ => .done (.ok ())

/-- Live objects, and what has been made, by number. -/
structure Desk where
  objects : Objects
  callbacks : List FunctionId
  sources : List SourceId
  adapters : List NetworkAdapter

namespace Desk

variable {α : Type}

/-- Nothing has been made. -/
def empty : Desk := ⟨.empty, [], [], []⟩

/-- Replies that there is nothing with the number. -/
def unknown (d : Desk) : Response × Desk := (⟨.unknown, []⟩, d)

/-- Goes on with the thing of a number. -/
def withNumber (d : Desk) (things : List α) (number : Nat) (next : α → Response × Desk) :
    Response × Desk :=
  match things[number]? with
  | some thing => next thing
  | none => d.unknown

/-- Performs an activity from start to end and reports how it ended and which callbacks it called;
what it returned may be kept. -/
def perform (d : Desk) (act : Activity Calls α) (reply : α → Reply) (keep : α → Desk → Desk) :
    Response × Desk :=
  let (outcome, w) := recorder.perform 0 act ⟨d.objects, []⟩
  let calls := w.client.map fun call => (d.callbacks.idxOf call.1, call.2)
  let d := { d with objects := w.objects }
  match outcome with
  | .returned result => (⟨reply result, calls⟩, keep result d)
  | .panicked message => (⟨.panicked message, calls⟩, d)
  | .stuck => (⟨.stuck, calls⟩, d)

/-- Performs an activity of which nothing is kept. -/
def use (d : Desk) (act : Activity Calls α) (reply : α → Reply) : Response × Desk :=
  d.perform act reply fun _ d => d

/-- The reply to what may fail. -/
def replyOf (reply : α → Reply) : Except HostError α → Reply
  | .ok result => reply result
  | .error e => .failed e

/-- Performs a command. -/
def step (d : Desk) : Command → Response × Desk
  | .makeSource address =>
    d.perform (SourceId.make address) (fun _ => .done) fun source d =>
      { d with sources := d.sources ++ [source] }
  | .makeAdapter source =>
    d.withNumber d.sources source fun source =>
      d.perform (NetworkAdapter.ofSource source) (fun _ => .done) fun adapter d =>
        { d with adapters := d.adapters ++ [adapter] }
  | .makeCallback =>
    d.perform FunctionId.make (fun _ => .done) fun callback d =>
      { d with callbacks := d.callbacks ++ [callback] }
  | .on adapter callback =>
    d.withNumber d.adapters adapter fun adapter =>
      d.withNumber d.callbacks callback fun callback =>
        d.use (adapter.on callback) (replyOf fun _ => .done)
  | .off adapter callback =>
    d.withNumber d.adapters adapter fun adapter =>
      d.withNumber d.callbacks callback fun callback => d.use (adapter.off callback) .flag
  | .record source available =>
    d.withNumber d.sources source fun source => d.use (source.record available) .flag
  | .poll adapter reachable =>
    d.withNumber d.adapters adapter fun adapter =>
      d.use (adapter.poll fun _ => reachable) (replyOf .flag)
  | .raise source available time =>
    d.withNumber d.sources source fun source =>
      d.use (source.changed.bind fun event => event.raise (.status ⟨available, some time⟩)) .count
  | .dispose adapter =>
    d.withNumber d.adapters adapter fun adapter => d.use adapter.dispose (replyOf fun _ => .done)
  | .drop adapter =>
    d.withNumber d.adapters adapter fun adapter => d.use adapter.drop fun _ => .done
  | .isAvailable adapter =>
    d.withNumber d.adapters adapter fun adapter => d.use adapter.isAvailable .flag
  | .countHandlers source =>
    d.withNumber d.sources source fun source => d.use (source.changed.bind EventId.count) .count

/-- The responses to commands in order. -/
def run (d : Desk) : List Command → List Response
  | [] => []
  | command :: rest =>
    let (response, d') := d.step command
    response :: d'.run rest

end Desk
end Hostlink.Network
