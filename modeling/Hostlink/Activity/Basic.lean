import Hostlink.Effect

/-!
# Activities

An activity is a program over the live objects: a tree of indivisible steps, of locks taken and
released, and of calls into code that the library does not know.  Such code belongs to a *client*;
what a client does when it is called is an activity again.

`Activity.run` performs an activity from start to end without interruption.  Each step, lock and
call is a node of its own, so the same activities can also be interleaved.

A lock is not reentrant: an activity that takes a lock which it already holds is stuck.  A panic
ends the whole activity and gives its locks free.
-/

namespace Hostlink

/-- The locks that activities take. -/
inductive Lock where
  /-- Guards the table of a bridge. -/
  | table (bridge : BridgeId)
  /-- Guards the handlers of an event. -/
  | handlers (event : EventId)
  /-- Guards the closing of a wrapper's native object. -/
  | closing (wrapper : WrapperId)
  deriving DecidableEq, Repr

/-- A call into the client's code. -/
inductive Upcall where
  /-- Calls a function of the client. -/
  | invoke (function : FunctionId) (argument : Payload)
  /-- Converts a native argument by the client's code. -/
  | convert (code : Nat) (argument : Payload)
  /-- Registers a native callback by the client's code. -/
  | register (code : Nat) (native : FunctionId)
  /-- Unregisters a native callback by the client's code. -/
  | unregister (code : Nat) (native : FunctionId)
  /-- Closes a native object. -/
  | close (native : Native)
  deriving DecidableEq, Repr

/-- The type of the answer to a call. -/
def Upcall.Reply : Upcall → Type
  | .invoke _ _ => Unit
  | .convert _ _ => Payload
  | .register _ _ => Unit
  | .unregister _ _ => Unit
  | .close _ => Except HostError Unit

/-- The live objects and the client's own state. -/
structure World (σ : Type) where
  objects : Objects
  client : σ

/-- A program over the live objects of a client with state `σ`. -/
inductive Activity (σ α : Type) : Type where
  /-- Ends with a result. -/
  | done (result : α)
  /-- Ends with a panic. -/
  | panicked (message : String)
  /-- Changes the objects in one step; what follows sees them as they were before. -/
  | step (effect : Effect) (next : Objects → Activity σ α)
  /-- Changes the client's own state in one step; what follows sees it as it was before. -/
  | own (change : σ → σ) (next : σ → Activity σ α)
  | acquire (lock : Lock) (next : Activity σ α)
  | release (lock : Lock) (next : Activity σ α)
  /-- Calls the client. -/
  | call (upcall : Upcall) (next : upcall.Reply → Activity σ α)

namespace Activity

variable {σ α β : Type}

/-- First one activity, then another one on its result. -/
def bind : Activity σ α → (α → Activity σ β) → Activity σ β
  | .done result, f => f result
  | .panicked message, _ => .panicked message
  | .step effect next, f => .step effect fun o => (next o).bind f
  | .own change next, f => .own change fun s => (next s).bind f
  | .acquire lock next, f => .acquire lock (next.bind f)
  | .release lock next, f => .release lock (next.bind f)
  | .call upcall next, f => .call upcall fun reply => (next reply).bind f

instance : Monad (Activity σ) where
  pure := .done
  bind := bind

theorem bind_done (a : Activity σ α) : a.bind .done = a := by
  induction a with
  | done result => rfl
  | panicked message => rfl
  | step effect next ih => simp only [bind, ih]
  | own change next ih => simp only [bind, ih]
  | acquire lock next ih => simp only [bind, ih]
  | release lock next ih => simp only [bind, ih]
  | call upcall next ih => simp only [bind, ih]

theorem bind_assoc {γ : Type} (a : Activity σ α) (f : α → Activity σ β) (g : β → Activity σ γ) :
    (a.bind f).bind g = a.bind fun x => (f x).bind g := by
  induction a with
  | done result => rfl
  | panicked message => rfl
  | step effect next ih => simp only [bind, ih]
  | own change next ih => simp only [bind, ih]
  | acquire lock next ih => simp only [bind, ih]
  | release lock next ih => simp only [bind, ih]
  | call upcall next ih => simp only [bind, ih]

instance : LawfulMonad (Activity σ) :=
  .mk' (Activity σ) bind_done (fun _ _ => rfl) bind_assoc

/-! ## Single steps -/

/-- Looks at the live objects. -/
def inspect (f : Objects → α) : Activity σ α := .step .look fun o => .done (f o)

/-- Changes the live objects. -/
def update (effect : Effect) : Activity σ Unit := .step effect fun _ => .done ()

/-- Changes the live objects; the result is what `f` sees before the change. -/
def exchange (f : Objects → α) (effect : Effect) : Activity σ α :=
  .step effect fun o => .done (f o)

/-- Looks at the client's state. -/
def clientState : Activity σ σ := .own id .done

/-- Changes the client's state. -/
def updateClient (f : σ → σ) : Activity σ Unit := .own f fun _ => .done ()

/-- Takes a lock. -/
def take (lock : Lock) : Activity σ Unit := .acquire lock (.done ())

/-- Gives a lock free. -/
def give (lock : Lock) : Activity σ Unit := .release lock (.done ())

/-- Calls the client. -/
def upcall (r : Upcall) : Activity σ r.Reply := .call r .done

/-- Reports a log event. -/
def report (event : Log.Event) : Activity σ Unit := update (.report event)

/-- Changes the live objects in a section of its own under a lock; the result is what `f` sees
before the change. -/
def locked (lock : Lock) (f : Objects → α) (effect : Effect) : Activity σ α :=
  .acquire lock (.step effect fun o => .release lock (.done (f o)))

/-- Runs an activity for each element of a list, in order. -/
def forEach (xs : List α) (f : α → Activity σ Unit) : Activity σ Unit :=
  match xs with
  | [] => .done ()
  | x :: rest => (f x).bind fun _ => forEach rest f

/-! ## Performing an activity -/

end Activity

/-- How an activity ended. -/
inductive Outcome (α : Type) where
  | returned (result : α)
  | panicked (message : String)
  /-- It waits for ever, or calls are nested too deeply. -/
  | stuck
  deriving DecidableEq, Repr

/-- What an activity leaves: how it ended, the locks that it still holds, and the world. -/
structure Ending (σ α : Type) where
  outcome : Outcome α
  held : List Lock
  world : World σ

/-- How calls into the client are answered, given the locks that the caller holds. -/
abbrev Service (σ : Type) := (r : Upcall) → List Lock → World σ → Ending σ r.Reply

/-- The service that never answers. -/
def Service.none {σ : Type} : Service σ := fun _ held w => ⟨.stuck, held, w⟩

namespace Ending

variable {σ α β : Type}

/-- What comes of an ending if more is to be done after a return. -/
def andThen (ending : Ending σ α) (next : α → List Lock → World σ → Ending σ β) : Ending σ β :=
  match ending.outcome with
  | .returned result => next result ending.held ending.world
  | .panicked message => ⟨.panicked message, ending.held, ending.world⟩
  | .stuck => ⟨.stuck, ending.held, ending.world⟩

end Ending

namespace Activity

variable {σ α β : Type}

/-- Performs an activity that holds some locks, with calls answered by a service. -/
def run (service : Service σ) : Activity σ α → List Lock → World σ → Ending σ α
  | .done result, held, w => ⟨.returned result, held, w⟩
  | .panicked message, _, w => ⟨.panicked message, [], w⟩
  | .step effect next, held, w =>
    (next w.objects).run service held { w with objects := effect.apply w.objects }
  | .own change next, held, w =>
    (next w.client).run service held { w with client := change w.client }
  | .acquire lock next, held, w =>
    if lock ∈ held then ⟨.stuck, held, w⟩ else next.run service (lock :: held) w
  | .release lock next, held, w => next.run service (held.erase lock) w
  | .call upcall next, held, w =>
    (service upcall held w).andThen fun reply held w => (next reply).run service held w

/-- What follows an activity starts with the locks and the world that the activity leaves. -/
theorem run_bind (service : Service σ) (a : Activity σ α) (f : α → Activity σ β)
    (held : List Lock) (w : World σ) :
    (a.bind f).run service held w
      = (a.run service held w).andThen fun result held w => (f result).run service held w := by
  induction a generalizing held w with
  | done result => rfl
  | panicked message => rfl
  | step effect next ih => simp only [bind, run, ih]
  | own change next ih => simp only [bind, run, ih]
  | acquire lock next ih =>
    simp only [bind, run]
    split
    · rfl
    · exact ih _ _
  | release lock next ih => simp only [bind, run, ih]
  | call upcall next ih =>
    simp only [bind, run]
    cases h : (service upcall held w).outcome with
    | returned reply => simp only [Ending.andThen, h, ih]
    | panicked message => simp only [Ending.andThen, h]
    | stuck => simp only [Ending.andThen, h]

end Activity

/-! ## Clients -/

/-- What the client does in a call, given how many further levels of calls it may cause. -/
abbrev Client (σ : Type) := Nat → (r : Upcall) → Activity σ r.Reply

namespace Client

variable {σ α : Type}

/-- Answers calls by the client's activities; calls from within these are answered down to
`depth` further levels. -/
def service (client : Client σ) : Nat → Service σ
  | 0, r, held, w => (client 0 r).run .none held w
  | depth + 1, r, held, w => (client (depth + 1) r).run (client.service depth) held w

/-- Performs an activity whose calls are nested at most `depth` levels below the first. -/
def perform (client : Client σ) (depth : Nat) (activity : Activity σ α) (w : World σ) :
    Outcome α × World σ :=
  let ending := activity.run (client.service depth) [] w
  (ending.outcome, ending.world)

end Client
end Hostlink
