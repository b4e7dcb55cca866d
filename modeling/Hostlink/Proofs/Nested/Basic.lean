import Mathlib.Logic.Relation
import Hostlink.Proofs.Interleaving.Schedule

/-!
# Nested calls of one thread

A thread calls the library, the library calls the client, and the client may call the library again
before it answers.  Between two turns of the client an activity runs by itself, as far as
`Activity.proceed` says.  So a run of one thread is a stack of calls that wait for the client, and
each step goes from one turn of the client to the next: it begins a call, answers the innermost one,
or panics in it.

The client is not fixed; it may begin every operation that the rule of the run allows.  Every step is
recorded, with the objects that it met.  A schedule chooses the steps of one run, and can be computed.
-/

namespace Hostlink

variable {α β : Type}

/-! ## How far an activity goes -/

/-- Where an activity comes to by itself. -/
inductive Pause (α : Type) where
  | returned (result : α)
  | panicked (message : String)
  /-- It waits for ever. -/
  | stuck
  /-- It calls the client. -/
  | asks (upcall : Upcall) (next : upcall.Reply → Activity Unit α)

/-- What an activity leaves where it has come to. -/
structure Halt (α : Type) where
  pause : Pause α
  held : List Lock
  objects : Objects

/-- Performs an activity until it ends or calls the client. -/
def Activity.proceed : Activity Unit α → List Lock → Objects → Halt α
  | .done result, held, o => ⟨.returned result, held, o⟩
  | .panicked message, held, o => ⟨.panicked message, held, o⟩
  | .step effect next, held, o => (next o).proceed held (effect.apply o)
  | .own _ next, held, o => (next ()).proceed held o
  | .acquire lock next, held, o =>
    if lock ∈ held then ⟨.stuck, held, o⟩ else next.proceed (lock :: held) o
  | .release lock next, held, o => next.proceed (held.erase lock) o
  | .call upcall next, held, o => ⟨.asks upcall next, held, o⟩

namespace Halt

/-- What a service makes of what an activity leaves. -/
def finish (service : Service Unit) (halt : Halt α) : Ending Unit α :=
  match halt.pause with
  | .returned result => ⟨.returned result, halt.held, ⟨halt.objects, ()⟩⟩
  | .panicked message => ⟨.panicked message, [], ⟨halt.objects, ()⟩⟩
  | .stuck => ⟨.stuck, halt.held, ⟨halt.objects, ()⟩⟩
  | .asks upcall next =>
    (service upcall halt.held ⟨halt.objects, ()⟩).andThen fun reply held w =>
      (next reply).run service held w

/-- What is left if more is to be done after a return. -/
def andThen (halt : Halt α) (f : α → Activity Unit β) : Halt β :=
  match halt.pause with
  | .returned result => (f result).proceed halt.held halt.objects
  | .panicked message => ⟨.panicked message, halt.held, halt.objects⟩
  | .stuck => ⟨.stuck, halt.held, halt.objects⟩
  | .asks upcall next => ⟨.asks upcall fun reply => (next reply).bind f, halt.held, halt.objects⟩

end Halt

namespace Activity

/-- An activity that is run goes as far as it can, and then on with what the service answers. -/
theorem run_eq_proceed (service : Service Unit) (a : Activity Unit α) (held : List Lock)
    (o : Objects) : a.run service held ⟨o, ()⟩ = (a.proceed held o).finish service := by
  induction a generalizing held o with
  | done result => rfl
  | panicked message => rfl
  | step effect next ih => exact ih o held (effect.apply o)
  | own change next ih => exact ih () held o
  | acquire lock next ih =>
    rw [run, proceed]
    split
    · rfl
    · exact ih _ o
  | release lock next ih => exact ih _ o
  | call upcall next ih => rfl

theorem proceed_bind (a : Activity Unit α) (f : α → Activity Unit β) (held : List Lock)
    (o : Objects) : (a.bind f).proceed held o = (a.proceed held o).andThen f := by
  induction a generalizing held o with
  | done result => rfl
  | panicked message => rfl
  | step effect next ih => exact ih o held (effect.apply o)
  | own change next ih => exact ih () held o
  | acquire lock next ih =>
    rw [bind, proceed, proceed]
    split
    · rfl
    · exact ih _ o
  | release lock next ih => exact ih _ o
  | call upcall next ih => rfl

theorem proceed_exchange {held : List Lock} {o : Objects} (f : Objects → α) (effect : Effect)
    (next : α → Activity Unit β) :
    ((exchange f effect).bind next).proceed held o = (next (f o)).proceed held (effect.apply o) :=
  rfl

theorem proceed_inspect {held : List Lock} {o : Objects} (f : Objects → α)
    (next : α → Activity Unit β) :
    ((inspect f).bind next).proceed held o = (next (f o)).proceed held o :=
  rfl

theorem proceed_locked {held : List Lock} {o : Objects} {lock : Lock} (hlock : lock ∉ held)
    (f : Objects → α) (effect : Effect) (next : α → Activity Unit β) :
    ((locked lock f effect).bind next).proceed held o = (next (f o)).proceed held (effect.apply o) := by
  simp [locked, bind, proceed, hlock]

/-- An activity that returns without the client's help returns by itself. -/
theorem proceed_of_run {a : Activity Unit α} {held held' : List Lock} {o o' : Objects} {result : α}
    (h : a.run .none held ⟨o, ()⟩ = ⟨.returned result, held', ⟨o', ()⟩⟩) :
    a.proceed held o = ⟨.returned result, held', o'⟩ := by
  rw [run_eq_proceed] at h
  cases hhalt : a.proceed held o with
  | mk pause held₁ o₁ =>
    rw [hhalt] at h
    cases pause with
    | returned result₁ =>
      obtain ⟨hresult, hheld, hworld⟩ := Ending.mk.inj h
      obtain rfl := Outcome.returned.inj hresult
      obtain rfl : held₁ = held' := hheld
      obtain rfl : o₁ = o' := (World.mk.inj hworld).1
      rfl
    | panicked | stuck | asks => cases (Ending.mk.inj h).1

end Activity

namespace Nested

variable {ω : Type}

/-! ## Calls -/

/-- A call of the library. -/
structure Call (ω : Type) where
  number : Nat
  operation : ω
  /-- The objects that it found when it began. -/
  start : Objects
  /-- The locks that the thread had when it began. -/
  outer : List Lock

/-- What a step comes to. -/
inductive Event (α : Type) where
  /-- The call asks the client, after it has done so this many times before. -/
  | asked (turn : Nat) (upcall : Upcall)
  | returned (reply : α)
  | panicked (message : String)
  deriving DecidableEq

/-- What a step has come to, and the objects that it met. -/
structure Entry (ω α : Type) where
  call : Call ω
  event : Event α
  objects : Objects

/-- A call that waits for the client. -/
structure Frame (ω α : Type) where
  call : Call ω
  /-- How often it has asked before. -/
  turn : Nat
  pause : Pause α

/-- The live objects, the locks that the thread has, its calls, and what has happened. -/
structure State (ω α : Type) where
  objects : Objects
  held : List Lock
  /-- The calls that wait for the client, the innermost one first. -/
  stack : List (Frame ω α)
  /-- How many calls there have been. -/
  calls : Nat
  /-- The latest entry first. -/
  history : List (Entry ω α)

/-- What a client does in its turn. -/
inductive Choice (ω : Type) where
  | begin (op : ω)
  /-- The client answers the innermost call; a close succeeds. -/
  | answer
  /-- The client panics in the innermost call. -/
  | fail (message : String)

namespace State

/-- Before the first call. -/
def initial : State ω α := ⟨.empty, [], [], 0, []⟩

/-- The state when a call has come to `halt`.  A panic gives the locks of the call free.  A call that
waits for ever never comes to the next turn of the client. -/
def settle (s : State ω α) (call : Call ω) (turn calls : Nat) (outer : List (Frame ω α))
    (halt : Halt α) : Option (State ω α) :=
  match halt.pause with
  | .returned reply =>
    some ⟨halt.objects, halt.held, outer, calls, ⟨call, .returned reply, s.objects⟩ :: s.history⟩
  | .panicked message =>
    some ⟨halt.objects, call.outer, outer, calls, ⟨call, .panicked message, s.objects⟩ :: s.history⟩
  | .stuck => none
  | .asks upcall next =>
    some ⟨halt.objects, halt.held, ⟨call, turn, .asks upcall next⟩ :: outer, calls,
      ⟨call, .asked turn upcall, s.objects⟩ :: s.history⟩

/-- The state after the client has begun a call. -/
def begin (perform : ω → Activity Unit α) (s : State ω α) (op : ω) : Option (State ω α) :=
  s.settle ⟨s.calls, op, s.objects, s.held⟩ 0 (s.calls + 1) s.stack
    ((perform op).proceed s.held s.objects)

/-- The state after the client has let a call go on. -/
def resume (s : State ω α) (frame : Frame ω α) (outer : List (Frame ω α)) (rest : Activity Unit α) :
    Option (State ω α) :=
  s.settle frame.call (frame.turn + 1) s.calls outer (rest.proceed s.held s.objects)

end State

/-! ## Runs -/

/-- Which operations the client may begin. -/
abbrev Rule (ω α : Type) := State ω α → ω → Prop

variable (perform : ω → Activity Unit α) (rule : Rule ω α)

/-- One step of a run. -/
inductive Step : State ω α → State ω α → Prop
  | begin {s s' : State ω α} (op : ω) (allowed : rule s op) (settles : s.begin perform op = some s') :
    Step s s'
  | answer {s s' : State ω α} {frame : Frame ω α} {outer : List (Frame ω α)} {upcall : Upcall}
    {next : upcall.Reply → Activity Unit α} (reply : upcall.Reply) (stack : s.stack = frame :: outer)
    (asks : frame.pause = .asks upcall next) (settles : s.resume frame outer (next reply) = some s') :
    Step s s'
  | fail {s s' : State ω α} {frame : Frame ω α} {outer : List (Frame ω α)} (message : String)
    (stack : s.stack = frame :: outer)
    (settles : s.resume frame outer (.panicked message) = some s') : Step s s'

/-- Whether a run leads from one state to another. -/
abbrev Run : State ω α → State ω α → Prop := Relation.ReflTransGen (Step perform rule)

/-- The states that runs under a rule can come to. -/
abbrev Reachable (s : State ω α) : Prop := Run perform rule .initial s

/-! ## Schedules -/

namespace State

variable [∀ s op, Decidable (rule s op)]

/-- The state after a choice; one that is not possible changes nothing. -/
def choose (s : State ω α) : Choice ω → State ω α
  | .begin op => if rule s op then (s.begin perform op).getD s else s
  | .answer =>
    match s.stack with
    | ⟨call, turn, .asks upcall next⟩ :: outer =>
      (s.resume ⟨call, turn, .asks upcall next⟩ outer (next (upcall.reply (.ok ())))).getD s
    | _ => s
  | .fail message =>
    match s.stack with
    | frame :: outer => (s.resume frame outer (.panicked message)).getD s
    | [] => s

/-- The state after the choices of a schedule. -/
def follow (s : State ω α) (schedule : List (Choice ω)) : State ω α :=
  schedule.foldl (choose perform rule) s

end State

variable {perform rule} {s : State ω α}

theorem run_getD {next : Option (State ω α)}
    (h : ∀ s', next = some s' → Step perform rule s s') : Run perform rule s (next.getD s) := by
  cases next with
  | none => exact .refl
  | some s' => exact .single (h s' rfl)

/-- Every schedule makes a run. -/
theorem Run.follow [∀ s op, Decidable (rule s op)] (s : State ω α) (schedule : List (Choice ω)) :
    Run perform rule s (s.follow perform rule schedule) := by
  induction schedule generalizing s with
  | nil => exact .refl
  | cons choice rest ih =>
    refine .trans ?_ (ih (s.choose perform rule choice))
    cases choice with
    | begin op =>
      rw [State.choose]
      split
      next allowed => exact run_getD fun s' settles => .begin op allowed settles
      next => exact .refl
    | answer =>
      simp only [State.choose]
      split
      next stack => exact run_getD fun s' settles => .answer _ stack rfl settles
      next => exact .refl
    | fail message =>
      simp only [State.choose]
      split
      next stack => exact run_getD fun s' settles => .fail message stack settles
      next => exact .refl

end Nested
end Hostlink
