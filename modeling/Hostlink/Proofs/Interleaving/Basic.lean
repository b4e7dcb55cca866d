import Hostlink.Proofs.Interleaving.Guarded

/-!
# Interleaved calls

Any number of threads call the library at the same time.  Each call performs the activity of its
operation, node by node, and the nodes of different calls may follow each other in any order; a
lock is taken only while no call has it.

The client is not fixed.  Whenever a thread has no call, or its innermost call waits for the
client, the client may begin any operation that the rule of the run allows, answer with anything,
or panic.  A call that panics gives its locks free, and the client's code that made the call goes
on as it likes.  So nested calls, callbacks, hooks and closes of every kind are among the runs.

Everything that happens is recorded.  Theorems are about the history of a reachable state, or
about its objects.
-/

namespace Hostlink.Interleaving

/-! ## What happens -/

/-- One thing that happens in a call of the library. -/
inductive Deed where
  | begun
  | took (lock : Lock)
  | gave (lock : Lock)
  | did (effect : Effect)
  /-- The client is called. -/
  | asked (upcall : Upcall)
  | answered (upcall : Upcall) (reply : upcall.Reply)
  /-- The client panics instead of answering. -/
  | failed (message : String)
  | returned (answer : Answer)
  | panicked (message : String)

/-- The objects after a deed. -/
def Deed.apply (deed : Deed) (o : Objects) : Objects :=
  match deed with
  | .did effect => effect.apply o
  | _ => o

/-- A deed, with the call in which it happened and the objects that it met. -/
structure Occurrence where
  call : Nat
  operation : Operation
  deed : Deed
  objects : Objects

/-- What has happened, the latest first. -/
abbrev History := List Occurrence

/-- What has happened in one call. -/
def logOf (h : History) (call : Nat) : History := h.filter (·.call = call)

/-- The locks that a call has, by its log.  A panic gives all of them free. -/
def held : History → List Lock
  | [] => []
  | x :: log =>
    match x.deed with
    | .took lock => lock :: held log
    | .gave lock => (held log).erase lock
    | .panicked _ => []
    | _ => held log

/-! ## Calls and threads -/

/-- How far a call has come. -/
inductive Progress where
  | running (rest : Activity Unit Answer)
  /-- The client has been called and has not answered yet. -/
  | waiting (upcall : Upcall) (next : upcall.Reply → Activity Unit Answer)
  | ended

/-- What a call can do next when it meets the objects `o`. -/
inductive Progress.Does (o : Objects) : Progress → Deed → Progress → Prop
  | step {effect next} : Does o (.running (.step effect next)) (.did effect) (.running (next o))
  | take {lock next} : Does o (.running (.acquire lock next)) (.took lock) (.running next)
  | give {lock next} : Does o (.running (.release lock next)) (.gave lock) (.running next)
  | ask {upcall next} :
    Does o (.running (.call upcall next)) (.asked upcall) (.waiting upcall next)
  | answer {upcall next} (reply) :
    Does o (.waiting upcall next) (.answered upcall reply) (.running (next reply))
  | fail {upcall next} (message) :
    Does o (.waiting upcall next) (.failed message) (.running (.panicked message))
  | finish {answer} : Does o (.running (.done answer)) (.returned answer) .ended
  | panic {message} : Does o (.running (.panicked message)) (.panicked message) .ended

/-- Whether it is the client's turn. -/
def Progress.IsWaiting : Progress → Prop
  | .waiting _ _ => True
  | _ => False

/-- A call that has not ended. -/
structure Frame where
  call : Nat
  thread : Nat
  operation : Operation
  progress : Progress

/-- What is left of a call that has come to `progress`. -/
def Frame.advance (frame : Frame) (progress : Progress) : List Frame :=
  match progress with
  | .ended => []
  | progress => [{ frame with progress }]

/-- The live objects, the calls that have not ended, and what has happened. -/
structure State where
  objects : Objects
  /-- The latest call first; of the calls of one thread it is the innermost. -/
  frames : List Frame
  /-- How many calls there have been. -/
  calls : Nat
  history : History

namespace State

/-- Before the first call. -/
def initial : State := ⟨.empty, [], 0, []⟩

/-- Whether the client may act on a thread: there is no call, or the innermost one waits. -/
def ClientTurn (s : State) (thread : Nat) : Prop :=
  ∀ frame, s.frames.find? (·.thread = thread) = some frame → frame.progress.IsWaiting

/-- Whether no call has a lock. -/
def Free (s : State) (lock : Lock) : Prop :=
  ∀ frame ∈ s.frames, lock ∉ held (logOf s.history frame.call)

/-- A new call of an operation. -/
def begin (s : State) (thread : Nat) (op : Operation) : State where
  objects := s.objects
  frames := ⟨s.calls, thread, op, .running op.activity⟩ :: s.frames
  calls := s.calls + 1
  history := ⟨s.calls, op, .begun, s.objects⟩ :: s.history

/-- A deed of one of the calls. -/
def move (s : State) (before : List Frame) (frame : Frame) (after : List Frame) (deed : Deed)
    (progress : Progress) : State where
  objects := deed.apply s.objects
  frames := before ++ (frame.advance progress ++ after)
  calls := s.calls
  history := ⟨frame.call, frame.operation, deed, s.objects⟩ :: s.history

end State

/-! ## Runs -/

/-- Which operations the client may begin, given the objects and what has happened. -/
abbrev Rule := Objects → History → Operation → Prop

/-- The rule that allows everything. -/
def Rule.any : Rule := fun _ _ _ => True

/-- One step of a run. -/
inductive Step (rule : Rule) : State → State → Prop
  | begin {s : State} (thread : Nat) {op : Operation} (turn : s.ClientTurn thread)
    (valid : op.Valid s.objects) (allowed : rule s.objects s.history op) :
    Step rule s (s.begin thread op)
  | move {s : State} {before : List Frame} {frame : Frame} {after : List Frame} {deed : Deed}
    {progress : Progress} (frames : s.frames = before ++ frame :: after)
    (innermost : ∀ other ∈ before, other.thread ≠ frame.thread)
    (does : frame.progress.Does s.objects deed progress)
    (free : ∀ lock, deed = .took lock → s.Free lock) :
    Step rule s (s.move before frame after deed progress)

/-- The states that runs under a rule can come to. -/
inductive Reachable (rule : Rule) : State → Prop
  | initial : Reachable rule .initial
  | step {s s' : State} : Reachable rule s → Step rule s s' → Reachable rule s'

/-! ## Logs -/

theorem logOf_cons_self {h : History} {x : Occurrence} {call : Nat} (hx : x.call = call) :
    logOf (x :: h) call = x :: logOf h call := by
  simp [logOf, hx]

theorem logOf_cons_of_ne {h : History} {x : Occurrence} {call : Nat} (hx : x.call ≠ call) :
    logOf (x :: h) call = logOf h call := by
  simp [logOf, hx]

theorem mem_logOf {h : History} {x : Occurrence} {call : Nat} :
    x ∈ logOf h call ↔ x ∈ h ∧ x.call = call := by
  simp [logOf]

end Hostlink.Interleaving
