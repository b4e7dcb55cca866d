import Hostlink.Storage.Memory

/-!
# Operations on whole files

What reading and writing a whole file does with the stream, for every file system and whatever its
calls come to.

`FileSystem.recorded` is a file system that carries out the calls of another one and records them.
The operations run on it as they are, and without the record they are the operations on the other
file system (`recorded_readWhole`, `recorded_writeWhole`).  `Always` says what holds of every
result, with effects of any kind.
-/

namespace Hostlink.Storage

/-! ## Results of computations -/

section

variable {m : Type → Type} [Monad m] {α β : Type} {p : α → Prop} {q : β → Prop}

/-- Whether every result of a computation has a property: it computes results that have it. -/
def Always (p : α → Prop) (x : m α) : Prop := ∃ x' : m { a // p a }, Subtype.val <$> x' = x

namespace Always

variable [LawfulMonad m]

theorem pure {a : α} (h : p a) : Always p (pure a : m α) :=
  ⟨Pure.pure ⟨a, h⟩, map_pure _ _⟩

theorem bind {x : m α} {f : α → m β} (h : Always p x) (hf : ∀ a, p a → Always q (f a)) :
    Always q (x >>= f) := by
  obtain ⟨x', rfl⟩ := h
  refine ⟨x' >>= fun a => (hf a.1 a.2).choose, ?_⟩
  rw [map_bind, bind_map_left]
  exact bind_congr fun a => (hf a.1 a.2).choose_spec

theorem mono {q : α → Prop} {x : m α} (h : Always p x) (hpq : ∀ a, p a → q a) : Always q x := by
  obtain ⟨x', rfl⟩ := h
  exact ⟨(fun a => ⟨a.1, hpq a.1 a.2⟩) <$> x', by simp⟩

/-- Any result of any computation is a result. -/
theorem any (x : m α) : Always (fun _ => True) x := ⟨(⟨·, trivial⟩) <$> x, by simp⟩

/-- What follows a computation that may come to anything. -/
theorem after {x : m α} {f : α → m β} (hf : ∀ a, Always q (f a)) : Always q (x >>= f) :=
  (any x).bind fun a _ => hf a

end Always

/-- With a state as the only effect, every result is the result from some state. -/
theorem always_state {σ : Type} {x : StateM σ α} :
    Always p x ↔ ∀ s, p (x.run s).1 := by
  constructor
  · rintro ⟨x', rfl⟩ s
    exact (x' s).1.2
  · intro h
    exact ⟨fun s => (⟨(x.run s).1, h s⟩, (x.run s).2), rfl⟩

end

/-! ## Recording -/

/-- A call on a file system or on an open stream, with what it came to.  Streams are told apart by
the number of calls before they were opened. -/
inductive FileCall where
  | openRead (path : String) (opened : Except HostError Nat)
  | create (path : String) (opened : Except HostError Nat)
  | readToEnd (stream : Nat) (result : Except HostError Bytes)
  | writeAll (stream : Nat) (data : Bytes) (result : Except HostError Unit)
  | flush (stream : Nat) (result : Except HostError Unit)
  | dispose (stream : Nat) (result : Except HostError Unit)

/-- The calls made so far, the first one first. -/
abbrev Recording (m : Type → Type) := StateT (List FileCall) m

section

variable {m : Type → Type} [Monad m] {α : Type}

/-- Carries out a call and records what it came to. -/
def recording (act : m α) (call : α → FileCall) : Recording m α := fun calls => do
  let result ← act
  return (result, calls ++ [call result])

/-- A stream whose calls are recorded. -/
def FileStream.recorded (stream : FileStream m) (number : Nat) : FileStream (Recording m) where
  readToEnd := recording stream.readToEnd (.readToEnd number)
  writeAll data := recording (stream.writeAll data) (.writeAll number data)
  flush := recording stream.flush (.flush number)
  dispose := recording stream.dispose (.dispose number)

/-- Opens a stream whose calls are recorded. -/
def recordingOpen (act : m (Except HostError (FileStream m)))
    (call : Except HostError Nat → FileCall) :
    Recording m (Except HostError (FileStream (Recording m))) := fun calls => do
  let opened ← act
  return (opened.map (·.recorded calls.length), calls ++ [call (opened.map fun _ => calls.length)])

/-- A file system whose calls are recorded. -/
def FileSystem.recorded (fs : FileSystem m) : FileSystem (Recording m) where
  openRead path := recordingOpen (fs.openRead path) (.openRead path)
  create path := recordingOpen (fs.create path) (.create path)

/-! ## What the operations do -/

/-- What reading a whole file returns, and the calls that it makes. -/
inductive ReadsWhole (path : String) (stream : Nat) : Except HostError Bytes → List FileCall → Prop
  | refused (e : HostError) : ReadsWhole path stream (.error e) [.openRead path (.error e)]
  | opened (data : Except HostError Bytes) (disposed : Except HostError Unit) :
    ReadsWhole path stream (disposed.bind fun _ => data)
      [.openRead path (.ok stream), .readToEnd stream data, .dispose stream disposed]

/-- What writing a whole file returns, and the calls that it makes. -/
inductive WritesWhole (path : String) (data : Bytes) (stream : Nat) :
    Except HostError Unit → List FileCall → Prop
  | refused (e : HostError) : WritesWhole path data stream (.error e) [.create path (.error e)]
  | failed (e : HostError) (disposed : Except HostError Unit) :
    WritesWhole path data stream (disposed.bind fun _ => .error e)
      [.create path (.ok stream), .writeAll stream data (.error e), .dispose stream disposed]
  | written (flushed disposed : Except HostError Unit) :
    WritesWhole path data stream (disposed.bind fun _ => flushed)
      [.create path (.ok stream), .writeAll stream data (.ok ()), .flush stream flushed,
        .dispose stream disposed]

/-! ## Running the recorded operations -/

section

variable [LawfulMonad m] {β : Type} (before : List FileCall)

/-- A recorded call is made, and what follows it finds it recorded. -/
theorem run_recording_bind (act : m α) (call : α → FileCall) (next : α → Recording m β) :
    (recording act call >>= next).run before
      = act >>= fun result => (next result).run (before ++ [call result]) := by
  simp [recording, StateT.run, bind, StateT.bind]

theorem run_recordingOpen_bind (act : m (Except HostError (FileStream m)))
    (call : Except HostError Nat → FileCall)
    (next : Except HostError (FileStream (Recording m)) → Recording m β) :
    (recordingOpen act call >>= next).run before
      = act >>= fun opened => (next (opened.map (·.recorded before.length))).run
          (before ++ [call (opened.map fun _ => before.length)]) := by
  simp [recordingOpen, StateT.run, bind, StateT.bind]

theorem FileStream.run_finish (stream : FileStream m) (number : Nat) (result : Except HostError α) :
    ((stream.recorded number).finish result).run before
      = stream.dispose >>= fun disposed =>
          pure (disposed.bind fun _ => result, before ++ [.dispose number disposed]) := by
  refine (run_recording_bind before _ _ _).trans (bind_congr fun disposed => ?_)
  cases disposed <;> rfl

/-- Without the record a recorded disposal is a disposal. -/
theorem FileStream.fst_finish (stream : FileStream m) (result : Except HostError α)
    (calls : Except HostError Unit → List FileCall) :
    Prod.fst <$> (stream.dispose >>= fun disposed =>
      (pure (disposed.bind fun _ => result, calls disposed) : m _)) = stream.finish result := by
  rw [map_bind]
  refine bind_congr fun disposed => ?_
  rw [map_pure]
  cases disposed <;> rfl

theorem FileStream.run_writeAndFlush (stream : FileStream m) (number : Nat) (data : Bytes)
    (next : Except HostError Unit → Recording m β) :
    ((stream.recorded number).writeAndFlush data >>= next).run before
      = stream.writeAll data >>= fun written =>
          match written with
          | .error e => (next (.error e)).run (before ++ [.writeAll number data (.error e)])
          | .ok _ => stream.flush >>= fun flushed => (next flushed).run
              (before ++ [.writeAll number data (.ok ())] ++ [.flush number flushed]) := by
  unfold FileStream.writeAndFlush
  rw [bind_assoc]
  refine (run_recording_bind before _ _ _).trans (bind_congr fun written => ?_)
  cases written with
  | error e => simp
  | ok _ => exact run_recording_bind _ _ _ _

end

namespace FileSystem

variable [LawfulMonad m] (fs : FileSystem m) (path : String) (data : Bytes)
  (before : List FileCall)

/-- A recorded read, call by call. -/
theorem run_readWhole : (fs.recorded.readWhole path).run before
    = fs.openRead path >>= fun opened =>
        match opened with
        | .error e => pure (.error e, before ++ [.openRead path (.error e)])
        | .ok stream => stream.readToEnd >>= fun data => stream.dispose >>= fun disposed =>
            pure (disposed.bind fun _ => data, before ++ [.openRead path (.ok before.length),
              .readToEnd before.length data, .dispose before.length disposed]) := by
  refine (run_recordingOpen_bind before _ _ _).trans (bind_congr fun opened => ?_)
  cases opened with
  | error e => rfl
  | ok stream =>
    refine (run_recording_bind _ _ _ _).trans (bind_congr fun data => ?_)
    rw [FileStream.run_finish]
    simp [Except.map]

/-- A recorded write, call by call. -/
theorem run_writeWhole : (fs.recorded.writeWhole path data).run before
    = fs.create path >>= fun opened =>
        match opened with
        | .error e => pure (.error e, before ++ [.create path (.error e)])
        | .ok stream => stream.writeAll data >>= fun written =>
            match written with
            | .error e => stream.dispose >>= fun disposed =>
                pure (disposed.bind fun _ => .error e, before ++ [.create path (.ok before.length),
                  .writeAll before.length data (.error e), .dispose before.length disposed])
            | .ok _ => stream.flush >>= fun flushed => stream.dispose >>= fun disposed =>
                pure (disposed.bind fun _ => flushed, before ++ [.create path (.ok before.length),
                  .writeAll before.length data (.ok ()), .flush before.length flushed,
                  .dispose before.length disposed]) := by
  refine (run_recordingOpen_bind before _ _ _).trans (bind_congr fun opened => ?_)
  cases opened with
  | error e => rfl
  | ok stream =>
    refine (FileStream.run_writeAndFlush _ _ _ _ _).trans (bind_congr fun written => ?_)
    cases written with
    | error e =>
      dsimp only
      rw [FileStream.run_finish]
      simp [Except.map]
    | ok _ =>
      refine bind_congr fun flushed => ?_
      rw [FileStream.run_finish]
      simp [Except.map]

/-- Without the record a recorded read is a read. -/
theorem recorded_readWhole :
    Prod.fst <$> (fs.recorded.readWhole path).run before = fs.readWhole path := by
  rw [run_readWhole, map_bind]
  refine bind_congr fun opened => ?_
  cases opened with
  | error e => exact map_pure _ _
  | ok stream =>
    dsimp only
    rw [map_bind]
    exact bind_congr fun data => stream.fst_finish data _

theorem always_readWhole :
    Always (fun r => ∃ calls, r.2 = before ++ calls ∧ ReadsWhole path before.length r.1 calls)
      ((fs.recorded.readWhole path).run before) := by
  rw [run_readWhole]
  refine .after fun opened => ?_
  cases opened with
  | error e => exact .pure ⟨_, rfl, .refused e⟩
  | ok stream =>
    exact .after fun data => .after fun disposed => .pure ⟨_, rfl, .opened data disposed⟩

/-- Without the record a recorded write is a write. -/
theorem recorded_writeWhole :
    Prod.fst <$> (fs.recorded.writeWhole path data).run before = fs.writeWhole path data := by
  rw [run_writeWhole, map_bind]
  refine bind_congr fun opened => ?_
  cases opened with
  | error e => exact map_pure _ _
  | ok stream =>
    dsimp only [FileStream.writeAndFlush]
    rw [map_bind, bind_assoc]
    refine bind_congr fun written => ?_
    cases written with
    | error e =>
      rw [pure_bind]
      exact stream.fst_finish _ _
    | ok _ =>
      dsimp only
      rw [map_bind]
      exact bind_congr fun flushed => stream.fst_finish flushed _

theorem always_writeWhole :
    Always (fun r => ∃ calls, r.2 = before ++ calls ∧ WritesWhole path data before.length r.1 calls)
      ((fs.recorded.writeWhole path data).run before) := by
  rw [run_writeWhole]
  refine .after fun opened => ?_
  cases opened with
  | error e => exact .pure ⟨_, rfl, .refused e⟩
  | ok stream =>
    refine .after fun written => ?_
    cases written with
    | error e => exact .after fun disposed => .pure ⟨_, rfl, .failed e disposed⟩
    | ok _ =>
      exact .after fun flushed => .after fun disposed => .pure ⟨_, rfl, .written flushed disposed⟩

end FileSystem

end

/-! ## The law -/

/-- Whether a call reads, writes or flushes a stream. -/
def FileCall.Works (stream : Nat) : FileCall → Prop
  | .readToEnd n _ | .writeAll n _ _ | .flush n _ => n = stream
  | .openRead _ _ | .create _ _ | .dispose _ _ => False

/-- Whether a stream is opened by a call, worked with, and then disposed of: once, and last. -/
def DisposedLast (opening : FileCall) (stream : Nat) (calls : List FileCall) : Prop :=
  ∃ work disposed, calls = opening :: work ++ [.dispose stream disposed] ∧
    ∀ call ∈ work, call.Works stream

/-- The law of reading a whole file that returns a result and makes some calls. -/
structure ReadLaw (path : String) (result : Except HostError Bytes) (calls : List FileCall) :
    Prop where
  /-- The file is opened, first of all. -/
  opens : ∃ opened later, calls = .openRead path opened :: later
  /-- A file that cannot be opened is all that there is to it. -/
  refused : ∀ e, .openRead path (.error e) ∈ calls →
    calls = [.openRead path (.error e)] ∧ result = .error e
  /-- The stream that is opened is disposed of once, after all work with it. -/
  disposed : ∀ stream, .openRead path (.ok stream) ∈ calls →
    DisposedLast (.openRead path (.ok stream)) stream calls
  /-- The bytes returned are those that were read from the stream, and all has gone well. -/
  returned : ∀ bytes, result = .ok bytes ↔ ∃ stream, .openRead path (.ok stream) ∈ calls ∧
    .readToEnd stream (.ok bytes) ∈ calls ∧ .dispose stream (.ok ()) ∈ calls

/-- The law of writing a whole file that returns a result and makes some calls. -/
structure WriteLaw (path : String) (data : Bytes) (result : Except HostError Unit)
    (calls : List FileCall) : Prop where
  /-- The file is opened, first of all. -/
  opens : ∃ opened later, calls = .create path opened :: later
  /-- A file that cannot be opened is all that there is to it. -/
  refused : ∀ e, .create path (.error e) ∈ calls →
    calls = [.create path (.error e)] ∧ result = .error e
  /-- The stream that is opened is disposed of once, after all work with it. -/
  disposed : ∀ stream, .create path (.ok stream) ∈ calls →
    DisposedLast (.create path (.ok stream)) stream calls
  /-- The data is written to the stream at once, and nothing else is. -/
  written : ∀ stream, .create path (.ok stream) ∈ calls → ∃ written later,
    calls = .create path (.ok stream) :: .writeAll stream data written :: later ∧
      ∀ n bytes again, .writeAll n bytes again ∉ later
  /-- The stream is flushed only after the write has gone well. -/
  flushed : ∀ earlier stream result later, calls = earlier ++ .flush stream result :: later →
    .writeAll stream data (.ok ()) ∈ earlier
  /-- The operation goes well if and only if all has gone well. -/
  returned : result = .ok () ↔ ∃ stream, .create path (.ok stream) ∈ calls ∧
    .writeAll stream data (.ok ()) ∈ calls ∧ .flush stream (.ok ()) ∈ calls ∧
    .dispose stream (.ok ()) ∈ calls

theorem ReadsWhole.law {path : String} {stream : Nat} {result : Except HostError Bytes}
    {calls : List FileCall} (h : ReadsWhole path stream result calls) :
    ReadLaw path result calls := by
  cases h with
  | refused e =>
    constructor
    case opens => exact ⟨_, _, rfl⟩
    case refused => simp
    case disposed => simp
    case returned => simp
  | opened data disposed =>
    constructor
    case opens => exact ⟨_, _, rfl⟩
    case refused => simp
    case disposed =>
      intro number hmem
      obtain rfl : number = stream := by simpa using hmem
      exact ⟨[.readToEnd number data], disposed, rfl, by simp [FileCall.Works]⟩
    case returned =>
      intro bytes
      cases disposed <;> simp [Except.bind, eq_comm]

/-- What comes before another element begins with the first one. -/
theorem exists_cons_of_split {α : Type} {first x : α} {rest earlier later : List α}
    (h : first :: rest = earlier ++ x :: later) (hne : x ≠ first) :
    ∃ front, earlier = first :: front ∧ rest = front ++ x :: later := by
  rcases List.cons_eq_append_iff.mp h with ⟨_, hx⟩ | hfront
  · exact absurd (List.cons.inj hx).1 hne
  · exact hfront

theorem WritesWhole.law {path : String} {data : Bytes} {stream : Nat}
    {result : Except HostError Unit} {calls : List FileCall}
    (h : WritesWhole path data stream result calls) : WriteLaw path data result calls := by
  cases h with
  | refused e =>
    constructor
    case opens => exact ⟨_, _, rfl⟩
    case refused => simp
    case disposed => simp
    case written => simp
    case flushed => simp [List.cons_eq_append_iff]
    case returned => simp
  | failed e disposed =>
    constructor
    case opens => exact ⟨_, _, rfl⟩
    case refused => simp
    case disposed =>
      intro number hmem
      obtain rfl : number = stream := by simpa using hmem
      exact ⟨[.writeAll number data (.error e)], disposed, rfl, by simp [FileCall.Works]⟩
    case written =>
      intro number hmem
      obtain rfl : number = stream := by simpa using hmem
      exact ⟨_, _, rfl, by simp⟩
    case flushed => simp [List.cons_eq_append_iff]
    case returned => cases disposed <;> simp [Except.bind]
  | written flushed disposed =>
    constructor
    case opens => exact ⟨_, _, rfl⟩
    case refused => simp
    case disposed =>
      intro number hmem
      obtain rfl : number = stream := by simpa using hmem
      exact ⟨[.writeAll number data (.ok ()), .flush number flushed], disposed, rfl,
        by simp [FileCall.Works]⟩
    case written =>
      intro number hmem
      obtain rfl : number = stream := by simpa using hmem
      exact ⟨_, _, rfl, by simp⟩
    case flushed =>
      intro earlier number result later hsplit
      obtain ⟨rest, rfl, hrest⟩ := exists_cons_of_split hsplit (by simp)
      obtain ⟨rest', rfl, hrest'⟩ := exists_cons_of_split hrest (by simp)
      have hmem : FileCall.flush number result ∈ rest' ++ .flush number result :: later := by simp
      obtain ⟨rfl, _⟩ : number = stream ∧ result = flushed := by simpa [← hrest'] using hmem
      simp
    case returned => cases disposed <;> simp [Except.bind, eq_comm]

/-- What operations on whole files do, whatever calls have been recorded before. -/
structure WholeFileLaw {m : Type → Type} [Monad m] (fs : FileSystem m) : Prop where
  /-- A recorded read is a read, and keeps the law of reading. -/
  read : ∀ path before,
    Prod.fst <$> (fs.recorded.readWhole path).run before = fs.readWhole path ∧
      Always (fun r => ∃ calls, r.2 = before ++ calls ∧ ReadLaw path r.1 calls)
        ((fs.recorded.readWhole path).run before)
  /-- A recorded write is a write, and keeps the law of writing. -/
  write : ∀ path data before,
    Prod.fst <$> (fs.recorded.writeWhole path data).run before = fs.writeWhole path data ∧
      Always (fun r => ∃ calls, r.2 = before ++ calls ∧ WriteLaw path data r.1 calls)
        ((fs.recorded.writeWhole path data).run before)

/-- Operations on whole files keep their law on every file system. -/
theorem whole_files_disposed {m : Type → Type} [Monad m] [LawfulMonad m] (fs : FileSystem m) :
    WholeFileLaw fs := by
  constructor
  case read =>
    intro path before
    refine ⟨fs.recorded_readWhole path before, (fs.always_readWhole path before).mono ?_⟩
    rintro r ⟨calls, hcalls, hreads⟩
    exact ⟨calls, hcalls, hreads.law⟩
  case write =>
    intro path data before
    refine ⟨fs.recorded_writeWhole path data before,
      (fs.always_writeWhole path data before).mono ?_⟩
    rintro r ⟨calls, hcalls, hwrites⟩
    exact ⟨calls, hcalls, hwrites.law⟩

/-- The file system in memory, with a flush that fails: the file is written and the stream disposed
of, and the failure is returned. -/
theorem whole_files_disposed_memory :
    let full := HostError.operationFailed "disk full"
    let run := (Memory.fileSystem.recorded.writeWhole "a" [1, 2]).run []
    WholeFileLaw Memory.fileSystem ∧
      (run.run ⟨[], [], [(.flush, full)]⟩).1 = (.error full, [.create "a" (.ok 0),
        .writeAll 0 [1, 2] (.ok ()), .flush 0 (.error full), .dispose 0 (.ok ())]) ∧
      WriteLaw "a" [1, 2] (.error full) [.create "a" (.ok 0), .writeAll 0 [1, 2] (.ok ()),
        .flush 0 (.error full), .dispose 0 (.ok ())] := by
  have hlaw : WholeFileLaw Memory.fileSystem := whole_files_disposed Memory.fileSystem
  intro full run
  have hrun : (run.run ⟨[], [], [(.flush, full)]⟩).1 = (.error full, [.create "a" (.ok 0),
      .writeAll 0 [1, 2] (.ok ()), .flush 0 (.error full), .dispose 0 (.ok ())]) := rfl
  obtain ⟨calls, hcalls, hwrites⟩ :=
    always_state.mp (hlaw.write "a" [1, 2] []).2 ⟨[], [], [(.flush, full)]⟩
  refine ⟨hlaw, hrun, ?_⟩
  rw [hrun] at hcalls hwrites
  rw [show calls = _ from hcalls.symm] at hwrites
  exact hwrites

end Hostlink.Storage
