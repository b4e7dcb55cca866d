import Hostlink.Proofs.Storage.WholeFile

/-!
# What a failed operation on a whole file reports

Work with the stream can fail, and so can the disposal that follows it, but only one failure can be
returned.  `CauseLaw` says which: the first failure of the work if the disposal goes well, and
otherwise the failure to dispose, which the cause then is lost behind.
-/

namespace Hostlink.Storage

/-! ## The cause of a failure -/

/-- The failure of a call that reads, writes or flushes. -/
def FileCall.fault? : FileCall → Option HostError
  | .readToEnd _ (.error e) | .writeAll _ _ (.error e) | .flush _ (.error e) => some e
  | _ => none

/-- The first failure of the work with a stream. -/
def firstFault? (calls : List FileCall) : Option HostError := calls.findSome? FileCall.fault?

/-- Which failure an operation on a whole file returns, given the calls that it made. -/
structure CauseLaw {α : Type} (result : Except HostError α) (calls : List FileCall) : Prop where
  /-- After work that has failed the stream is disposed of. -/
  disposed : ∀ e, firstFault? calls = some e → ∃ stream disposed, .dispose stream disposed ∈ calls
  /-- If the disposal goes well, the failure returned is the first one of the work. -/
  kept : ∀ stream, .dispose stream (.ok ()) ∈ calls →
    ∀ e, result = .error e ↔ firstFault? calls = some e
  /-- A failure to dispose is returned, whatever has happened before. -/
  masked : ∀ stream e, .dispose stream (.error e) ∈ calls → result = .error e

namespace CauseLaw

variable {α : Type} {stream : Nat} {work : Except HostError α}

/-- A file that cannot be opened leaves nothing to work with. -/
theorem refused {opening : FileCall} {result : Except HostError α} (hfault : opening.fault? = none)
    (hopening : ∀ stream disposed, opening ≠ .dispose stream disposed) :
    CauseLaw result [opening] := by
  constructor
  case disposed => simp [firstFault?, hfault]
  case kept =>
    intro stream hmem
    exact absurd (List.mem_singleton.mp hmem).symm (hopening _ _)
  case masked =>
    intro stream e hmem
    exact absurd (List.mem_singleton.mp hmem).symm (hopening _ _)

/-- An operation that disposes of its stream last, after work that fails with its first fault. -/
theorem finished (front : List FileCall)
    (hfront : ∀ stream disposed, .dispose stream disposed ∉ front)
    (hwork : ∀ e, work = .error e ↔ firstFault? front = some e)
    (disposed : Except HostError Unit) :
    CauseLaw (disposed.bind fun _ => work) (front ++ [.dispose stream disposed]) := by
  have hfault : firstFault? (front ++ [.dispose stream disposed]) = firstFault? front := by
    simp [firstFault?, FileCall.fault?, List.findSome?_append]
  have hdisposal : ∀ {number outcome},
      .dispose number outcome ∈ front ++ [.dispose stream disposed] → outcome = disposed := by
    intro number outcome hmem
    rcases List.mem_append.mp hmem with hin | hlast
    · exact absurd hin (hfront _ _)
    · exact (FileCall.dispose.inj (List.mem_singleton.mp hlast)).2
  constructor
  case disposed => exact fun e _ => ⟨stream, disposed, by simp⟩
  case kept =>
    intro number hmem e
    obtain rfl := hdisposal hmem
    rw [hfault]
    exact hwork e
  case masked =>
    intro number e hmem
    obtain rfl := hdisposal hmem
    rfl

end CauseLaw

theorem ReadsWhole.causeLaw {path : String} {stream : Nat} {result : Except HostError Bytes}
    {calls : List FileCall} (h : ReadsWhole path stream result calls) : CauseLaw result calls := by
  cases h with
  | refused e => exact .refused rfl nofun
  | opened data disposed =>
    refine .finished [.openRead path (.ok stream), .readToEnd stream data] (by simp) (fun e => ?_)
      disposed
    cases data <;> simp [firstFault?, List.findSome?_cons, FileCall.fault?]

theorem WritesWhole.causeLaw {path : String} {data : Bytes} {stream : Nat}
    {result : Except HostError Unit} {calls : List FileCall}
    (h : WritesWhole path data stream result calls) : CauseLaw result calls := by
  cases h with
  | refused e => exact .refused rfl nofun
  | failed e disposed =>
    refine .finished [.create path (.ok stream), .writeAll stream data (.error e)] (by simp)
      (fun e' => ?_) disposed
    simp [firstFault?, List.findSome?_cons, FileCall.fault?]
  | written flushed disposed =>
    refine .finished
      [.create path (.ok stream), .writeAll stream data (.ok ()), .flush stream flushed] (by simp)
      (fun e => ?_) disposed
    cases flushed <;> simp [firstFault?, List.findSome?_cons, FileCall.fault?]

/-! ## The law -/

/-- Every operation on a whole file keeps a law about its result and the calls that it makes. -/
structure WholeFilesKeep {m : Type → Type} [Monad m] (fs : FileSystem m)
    (law : {α : Type} → Except HostError α → List FileCall → Prop) : Prop where
  /-- A recorded read is a read, and keeps the law. -/
  read : ∀ path, Prod.fst <$> (fs.recorded.readWhole path).run [] = fs.readWhole path ∧
    Always (fun r => law r.1 r.2) ((fs.recorded.readWhole path).run [])
  /-- A recorded write is a write, and keeps the law. -/
  write : ∀ path data,
    Prod.fst <$> (fs.recorded.writeWhole path data).run [] = fs.writeWhole path data ∧
      Always (fun r => law r.1 r.2) ((fs.recorded.writeWhole path data).run [])

/-- The cause of a failed operation is returned unless the stream cannot be disposed of. -/
theorem cause_kept_unless_masked {m : Type → Type} [Monad m] [LawfulMonad m] (fs : FileSystem m) :
    WholeFilesKeep fs CauseLaw := by
  constructor
  case read =>
    intro path
    refine ⟨fs.recorded_readWhole path [], (fs.always_readWhole path []).mono ?_⟩
    rintro r ⟨calls, rfl, hreads⟩
    exact hreads.causeLaw
  case write =>
    intro path data
    refine ⟨fs.recorded_writeWhole path data [], (fs.always_writeWhole path data []).mono ?_⟩
    rintro r ⟨calls, hcalls, hwrites⟩
    rw [hcalls]
    exact hwrites.causeLaw

/-- The file system in memory with a disk that is full: the stream is disposed of, and the failure
to write is returned. -/
theorem cause_kept_unless_masked_memory :
    let full := HostError.operationFailed "disk full"
    let run := (Memory.fileSystem.recorded.writeWhole "a" [1, 2]).run []
    let calls := [.create "a" (.ok 0), .writeAll 0 [1, 2] (.error full), .dispose 0 (.ok ())]
    WholeFilesKeep Memory.fileSystem CauseLaw ∧
      (run.run ⟨[], [], [(.write, full)]⟩).1 = (.error full, calls) ∧
      CauseLaw (.error full : Except HostError Unit) calls := by
  have hlaw : WholeFilesKeep Memory.fileSystem CauseLaw :=
    cause_kept_unless_masked Memory.fileSystem
  exact ⟨hlaw, rfl, always_state.mp (hlaw.write "a" [1, 2]).2
    ⟨[], [], [(.write, .operationFailed "disk full")]⟩⟩

/-- Whether an operation whose work has failed returns the first failure of it. -/
def CauseReturned {α : Type} (result : Except HostError α) (calls : List FileCall) : Prop :=
  ∀ e, firstFault? calls = some e → result = .error e

/-- The cause is not returned always: a full disk is forgotten over a stream that cannot be
disposed of. -/
theorem cause_masked : ¬ WholeFilesKeep Memory.fileSystem CauseReturned := by
  intro h
  let state : Memory.State :=
    ⟨[], [], [(.write, .operationFailed "disk full"), (.dispose, .operationFailed "close failed")]⟩
  have hreturned := always_state.mp (h.write "a" [120]).2 state (.operationFailed "disk full") rfl
  have hmasked : (((Memory.fileSystem.recorded.writeWhole "a" [120]).run []).run state).1.1
      = .error (.operationFailed "close failed") := rfl
  exact absurd (Except.error.inj (hmasked.symm.trans hreturned)) (by decide)

end Hostlink.Storage
