import Hostlink.Conversion
import Hostlink.Storage.FileSystem

/-!
# A file system in memory

Files are kept by path.  Every call on the file system and its streams is noted, and any of them
can be made to fail; a call that fails changes nothing.
-/

namespace Hostlink.Storage.Memory

/-- The calls that can be made to fail. -/
inductive Call where
  | openRead
  | create
  | read
  | write
  | flush
  | dispose
  deriving DecidableEq, Repr

/-- One call as it was made. -/
inductive Noted where
  | openRead (path : String)
  | create (path : String)
  | read
  | write (count : Nat)
  | flush
  | dispose
  deriving DecidableEq, Repr

/-- A noted call as text. -/
def Noted.render : Noted → String
  | .openRead path => "open_read " ++ path
  | .create path => "create " ++ path
  | .read => "read"
  | .write count => "write " ++ toString count
  | .flush => "flush"
  | .dispose => "dispose"

/-- The files, the calls made so far (the latest first), and the calls that fail. -/
structure State where
  files : List (String × Bytes)
  noted : List Noted
  failures : List (Call × HostError)
  deriving Repr

/-- No files. -/
def State.empty : State := ⟨[], [], []⟩

/-- The contents of a file. -/
def State.file? (s : State) (path : String) : Option Bytes :=
  (s.files.find? (·.1 = path)).map (·.2)

/-- Sets the contents of a file. -/
def State.setFile (s : State) (path : String) (data : Bytes) : State :=
  { s with files := (path, data) :: s.files.filter (·.1 ≠ path) }

/-- Takes a file away. -/
def State.removeFile (s : State) (path : String) : State :=
  { s with files := s.files.filter (·.1 ≠ path) }

/-- Notes a call and carries it out unless it is to fail. -/
def attempt {α : Type} (call : Call) (noted : Noted) (act : StateM State (Except HostError α)) :
    StateM State (Except HostError α) := do
  modify fun s => { s with noted := noted :: s.noted }
  let s ← get
  match s.failures.find? (·.1 = call) with
  | some (_, e) => return .error e
  | none => act

/-- The stream over a file. -/
def stream (path : String) : FileStream (StateM State) where
  readToEnd := attempt .read .read do
    let s ← get
    return .ok ((s.file? path).getD [])
  writeAll data := attempt .write (.write data.length) do
    modify fun s => s.setFile path ((s.file? path).getD [] ++ data)
    return .ok ()
  flush := attempt .flush .flush (return .ok ())
  dispose := attempt .dispose .dispose (return .ok ())

/-- The file system. -/
def fileSystem : FileSystem (StateM State) where
  openRead path := attempt .openRead (.openRead path) do
    let s ← get
    match s.file? path with
    | some _ => return .ok (stream path)
    | none => return .error (.operationFailed "missing")
  create path := attempt .create (.create path) do
    modify (·.setFile path [])
    return .ok (stream path)

/-- A handwritten file system exposes no native object. -/
def adapter : Adapter := ⟨none⟩

/-! ## Steps -/

/-- One step on the file system. -/
inductive Step where
  | readWhole (path : String)
  | writeWhole (path : String) (data : Bytes)
  | exists (path : String)
  | delete (path : String)
  | unwrap (target : String)
  deriving DecidableEq, Repr

/-- The value of a step. -/
inductive Value where
  | nothing
  | bool (value : Bool)
  | bytes (value : Bytes)
  deriving DecidableEq, Repr

/-- What a step does. -/
def perform : Step → StateM State (Except HostError Value)
  | .readWhole path => do
    let data ← fileSystem.readWhole path
    return data.map .bytes
  | .writeWhole path data => do
    let written ← fileSystem.writeWhole path data
    return written.map fun _ => .nothing
  | .exists path => do
    let s ← get
    return .ok (.bool (s.file? path).isSome)
  | .delete path => do
    modify (·.removeFile path)
    return .ok .nothing
  | .unwrap target => return (Conversion.rawNative target adapter).map fun _ => .bool true

/-- Performs a step while some calls fail; the result has the calls that it made. -/
def runStep (s : State) (step : Step) (failures : List (Call × HostError)) :
    (Except HostError Value × List Noted) × State :=
  let (result, s) := (perform step).run { s with noted := [], failures }
  ((result, s.noted.reverse), s)

/-- Performs steps in order. -/
def runSteps (s : State) :
    List (Step × List (Call × HostError)) → List (Except HostError Value × List Noted)
  | [] => []
  | (step, failures) :: rest =>
    let (report, s) := runStep s step failures
    report :: runSteps s rest

end Hostlink.Storage.Memory
