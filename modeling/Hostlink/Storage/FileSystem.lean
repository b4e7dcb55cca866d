import Hostlink.Error
import Hostlink.Text.Hex

/-!
# File systems

The interface of a file system with effects in `m`, and the operations on whole files that are
built on it.  These dispose of the stream that they open whatever happens to it in between, and a
failure to dispose of it comes before any other failure.
-/

namespace Hostlink.Storage

/-- An open file. -/
structure FileStream (m : Type → Type) where
  readToEnd : m (Except HostError Bytes)
  writeAll : Bytes → m (Except HostError Unit)
  flush : m (Except HostError Unit)
  dispose : m (Except HostError Unit)

/-- Access to files by path. -/
structure FileSystem (m : Type → Type) where
  openRead : String → m (Except HostError (FileStream m))
  create : String → m (Except HostError (FileStream m))

namespace FileStream

variable {m : Type → Type} [Monad m]

/-- Writes bytes and, if that went well, flushes. -/
def writeAndFlush (stream : FileStream m) (data : Bytes) : m (Except HostError Unit) := do
  let written ← stream.writeAll data
  match written with
  | .error e => return .error e
  | .ok _ => stream.flush

/-- Disposes of the stream after an operation, whose result counts if that goes well. -/
def finish {α : Type} (stream : FileStream m) (result : Except HostError α) :
    m (Except HostError α) := do
  let disposed ← stream.dispose
  match disposed with
  | .error e => return .error e
  | .ok _ => return result

end FileStream

namespace FileSystem

variable {m : Type → Type} [Monad m]

/-- Reads a whole file. -/
def readWhole (fs : FileSystem m) (path : String) : m (Except HostError Bytes) := do
  let opened ← fs.openRead path
  match opened with
  | .error e => return .error e
  | .ok stream =>
    let data ← stream.readToEnd
    stream.finish data

/-- Replaces the contents of a file. -/
def writeWhole (fs : FileSystem m) (path : String) (data : Bytes) : m (Except HostError Unit) := do
  let opened ← fs.create path
  match opened with
  | .error e => return .error e
  | .ok stream =>
    let written ← stream.writeAndFlush data
    stream.finish written

end FileSystem
end Hostlink.Storage
