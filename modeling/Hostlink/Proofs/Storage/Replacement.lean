import Hostlink.Proofs.Storage.Delivery
import Hostlink.Proofs.Storage.Parents
import Hostlink.Proofs.Storage.Sparing
import Hostlink.Proofs.Storage.Traffic

/-!
# Replacing a file

To replace a file the session makes it, writes to it, flushes and disposes of the stream.  What this
does to the tree is a function of the tree alone, `Tree.replace`, and from this follows what can be
read back, what the tree has kept, and what a failure leaves behind.
-/

namespace Hostlink.Storage

variable {t t' : Tree} {base : Location} {path : Path} {index : Nat} {data : Bytes}
  {fault : IoFault}

/-! ## On the tree -/

theorem Tree.overwrite_nil (data : Bytes) : Tree.overwrite [] 0 data = data := by
  unfold Tree.overwrite
  split <;> simp_all

/-- Writes bytes and, if that went well, waits for them. -/
def OpenFile.writeThrough (f : OpenFile) (t : Tree) (data : Bytes) : Except IoFault Unit × Tree :=
  match f.writeAll t data with
  | (.error fault, _, t) => (.error fault, t)
  | (.ok _, f, t) => (f.flush.1, t)

/-- Makes a file, in directories that are made if need be, and writes to it. -/
def Tree.replace (t : Tree) (base : Location) (path : Path) (data : Bytes) :
    Except IoFault Unit × Tree :=
  match t.createWithParents base path with
  | (.error fault, t) => (.error fault, t)
  | (.ok index, t) => (OpenFile.make .writing (.file index)).writeThrough t data

namespace OpenFile

theorem writeThrough_tree (f : OpenFile) (t : Tree) (data : Bytes) :
    (f.writeThrough t data).2 = (f.writeAll t data).2.2 := by
  unfold writeThrough
  split <;> simp_all

/-- A write that has been waited for and went well has left nothing pending. -/
theorem writeThrough_eq_ok {f : OpenFile} (h : (f.writeThrough t data).1 = .ok ()) :
    ∃ f', f.writeAll t data = (.ok (), f', (f.writeThrough t data).2) ∧ f'.pending = none := by
  unfold writeThrough at h ⊢
  split at h
  next => cases h
  next f' t' written =>
    refine ⟨f', by rw [written], ?_⟩
    cases hp : f'.pending with
    | none => rfl
    | some fault => simp [flush, hp] at h

/-- A failure to write through is one of the device. -/
theorem writeThrough_eq_error
    (h : ((make .writing (.file index)).writeThrough t data).1 = .error fault) : t.Fails fault := by
  have due : ((make .writing (.file index)).writeAll t data).1 = .error fault ∨
      ((make .writing (.file index)).writeAll t data).2.1.pending = some fault := by
    unfold writeThrough at h
    split at h
    next fault' _ _ written => exact .inl (by rw [written]; exact h)
    next f' t' written =>
      right
      rw [written]
      cases hp : f'.pending with
      | none => simp [flush, hp] at h
      | some fault' => simpa [flush, hp] using h
  exact (owes_writeAll rfl rfl (due.imp_right .inl)).resolve_left (by simp [make])

/-- Whatever becomes of a write, its file gets a beginning of the data; it gets none of them while a
failure is pending. -/
theorem content_writeAll {f : OpenFile} (writes : f.mode = .writing) (file : f.entry = .file index)
    (backed : index < t.contents.next) (data : Bytes) :
    ∃ kept, kept <+: data ∧ (f.pending ≠ none → kept = []) ∧
      (f.writeAll t data).2.2.content index = Tree.overwrite (t.content index) f.position kept := by
  fun_induction f.writeAll t data with
  | case1 f t => exact ⟨[], List.nil_prefix, fun _ => rfl, by simp [Tree.overwrite]⟩
  | case2 f t data _ found pending =>
    exact ⟨[], List.nil_prefix, fun _ => rfl, by simp [Tree.overwrite]⟩
  | case3 f t data _ plain f₁ t₁ written ih =>
    rw [writeBlock_eq writes file, Prod.mk.injEq] at written
    obtain ⟨rfl, rfl⟩ := written
    obtain ⟨kept, beginning, nothing, bytes⟩ := ih writes file (by
      rw [(Tree.Rewritten.putBlock t index f.position _).numbers]
      exact backed)
    obtain ⟨lost, whole, all⟩ := t.uptake.taken_append (data.take blockSize)
    refine ⟨t.uptake.taken (data.take blockSize) ++ kept, ?_, fun h => absurd plain h, ?_⟩
    · -- nothing follows on a block that the device has not taken as a whole
      by_cases pending : t.uptake.fault? = none
      · obtain rfl := all pending
        rw [List.append_nil] at whole
        rw [← whole]
        simpa using (List.prefix_append_right_inj (data.take blockSize)).2 beginning
      · obtain rfl := nothing pending
        rw [List.append_nil]
        exact (List.prefix_append _ lost).trans (whole ▸ List.take_prefix blockSize data)
    · rw [bytes, Tree.content_putBlock backed, overwrite_overwrite]

/-- An empty file that has been written through holds what was written. -/
theorem content_writeThrough (backed : index < t.contents.next) (vacant : t.content index = [])
    (h : ((make .writing (.file index)).writeThrough t data).1 = .ok ()) :
    ((make .writing (.file index)).writeThrough t data).2.content index = data := by
  obtain ⟨f', written, plain⟩ := writeThrough_eq_ok h
  by_cases none : data = []
  · subst none
    simpa [writeThrough, writeAll, flush, make] using vacant
  · obtain ⟨-, d⟩ := Delivered.writeAll (by exact backed) (by simp [make]) none written
    obtain ⟨kept, lost, whole, -, -, all, bytes, -⟩ := d.received
    obtain rfl := all plain
    rw [List.append_nil] at whole
    subst whole
    simp only [make, Tree.bytes, vacant] at bytes
    simpa [Tree.overwrite, none, make] using bytes

end OpenFile

namespace Tree

/-- The part of the tree that has nothing to do with the path is spared. -/
theorem replace_spares (sound : t.Sound) (base : Location) (path : Path) (data : Bytes) :
    Spares base path t (t.replace base path data).2 := by
  unfold replace
  split
  next fault t₁ made =>
    obtain ⟨-, paved⟩ | ⟨_, _, ⟨⟩, -⟩ := createWithParents_cases made
    exact .of_paved sound paved
  next index t₁ made =>
    obtain ⟨⟨_, ⟨⟩⟩, -⟩ | ⟨_, t₀, ⟨⟩, paved, created⟩ := createWithParents_cases made
    -- first the directories, then the file, then what is written
    have holders := Spares.of_paved sound paved
    obtain ⟨file, place, found⟩ := Spares.of_create holders.sound created
    have both := holders.trans file
    refine both.trans (.of_rewritten both.sound found ?_)
    rw [OpenFile.writeThrough_tree]
    exact OpenFile.writeAll_rewritten rfl rfl t₁ data

/-- A path still leads to a file that has been written through. -/
theorem resolve_writeThrough {place : Location}
    (found : t.resolve base path = .ok (place, .file index)) (data : Bytes) :
    ((OpenFile.make .writing (.file index)).writeThrough t data).2.resolve base path =
      .ok (place, .file index) := by
  rw [OpenFile.writeThrough_tree]
  have rewritten := OpenFile.writeAll_rewritten (f := .make .writing (.file index)) rfl rfl t data
  exact (Extends.of_entries rewritten.entries).resolve found

/-- When a file has been replaced its path leads to the new contents. -/
theorem replace_ok (sound : t.Sound) (h : t.replace base path data = (.ok (), t')) :
    ∃ place index, t'.resolve base path = .ok (place, .file index) ∧ t'.content index = data := by
  unfold replace at h
  split at h
  next => cases h
  next index t₁ made =>
    have one := createWithParents_made sound.wellFormed made
    obtain ⟨place, found⟩ := find_eq_ok_iff.1 one.found
    have went : ((OpenFile.make .writing (.file index)).writeThrough t₁ data).1 = .ok () := by rw [h]
    have holds := OpenFile.content_writeThrough one.backed one.vacant went
    have still := resolve_writeThrough found data
    rw [h] at holds still
    exact ⟨place, index, still, holds⟩

/-- When a file could not be replaced only directories have been made, or the device has failed and
the file is cut off. -/
theorem replace_error (sound : t.Sound) (h : t.replace base path data = (.error fault, t')) :
    Remains base path data fault t t' := by
  have spares := replace_spares sound base path data
  rw [h] at spares
  unfold replace at h
  split at h
  next fault' t₁ made =>
    obtain ⟨-, paved⟩ | ⟨_, _, ⟨⟩, -⟩ := createWithParents_cases made
    obtain ⟨-, rfl⟩ := Prod.mk.inj h
    exact .of_paved paved
  next index t₁ made =>
    have one := createWithParents_made sound.wellFormed made
    obtain ⟨⟨_, ⟨⟩⟩, -⟩ | ⟨_, t₀, ⟨⟩, paved, created⟩ := createWithParents_cases made
    have failed : ((OpenFile.make .writing (.file index)).writeThrough t₁ data).1 = .error fault := by
      rw [h]
    have fails := OpenFile.writeThrough_eq_error failed
    rw [Fails, create_device created, paved.device] at fails
    have wrote : ((OpenFile.make .writing (.file index)).writeAll t₁ data).2.2 = t' := by
      rw [← OpenFile.writeThrough_tree, h]
    refine .of_spares spares fails fun place number found => ?_
    obtain ⟨place', found'⟩ := find_eq_ok_iff.1 one.found
    have same := resolve_writeThrough found' data
    rw [h, found] at same
    obtain ⟨rfl, rfl⟩ : place = place' ∧ number = index := by simpa using same
    obtain ⟨kept, beginning, -, bytes⟩ :=
      OpenFile.content_writeAll (f := .make .writing (.file number)) rfl rfl one.backed data
    rw [wrote, one.vacant] at bytes
    exact bytes.trans (overwrite_nil kept) ▸ beginning

end Tree

/-! ## On a session -/

section Results

variable {α : Type} {x : Except IoFault α}

theorem mapError_eq_ok_iff {a : α} : x.mapError HostError.io = .ok a ↔ x = .ok a := by
  cases x <;> simp [Except.mapError]

theorem mapError_eq_error_iff {e : HostError} :
    x.mapError HostError.io = .error e ↔ ∃ fault, x = .error fault ∧ .io fault = e := by
  cases x <;> simp [Except.mapError]

/-- What an operation returns is what its reply says. -/
theorem eq_mapError_of_map {reply : α → Reply} {y : Except HostError α}
    (inj : ∀ a b, reply a = reply b → a = b)
    (h : y.map reply = (x.map reply).mapError .io) : y = x.mapError .io := by
  cases y <;> cases x <;> simp_all [Except.map, Except.mapError]
  exact inj _ _ h

end Results

namespace Session

variable {s : Session} {id : StreamId} {f : OpenFile} {text : String}

/-- Whether a stream works on an open file, and nobody else has the slot of its handle. -/
def Ready (s : Session) (id : StreamId) (f : OpenFile) : Prop := s.Works id f ∧ s.isFree id = true

/-- A stream over a new handle is ready. -/
theorem adding_ready (s : Session) (text : String) (f : OpenFile) :
    (s.adding text f).Ready ⟨s.streams.next⟩ f := by
  refine ⟨adding_works s text f, ?_⟩
  simp [isFree, handleOf?, stream?, adding, Wrapper.owned, Wrapper.make, FileHandle.make]

/-- A call on such a stream is carried out on the file. -/
theorem Ready.perform (ready : s.Ready id f) (c : Call) :
    (c.perform id s).1 = (c.onFile f s.tree).1.mapError .io ∧
      (c.perform id s).2.Ready id (c.onFile f s.tree).2.1 ∧
      (c.perform id s).2.tree = (c.onFile f s.tree).2.2 ∧
      (c.perform id s).2.directory = s.directory := by
  obtain ⟨works, free⟩ := ready
  obtain ⟨result, works', tree, directory⟩ := works.perform c
  refine ⟨result, ⟨works', ?_⟩, tree, directory⟩
  obtain ⟨wrapper, handle, hw, live, hh, hs⟩ := works
  rw [isFree_eq hw hh] at free
  have hh' : (s.after c wrapper.native.identity handle.path f).handles.get?
      wrapper.native.identity = some { handle with slot := some (c.onFile f s.tree).2.1 } := by
    simp [Session.after, putSlot, noticing, hh]
  rw [c.perform_eq hw, live, if_neg (by simp), c.inSlot_of_open hw hh hs]
  have hw' : (s.after c wrapper.native.identity handle.path f).stream? id = some wrapper := hw
  exact (isFree_eq hw' hh').trans free

/-- A disposal of such a stream goes well. -/
theorem Ready.dispose (ready : s.Ready id f) : (Session.dispose id s).1 = .ok () := by
  obtain ⟨⟨wrapper, handle, hw, -, hh, -⟩, free⟩ := ready
  rw [isFree_eq hw hh] at free
  rw [dispose_eq hw hh]
  split
  · rfl
  · rw [if_neg (by simpa using free)]

/-- A write to such a stream. -/
theorem Ready.writeAll (ready : s.Ready id f) (data : Bytes) :
    (Session.writeAll id data s).1 = (f.writeAll s.tree data).1.mapError .io ∧
      (Session.writeAll id data s).2.Ready id (f.writeAll s.tree data).2.1 ∧
      (Session.writeAll id data s).2.tree = (f.writeAll s.tree data).2.2 ∧
      (Session.writeAll id data s).2.directory = s.directory := by
  obtain ⟨result, rest⟩ := ready.perform (.write data)
  exact ⟨eq_mapError_of_map (fun _ _ _ => rfl) result, rest⟩

/-- A flush of such a stream. -/
theorem Ready.flush (ready : s.Ready id f) :
    (Session.flush id s).1 = f.flush.1.mapError .io ∧
      (Session.flush id s).2.Ready id f.flush.2 ∧ (Session.flush id s).2.tree = s.tree ∧
      (Session.flush id s).2.directory = s.directory := by
  obtain ⟨result, rest⟩ := ready.perform .flush
  exact ⟨eq_mapError_of_map (fun _ _ _ => rfl) result, rest⟩

/-- A reading of such a stream. -/
theorem Ready.readToEnd (ready : s.Ready id f) :
    (Session.readToEnd id s).1 = (f.readToEnd s.tree).1.mapError .io ∧
      (Session.readToEnd id s).2.Ready id (f.readToEnd s.tree).2 := by
  obtain ⟨result, rest, -⟩ := ready.perform .read
  exact ⟨eq_mapError_of_map (fun _ _ same => Reply.bytes.inj same) result, rest⟩

/-- Writing to such a stream and waiting for what has been written. -/
theorem Ready.writeAndFlush (ready : s.Ready id f) (data : Bytes) :
    ((fileStream id).writeAndFlush data s).1 = (f.writeThrough s.tree data).1.mapError .io ∧
      (∃ f', ((fileStream id).writeAndFlush data s).2.Ready id f') ∧
      ((fileStream id).writeAndFlush data s).2.tree = (f.writeThrough s.tree data).2 ∧
      ((fileStream id).writeAndFlush data s).2.directory = s.directory := by
  obtain ⟨result, ready', tree, directory⟩ := ready.writeAll data
  simp only [FileStream.writeAndFlush, fileStream, SessionM.bind_apply, OpenFile.writeThrough]
  split
  next fault f' t' written =>
    simp only [written, Except.mapError] at result ready' tree
    rw [result]
    exact ⟨rfl, ⟨f', ready'⟩, tree, directory⟩
  next f' t' written =>
    simp only [written, Except.mapError] at result ready' tree
    rw [result]
    obtain ⟨result', ready'', tree', directory'⟩ := ready'.flush
    exact ⟨result', ⟨_, ready''⟩, tree'.trans tree, directory'.trans directory⟩

/-- The end of the work with such a stream. -/
theorem Ready.finish (ready : s.Ready id f) {α : Type} (result : Except HostError α) :
    ((fileStream id).finish result s).1 = result ∧
      ((fileStream id).finish result s).2.tree = s.tree ∧
      ((fileStream id).finish result s).2.directory = s.directory := by
  have disposed : ((fileStream id).dispose s).1 = .ok () := ready.dispose
  obtain ⟨tree, directory⟩ := ready.1.dispose
  simp only [FileStream.finish, SessionM.bind_apply, disposed, SessionM.pure_apply, true_and]
  exact ⟨tree, directory⟩

/-- Replacing a file is what the tree says it is. -/
theorem writeWhole_eq (s : Session) (text : String) (data : Bytes) :
    (fileSystem.writeWhole text data s).1 =
        (s.tree.replace s.directory (.ofText text) data).1.mapError .io ∧
      (fileSystem.writeWhole text data s).2.tree =
        (s.tree.replace s.directory (.ofText text) data).2 ∧
      (fileSystem.writeWhole text data s).2.directory = s.directory := by
  cases made : s.tree.createWithParents s.directory (.ofText text) with
  | mk result t =>
    cases result with
    | error fault =>
      simp [FileSystem.writeWhole, fileSystem, createStream_of_error made, Tree.replace, made,
        Except.map, Except.mapError]
    | ok index =>
      simp only [FileSystem.writeWhole, fileSystem, SessionM.bind_apply, createStream_of_ok made,
        Except.map, SessionM.pure_apply, Tree.replace, made]
      have ready := adding_ready ({ s with tree := t }.noticing [fileNotice "Created file" text []])
        text (.make .writing (.file index))
      obtain ⟨result, ⟨f', ready'⟩, tree, directory⟩ := ready.writeAndFlush data
      obtain ⟨result', tree', directory'⟩ := ready'.finish _
      exact ⟨result'.trans result, tree'.trans tree, directory'.trans directory⟩

theorem writeWhole_spares (sound : s.tree.Sound) (text : String) (data : Bytes) :
    Tree.Spares s.directory (.ofText text) s.tree (fileSystem.writeWhole text data s).2.tree := by
  rw [(writeWhole_eq s text data).2.1]
  exact Tree.replace_spares sound s.directory (.ofText text) data

/-- Reading a file gives what it holds. -/
theorem readWhole_eq {place : Location}
    (found : s.tree.resolve s.directory (.ofText text) = .ok (place, .file index)) :
    (fileSystem.readWhole text s).1 = .ok (s.tree.content index) := by
  have opened := openStream_of_ok (Tree.find_eq_ok_iff.2 ⟨place, found⟩)
  simp only [FileSystem.readWhole, fileSystem, SessionM.bind_apply, opened, Except.map,
    SessionM.pure_apply]
  have ready := adding_ready (s.noticing [fileNotice "Opened file for reading" text []]) text
    (.make .reading (.file index))
  obtain ⟨result, ready'⟩ := ready.readToEnd
  exact ready'.finish _ |>.1.trans result

theorem exists?_eq {place : Location} {e : TreeEntry}
    (found : s.tree.resolve s.directory (.ofText text) = .ok (place, e)) :
    (exists? text s).1 = .ok true := by
  simp [exists?, Tree.exists?, Tree.find_eq_ok_iff.2 ⟨place, found⟩, Except.mapError]

end Session

/-! ## The law -/

/-- What replacing the file that a text leads to does to a session. -/
structure ReplaceLaw (s : Session) (text : String) (data : Bytes) (result : Except HostError Unit)
    (s' : Session) : Prop where
  directory : s'.directory = s.directory
  /-- Nothing has gone, only directories above the file and the file itself can be new, and all
  other files hold what they held. -/
  spares : Tree.Spares s.directory (.ofText text) s.tree s'.tree
  /-- If it went well the file holds the data, and only the data, and the directories above are
  there. -/
  replaced : result = .ok () → (Session.exists? text s').1 = .ok true ∧
    (Session.fileSystem.readWhole text s').1 = .ok data ∧
      ∀ q ∈ (Path.ofText text).above, ∃ place,
        s'.tree.resolve s.directory q = .ok (place, .directory)
  /-- If it failed nothing has gone, only directories above the file are new, and all files hold
  what they held.  This does not go for the file itself if the failure is one of the device: then it
  can be new, or have another content, and holds a beginning of the data. -/
  failed : ∀ e, result = .error e → ∃ fault, e = .io fault ∧
    Tree.Remains s.directory (.ofText text) data fault s.tree s'.tree

/-- Replacing a file puts the data in the place of what the file held, and leaves the rest of the
tree alone. -/
theorem file_replaced (s : Session) (sound : s.tree.Sound) (text : String) (data : Bytes) :
    ReplaceLaw s text data (Session.fileSystem.writeWhole text data s).1
      (Session.fileSystem.writeWhole text data s).2 := by
  obtain ⟨result, tree, directory⟩ := Session.writeWhole_eq s text data
  refine ⟨directory, Session.writeWhole_spares sound text data, ?_, ?_⟩
  · intro ok
    rw [result, mapError_eq_ok_iff] at ok
    obtain ⟨place, index, found, holds⟩ := Tree.replace_ok sound (Prod.ext ok tree.symm)
    have found' := found
    rw [← directory] at found'
    refine ⟨Session.exists?_eq found', ?_, fun q above => Tree.directory_above_file found above⟩
    rw [Session.readWhole_eq found', holds]
  · intro e error
    rw [result, mapError_eq_error_iff] at error
    obtain ⟨fault, failed, rfl⟩ := error
    exact ⟨fault, rfl, Tree.replace_error sound (Prod.ext failed tree.symm)⟩

/-! A file with a neighbour, on a path that goes through a missing directory and back: -/

/-- An empty tree in which two files have been made. -/
def neighbours : Session :=
  (Session.fileSystem.writeWhole "b" [5] (Session.fileSystem.writeWhole "a" [1, 2, 3, 4]
    ⟨.empty, [], .empty, .empty, []⟩).2).2

theorem file_replaced_through_missing :
    neighbours.tree.Sound ∧
      (Session.fileSystem.writeWhole "c/../a" [9] neighbours).1 = .ok () ∧
      neighbours.tree.contents.items = [[1, 2, 3, 4], [5]] ∧
      (Session.fileSystem.writeWhole "c/../a" [9] neighbours).2.tree.contents.items = [[9], [5]] ∧
      ReplaceLaw neighbours "c/../a" [9] (Session.fileSystem.writeWhole "c/../a" [9] neighbours).1
        (Session.fileSystem.writeWhole "c/../a" [9] neighbours).2 := by
  have sound : neighbours.tree.Sound := by
    have one := Session.writeWhole_spares (s := ⟨.empty, [], .empty, .empty, []⟩) Tree.sound_empty
      "a" [1, 2, 3, 4]
    exact (Session.writeWhole_spares one.sound "b" [5]).sound
  exact ⟨sound, by decide +kernel, by decide +kernel, by decide +kernel,
    file_replaced neighbours sound "c/../a" [9]⟩

/-! The file is made before anything is written to it, so a failure can leave more than
directories: -/

/-- Whether everything new in a tree is a directory. -/
def Tree.OnlyDirectoriesNew (t t' : Tree) : Prop :=
  ∀ place e, t.entry? place = none → t'.entry? place = some e → e = .directory

/-- The failure of a device without space. -/
def noSpace : IoFault := .numbered "No space left on device" 28

/-- An empty tree on a device that is full. -/
def fullDevice : Session :=
  ⟨{ Tree.empty with device := [.part 0 noSpace] }, [], .empty, .empty, []⟩

/-- On a full device a file cannot be replaced, and yet it is new, without contents. -/
theorem full_device_leaves_file :
    fullDevice.tree.Sound ∧
      (Session.fileSystem.writeWhole "a" [0x78] fullDevice).1 = .error (.io noSpace) ∧
      (Session.fileSystem.readWhole "a"
        (Session.fileSystem.writeWhole "a" [0x78] fullDevice).2).1 = .ok [] ∧
      ¬ Tree.OnlyDirectoriesNew fullDevice.tree
        (Session.fileSystem.writeWhole "a" [0x78] fullDevice).2.tree := by
  refine ⟨⟨Tree.sound_empty.wellFormed, Tree.sound_empty.unlinked⟩, by decide +kernel,
    by decide +kernel, fun only => ?_⟩
  have file := only [[0x61]] (.file 0) (by decide +kernel) (by decide +kernel)
  cases file

end Hostlink.Storage
