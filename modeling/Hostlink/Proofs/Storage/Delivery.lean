import Mathlib.Data.List.Induction
import Hostlink.Proofs.Storage.Call
import Hostlink.Proofs.Storage.Tree

/-!
# What becomes of written bytes

A write returns before its last block has been taken by the device, so its success says nothing
about that block.  The next write or flush of the file tells.  When all calls on a stream have gone
well, its file has received everything that was written but for some end of the last block that no
flush has followed, and everything if a flush has.
-/

namespace Hostlink.Storage

/-! ## Bytes over bytes -/

/-- The bytes that a file holds; a directory holds none. -/
def Tree.bytes (t : Tree) : TreeEntry → Bytes
  | .directory => []
  | .file index => t.content index

/-- What stands before bytes that are put at a position reaches up to there. -/
theorem length_before (old : Bytes) (position : Nat) :
    (old.take position ++ List.replicate (position - old.length) 0).length = position := by
  simp only [List.length_append, List.length_take, List.length_replicate]
  omega

/-- Bytes put one after the other are put together. -/
theorem overwrite_overwrite (old : Bytes) (position : Nat) (first second : Bytes) :
    Tree.overwrite (Tree.overwrite old position first) (position + first.length) second =
      Tree.overwrite old position (first ++ second) := by
  by_cases hf : first = []
  · simp [Tree.overwrite, hf]
  by_cases hs : second = []
  · simp [Tree.overwrite, hs]
  have put : ∀ (old : Bytes) position data, data ≠ [] → Tree.overwrite old position data =
      old.take position ++ List.replicate (position - old.length) 0 ++ data ++
        old.drop (position + data.length) := fun _ _ _ h => if_neg (by simpa using h)
  rw [put _ _ _ hs, put old _ _ hf, put _ _ (first ++ second) (by simp [hf])]
  have hbefore := length_before old position
  generalize old.take position ++ List.replicate (position - old.length) 0 = before at hbefore ⊢
  have hwritten : (before ++ first).length = position + first.length := by simp [hbefore]
  have hboth : position + (first ++ second).length = position + first.length + second.length := by
    simp only [List.length_append]; omega
  rw [← List.append_assoc before, hboth]
  generalize before ++ first = written at hwritten ⊢
  have hgap : written.length - (written ++ old.drop written.length).length = 0 := by simp
  rw [← hwritten, List.take_left, hgap, List.replicate_zero, List.append_nil, ← List.drop_drop,
    List.drop_left, List.drop_drop]

/-! ## One block and then another -/

/-- What calls that went well have made of an open file and its tree.  Of the bytes `data` that they
were given the file has received all but an end, which is an end of the bytes `unflushed` that no
flush has followed, and of their last block; and it has received all unless a failure is pending. -/
structure Delivered (f : OpenFile) (t : Tree) (data unflushed : Bytes) (f' : OpenFile) (t' : Tree) :
    Prop where
  entry : f'.entry = f.entry
  mode : f'.mode = f.mode
  places : t'.entries = t.entries
  numbers : t'.contents.next = t.contents.next
  received : ∃ kept lost, data = kept ++ lost ∧ lost <:+ unflushed ∧
    lost.length ≤ OpenFile.blockSize ∧ (f'.pending = none → lost = []) ∧
    t'.bytes f.entry = Tree.overwrite (t.bytes f.entry) f.position kept ∧
    (f.mode = .writing → f'.position = f.position + kept.length) ∧ (f.mode = .reading → kept = [])

/-- Whether the contents of an entry have a place. -/
def Tree.Backs (t : Tree) : TreeEntry → Prop
  | .directory => True
  | .file index => index < t.contents.next

/-- What the device does not take of a block is an end of it, and then there is a failure. -/
theorem Uptake.taken_append (u : Uptake) (block : Bytes) :
    ∃ lost, block = u.taken block ++ lost ∧ (u.fault? = none → lost = []) := by
  cases u with
  | whole => exact ⟨[], by simp [taken], fun _ => rfl⟩
  | part limit fault => exact ⟨block.drop limit, by simp [taken], by simp [fault?]⟩

theorem Tree.content_putBlock {t : Tree} {index : Nat} (backed : index < t.contents.next)
    (position : Nat) (block : Bytes) : (t.putBlock index position block).content index =
      Tree.overwrite (t.content index) position (t.uptake.taken block) :=
  content_setContent backed _

namespace Delivered

variable {f f' f'' : OpenFile} {t t' t'' : Tree} {data data' unflushed unflushed' : Bytes}

/-- Before any call. -/
theorem start (f : OpenFile) (t : Tree) : Delivered f t [] [] f t :=
  ⟨rfl, rfl, rfl, rfl, [], [], rfl, List.suffix_rfl, by simp, fun _ => rfl, by simp [Tree.overwrite],
    fun _ => by simp, fun _ => rfl⟩

/-- A block that cannot be written is lost as a whole. -/
theorem refused {block : Bytes} (short : block.length ≤ OpenFile.blockSize)
    (fails : f.writeBlock t block = ({ f with pending := some .badDescriptor }, t))
    (reads : f.mode = .reading) :
    Delivered f t block block (f.writeBlock t block).1 (f.writeBlock t block).2 := by
  rw [fails]
  refine ⟨rfl, rfl, rfl, rfl, [], block, rfl, List.suffix_rfl, short, by simp,
    by simp [Tree.overwrite], by simp [reads], fun _ => rfl⟩

/-- One block. -/
theorem block (backed : t.Backs f.entry) (opened : f.mode = .writing → f.entry ≠ .directory)
    {block : Bytes} (short : block.length ≤ OpenFile.blockSize) :
    Delivered f t block block (f.writeBlock t block).1 (f.writeBlock t block).2 := by
  obtain ⟨entry, mode, position, pending⟩ := f
  cases mode with
  | reading => exact refused short (by cases entry <;> rfl) rfl
  | writing =>
    cases entry with
    | directory => exact absurd rfl (opened rfl)
    | file index =>
      obtain ⟨lost, whole, all⟩ := t.uptake.taken_append block
      refine ⟨rfl, rfl, rfl, ?_, t.uptake.taken block, lost, whole, ?_, ?_, all, ?_, fun _ => rfl,
        by simp⟩
      · simp [OpenFile.writeBlock, Tree.putBlock, Tree.setContent]
      · exact ⟨_, whole.symm⟩
      · have := congrArg List.length whole
        simp only [List.length_append] at this
        omega
      · exact Tree.content_putBlock backed position block

/-- What follows on calls after which nothing is pending. -/
theorem trans (first : Delivered f t data unflushed f' t') (plain : f'.pending = none)
    (second : Delivered f' t' data' unflushed' f'' t'') :
    Delivered f t (data ++ data') unflushed' f'' t'' := by
  obtain ⟨kept, lost, rfl, -, -, all, bytes, position, none⟩ := first.received
  obtain rfl := all plain
  obtain ⟨kept', lost', rfl, ending, short, all', bytes', position', none'⟩ := second.received
  rw [first.entry, bytes] at bytes'
  rw [first.mode] at position' none'
  refine ⟨second.entry.trans first.entry, second.mode.trans first.mode,
    second.places.trans first.places, second.numbers.trans first.numbers,
    kept ++ kept', lost', by simp, ending, short, all', ?_, ?_, ?_⟩
  · cases hm : f.mode with
    | reading => rw [bytes', none hm, none' hm]; simp [Tree.overwrite]
    | writing => rw [bytes', position hm, overwrite_overwrite]
  · intro hm
    rw [position' hm, position hm, List.length_append, Nat.add_assoc]
  · intro hm
    rw [none hm, none' hm, List.append_nil]

/-- More may be said to be unflushed. -/
theorem mono (d : Delivered f t data unflushed f' t') (more : unflushed <:+ unflushed') :
    Delivered f t data unflushed' f' t' := by
  obtain ⟨kept, lost, whole, ending, rest⟩ := d.received
  exact { d with received := ⟨kept, lost, whole, ending.trans more, rest⟩ }

/-- While nothing is pending all has been flushed. -/
theorem settled (d : Delivered f t data unflushed f' t') (plain : f'.pending = none) :
    Delivered f t data [] f' t' := by
  obtain ⟨kept, lost, whole, -, -, all, rest⟩ := d.received
  obtain rfl := all plain
  exact { d with received := ⟨kept, [], whole, List.suffix_rfl, by simp, fun _ => rfl, rest⟩ }

theorem backs (d : Delivered f t data unflushed f' t') (backed : t.Backs f.entry) :
    t'.Backs f'.entry := by
  rw [d.entry]
  cases he : f.entry with
  | directory => trivial
  | file index =>
    rw [he] at backed
    simpa only [Tree.Backs, d.numbers] using backed

/-- A write that goes well begins with nothing pending, and loses no more than an end of its last
block. -/
theorem writeAll (backed : t.Backs f.entry) (opened : f.mode = .writing → f.entry ≠ .directory)
    (some_data : data ≠ []) (h : f.writeAll t data = (.ok (), f', t')) :
    f.pending = none ∧ Delivered f t data data f' t' := by
  fun_induction OpenFile.writeAll f t data with
  | case1 f t => exact absurd rfl some_data
  | case2 f t data _ fault => simp at h
  | case3 f t data _ plain f₁ t₁ written ih =>
    have first := block backed opened (List.length_take_le OpenFile.blockSize data)
    rw [written] at first
    have whole : data.take OpenFile.blockSize ++ data.drop OpenFile.blockSize = data := by simp
    refine ⟨plain, ?_⟩
    by_cases last : data.drop OpenFile.blockSize = []
    · obtain ⟨rfl, rfl⟩ : f₁ = f' ∧ t₁ = t' := by simpa [last, OpenFile.writeAll] using h
      rw [last, List.append_nil] at whole
      rwa [whole] at first
    · obtain ⟨between, rest⟩ :=
        ih (first.backs backed) (by rw [first.mode, first.entry]; exact opened) last h
      have both := first.trans between rest
      rw [whole] at both
      exact both.mono (List.drop_suffix _ _)

end Delivered

/-! ## Calls -/

namespace Call

/-- The bytes that a call writes. -/
def data : Call → Bytes
  | .write data => data
  | _ => []

/-- Whether each write of any bytes is followed by a flush. -/
def Flushed (calls : List Call) : Prop :=
  ∀ before data after, calls = before ++ write data :: after → data ≠ [] → flush ∈ after

/-- Whether bytes are the end of a write, and of its last block, that neither a flush nor a write of
any bytes has followed. -/
def Outstanding (calls : List Call) (bytes : Bytes) : Prop :=
  bytes.length ≤ OpenFile.blockSize ∧ ∃ before data after, calls = before ++ write data :: after ∧
    flush ∉ after ∧ after.flatMap Call.data = [] ∧ bytes <:+ data

/-- What no flush has followed yet after a call: of several writes the last one, as each write waits
for the one before it. -/
def unflushed (before : Bytes) : Call → Bytes
  | .write data => if data.isEmpty then before else data
  | .flush => []
  | .read | .length => before

/-- What no flush has followed is nothing or the last write. -/
theorem foldl_unflushed_cases (calls : List Call) : calls.foldl unflushed [] = [] ∨
    ∃ before data after, calls = before ++ write data :: after ∧ flush ∉ after ∧
      after.flatMap Call.data = [] ∧ calls.foldl unflushed [] = data := by
  induction calls using List.reverseRecOn with
  | nil => exact .inl rfl
  | append_singleton calls c ih =>
    -- a call that neither writes any bytes nor flushes comes after the same last write
    have idle (no_flush : c ≠ flush) (no_data : c.data = [])
        (same : ∀ bytes, unflushed bytes c = bytes) :
        (calls ++ [c]).foldl unflushed [] = [] ∨ ∃ before data after,
          calls ++ [c] = before ++ write data :: after ∧ flush ∉ after ∧
            after.flatMap Call.data = [] ∧ (calls ++ [c]).foldl unflushed [] = data := by
      rw [List.foldl_append, List.foldl_cons, List.foldl_nil, same]
      obtain none | ⟨before, data, after, rfl, quiet, empty, last⟩ := ih
      · exact .inl none
      · refine .inr ⟨before, data, after ++ [c], by simp, ?_, by simp [empty, no_data], last⟩
        simpa [quiet] using no_flush.symm
    cases c with
    | read | length => exact idle (by simp) rfl fun _ => rfl
    | flush => exact .inl (by simp [unflushed])
    | write data =>
      by_cases none : data = []
      · exact idle (by simp) (by simp [Call.data, none]) fun _ => by simp [unflushed, none]
      · exact .inr ⟨calls, data, [], rfl, by simp, rfl, by simp [unflushed, none]⟩

variable {c : Call} {f₀ f f' : OpenFile} {t₀ t t' : Tree} {data unflushed : Bytes} {reply : Reply}

/-- Reading goes well only on a file that cannot be written, and keeps what is pending. -/
theorem delivered_read (d : Delivered f₀ t₀ data unflushed f t)
    (h : read.onFile f t = (.ok reply, f', t')) : Delivered f₀ t₀ data unflushed f' t' := by
  obtain ⟨entry, mode, position, pending⟩ := f
  cases mode with
  | writing => simp [onFile, OpenFile.readToEnd, OpenFile.blurPending, Except.map] at h
  | reading =>
    cases entry with
    | directory => simp [onFile, OpenFile.readToEnd, OpenFile.blurPending, Except.map] at h
    | file index =>
      obtain ⟨-, rfl, rfl⟩ := by
        simpa [onFile, OpenFile.readToEnd, OpenFile.blurPending, Except.map] using h
      have reads : f₀.mode = .reading := d.mode.symm
      obtain ⟨kept, lost, whole, ending, short, all, bytes, -, none⟩ := d.received
      refine ⟨d.entry, d.mode, d.places, d.numbers, kept, lost, whole, ending, short, ?_, bytes,
        by simp [reads], none⟩
      intro plain
      exact all (by simpa using plain)

/-- A call that goes well carries on what has been delivered. -/
theorem delivered (backed : t₀.Backs f₀.entry) (opened : f₀.mode = .writing → f₀.entry ≠ .directory)
    (d : Delivered f₀ t₀ data unflushed f t) (h : c.onFile f t = (.ok reply, f', t')) :
    Delivered f₀ t₀ (data ++ c.data) (c.unflushed unflushed) f' t' := by
  cases c with
  | read => simpa [Call.data, Call.unflushed] using delivered_read d h
  | length =>
    obtain ⟨-, rfl, rfl⟩ := by simpa [onFile] using h
    simpa [Call.data, Call.unflushed] using d
  | flush =>
    cases plain : f.pending with
    | some fault => simp [onFile, OpenFile.flush, plain, Except.map] at h
    | none =>
      obtain ⟨-, rfl, rfl⟩ := by simpa [onFile, OpenFile.flush, plain, Except.map] using h
      simpa [Call.data, Call.unflushed] using d.settled plain
  | write new =>
    by_cases none : new = []
    · obtain ⟨-, rfl, rfl⟩ := by simpa [onFile, none, OpenFile.writeAll, Except.map] using h
      simpa [Call.data, Call.unflushed, none] using d
    · obtain ⟨result, made⟩ : ((f.writeAll t new).1.map fun _ => Reply.done) = .ok reply ∧
          (f.writeAll t new).2 = (f', t') := by simpa [onFile] using h
      have went : f.writeAll t new = (.ok (), f', t') := by
        rw [← made]
        cases hw : (f.writeAll t new).1 with
        | error fault => simp [hw, Except.map] at result
        | ok _ => rw [← hw]
      obtain ⟨plain, rest⟩ :=
        Delivered.writeAll (d.backs backed) (by rw [d.mode, d.entry]; exact opened) none went
      simpa [Call.data, Call.unflushed, none] using d.trans plain rest

end Call

/-! ## Streams -/

namespace Session

variable {s s' : Session} {id : StreamId} {f : OpenFile}

/-- Whether a stream has not been disposed of and has this open file in its handle. -/
def Works (s : Session) (id : StreamId) (f : OpenFile) : Prop :=
  ∃ wrapper handle, s.stream? id = some wrapper ∧ wrapper.disposed = false ∧
    s.handles.get? wrapper.native.identity = some handle ∧ handle.slot = some f

/-- A call on such a stream is carried out on the file. -/
theorem Works.perform (works : s.Works id f) (c : Call) :
    (c.perform id s).1 = (c.onFile f s.tree).1.mapError .io ∧
      (c.perform id s).2.Works id (c.onFile f s.tree).2.1 ∧
      (c.perform id s).2.tree = (c.onFile f s.tree).2.2 ∧
      (c.perform id s).2.directory = s.directory := by
  obtain ⟨wrapper, handle, hw, live, hh, hs⟩ := works
  rw [c.perform_eq hw, live, if_neg (by simp), c.inSlot_of_open hw hh hs]
  refine ⟨rfl, ⟨wrapper, { handle with slot := some (c.onFile f s.tree).2.1 }, hw, live, ?_, rfl⟩,
    rfl, rfl⟩
  simp [Session.after, putSlot, noticing, hh]

/-- Performs calls on a stream, one after the other. -/
def performAll (id : StreamId) : List Call → SessionM (List (Except HostError Reply))
  | [] => return []
  | c :: calls => do
    let result ← c.perform id
    let results ← performAll id calls
    return result :: results

/-- Whether all calls went well. -/
def AllOk (results : List (Except HostError Reply)) : Prop := ∀ r ∈ results, ∃ reply, r = .ok reply

/-- Calls that all go well carry on what has been delivered. -/
theorem Works.performAll (works : s.Works id f) {f₀ : OpenFile} {t₀ : Tree}
    (backed : t₀.Backs f₀.entry) (opened : f₀.mode = .writing → f₀.entry ≠ .directory)
    {calls : List Call} {data unflushed : Bytes} (d : Delivered f₀ t₀ data unflushed f s.tree)
    (ok : AllOk (Session.performAll id calls s).1) :
    ∃ f', (Session.performAll id calls s).2.Works id f' ∧
      Delivered f₀ t₀ (data ++ calls.flatMap Call.data) (calls.foldl Call.unflushed unflushed) f'
        (Session.performAll id calls s).2.tree ∧
      (Session.performAll id calls s).2.directory = s.directory := by
  induction calls generalizing s f data unflushed with
  | nil => exact ⟨f, works, by simpa [Session.performAll] using d, rfl⟩
  | cons c calls ih =>
    obtain ⟨result, works', tree, directory⟩ := works.perform c
    simp only [Session.performAll, SessionM.bind_apply, SessionM.pure_apply, AllOk,
      List.forall_mem_cons] at ok ⊢
    obtain ⟨⟨reply, good⟩, rest⟩ := ok
    rw [result] at good
    have step : c.onFile f s.tree =
        (.ok reply, (c.onFile f s.tree).2.1, (c.onFile f s.tree).2.2) := by
      cases hc : (c.onFile f s.tree).1 with
      | error fault => simp [hc, Except.mapError] at good
      | ok r =>
        obtain rfl : r = reply := by simpa [hc, Except.mapError] using good
        rw [← hc]
    have next := Call.delivered backed opened d step
    rw [← tree] at next
    obtain ⟨f', works'', all, directory'⟩ := ih works' next rest
    exact ⟨f', works'', by simpa using all, directory'.trans directory⟩

/-- A stream over a new handle works. -/
theorem adding_works (s : Session) (path : String) (f : OpenFile) :
    (s.adding path f).Works ⟨s.streams.next⟩ f := by
  refine ⟨.owned ⟨FileHandle.typeName, s.handles.next⟩, .make path f, ?_, rfl, ?_, rfl⟩
  · simp [adding, stream?]
  · simp [adding, Wrapper.owned, Wrapper.make]

/-- A stream just obtained works on what its path leads to, from the beginning. -/
theorem obtain_works (wf : s.tree.WellFormed) {mode : Mode} {path : String}
    (h : obtain mode path s = (.ok id, s')) :
    ∃ f, s'.Works id f ∧ f.mode = mode ∧ f.position = 0 ∧ f.pending = none ∧
      s'.tree.find s'.directory (.ofText path) = .ok f.entry ∧ s'.tree.Backs f.entry ∧
      (mode = .writing → f.entry ≠ .directory ∧ s'.tree.bytes f.entry = []) := by
  cases mode with
  | reading =>
    rw [obtain] at h
    cases found : s.tree.find s.directory (.ofText path) with
    | error fault =>
      rw [openStream_of_error found] at h
      cases h
    | ok entry =>
      rw [openStream_of_ok found, Prod.mk.injEq] at h
      obtain ⟨hid, rfl⟩ := h
      obtain rfl := Except.ok.inj hid
      refine ⟨.make .reading entry, adding_works _ _ _, rfl, rfl, rfl, found, ?_, by simp⟩
      obtain ⟨place, there⟩ := (Tree.find_cases found).1
      cases entry with
      | directory => trivial
      | file index => exact wf place index there
  | writing =>
    rw [obtain] at h
    cases created : s.tree.createWithParents s.directory (.ofText path) with
    | mk result tree =>
      cases result with
      | error fault =>
        rw [createStream_of_error created] at h
        cases h
      | ok index =>
        rw [createStream_of_ok created, Prod.mk.injEq] at h
        obtain ⟨hid, rfl⟩ := h
        obtain rfl := Except.ok.inj hid
        have made := Tree.createWithParents_made wf created
        exact ⟨.make .writing (.file index), adding_works _ _ _, rfl, rfl, rfl, made.found,
          made.backed, fun _ => ⟨by simp [OpenFile.make], made.vacant⟩⟩

/-- A disposal leaves the files alone. -/
theorem Works.dispose (works : s.Works id f) :
    (Session.dispose id s).2.tree = s.tree ∧ (Session.dispose id s).2.directory = s.directory := by
  obtain ⟨wrapper, handle, hw, -, hh, -⟩ := works
  rw [dispose_eq hw hh]
  split
  · exact ⟨rfl, rfl⟩
  · split <;> exact ⟨rfl, rfl⟩

end Session

/-! ## Delivery -/

/-- When a stream has been obtained, calls on it have all gone well and it has been disposed of, its
path leads to the same file as at first, and this file has received what was written, in order: all
of it if each write was followed by a flush, and otherwise all but some end of the last block of the
last write. -/
theorem writes_delivered {s₀ s₁ s₂ : Session} {mode : Mode} {path : String} {id : StreamId}
    {calls : List Call} {results : List (Except HostError Reply)} (wf : s₀.tree.WellFormed)
    (obtained : Session.obtain mode path s₀ = (.ok id, s₁))
    (performed : Session.performAll id calls s₁ = (results, s₂)) (ok : Session.AllOk results) :
    ∃ entry, s₁.tree.find s₁.directory (.ofText path) = .ok entry ∧
      (Session.dispose id s₂).2.tree.find s₁.directory (.ofText path) = .ok entry ∧
      (mode = .writing → s₁.tree.bytes entry = []) ∧
      ∃ kept lost, calls.flatMap Call.data = kept ++ lost ∧
        (Session.dispose id s₂).2.tree.bytes entry =
          Tree.overwrite (s₁.tree.bytes entry) 0 kept ∧
        (Call.Flushed calls → lost = []) ∧ (lost ≠ [] → Call.Outstanding calls lost) := by
  obtain ⟨f, works, hm, hp, -, found, backed, made⟩ := Session.obtain_works wf obtained
  have opened : f.mode = .writing → f.entry ≠ .directory := by rw [hm]; exact fun h => (made h).1
  have good : Session.AllOk (Session.performAll id calls s₁).1 := by rwa [performed]
  have all := works.performAll backed opened (Delivered.start f s₁.tree) good
  rw [performed] at all
  obtain ⟨f', works', d, -⟩ := all
  obtain ⟨tree, -⟩ := works'.dispose
  obtain ⟨kept, lost, whole, ending, short, -, bytes, -⟩ := d.received
  rw [hp] at bytes
  have outstanding : lost ≠ [] → Call.Outstanding calls lost := by
    intro some_lost
    obtain none | ⟨before, data, after, split, quiet, empty, last⟩ :=
      Call.foldl_unflushed_cases calls
    · rw [none, List.suffix_nil] at ending
      exact absurd ending some_lost
    · exact ⟨short, before, data, after, split, quiet, empty, last ▸ ending⟩
  refine ⟨f.entry, found, ?_, fun h => (made h).2, kept, lost, by simpa using whole,
    by rw [tree]; exact bytes, ?_, outstanding⟩
  · rw [tree]
    exact (Tree.find_cases found).2 _ (.of_entries d.places)
  · intro flushed
    by_contra some_lost
    obtain ⟨-, before, data, after, split, quiet, -, ending⟩ := outstanding some_lost
    refine quiet (flushed before data after split ?_)
    rintro rfl
    exact some_lost (List.suffix_nil.1 ending)

/-! A device that has room for the first write and for one byte of the second: -/

/-- An empty tree over such a device. -/
def nearlyFull : Session :=
  ⟨⟨[], .empty, [.whole, .part 1 (.numbered "No space left on device" 28)]⟩, [], .empty, .empty, []⟩

/-- Two writes, the first of them flushed. -/
def twoWrites : List Call := [.write [1, 2], .flush, .length, .write [3, 4]]

/-- The session in which the file has been made. -/
def nearlyFullOpened : Session := (Session.obtain .writing "a" nearlyFull).2

/-- The session after the writes. -/
def nearlyFullWritten : Session := (Session.performAll ⟨0⟩ twoWrites nearlyFullOpened).2

theorem writes_delivered_nearly_full :
    nearlyFull.tree.WellFormed ∧
      Session.obtain .writing "a" nearlyFull = (.ok ⟨0⟩, nearlyFullOpened) ∧
      Session.performAll ⟨0⟩ twoWrites nearlyFullOpened =
        ([.ok .done, .ok .done, .ok (.size 2), .ok .done], nearlyFullWritten) ∧
      ∃ entry, nearlyFullOpened.tree.find nearlyFullOpened.directory (.ofText "a") = .ok entry ∧
        (Session.dispose ⟨0⟩ nearlyFullWritten).2.tree.find nearlyFullOpened.directory
          (.ofText "a") = .ok entry ∧
        (Mode.writing = .writing → nearlyFullOpened.tree.bytes entry = []) ∧
        ∃ kept lost, twoWrites.flatMap Call.data = kept ++ lost ∧
          (Session.dispose ⟨0⟩ nearlyFullWritten).2.tree.bytes entry =
            Tree.overwrite (nearlyFullOpened.tree.bytes entry) 0 kept ∧
          (Call.Flushed twoWrites → lost = []) ∧ (lost ≠ [] → Call.Outstanding twoWrites lost) := by
  have wf : nearlyFull.tree.WellFormed := by
    intro place index there
    cases place <;> simp [nearlyFull, Tree.entry?] at there
  have obtained : Session.obtain .writing "a" nearlyFull = (.ok ⟨0⟩, nearlyFullOpened) :=
    Prod.ext (by decide +kernel) rfl
  have performed : Session.performAll ⟨0⟩ twoWrites nearlyFullOpened =
      ([.ok .done, .ok .done, .ok (.size 2), .ok .done], nearlyFullWritten) :=
    Prod.ext (by decide +kernel) rfl
  have ok : Session.AllOk [.ok .done, .ok .done, .ok (.size 2), .ok .done] := by simp [Session.AllOk]
  exact ⟨wf, obtained, performed, writes_delivered wf obtained performed ok⟩

/-! Without the flush bytes can be lost, although no call has failed. -/

/-- Whether calls that all go well, before a disposal that goes well, bring everything that they
write to the file. -/
def Lossless (s₀ : Session) (mode : Mode) (path : String) (calls : List Call) : Prop :=
  ∀ id s₁ results s₂ s₃ entry, Session.obtain mode path s₀ = (.ok id, s₁) →
    Session.performAll id calls s₁ = (results, s₂) → Session.AllOk results →
    Session.dispose id s₂ = (.ok (), s₃) → s₁.tree.find s₁.directory (.ofText path) = .ok entry →
    s₃.tree.bytes entry = Tree.overwrite (s₁.tree.bytes entry) 0 (calls.flatMap Call.data)

/-- A tree with one file that holds one byte. -/
def oneFile : Session := ⟨⟨[([[0x61]], .file 0)], ⟨[[0x78]]⟩, []⟩, [], .empty, .empty, []⟩

/-- The session in which this file has been opened. -/
def oneFileOpened : Session := (Session.obtain .reading "a" oneFile).2

/-- The session after a write to it. -/
def oneFileWritten : Session := (Session.performAll ⟨0⟩ [.write [0x79]] oneFileOpened).2

/-- A write to a stream that is open for reading goes well, and so does the disposal, but the file
has not received it. -/
theorem not_lossless_reading : ¬ Lossless oneFile .reading "a" [.write [0x79]] := by
  intro lossless
  have received := lossless ⟨0⟩ oneFileOpened [.ok .done] oneFileWritten
    (Session.dispose ⟨0⟩ oneFileWritten).2 (.file 0) (Prod.ext (by decide +kernel) rfl)
    (Prod.ext (by decide +kernel) rfl) (by simp [Session.AllOk]) (Prod.ext (by decide +kernel) rfl)
    (by decide +kernel)
  revert received
  decide +kernel

end Hostlink.Storage
