import Hostlink.Proofs.Log.Emitted
import Hostlink.Proofs.Redaction.Quoted
import Hostlink.Proofs.Storage.Handling

/-!
# Directories in the log

Two programs do the same on paths that differ in their directories, and each action ends in the same
way in both.  They report alike events, and so hand on the same entries.  There is one exception: a
drop that finds the file busy reports the failure with the whole path in its text, under a name that
redaction does not know.
-/

namespace Hostlink.Storage

open Redaction (fileName)

/-! ## Doing the same on other paths -/

/-- The same call, or any work of somebody else. -/
inductive Work.Alike : Work → Work → Prop where
  | call (c : Call) : Alike (.call c) (.call c)
  | other (use use' : OpenFile → Tree → Option OpenFile × Tree) : Alike (.other use) (.other use')

/-- The same action on a path with the same last component.  That component is what `fileName`,
which the redaction itself uses, leaves of the text of a path: what is behind the last slash or
backslash. -/
inductive Action.Alike : Action → Action → Prop where
  | obtain (mode : Mode) {path path' : String} (same : fileName path = fileName path') :
      Alike (.obtain mode path) (.obtain mode path')
  | share (id : StreamId) : Alike (.share id) (.share id)
  | lookUp (path path' : String) : Alike (.lookUp path) (.lookUp path')
  | list {path path' : String} (same : fileName path = fileName path') :
      Alike (.list path) (.list path')
  | delete {path path' : String} (same : fileName path = fileName path') :
      Alike (.delete path) (.delete path')
  | dropEntry (index : Nat) : Alike (.dropEntry index) (.dropEntry index)
  | begin (id : StreamId) {work work' : Work} (same : work.Alike work') :
      Alike (.begin id work) (.begin id work')
  | take (task : Nat) : Alike (.take task) (.take task)
  | finish (task : Nat) : Alike (.finish task) (.finish task)
  | dispose (id : StreamId) : Alike (.dispose id) (.dispose id)
  | drop (id : StreamId) : Alike (.drop id) (.drop id)
  | close (id : StreamId) : Alike (.close id) (.close id)

/-- How an action ended: with the number or size of what came back, if it went well. -/
def Answer.outcome : Answer → Option Nat
  | .stream (.ok id) => some id.index
  | .seen (.ok there) => some there.toNat
  | .listed (.ok entries) => some entries.length
  | .ended (.ok _) => some 0
  | .waits task => some task
  | .taken => some 0
  | .returned (.ok (.bytes data)) => some data.length
  | .returned (.ok (.size length)) => some length
  | .returned (.ok .done) => some 0
  | .left isOpen => some isOpen.toNat
  | _ => none

/-! ## Sessions that differ in directories -/

/-- Handles on files with the same last component, both open or both closed. -/
structure FileHandle.Alike (h h' : FileHandle) : Prop where
  path : fileName h.path = fileName h'.path
  slot : h.slot.isSome = h'.slot.isSome
  busy : h.busy = h'.busy

/-- The same work for the same stream, as far along. -/
structure Task.Alike (task task' : Task) : Prop where
  id : task.id = task'.id
  work : task.work.Alike task'.work
  phase : task.phase = task'.phase

/-- Sessions with the same streams over alike handles, which have reported related events. -/
structure Session.Alike (R : Log.Event → Log.Event → Prop) (s s' : Session) : Prop where
  streams : s.streams = s'.streams
  handles : Registry.Alike FileHandle.Alike s.handles s'.handles
  notices : List.Forall₂ R s.notices s'.notices

/-- Such sessions with the same tasks. -/
structure Traffic.Alike (R : Log.Event → Log.Event → Prop) (t t' : Traffic) : Prop where
  session : t.session.Alike R t'.session
  tasks : Registry.Alike Task.Alike t.tasks t'.tasks

/-! ## Events -/

theorem event_alike_refl (e : Log.Event) : e.Alike e :=
  ⟨rfl, List.forall₂_same.2 fun _ _ => ⟨rfl, .same _⟩⟩

/-- Of a path the log shows no more than the last component. -/
theorem fileNotice_alike (message : String) {path path' : String}
    (same : fileName path = fileName path') (more : List Log.Field) :
    (fileNotice message path more).Alike (fileNotice message path' more) := by
  refine ⟨rfl, .cons ⟨rfl, .same _⟩ (.cons ⟨rfl, Redaction.covert_quote same⟩ ?_)⟩
  exact List.forall₂_same.2 fun _ _ => ⟨rfl, .same _⟩

theorem obtained_alike (mode : Mode) {path path' : String}
    (same : fileName path = fileName path') : (mode.obtained path).Alike (mode.obtained path') := by
  cases mode <;> exact fileNotice_alike _ same _

/-- A call reports alike events if it ends alike. -/
theorem notices_alike (c : Call) {path path' : String} (same : fileName path = fileName path')
    (f f' : OpenFile) (t t' : Tree)
    (outcome : (Answer.returned ((c.onFile f t).1.mapError .io)).outcome =
      (Answer.returned ((c.onFile f' t').1.mapError .io)).outcome) :
    List.Forall₂ Log.Event.Alike (c.notices path (c.onFile f t).1)
      (c.notices path' (c.onFile f' t').1) := by
  cases c with
  | read =>
    simp only [Call.onFile] at outcome ⊢
    cases hr : (f.readToEnd t).1 <;> cases hr' : (f'.readToEnd t').1 <;>
      simp [hr, hr', Except.map, Except.mapError, Answer.outcome] at outcome
    · exact .nil
    · simp only [Except.map, Call.notices, outcome]
      exact .cons (fileNotice_alike _ same _) .nil
  | write data =>
    simp only [Call.onFile] at outcome ⊢
    cases hr : (f.writeAll t data).1 <;> cases hr' : (f'.writeAll t' data).1 <;>
      simp [hr, hr', Except.map, Except.mapError, Answer.outcome] at outcome
    · exact .nil
    · exact .cons (fileNotice_alike _ same _) .nil
  | flush | length => exact .nil

/-! ## Sessions stay alike -/

namespace Session.Alike

variable {R : Log.Event → Log.Event → Prop} {s s' : Session}

theorem stream (alike : s.Alike R s') (id : StreamId) : s'.stream? id = s.stream? id := by
  rw [stream?, stream?, alike.streams]

theorem tree (alike : s.Alike R s') (tree tree' : Tree) :
    Session.Alike R { s with tree } { s' with tree := tree' } :=
  ⟨alike.streams, alike.handles, alike.notices⟩

theorem noticing (alike : s.Alike R s') {notices notices' : List Log.Event}
    (related : List.Forall₂ R notices notices') :
    (s.noticing notices).Alike R (s'.noticing notices') :=
  ⟨alike.streams, alike.handles, List.rel_append related alike.notices⟩

theorem adding (alike : s.Alike R s') {path path' : String} (same : fileName path = fileName path')
    (file file' : OpenFile) : (s.adding path file).Alike R (s'.adding path' file') where
  streams := by rw [Session.adding, Session.adding, alike.streams, alike.handles.next]
  handles := alike.handles.insert ⟨same, rfl, rfl⟩
  notices := alike.notices

theorem modifyStreams (alike : s.Alike R s') (id : StreamId) (f : Wrapper → Wrapper) :
    Session.Alike R { s with streams := s.streams.modify id.index f }
      { s' with streams := s'.streams.modify id.index f } := by
  refine ⟨?_, alike.handles, alike.notices⟩
  simp only [alike.streams]

theorem putSlot (alike : s.Alike R s') {slot slot' : Option OpenFile}
    (same : slot.isSome = slot'.isSome) (index : Nat) :
    (s.putSlot index slot).Alike R (s'.putSlot index slot') := by
  refine ⟨alike.streams, alike.handles.modify ?_ index, alike.notices⟩
  intro _ _ one
  exact ⟨one.path, same, one.busy⟩

theorem putBusy (alike : s.Alike R s') (index : Nat) (busy : Bool) :
    (s.putBusy index busy).Alike R (s'.putBusy index busy) := by
  refine ⟨alike.streams, alike.handles.modify ?_ index, alike.notices⟩
  intro _ _ one
  exact ⟨one.path, one.slot, rfl⟩

variable (logs : ∀ e e' : Log.Event, e.Alike e' → R e e')

include logs

theorem same_notices (notices : List Log.Event) : List.Forall₂ R notices notices :=
  List.forall₂_same.2 fun e _ => logs e e (event_alike_refl e)

/-- Of alike handles both or none have a file to close. -/
theorem closed_notices {handle handle' : FileHandle} (same : handle.Alike handle') :
    List.Forall₂ R (if handle.isOpen then [fileNotice "Closed file" handle.path []] else [])
      (if handle'.isOpen then [fileNotice "Closed file" handle'.path []] else []) := by
  have opened : handle.isOpen = handle'.isOpen := same.slot
  rw [opened]
  split
  · exact .cons (logs _ _ (fileNotice_alike _ same.path _)) .nil
  · exact .nil

theorem marking (alike : s.Alike R s') (id : StreamId) (wrapper : Wrapper) :
    (s.marking id wrapper).Alike R (s'.marking id wrapper) := by
  exact (alike.modifyStreams id _).noticing (same_notices logs _)

theorem closing (alike : s.Alike R s') (id : StreamId) (index : Nat) {handle handle' : FileHandle}
    (same : handle.Alike handle') :
    (s.closing id index handle).Alike R (s'.closing id index handle') := by
  exact ((alike.modifyStreams id _).putSlot rfl index).noticing (closed_notices logs same)

variable {id : StreamId} {wrapper : Wrapper}

omit logs in
/-- A stream of both sessions is over alike handles. -/
theorem under (alike : s.Alike R s') (backed : s.Backed) (hw : s.stream? id = some wrapper) :
    s'.stream? id = some wrapper ∧ ∃ handle handle', handle.Alike handle' ∧
      s.handles.get? wrapper.native.identity = some handle ∧
      s'.handles.get? wrapper.native.identity = some handle' := by
  obtain ⟨-, handle, hh, -⟩ := backed id wrapper hw
  obtain ⟨handle', hh', one⟩ := alike.handles.get_some hh
  exact ⟨by rw [alike.stream, hw], handle, handle', one, hh, hh'⟩

theorem obtain (alike : s.Alike R s') (mode : Mode) {path path' : String}
    (same : fileName path = fileName path')
    (outcome : (Answer.stream (Session.obtain mode path s).1).outcome =
      (Answer.stream (Session.obtain mode path' s').1).outcome) :
    (Session.obtain mode path s).2.Alike R (Session.obtain mode path' s').2 := by
  obtain ⟨fault, tree, h⟩ | ⟨tree, entry, h⟩ := obtain_cases mode path s <;>
  obtain ⟨fault', tree', h'⟩ | ⟨tree', entry', h'⟩ := obtain_cases mode path' s' <;>
  simp only [h, h', Answer.outcome, reduceCtorEq] at outcome ⊢
  · exact alike.tree tree tree'
  · have reported := logs _ _ (obtained_alike mode same)
    exact ((alike.tree tree tree').noticing (.cons reported .nil)).adding same _ _

omit logs in
theorem share (alike : s.Alike R s') (id : StreamId) :
    (Session.share id s).2.Alike R (Session.share id s').2 := by
  cases hw : s.stream? id with
  | none =>
    have hw' : s'.stream? id = none := by rw [alike.stream, hw]
    rw [share_of_missing hw, share_of_missing hw']
    exact alike
  | some wrapper =>
    have hw' : s'.stream? id = some wrapper := by rw [alike.stream, hw]
    rw [share_eq hw, share_eq hw']
    refine ⟨?_, alike.handles, alike.notices⟩
    simp only [alike.streams]

theorem list (alike : s.Alike R s') {path path' : String} (same : fileName path = fileName path')
    (outcome : (Answer.listed (Session.list path s).1).outcome =
      (Answer.listed (Session.list path' s').1).outcome) :
    (Session.list path s).2.Alike R (Session.list path' s').2 := by
  obtain ⟨fault, h⟩ | ⟨entries, h⟩ := list_cases path s <;>
  obtain ⟨fault', h'⟩ | ⟨entries', h'⟩ := list_cases path' s' <;>
  simp only [h, h', Answer.outcome, reduceCtorEq, Option.some.injEq] at outcome ⊢
  · exact alike
  · rw [outcome]
    exact alike.noticing (.cons (logs _ _ (fileNotice_alike _ same _)) .nil)

theorem delete (alike : s.Alike R s') {path path' : String} (same : fileName path = fileName path')
    (outcome : (Answer.ended (Session.delete path s).1).outcome =
      (Answer.ended (Session.delete path' s').1).outcome) :
    (Session.delete path s).2.Alike R (Session.delete path' s').2 := by
  obtain ⟨fault, h⟩ | ⟨tree, h⟩ := delete_cases path s <;>
  obtain ⟨fault', h'⟩ | ⟨tree', h'⟩ := delete_cases path' s' <;>
  simp only [h, h', Answer.outcome, reduceCtorEq] at outcome ⊢
  · exact alike
  · have reported := logs _ _ (fileNotice_alike "Deleted file" same [])
    exact (alike.tree tree tree').noticing (.cons reported .nil)

theorem carryOut (alike : s.Alike R s') (backed : s.Backed) (hw : s.stream? id = some wrapper)
    {work work' : Work} (same : work.Alike work')
    (outcome : (work.carryOut id s).1.outcome = (work'.carryOut id s').1.outcome) :
    (work.carryOut id s).2.Alike R (work'.carryOut id s').2 := by
  obtain ⟨hw', handle, handle', one, hh, hh'⟩ := alike.under backed hw
  have open_alike := one.slot
  cases hs : handle.slot with
  | none =>
    have hs' : handle'.slot = none := by simpa [hs] using open_alike
    rw [work.carryOut_of_closed hw hh hs, work'.carryOut_of_closed hw' hh' hs']
    exact alike
  | some file =>
    obtain ⟨file', hs'⟩ : ∃ file', handle'.slot = some file' := by
      rw [hs, Option.isSome_some] at open_alike
      exact Option.isSome_iff_exists.1 open_alike.symm
    cases same with
    | call c =>
      rw [Work.carryOut_call c hw hh hs, Work.carryOut_call c hw' hh' hs'] at outcome ⊢
      have reported := notices_alike c one.path file file' s.tree s'.tree outcome
      have filled : (some (c.onFile file s.tree).2.1).isSome =
          (some (c.onFile file' s'.tree).2.1).isSome := rfl
      exact ((alike.tree _ _).putSlot filled _).noticing (reported.imp fun _ _ => logs _ _)
    | other use use' =>
      rw [Work.carryOut_other use hw hh hs, Work.carryOut_other use' hw' hh' hs'] at outcome ⊢
      have left := Option.some.inj outcome
      refine (alike.tree _ _).putSlot ?_ _
      cases h : (use file s.tree).1.isSome <;> cases h' : (use' file' s'.tree).1.isSome <;>
        simp [h, h'] at left ⊢

theorem dispose (alike : s.Alike R s') (backed : s.Backed) (id : StreamId) :
    (Session.dispose id s).2.Alike R (Session.dispose id s').2 := by
  cases hw : s.stream? id with
  | none =>
    have hw' : s'.stream? id = none := by rw [alike.stream, hw]
    rw [dispose_of_missing hw, dispose_of_missing hw']
    exact alike
  | some wrapper =>
    obtain ⟨hw', handle, handle', one, hh, hh'⟩ := alike.under backed hw
    rw [dispose_eq hw hh, dispose_eq hw' hh', ← one.busy]
    split
    · exact alike.marking logs id wrapper
    · split
      · exact alike.marking logs id wrapper
      · exact (alike.marking logs id wrapper).closing logs id _ one

/-- Drops are alike, if those are that find the file busy. -/
theorem drop (alike : s.Alike R s') (backed : s.Backed) (id : StreamId)
    (fails : ∀ wrapper handle handle', s.stream? id = some wrapper →
      s.handles.get? wrapper.native.identity = some handle → wrapper.needsClose = true →
      handle.busy = true → handle.Alike handle' →
        R (wrapper.dropNotice handle.busyError) (wrapper.dropNotice handle'.busyError)) :
    (Session.drop id s).2.Alike R (Session.drop id s').2 := by
  cases hw : s.stream? id with
  | none =>
    have hw' : s'.stream? id = none := by rw [alike.stream, hw]
    rw [drop_of_missing hw, drop_of_missing hw']
    exact alike
  | some wrapper =>
    obtain ⟨hw', handle, handle', one, hh, hh'⟩ := alike.under backed hw
    rw [drop_eq hw, drop_eq hw', dispose_eq hw hh, dispose_eq hw' hh', ← one.busy]
    cases hn : wrapper.needsClose with
    | false => exact alike.marking logs id wrapper
    | true =>
      cases hb : handle.busy with
      | true =>
        have failed := fails wrapper handle handle' hw hh hn hb one
        exact (alike.marking logs id wrapper).noticing (.cons failed .nil)
      | false => exact (alike.marking logs id wrapper).closing logs id _ one

theorem closeHandle (alike : s.Alike R s') (backed : s.Backed) (id : StreamId) :
    (Session.closeHandle id s).2.Alike R (Session.closeHandle id s').2 := by
  cases hw : s.stream? id with
  | none =>
    have hw' : s'.stream? id = none := by rw [alike.stream, hw]
    rw [closeHandle_of_missing hw, closeHandle_of_missing hw']
    exact alike
  | some wrapper =>
    obtain ⟨hw', handle, handle', one, hh, hh'⟩ := alike.under backed hw
    rw [closeHandle_eq hw hh, closeHandle_eq hw' hh', ← one.busy]
    split
    · exact alike
    · exact (alike.putSlot rfl _).noticing (closed_notices logs one)

end Session.Alike

/-! ## Traffic stays alike -/

namespace Traffic

variable {R : Log.Event → Log.Event → Prop} {t t' : Traffic} {a a' : Action}

/-- A drop that should close the handle while somebody has the slot. -/
def DropsBusy (wrapper : Wrapper) (handle : FileHandle) (t : Traffic) (a : Action) : Prop :=
  ∃ id, a = .drop id ∧ t.session.stream? id = some wrapper ∧
    t.session.handles.get? wrapper.native.identity = some handle ∧
    wrapper.needsClose = true ∧ handle.busy = true

theorem Alike.start (tree tree' : Tree) (directory directory' : Location) :
    (start tree directory).Alike R (start tree' directory') :=
  ⟨⟨rfl, .empty, .nil⟩, .empty⟩

theorem Alike.lift (alike : t.Alike R t') {s s' : Session} (session : s.Alike R s') :
    Alike R { t with session := s } { t' with session := s' } :=
  ⟨session, alike.tasks⟩

theorem Alike.queue (alike : t.Alike R t') (id : StreamId) {work work' : Work}
    (same : work.Alike work') : (t.queue id work).2.Alike R (t'.queue id work').2 :=
  ⟨alike.session, alike.tasks.insert ⟨rfl, same, rfl⟩⟩

theorem Alike.advance (alike : t.Alike R t') {id : StreamId} {wrapper : Wrapper}
    {s s' : Session} (session : s.Alike R s') (hw : s.stream? id = some wrapper) (n : Nat)
    (phase : Phase) (busy : Bool) :
    (t.advance n phase busy id s).Alike R (t'.advance n phase busy id s') := by
  have hw' : s'.stream? id = some wrapper := by rw [session.stream, hw]
  rw [Traffic.advance, Traffic.advance, Session.setBusy_eq hw, Session.setBusy_eq hw']
  refine ⟨session.putBusy _ busy, alike.tasks.modify ?_ n⟩
  intro _ _ one
  exact ⟨one.id, one.work, rfl⟩

/-- A task that has come as far in both gets the slot in both or in none. -/
theorem Alike.take (alike : t.Alike R t') (valid : t.Valid) (n : Nat) :
    (t.step (.take n)).2.Alike R (t'.step (.take n)).2 := by
  cases ht : t.tasks.get? n with
  | none =>
    simp only [Traffic.step, ht, alike.tasks.get_none ht]
    exact alike
  | some task =>
    obtain ⟨task', ht', one⟩ := alike.tasks.get_some ht
    obtain ⟨wrapper, hw⟩ := valid.placed n task ht
    obtain ⟨hw', handle, handle', same, hh, hh'⟩ := alike.session.under valid.backed hw
    have free : t'.session.isFree task.id = t.session.isFree task.id := by
      rw [Session.isFree_eq hw hh, Session.isFree_eq hw' hh', same.busy]
    obtain ⟨id, work, phase⟩ := task
    obtain ⟨id', work', phase'⟩ := task'
    obtain ⟨rfl, -, rfl⟩ := one
    cases phase with
    | waiting =>
      simp only [Traffic.step, ht, ht', free]
      split
      · exact alike.advance alike.session hw n .holding true
      · exact alike
    | holding | finished =>
      simp only [Traffic.step, ht, ht']
      exact alike

/-- Work that ends alike leaves alike traffic. -/
theorem Alike.finish (logs : ∀ e e' : Log.Event, e.Alike e' → R e e') (alike : t.Alike R t')
    (valid : t.Valid) (n : Nat)
    (outcome : (t.step (.finish n)).1.outcome = (t'.step (.finish n)).1.outcome) :
    (t.step (.finish n)).2.Alike R (t'.step (.finish n)).2 := by
  cases ht : t.tasks.get? n with
  | none =>
    simp only [Traffic.step, ht, alike.tasks.get_none ht]
    exact alike
  | some task =>
    obtain ⟨task', ht', one⟩ := alike.tasks.get_some ht
    obtain ⟨wrapper, hw⟩ := valid.placed n task ht
    obtain ⟨-, handle, -, -, hh, -⟩ := alike.session.under valid.backed hw
    obtain ⟨id, work, phase⟩ := task
    obtain ⟨id', work', phase'⟩ := task'
    obtain ⟨rfl, works, rfl⟩ := one
    cases phase with
    | holding =>
      rw [finish_eq ht, finish_eq ht'] at outcome ⊢
      have stays : (work.carryOut id t.session).2.stream? id = some wrapper := by
        obtain ⟨slot, tree, notices, -, done⟩ := work.carryOut_cases hw hh
        rw [done]
        exact hw
      have done := alike.session.carryOut logs valid.backed hw works outcome
      exact alike.advance done stays n .finished false
    | waiting | finished =>
      simp only [Traffic.step, ht, ht']
      exact alike

/-- What begins on one path begins on the other. -/
theorem Alike.begin (alike : t.Alike R t') (id : StreamId) {work work' : Work}
    (same : work.Alike work') : (t.begin id work).2.Alike R (t'.begin id work').2 := by
  have session := alike.session
  cases same with
  | call c =>
    have live : (Session.ensureLive id t'.session).1 = (Session.ensureLive id t.session).1 := by
      simp only [Session.ensureLive, SessionM.bind_apply, SessionM.get_apply, session.stream]
      cases t.session.stream? id <;> rfl
    simp only [Traffic.begin, live]
    split
    · exact alike
    · exact alike.queue id (.call c)
  | other use use' =>
    simp only [Traffic.begin, session.stream]
    split
    · exact alike.queue id (.other use use')
    · exact alike

variable (logs : ∀ e e' : Log.Event, e.Alike e' → R e e')

include logs

/-- The same action with the same outcome on the other path leaves alike traffic. -/
theorem Alike.step (alike : t.Alike R t') (valid : t.Valid) (same : a.Alike a')
    (outcome : (t.step a).1.outcome = (t'.step a').1.outcome)
    (fails : ∀ wrapper handle handle', DropsBusy wrapper handle t a → handle.Alike handle' →
      R (wrapper.dropNotice handle.busyError) (wrapper.dropNotice handle'.busyError)) :
    (t.step a).2.Alike R (t'.step a').2 := by
  have session := alike.session
  have backed := valid.backed
  cases same with
  | obtain mode same => exact alike.lift (session.obtain logs mode same outcome)
  | share id => exact alike.lift (session.share id)
  | lookUp path path' => exact alike
  | list same => exact alike.lift (session.list logs same outcome)
  | delete same => exact alike.lift (session.delete logs same outcome)
  | dropEntry index => exact alike.lift (session.noticing (Session.Alike.same_notices logs [_]))
  | begin id same => exact alike.begin id same
  | take n => exact alike.take valid n
  | finish n => exact alike.finish logs valid n outcome
  | dispose id => exact alike.lift (session.dispose logs backed id)
  | drop id =>
    refine alike.lift (session.drop logs backed id fun wrapper handle handle' hw hh needs busy => ?_)
    exact fails wrapper handle handle' ⟨id, rfl, hw, hh, needs, busy⟩
  | close id => exact alike.lift (session.closeHandle logs backed id)

/-- So do all actions of a run. -/
theorem Alike.after {actions actions' : List Action} (alike : t.Alike R t') (valid : t.Valid)
    (same : List.Forall₂ Action.Alike actions actions')
    (outcomes : (t.answers actions).map Answer.outcome = (t'.answers actions').map Answer.outcome)
    (fails : ∀ wrapper handle handle', t.Once (DropsBusy wrapper handle) actions →
      handle.Alike handle' →
        R (wrapper.dropNotice handle.busyError) (wrapper.dropNotice handle'.busyError)) :
    (t.after actions).Alike R (t'.after actions') := by
  induction same generalizing t t' with
  | nil => exact alike
  | @cons a a' actions actions' one _ ih =>
    rw [answers, answers, List.map_cons, List.map_cons, List.cons.injEq] at outcomes
    obtain ⟨outcome, outcomes⟩ := outcomes
    have stepped := alike.step logs valid one outcome fun wrapper handle handle' drops =>
      fails wrapper handle handle' ((once_cons a).2 (.inl drops))
    exact ih stepped ((valid.effect a).valid valid) outcomes fun wrapper handle handle' once =>
      fails wrapper handle handle' ((once_cons a).2 (.inr once))

omit logs

/-! ## What the host gets -/

/-- The entries that the host's pipeline gets of what traffic has reported. -/
def entries (t : Traffic) (c : Log.Config) (attempts : Nat) (clock : Nat → Time.Instant) :
    List Log.Entry :=
  (c.run attempts clock (t.session.notices.reverse.map .event)).entries

/-- Events of drops that have found files busy which differ in their directories. -/
def BusyDrops (e e' : Log.Event) : Prop :=
  ∃ (wrapper : Wrapper) (handle handle' : FileHandle),
    fileName handle.path = fileName handle'.path ∧ e = wrapper.dropNotice handle.busyError ∧
      e' = wrapper.dropNotice handle'.busyError

theorem BusyDrops.sameShape {e e' : Log.Event} (h : BusyDrops e e') : e.SameShape e' := by
  obtain ⟨wrapper, handle, handle', -, rfl, rfl⟩ := h
  exact ⟨rfl, rfl⟩

/-- With redaction on, what the host gets of the same actions with the same outcomes on other paths
with the same last components is the same but for the times, and but for what drops report that
have found files busy. -/
theorem directories_withheld (tree tree' : Tree) (directory directory' : Location)
    {actions actions' : List Action} (same : List.Forall₂ Action.Alike actions actions')
    (outcomes : ((start tree directory).answers actions).map Answer.outcome =
      ((start tree' directory').answers actions').map Answer.outcome)
    (c : Log.Config) (redacts : c.redactFields = true) (attempts : Nat)
    (clock clock' : Nat → Time.Instant) :
    List.Forall₂ (fun a b => a.SameButTime b ∨ ∃ e e' now now', BusyDrops e e' ∧
        a = e.toEntry true now [] ∧ b = e'.toEntry true now' [])
      (((start tree directory).after actions).entries c attempts clock)
      (((start tree' directory').after actions').entries c attempts clock') ∧
    ((∀ wrapper handle, ¬ (start tree directory).Once (DropsBusy wrapper handle) actions) →
      List.Forall₂ Log.Entry.SameButTime
        (((start tree directory).after actions).entries c attempts clock)
        (((start tree' directory').after actions').entries c attempts clock')) := by
  have valid := valid_start tree directory
  have withheld {e e' : Log.Event} (alike : e.Alike e') (now now' : Time.Instant) :
      (e.toEntry c.redactFields now []).SameButTime (e'.toEntry c.redactFields now' []) := by
    rw [redacts]
    exact alike.toEntry rfl now now'
  constructor
  · have alike := (Alike.start tree tree' directory directory').after
      (R := fun e e' => e.Alike e' ∨ BusyDrops e e') (fun _ _ => .inl) valid same outcomes
      fun wrapper handle handle' _ one => .inr ⟨wrapper, handle, handle', one.path, rfl, rfl⟩
    refine c.run_events_rel attempts clock clock' ?_ ?_ (List.rel_reverse alike.session.notices)
    · rintro e e' (same | busy)
      · exact same.sameShape
      · exact busy.sameShape
    · rintro e e' (same | busy) now now'
      · exact .inl (withheld same now now')
      · exact .inr ⟨e, e', now, now', busy, by rw [redacts], by rw [redacts]⟩
  · intro never
    have alike := (Alike.start tree tree' directory directory').after
      (fun _ _ => id) valid same outcomes
      fun wrapper handle handle' once => absurd once (never wrapper handle)
    exact c.run_events_rel attempts clock clock' (fun _ _ => Log.Event.Alike.sameShape)
      (fun _ _ => withheld) (List.rel_reverse alike.session.notices)

/-! Two users whose files have the same name do the same.  A disposal fails as the file is busy. -/

/-- Whether all drops find their files free. -/
def dropsFree (t : Traffic) : List Action → Bool
  | [] => true
  | .drop id :: actions => t.session.isFree id && (t.step (.drop id)).2.dropsFree actions
  | a :: actions => (t.step a).2.dropsFree actions

theorem never_of_dropsFree {actions : List Action} (free : t.dropsFree actions = true)
    (wrapper : Wrapper) (handle : FileHandle) : ¬ t.Once (DropsBusy wrapper handle) actions := by
  fun_induction dropsFree t actions with
  | case1 t => exact not_once_nil
  | case2 t id actions ih =>
    rw [Bool.and_eq_true] at free
    rw [once_cons, not_or]
    refine ⟨?_, ih free.2⟩
    rintro ⟨other, same, hw, hh, -, busy⟩
    obtain rfl := Action.drop.inj same
    have idle := free.1
    rw [Session.isFree_eq hw hh, busy] at idle
    cases idle
  | case3 t a actions other ih =>
    rw [once_cons, not_or]
    refine ⟨?_, ih free⟩
    rintro ⟨id, rfl, -⟩
    exact other id rfl

/-- Writing to a file, closing it at the second attempt, reading it and taking it away. -/
def tour (directory path : String) : List Action :=
  [.obtain .writing path, .begin ⟨0⟩ (.call (.write [1])), .take 0, .dispose ⟨0⟩, .finish 0,
    .dispose ⟨0⟩, .obtain .reading path, .begin ⟨1⟩ (.call .read), .take 1, .finish 1, .drop ⟨1⟩,
    .list directory, .dropEntry 0, .delete path]

theorem tour_alike {directory directory' path path' : String}
    (above : fileName directory = fileName directory') (last : fileName path = fileName path') :
    List.Forall₂ Action.Alike (tour directory path) (tour directory' path') :=
  .cons (.obtain .writing last) (.cons (.begin _ (.call _)) (.cons (.take _) (.cons (.dispose _)
    (.cons (.finish _) (.cons (.dispose _) (.cons (.obtain .reading last)
      (.cons (.begin _ (.call _)) (.cons (.take _) (.cons (.finish _) (.cons (.drop _)
        (.cons (.list above) (.cons (.dropEntry _) (.cons (.delete last) .nil)))))))))))))

/-- Logging of all that the library itself reports, with redaction, to a pipeline that gets
everything. -/
def everything : Log.Config :=
  { Log.Config.standard with level := .trace, sink := some ⟨.trace, false⟩ }

/-- The traffic of one user. -/
def firstTour : Traffic := (start .empty []).after (tour "alice/docs" "alice/docs/a.txt")

/-- The traffic of the other user. -/
def otherTour : Traffic := (start .empty []).after (tour "b\\ob/docs" "b\\ob/docs/a.txt")

theorem directories_withheld_tour :
    (firstTour.entries everything 1 fun i => ⟨i, 0⟩).length = 11 ∧
      List.Forall₂ Log.Entry.SameButTime (firstTour.entries everything 1 fun i => ⟨i, 0⟩)
        (otherTour.entries everything 1 fun i => ⟨i + 9, 7⟩) := by
  have same : List.Forall₂ Action.Alike (tour "alice/docs" "alice/docs/a.txt")
      (tour "b\\ob/docs" "b\\ob/docs/a.txt") :=
    tour_alike (by decide +kernel) (by decide +kernel)
  have outcomes : ((start .empty []).answers (tour "alice/docs" "alice/docs/a.txt")).map
        Answer.outcome =
      ((start .empty []).answers (tour "b\\ob/docs" "b\\ob/docs/a.txt")).map Answer.outcome := by
    decide +kernel
  have free : (start .empty []).dropsFree (tour "alice/docs" "alice/docs/a.txt") = true := by
    decide +kernel
  obtain ⟨-, withheld⟩ := directories_withheld .empty .empty [] [] same outcomes everything rfl 1
    (fun i => ⟨i, 0⟩) (fun i => ⟨i + 9, 7⟩)
  exact ⟨by decide +kernel, withheld (never_of_dropsFree free)⟩

/-! A drop gives the directory away. -/

/-- A file is made and dropped while somebody else has the slot. -/
def abandon (path : String) : List Action :=
  [.obtain .writing path, .begin ⟨0⟩ (.other fun file tree => (some file, tree)), .take 0,
    .drop ⟨0⟩, .finish 0]

/-- Whether the host gets the same of the same actions on other paths, whatever happens. -/
def Withholds (c : Log.Config) : Prop :=
  ∀ tree tree' directory directory' actions actions', List.Forall₂ Action.Alike actions actions' →
    ((start tree directory).answers actions).map Answer.outcome =
      ((start tree' directory').answers actions').map Answer.outcome →
    ∀ attempts clock clock', List.Forall₂ Log.Entry.SameButTime
      (((start tree directory).after actions).entries c attempts clock)
      (((start tree' directory').after actions').entries c attempts clock')

theorem not_withholds_everything : ¬ Withholds everything := by
  intro withholds
  have same : List.Forall₂ Action.Alike (abandon "alice/a.txt") (abandon "bob/a.txt") :=
    .cons (.obtain .writing (by decide +kernel)) (.cons (.begin _ (.other _ _)) (.cons (.take _)
      (.cons (.drop _) (.cons (.finish _) .nil))))
  have entries := withholds .empty .empty [] [] _ _ same (by decide +kernel) 1 (fun i => ⟨i, 0⟩)
    (fun i => ⟨i, 0⟩)
  have fields : List.Forall₂ Eq
      ((((start .empty []).after (abandon "alice/a.txt")).entries everything 1
        fun i => ⟨i, 0⟩).map (·.fields))
      ((((start .empty []).after (abandon "bob/a.txt")).entries everything 1
        fun i => ⟨i, 0⟩).map (·.fields)) := by
    rw [List.forall₂_map_left_iff, List.forall₂_map_right_iff]
    exact entries.imp fun _ _ one => congrArg Log.Entry.fields one
  rw [List.forall₂_eq_eq_eq] at fields
  revert fields
  decide +kernel

end Traffic
end Hostlink.Storage
