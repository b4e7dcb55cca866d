import Mathlib.Data.List.Forall2
import Mathlib.Data.Option.Basic
import Hostlink.Log.Session
import Hostlink.Proofs.Redaction.Field

/-!
# Secrets do not reach the host

Two programs whose events differ only in what redaction takes away hand on the same entries, apart
from the times at which they do so: what the host's pipeline gets says nothing about the secrets.
-/

namespace Hostlink.Log

open Redaction

/-! ## Events that differ in secrets only -/

/-- Two fields of one name whose values differ in nothing but what is private. -/
structure Field.Alike (f f' : Field) : Prop where
  name : f.name = f'.name
  covert : Covert f.name f.value.plain f'.value.plain

/-- Two events of one source with such fields in the same order. -/
structure Event.Alike (e e' : Event) : Prop where
  source : e.source = e'.source
  fields : List.Forall₂ Field.Alike e.fields e'.fields

/-- Two happenings that differ in secrets only: such events, or ends of spans of one source.  What
spans recorded is of no account. -/
inductive Happening.Alike : Happening → Happening → Prop where
  | event {e e' : Event} {scope scope' : List Span} (events : Event.Alike e e')
      (spans : scope.map (·.source) = scope'.map (·.source)) :
      Happening.Alike (.event e scope) (.event e' scope')
  | opened (span span' : Span) (scope scope' : List Span) :
      Happening.Alike (.opened span scope) (.opened span' scope')
  | closed (span span' : Span) (scope scope' : List Span) :
      Happening.Alike (.closed span scope) (.closed span' scope')

/-- Two entries that are equal in every part but the timestamp. -/
def Entry.SameButTime (a b : Entry) : Prop := a = { b with timestamp := a.timestamp }

/-! ## What is handed on -/

/-- A message is no secret. -/
theorem eq_of_covert_message {value value' : String} (h : Covert messageField value value') :
    value = value' := by
  cases h with
  | same => rfl
  | credential named =>
    exact absurd (isCredential_iff.2 named) (by decide +kernel)
  | path named => exact absurd named (by decide)
  | url named => exact absurd named (by decide)

/-- Alike fields are handed on as the same text. -/
theorem Field.Alike.forwarded {f f' : Field} (h : f.Alike f') :
    f.forwarded true = f'.forwarded true := by
  unfold Field.forwarded
  rw [if_pos rfl, if_pos rfl, ← h.name, h.covert.redactField_eq]

/-- The message of an event is the text of its last field of that name, or else a name. -/
theorem Event.message_eq (e : Event) :
    e.message = ((e.fields.reverse.find? (·.name = messageField)).map (·.value.plain)).getD
      e.source.name := by
  unfold Event.message
  cases e.fields.reverse.find? (·.name = messageField) <;> rfl

/-- The first messages in two lists of alike fields have the same text. -/
theorem find?_message_alike {fields fields' : List Field}
    (h : List.Forall₂ Field.Alike fields fields') :
    (fields.find? (·.name = messageField)).map (·.value.plain) =
      (fields'.find? (·.name = messageField)).map (·.value.plain) := by
  induction h with
  | nil => rfl
  | @cons f f' fields fields' alike _ ih =>
    rw [List.find?_cons, List.find?_cons, ← alike.name]
    by_cases named : f.name = messageField
    · have text : f.value.plain = f'.value.plain := eq_of_covert_message (named ▸ alike.covert)
      simp [named, text]
    · simpa [named] using ih

/-- Alike events have the same message. -/
theorem Event.Alike.message {e e' : Event} (h : e.Alike e') : e.message = e'.message := by
  rw [e.message_eq, e'.message_eq, h.source,
    find?_message_alike (List.forall₂_reverse_iff.2 h.fields)]

/-- Alike fields other than messages are handed on as the same names with the same texts. -/
theorem forwarded_alike {fields fields' : List Field}
    (h : List.Forall₂ Field.Alike fields fields') :
    (fields.filter (·.name ≠ messageField)).map (fun f => (f.name, f.forwarded true)) =
      (fields'.filter (·.name ≠ messageField)).map (fun f => (f.name, f.forwarded true)) := by
  induction h with
  | nil => rfl
  | @cons f f' fields fields' alike _ ih =>
    rw [List.filter_cons, List.filter_cons, ← alike.name]
    split
    · rw [List.map_cons, List.map_cons, ih, alike.forwarded, alike.name]
    · exact ih

/-- Alike events hand on the same fields. -/
theorem Event.Alike.forwardedFields {e e' : Event} (h : e.Alike e') :
    e.forwardedFields true = e'.forwardedFields true := by
  unfold Event.forwardedFields
  rw [forwarded_alike h.fields]

/-- Alike events make the same entries. -/
theorem Event.Alike.toEntry {e e' : Event} (h : e.Alike e') {scope scope' : List Span}
    (spans : scope.map (·.source) = scope'.map (·.source)) (now now' : Time.Instant) :
    (e.toEntry true now scope).SameButTime (e'.toEntry true now' scope') := by
  have span : scope.head?.map (·.source.name) = scope'.head?.map (·.source.name) := by
    have innermost := congrArg (fun sources => sources.head?.map (·.name)) spans
    simpa [Option.map_map, Function.comp_def] using innermost
  unfold Entry.SameButTime Event.toEntry
  simp only [h.source, h.message, h.forwardedFields, span]

/-- Of happenings that are alike a pipeline gets both or none, and the same of both. -/
theorem Sink.entry?_alike (sink : Sink) {h h' : Happening} (alike : h.Alike h')
    (now now' : Time.Instant) :
    Option.Rel Entry.SameButTime (sink.entry? true now h) (sink.entry? true now' h') := by
  cases alike with
  | event events spans =>
    simp only [Sink.entry?, ← events.source]
    split
    · exact .some (events.toEntry spans now now')
    · exact .none
  | opened | closed => exact .none

/-- What a pipeline gets of related happenings is related, if it gets both or none of each two. -/
theorem forwardedFrom_rel {R : Happening → Happening → Prop} {S : Entry → Entry → Prop}
    (sink : Sink) (redact : Bool) (clock clock' : Nat → Time.Instant)
    (each : ∀ h h', R h h' → ∀ now now',
      Option.Rel S (sink.entry? redact now h) (sink.entry? redact now' h'))
    {hs hs' : List Happening} (related : List.Forall₂ R hs hs') (first : Nat) :
    List.Forall₂ S
      ((hs.zipIdx first).filterMap fun x => sink.entry? redact (clock x.2) x.1)
      ((hs'.zipIdx first).filterMap fun x => sink.entry? redact (clock' x.2) x.1) := by
  induction related generalizing first with
  | nil => exact .nil
  | @cons h h' hs hs' one _ ih =>
    rw [List.zipIdx_cons, List.zipIdx_cons, List.filterMap_cons, List.filterMap_cons]
    have both := each h h' one (clock first) (clock' first)
    revert both
    cases sink.entry? redact (clock first) h <;> cases sink.entry? redact (clock' first) h' <;>
      intro both <;> cases both
    · exact ih (first + 1)
    · next same => exact .cons same (ih (first + 1))

/-- What a pipeline gets of happenings that are alike is the same but for the times. -/
theorem forwardedFrom_alike (sink : Sink) (clock clock' : Nat → Time.Instant)
    {hs hs' : List Happening} (alike : List.Forall₂ Happening.Alike hs hs') (first : Nat) :
    List.Forall₂ Entry.SameButTime
      ((hs.zipIdx first).filterMap fun x => sink.entry? true (clock x.2) x.1)
      ((hs'.zipIdx first).filterMap fun x => sink.entry? true (clock' x.2) x.1) :=
  forwardedFrom_rel sink true clock clock' (fun _ _ one => sink.entry?_alike one) alike first

/-- With redaction on, programs whose events differ in secrets only hand on the same entries but
for the times, and decide alike for each event whether to hand it on. -/
theorem secrets_withheld {happenings happenings' : List Happening}
    (alike : List.Forall₂ Happening.Alike happenings happenings') (c : Config)
    (redacts : c.redactFields = true) (clock clock' : Nat → Time.Instant) :
    List.Forall₂ Entry.SameButTime (c.forward clock happenings) (c.forward clock' happenings') ∧
      ∀ sink ∈ c.sink, List.Forall₂
        (fun h h' => ∀ now now', Option.Rel Entry.SameButTime
          (sink.entry? c.redactFields now h) (sink.entry? c.redactFields now' h'))
        happenings happenings' := by
  constructor
  · unfold Config.forward
    rw [redacts]
    cases c.sink with
    | none => exact .nil
    | some sink => exact forwardedFrom_alike sink clock clock' alike 0
  · rintro sink -
    rw [redacts]
    exact alike.imp fun h h' one => sink.entry?_alike one

/-! A download by two users, with different directories, tokens and addresses: -/

/-- A download, as it is recorded. -/
def download (path : String) (token : FieldValue) (url : String) : Event :=
  Event.notice .info "bridge_desktop" "downloaded"
    [⟨"path", .shown path⟩, ⟨"X-Session-Token", token⟩, ⟨"attempt", .int 3⟩, ⟨"url", .text url⟩]

/-- The download of one user. -/
def firstDownload : Event :=
  download "\"/home/alice/re\"port.bin\"" (.text "5ecret")
    "https://alice:p@ss@example.org:8080/v1/@items?key=//a@b#top"

/-- The download of another user. -/
def otherDownload : Event :=
  download "\"C:\\bob\\re\"port.bin\"" (.int 17) "https://example.org:8080/v1/@items#?bob"

/-- The downloads differ in secrets only. -/
theorem firstDownload_alike : firstDownload.Alike otherDownload where
  source := rfl
  fields := by
    let file : Path := { directory := "/home/alice/".toList, last := "re\"port.bin".toList }
    let file' : Path := { directory := "C:\\bob\\".toList, last := "re\"port.bin".toList }
    let address : Url :=
      { scheme := "https".toList, userinfo := some "alice:p@ss".toList
        host := "example.org:8080".toList, path := "/v1/@items".toList
        query := some "key=//a@b".toList, fragment := some "top".toList }
    let address' : Url :=
      { scheme := "https".toList, userinfo := none, host := "example.org:8080".toList
        path := "/v1/@items".toList, query := none, fragment := some "?bob".toList }
    have token : NamesCredential "X-Session-Token" :=
      ⟨"token", by simp, "X-Session-".toList, "Token".toList, [], by decide, by decide⟩
    refine .cons ⟨rfl, .same _⟩ (.cons ⟨rfl, ?_⟩ (.cons ⟨rfl, .credential token⟩
      (.cons ⟨rfl, .same _⟩ (.cons ⟨rfl, ?_⟩ .nil))))
    · exact .path rfl .quoted file file' rfl (by decide) (by decide)
    · exact .url rfl .bare address address' rfl rfl rfl (by decide) (by decide)

/-- Logging with a pipeline that gets everything. -/
def hostLogging : Config := { Config.standard with sink := some ⟨.trace, false⟩ }

theorem secrets_withheld_downloads :
    List.Forall₂ Happening.Alike [.event firstDownload []] [.event otherDownload []] ∧
      hostLogging.redactFields = true ∧
      List.Forall₂ Entry.SameButTime
        (hostLogging.forward (fun i => ⟨i, 0⟩) [.event firstDownload []])
        (hostLogging.forward (fun i => ⟨i + 9, 7⟩) [.event otherDownload []]) ∧
      Option.Rel Entry.SameButTime
        (Sink.entry? ⟨.trace, false⟩ true ⟨0, 0⟩ (.event firstDownload []))
        (Sink.entry? ⟨.trace, false⟩ true ⟨9, 7⟩ (.event otherDownload [])) := by
  have alike : List.Forall₂ Happening.Alike [.event firstDownload []] [.event otherDownload []] :=
    .cons (.event firstDownload_alike rfl) .nil
  obtain ⟨entries, decisions⟩ :=
    secrets_withheld alike hostLogging rfl (fun i => ⟨i, 0⟩) (fun i => ⟨i + 9, 7⟩)
  have one := decisions ⟨.trace, false⟩ rfl
  rw [List.forall₂_cons] at one
  exact ⟨alike, rfl, entries, one.1 ⟨0, 0⟩ ⟨9, 7⟩⟩

end Hostlink.Log
