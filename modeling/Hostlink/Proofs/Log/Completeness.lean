import Hostlink.Proofs.Log.Deciding
import Hostlink.Proofs.Log.Noninterference

/-!
# The pipeline gets all that it should

With the standard filter the host's pipeline gets an entry for each event that is severe enough for
its target and for the pipeline, in the order in which the events are emitted, and no others.
`Reports` says what an entry has of its event and of the spans around it.
-/

namespace Hostlink

/-! ## Maps that are filled from a list -/

theorem SortedMap.ofList_concat {κ α : Type} [KeyOrder κ] (pairs : List (κ × α)) (pair : κ × α) :
    ofList (pairs ++ [pair]) = (ofList pairs).insert pair.1 pair.2 := by
  simp [ofList]

/-- Of several values for a key the last one is kept. -/
theorem SortedMap.get?_ofList {κ α : Type} [KeyOrder κ] [DecidableEq κ] (pairs : List (κ × α))
    (key : κ) : (ofList pairs).get? key = ((pairs.filter (·.1 = key)).getLast?).map (·.2) := by
  induction pairs using List.reverseRecOn with
  | nil => rfl
  | append_singleton pairs pair ih =>
    rw [ofList_concat, insert, List.filter_append]
    by_cases same : key = pair.1
    · subst same
      simp [get?_modify_self]
    · simp [get?_modify_of_ne _ same, ih, Ne.symm same]

namespace Log

/-! ## What a program emits, in order -/

mutual

/-- The events of an emission, each with the spans around it, the innermost one first. -/
def Emission.events (spans : List Span) : Emission → List (Event × List Span)
  | .event e => [(e, spans)]
  | .span s body => allEvents (s :: spans) body

/-- The events of emissions in order. -/
def allEvents (spans : List Span) : List Emission → List (Event × List Span)
  | [] => []
  | e :: rest => e.events spans ++ allEvents spans rest

end

/-- The event that is noticed, with its scope. -/
def Happening.event? : Happening → Option (Event × List Span)
  | .event e scope => some (e, scope)
  | .opened .. => none
  | .closed .. => none

/-- An event as a filter shows it: in the scope of those spans that are admitted. -/
def shownBy (admits : Source → Bool) (x : Event × List Span) : Event × List Span :=
  (x.1, x.2.filter (admits ·.source))

mutual

/-- Of an emission the events are noticed that the filter admits, in the scope of the spans that it
admits. -/
theorem Emission.filterMap_noticed {filter : Filter} {admits : Source → Bool}
    (decides : ∀ around o, filter.enabled around o = admits o.source) (around : List Threshold)
    (spans : List Span) (e : Emission) :
    (e.noticed filter around (spans.filter (admits ·.source))).filterMap (·.event?) =
      ((e.events spans).filter (admits ·.1.source)).map (shownBy admits) := by
  match e with
  | .event e =>
    have same : filter.enabled around e.occurrence = admits e.source := decides around e.occurrence
    rw [Emission.noticed, Emission.events, same]
    cases admitted : admits e.source with
    | true => simp [Happening.event?, shownBy, admitted]
    | false => simp [admitted]
  | .span s body =>
    have same : filter.enabled around s.occurrence = admits s.source := decides around s.occurrence
    rw [Emission.noticed, Emission.events, same]
    cases admitted : admits s.source with
    | true =>
      have inside := filterMap_noticedAll decides (filter.thresholds s.occurrence ++ around)
        (s :: spans) body
      simp only [List.filter_cons, admitted, if_true] at inside
      simpa [Happening.event?] using inside
    | false =>
      have inside := filterMap_noticedAll decides around (s :: spans) body
      simp only [List.filter_cons, admitted, Bool.false_eq_true, if_false] at inside
      simpa using inside

/-- The same of emissions in order. -/
theorem filterMap_noticedAll {filter : Filter} {admits : Source → Bool}
    (decides : ∀ around o, filter.enabled around o = admits o.source) (around : List Threshold)
    (spans : List Span) (es : List Emission) :
    (noticedAll filter around (spans.filter (admits ·.source)) es).filterMap (·.event?) =
      ((allEvents spans es).filter (admits ·.1.source)).map (shownBy admits) := by
  match es with
  | [] => rfl
  | e :: rest =>
    rw [noticedAll, allEvents, List.filterMap_append, List.filter_append, List.map_append,
      Emission.filterMap_noticed decides around spans e,
      filterMap_noticedAll decides around spans rest]

end

/-! ## What an entry has of its event -/

/-- The text of the last value that an event has under a name. -/
def Event.lastText? (e : Event) (name : String) : Option String :=
  (e.fields.filter (·.name = name)).getLast?.map (·.value.plain)

/-- Whether a configuration admits what comes from a source, unless it has a filter of its own: the
workspace's own parts speak from the configured level on, all others from warnings on. -/
def Config.Admits (c : Config) (source : Source) : Prop :=
  Filter.standardLeast c.level source.target ≤ source.level

instance (c : Config) (source : Source) : Decidable (c.Admits source) :=
  inferInstanceAs (Decidable (Filter.standardLeast c.level source.target ≤ source.level))

/-- An entry that reports an event inside of spans, of which the first is the innermost one. -/
structure Reports (c : Config) (e : Event) (spans : List Span) (entry : Entry) : Prop where
  level : entry.level = e.source.level
  target : entry.target = e.source.target
  message : entry.message = (e.lastText? messageField).getD e.source.name
  fields (name : String) : entry.fields.get? name =
    if name = messageField then none
    else (e.lastText? name).map fun text =>
      if c.redactFields then Redaction.redactField name text else text
  span : entry.spanId = (spans.find? (c.Admits ·.source)).map (·.source.name)

theorem Event.message_eq_lastText (e : Event) :
    e.message = (e.lastText? messageField).getD e.source.name := by
  rw [e.message_eq, lastText?, ← List.head?_filter, List.filter_reverse, List.head?_reverse]

/-- Of several fields of one name the last one is handed on; the message is none of them. -/
theorem Event.get?_forwardedFields (e : Event) (redact : Bool) (name : String) :
    (e.forwardedFields redact).get? name =
      if name = messageField then none
      else (e.lastText? name).map fun text =>
        if redact then Redaction.redactField name text else text := by
  rw [forwardedFields, SortedMap.get?_ofList, List.filter_map, List.filter_filter,
    List.getLast?_map, lastText?]
  simp only [Function.comp_def]
  split
  next message =>
    have none :
        e.fields.filter (fun f => decide (f.name = name) && decide (f.name ≠ messageField)) = [] := by
      rw [List.filter_eq_nil_iff]
      intro f _
      simp [message]
    rw [none]
    rfl
  next other =>
    have same :
        e.fields.filter (fun f => decide (f.name = name) && decide (f.name ≠ messageField)) =
          e.fields.filter (·.name = name) := by
      refine List.filter_congr fun f _ => ?_
      by_cases named : f.name = name <;> simp [named, other]
    rw [same]
    cases last : (e.fields.filter (·.name = name)).getLast? with
    | none => rfl
    | some f =>
      have named : f.name = name := by
        simpa using (List.mem_filter.1 (List.mem_of_getLast? last)).2
      simp [Field.forwarded, named]

/-- The entry for an event in the scope of the admitted spans reports the event. -/
theorem reports_toEntry (c : Config) (now : Time.Instant) (e : Event) (spans : List Span) :
    Reports c e spans (e.toEntry c.redactFields now (spans.filter (c.Admits ·.source))) where
  level := rfl
  target := rfl
  message := e.message_eq_lastText
  fields name := e.get?_forwardedFields c.redactFields name
  span := by
    rw [← List.head?_filter]
    rfl

/-! ## What the pipeline gets -/

/-- The pipeline gets an entry for each event noticed that is severe enough for it, in order. -/
theorem forwardedFrom_events (sink : Sink) (redact : Bool) (clock : Nat → Time.Instant)
    (hs : List Happening) (first : Nat) :
    List.Forall₂ (fun x entry => ∃ now, entry = x.1.toEntry redact now x.2)
      ((hs.filterMap (·.event?)).filter (sink.minLevel ≤ ·.1.source.level))
      ((hs.zipIdx first).filterMap fun x => sink.entry? redact (clock x.2) x.1) := by
  induction hs generalizing first with
  | nil => exact .nil
  | cons h hs ih =>
    rw [List.zipIdx_cons, List.filterMap_cons, List.filterMap_cons]
    cases h with
    | event e scope =>
      simp only [Happening.event?, Sink.entry?, List.filter_cons, decide_eq_true_eq]
      split
      next severe => exact .cons ⟨clock first, rfl⟩ (ih (first + 1))
      next => exact ih (first + 1)
    | opened | closed => exact ih (first + 1)

/-- Without a filter of its own a configuration reads the text of the standard filter.  The pipeline
then gets a report of each event that is admitted and severe enough for the pipeline, in the order
in which the events are emitted, once each, and nothing else. -/
theorem sink_complete (c : Config) (unfiltered : c.filter = none) {sink : Sink}
    (host : c.sink = some sink) {attempts : Nat} (set_up : attempts ≠ 0)
    (clock : Nat → Time.Instant) (emissions : List Emission) :
    c.buildFilter = Filter.ofString (Filter.standardText c.level) ∧
      List.Forall₂ (fun x entry => Reports c x.1 x.2 entry)
        ((allEvents [] emissions).filter fun x =>
          sink.minLevel ≤ x.1.source.level ∧ c.Admits x.1.source)
        (c.run attempts clock emissions).entries := by
  have built : c.buildFilter = .ok (.standard c.level) := by rw [Config.buildFilter, unfiltered]
  refine ⟨by rw [built, Filter.ofString_standardText], ?_⟩
  obtain ⟨more, rfl⟩ := Nat.exists_eq_succ_of_ne_zero set_up
  have entries : (c.run (more + 1) clock emissions).entries =
      (noticedAll (.standard c.level) [] [] emissions).zipIdx.filterMap fun x =>
        sink.entry? c.redactFields (clock x.2) x.1 := by
    simp only [Config.run, built, Config.output, Config.forward, host]
  have decides (around : List Threshold) (o : Occurrence) :
      (Filter.standard c.level).enabled around o = decide (c.Admits o.source) :=
    Filter.enabled_standard c.level around o
  have noticed := @filterMap_noticedAll _ (fun source => c.Admits source) decides [] [] emissions
  have forwarded := forwardedFrom_events sink c.redactFields clock
    (noticedAll (.standard c.level) [] [] emissions) 0
  rw [List.filter_nil] at noticed
  rw [noticed, List.filter_map, List.filter_filter, List.forall₂_map_left_iff] at forwarded
  rw [entries]
  simp only [Bool.decide_and]
  refine forwarded.imp ?_
  rintro x _ ⟨now, rfl⟩
  exact reports_toEntry c now x.1 x.2

/-! A request during which a library fails: -/

/-- Logging from debugging on, for a pipeline that takes what is no mere debugging. -/
def requestLogging : Config :=
  { Config.standard with level := .debug, sink := some ⟨.info, false⟩ }

/-- The span of the request. -/
def requestSpan : Span := ⟨⟨"request", "bridge_desktop::http", .debug⟩, []⟩

/-- A span of a library, of a level that the filter shuts off there. -/
def pollSpan : Span := ⟨⟨"poll", "hyper::proto", .info⟩, []⟩

/-- An event that records its message and a path twice. -/
def requestDone : Event :=
  ⟨⟨"event", "bridge_desktop::http", .info⟩,
    [⟨messageField, .text "begun"⟩, ⟨"path", .shown "\"/srv/a.txt\""⟩,
      ⟨"path", .shown "\"/srv/b.txt\""⟩, ⟨messageField, .text "done"⟩]⟩

/-- The failure of the library. -/
def pollFailed : Event := ⟨⟨"poll failed", "hyper::proto", .error⟩, []⟩

/-- What is emitted during the request: besides the two events one that is too chatty for the
pipeline and one that is too chatty for a library. -/
def requestEmissions : List Emission :=
  [.span requestSpan [
    .event ⟨⟨"event", "core_interop::bridge", .debug⟩, []⟩,
    .event requestDone,
    .span pollSpan [.event pollFailed, .event ⟨⟨"event", "hyper::proto", .info⟩, []⟩]]]

theorem sink_complete_request :
    requestLogging.filter = none ∧ requestLogging.sink = some ⟨.info, false⟩ ∧ 1 ≠ 0 ∧
      requestLogging.buildFilter = Filter.ofString (Filter.standardText .debug) ∧
      List.Forall₂ (fun x entry => Reports requestLogging x.1 x.2 entry)
        [(requestDone, [requestSpan]), (pollFailed, [pollSpan, requestSpan])]
        (requestLogging.run 1 (fun i => ⟨i, 0⟩) requestEmissions).entries := by
  obtain ⟨built, received⟩ := sink_complete requestLogging rfl rfl Nat.one_ne_zero
    (fun i => ⟨i, 0⟩) requestEmissions
  have events : ((allEvents [] requestEmissions).filter fun x =>
      Level.info ≤ x.1.source.level ∧ requestLogging.Admits x.1.source) =
      [(requestDone, [requestSpan]), (pollFailed, [pollSpan, requestSpan])] := by
    decide +kernel
  rw [events] at received
  exact ⟨rfl, rfl, Nat.one_ne_zero, built, received⟩

end Log
end Hostlink
