import Hostlink.Proofs.Log.Noninterference

/-!
# What comes of events

A program emits events alone, outside of all spans.  Whether a filter lets an event pass depends on
its source and on the names of its fields.  If two programs emit related events that have these in
common, the pipeline gets related entries.
-/

namespace Hostlink.Log

/-- Two events of one source with fields of the same names. -/
structure Event.SameShape (e e' : Event) : Prop where
  source : e.source = e'.source
  names : e.fields.map (·.name) = e'.fields.map (·.name)

theorem Event.Alike.sameShape {e e' : Event} (h : e.Alike e') : e.SameShape e' where
  source := h.source
  names := by
    have names : List.Forall₂ Eq (e.fields.map (·.name)) (e'.fields.map (·.name)) := by
      rw [List.forall₂_map_left_iff, List.forall₂_map_right_iff]
      exact h.fields.imp fun _ _ one => one.name
    rwa [List.forall₂_eq_eq_eq] at names

/-- Only the names of the fields decide about an event. -/
theorem FieldMatch.isNamedIn_eq (m : FieldMatch) (fields : List Field) :
    m.isNamedIn fields = (fields.map (·.name)).any (· = m.name) := by
  rw [isNamedIn, List.any_map]
  rfl

/-- A filter decides alike about events of one shape outside of all spans. -/
theorem Event.SameShape.enabled {e e' : Event} (h : e.SameShape e') (filter : Filter) :
    filter.enabled [] e.occurrence = filter.enabled [] e'.occurrence := by
  have decides (d : Directive) : d.decides e.occurrence = d.decides e'.occurrence := by
    simp only [Directive.decides, occurrence, FieldMatch.isNamedIn_eq, h.source, h.names]
  have deciding : filter.deciding? e.occurrence = filter.deciding? e'.occurrence := by
    simp only [Filter.deciding?, decides]
  have source : e.occurrence.source = e'.occurrence.source := h.source
  have event (e : Event) : e.occurrence.isSpan = false := rfl
  simp only [Filter.enabled, Filter.opensUp, deciding, source, event, Bool.false_and,
    List.any_nil, Bool.or_false, Bool.and_false]

/-- Of events alone a program notices those that pass. -/
theorem noticedAll_events (filter : Filter) (es : List Event) :
    noticedAll filter [] [] (es.map .event) =
      (es.filter fun e => filter.enabled [] e.occurrence).map (.event · []) := by
  induction es with
  | nil => rfl
  | cons e es ih =>
    rw [List.map_cons, noticedAll, ih, Emission.noticed, List.filter_cons]
    split <;> rfl

/-- Of two events of one shape a pipeline gets both or none. -/
theorem Event.SameShape.forwarded {S : Entry → Entry → Prop} {e e' : Event} (h : e.SameShape e')
    (sink : Sink) (redact : Bool) (now now' : Time.Instant)
    (entries : S (e.toEntry redact now []) (e'.toEntry redact now' [])) :
    Option.Rel S (sink.entry? redact now (.event e [])) (sink.entry? redact now' (.event e' [])) := by
  simp only [Sink.entry?, ← h.source]
  split
  · exact .some entries
  · exact .none

/-- Of related events of the same shapes related ones pass. -/
theorem passing_rel {R : Event → Event → Prop} (filter : Filter)
    (shapes : ∀ e e', R e e' → e.SameShape e') {es es' : List Event}
    (related : List.Forall₂ R es es') :
    List.Forall₂ R (es.filter fun e => filter.enabled [] e.occurrence)
      (es'.filter fun e => filter.enabled [] e.occurrence) := by
  induction related with
  | nil => exact .nil
  | @cons e e' es es' one _ ih =>
    rw [List.filter_cons, List.filter_cons, (shapes e e' one).enabled filter]
    split
    · exact .cons one ih
    · exact ih

/-- Two programs that emit related events of the same shapes hand on related entries. -/
theorem Config.run_events_rel {R : Event → Event → Prop} {S : Entry → Entry → Prop} (c : Config)
    (attempts : Nat) (clock clock' : Nat → Time.Instant)
    (shapes : ∀ e e', R e e' → e.SameShape e')
    (entries : ∀ e e', R e e' → ∀ now now',
      S (e.toEntry c.redactFields now []) (e'.toEntry c.redactFields now' []))
    {es es' : List Event} (related : List.Forall₂ R es es') :
    List.Forall₂ S (c.run attempts clock (es.map .event)).entries
      (c.run attempts clock' (es'.map .event)).entries := by
  unfold Config.run
  split
  next filter more _ =>
    have passing : List.Forall₂ (fun h h' => ∃ e e', R e e' ∧ h = .event e [] ∧ h' = .event e' [])
        (noticedAll filter [] [] (es.map .event)) (noticedAll filter [] [] (es'.map .event)) := by
      rw [noticedAll_events, noticedAll_events, List.forall₂_map_left_iff,
        List.forall₂_map_right_iff]
      exact (passing_rel filter shapes related).imp fun e e' one => ⟨e, e', one, rfl, rfl⟩
    unfold output forward
    cases c.sink with
    | none => exact .nil
    | some sink =>
      refine forwardedFrom_rel sink c.redactFields clock clock' ?_ passing 0
      rintro _ _ ⟨e, e', one, rfl, rfl⟩ now now'
      exact (shapes e e' one).forwarded sink c.redactFields now now' (entries e e' one now now')
  next => exact .nil

end Hostlink.Log
