import Hostlink.Log.Filter

/-!
# What a program emits

A program emits events, and spans around other emissions.  A filter decides about events and spans
alike.  What it shuts off is not noticed; the inside of a span is noticed all the same, as if the
span were not there.
-/

namespace Hostlink.Log

/-- A stretch of the program that events happen in. -/
structure Span where
  source : Source
  fields : List Field
  deriving DecidableEq, Repr

/-- Something that a program emits. -/
inductive Emission where
  | event (event : Event)
  /-- A span around what is emitted while it is entered. -/
  | span (span : Span) (body : List Emission)
  deriving Repr

instance : Inhabited Emission := ⟨.event ⟨⟨"", "", .trace⟩, []⟩⟩

/-- Something noticed; `scope` has the spans around it, the innermost one first. -/
inductive Happening where
  | event (event : Event) (scope : List Span)
  | opened (span : Span) (scope : List Span)
  | closed (span : Span) (scope : List Span)
  deriving DecidableEq, Repr

/-- What a filter decides about when an event happens. -/
def Event.occurrence (e : Event) : Occurrence := ⟨e.source, e.fields, false⟩

/-- What a filter decides about when a span is opened. -/
def Span.occurrence (s : Span) : Occurrence := ⟨s.source, s.fields, true⟩

mutual

/-- What is noticed of an emission inside of spans; `around` has the thresholds that they bring. -/
def Emission.noticed (filter : Filter) (around : List Threshold) (scope : List Span) :
    Emission → List Happening
  | .event e => if filter.enabled around e.occurrence then [.event e scope] else []
  | .span s body =>
    if filter.enabled around s.occurrence then
      let inner := filter.thresholds s.occurrence ++ around
      .opened s scope :: (noticedAll filter inner (s :: scope) body ++ [.closed s scope])
    else noticedAll filter around scope body

/-- What is noticed of emissions in order. -/
def noticedAll (filter : Filter) (around : List Threshold) (scope : List Span) :
    List Emission → List Happening
  | [] => []
  | e :: rest => e.noticed filter around scope ++ noticedAll filter around scope rest

end

end Hostlink.Log
