import Hostlink.Log.Filter.Directive

/-!
# Log filters

A filter is a list of directives.  Of the directives for a target that are not about spans the most
specific one decides: the one with the longest text for the beginning of the target, then one with
a field before one without, and of several equal ones the last.  A target that no directive is for
is shut off.

A directive about spans opens up more: the spans that it is about pass, and what happens inside of
one that has the fields that are asked for passes at the level of the directive, whatever target it
has.
-/

namespace Hostlink.Log

/-- A list of directives, in the order in which they are given. -/
structure Filter where
  directives : List Directive
  deriving DecidableEq, Repr

/-- What a filter decides about. -/
structure Occurrence where
  source : Source
  fields : List Field
  isSpan : Bool
  deriving DecidableEq, Repr

namespace Directive

/-- Whether the directive decides about something by itself.  A field that is asked for has to be
among those of an event, but not among those of a span. -/
def decides (d : Directive) (o : Occurrence) : Bool :=
  d.appliesTo o.source.target && (o.isSpan || d.field.all (·.isNamedIn o.fields))

/-- Whether the directive is about spans like this one, whatever the values of its fields. -/
def concerns (d : Directive) (o : Occurrence) : Bool :=
  d.appliesTo o.source.target && d.span.all (· = o.source.name)
    && d.field.all (·.isNamedIn o.fields)

/-- Whether the directive is about this span. -/
def opens (d : Directive) (o : Occurrence) : Bool :=
  d.concerns o && d.field.all (·.admits o.fields)

/-- Whether a directive is about the same things as another one. -/
def sameSubject (a b : Directive) : Bool :=
  a.target = b.target && a.span = b.span && a.field = b.field

/-- How specific the directive is in its target, first, and in its fields. -/
def specificity (d : Directive) : Nat × Nat × String :=
  ((d.target.map (·.utf8ByteSize + 1)).getD 0, d.field.isSome.toNat, (d.field.map (·.name)).getD "")

/-- Whether a directive yields to another one that stands behind it. -/
def yieldsTo (a b : Directive) : Bool :=
  let (length, fields, name) := a.specificity
  let (length', fields', name') := b.specificity
  length < length' || length = length' && (fields < fields' || fields = fields' && name ≤ name')

end Directive

namespace Filter

/-- The pieces of a text between commas. -/
def splitCommas : List Char → List (List Char)
  | [] => [[]]
  | c :: rest =>
    if c = ',' then [] :: splitCommas rest
    else
      match splitCommas rest with
      | [] => [[c]]
      | piece :: pieces => (c :: piece) :: pieces

/-- Reads a filter; empty directives are skipped and the first bad one is reported. -/
def ofString (text : String) : Except SetupError Filter :=
  let pieces := (splitCommas text.toList).filter (! ·.isEmpty)
  Filter.mk <$> pieces.mapM Directive.ofChars

/-- The targets of this workspace's own parts. -/
def ownTargets : List String :=
  ["platform_interop_workspace", "core_interop", "bridge_traits", "bridge_desktop", "core_runtime"]

/-- The targets of libraries that talk much. -/
def foreignTargets : List String := ["h2", "hyper", "reqwest"]

/-- The filter unless another one is given: the workspace's own parts at a level, everything else
at warnings. -/
def standard (level : Level) : Filter :=
  ⟨⟨none, none, none, some .warn⟩ :: ownTargets.map (.forTarget · level)
    ++ foreignTargets.map (.forTarget · .warn)⟩

/-- The directives that decide by themselves: those about targets alone, and then those about a
field of any value. -/
def static (f : Filter) : List Directive :=
  f.directives.filter (! ·.isDynamic)
    ++ f.directives.filter fun d => d.isDynamic && d.isStatic

/-- The directives without those about the same things as a later one. -/
def latest : List Directive → List Directive
  | [] => []
  | d :: rest => if rest.any (d.sameSubject ·) then latest rest else d :: latest rest

/-- The directives that open up what happens inside of spans. -/
def dynamic (f : Filter) : List Directive := latest (f.directives.filter (·.isDynamic))

/-- The directive that decides by itself. -/
def deciding? (f : Filter) (o : Occurrence) : Option Directive :=
  (f.static.filter (·.decides o)).foldl (fun best d =>
    match best with
    | none => some d
    | some b => if b.yieldsTo d then some d else some b) none

/-- The thresholds that a span brings for what happens inside of it. -/
def thresholds (f : Filter) (span : Occurrence) : List Threshold :=
  (f.dynamic.filter (·.opens span)).map (·.threshold)

/-- Whether something passes by what it is or by the thresholds of the spans around it.  A level
that no directive about spans ever lets pass is left to the other directives. -/
def opensUp (f : Filter) (around : List Threshold) (o : Occurrence) : Bool :=
  f.directives.any (fun d => d.isDynamic && d.threshold.passes o.source.level)
    && (o.isSpan && f.dynamic.any (·.concerns o) || around.any (·.passes o.source.level))

/-- Whether something passes, given the thresholds of the spans around it. -/
def enabled (f : Filter) (around : List Threshold) (o : Occurrence) : Bool :=
  f.opensUp around o || (f.deciding? o).any (·.threshold.passes o.source.level)

end Filter
end Hostlink.Log
