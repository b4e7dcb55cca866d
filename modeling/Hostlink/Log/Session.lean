import Hostlink.Log.Forwarding
import Hostlink.Log.Line.Compact
import Hostlink.Log.Line.Pretty
import Hostlink.Log.Line.Structured

/-!
# Logging

Logging is set up once for the whole program; a second attempt fails.  From then on everything that
the filter lets pass is printed and handed to the host's pipeline.  A pipeline that fails is
reported and changes nothing else.
-/

namespace Hostlink.Log

namespace Config

/-- The filter of a configuration. -/
def buildFilter (c : Config) : Except SetupError Filter :=
  match c.filter with
  | some text => Filter.ofString text
  | none => .ok (.standard c.level)

/-- The results of several attempts to set up logging. -/
def setUp (c : Config) (attempts : Nat) : List (Except SetupError Unit) :=
  match c.buildFilter, attempts with
  | .error e, attempts => List.replicate attempts (.error e)
  | .ok _, 0 => []
  | .ok _, more + 1 => .ok () :: List.replicate more (.error .loggingAlreadySet)

/-- What is printed for something noticed. -/
def print (c : Config) : Happening → String
  | .event e scope =>
    match c.format with
    | .compact => Compact.line c e scope
    | .json => Structured.line c e scope
    | .pretty => Pretty.block c e scope
  | .opened s scope =>
    if c.format = .pretty && c.enableSpans then Pretty.block c (Pretty.opening s) (s :: scope)
    else ""
  | .closed s scope =>
    if c.format = .pretty && c.enableSpans then Pretty.block c (Pretty.closing s) (s :: scope)
    else ""

/-- The entries for the host's pipeline; `clock` gives the time of each one by its number among
all that is noticed. -/
def forward (c : Config) (clock : Nat → Time.Instant) (happenings : List Happening) :
    List Entry :=
  match c.sink with
  | none => []
  | some sink => happenings.zipIdx.filterMap fun (h, i) => sink.entry? c.redactFields (clock i) h

end Config

/-- What comes out of a program that logs. -/
structure Output where
  /-- What the host's pipeline got. -/
  entries : List Entry
  /-- What was printed. -/
  printed : String
  /-- The lines about failures of the pipeline. -/
  failures : List String

/-- No output. -/
def Output.nothing : Output := ⟨[], "", []⟩

namespace Config

/-- What comes of things noticed. -/
def output (c : Config) (clock : Nat → Time.Instant) (happenings : List Happening) : Output :=
  let entries := c.forward clock happenings
  let fails := (c.sink.map (·.fails)).getD false
  { entries
    printed := String.join (happenings.map c.print)
    failures := if fails then entries.map fun _ => Sink.failureLine Sink.failure else [] }

/-- What comes of a program that sets up logging and then emits things. -/
def run (c : Config) (attempts : Nat) (clock : Nat → Time.Instant) (emissions : List Emission) :
    Output :=
  match c.buildFilter, attempts with
  | .ok filter, _ + 1 =>
    c.output clock (noticedAll filter [] [] emissions)
  | _, _ => .nothing

end Config
end Hostlink.Log
