/-! # Events

What the library reports while it works.  An `Event` has a level and named fields, all of
them texts; the field `message` is its wording.  Functions that report return the events they
give rise to, in order.

* `Journal` keeps the events of several operations and answers questions about them.
* `Event.started`, `Event.ended` and `Event.failed` mark the boundaries of an operation.
-/
namespace RpkiOverlap

/-- The severity of an event. -/
inductive Level where
  | debug
  | info
  | warn
  | error
  deriving DecidableEq, Repr

/-- The name of a level. -/
def Level.name : Level → String
  | debug => "DEBUG"
  | info => "INFO"
  | warn => "WARN"
  | error => "ERROR"

/-- A report: its level and its named fields. -/
structure Event where
  level : Level
  fields : List (String × String)
  deriving DecidableEq, Repr

namespace Event

/-- The text of a field. -/
def field? (e : Event) (name : String) : Option String := e.fields.lookup name

/-- An event with a wording. -/
def say (level : Level) (message : String) (fields : List (String × String)) : Event :=
  ⟨level, ("message", message) :: fields⟩

/-- The start of an operation. -/
def started (component op : String) (fields : List (String × String)) : Event :=
  ⟨.info, [("component", component), ("op", op), ("event", "start")] ++ fields⟩

/-- The successful end of an operation. -/
def ended (component op : String) (milliseconds : Nat) (fields : List (String × String)) :
    Event :=
  ⟨.info, [("component", component), ("op", op), ("event", "end"),
    ("duration_ms", toString milliseconds)] ++ fields⟩

/-- The failed end of an operation, with the kind of the failure and its code. -/
def failed (component op : String) (milliseconds : Nat) (kind code : String) : Event :=
  ⟨.error, [("component", component), ("op", op), ("event", "end_error"),
    ("duration_ms", toString milliseconds), ("err_kind", kind), ("err_code", code)]⟩

end Event

/-- The events reported so far, the earliest first. -/
structure Journal where
  events : List Event
  deriving DecidableEq, Repr

namespace Journal

/-- A journal without events. -/
def empty : Journal := ⟨[]⟩

/-- How many events have been reported. -/
def size (j : Journal) : Nat := j.events.length

/-- Adds an event at the end. -/
def push (j : Journal) (e : Event) : Journal := ⟨j.events ++ [e]⟩

/-- Whether an event with a given operation and boundary has been reported. -/
def records (j : Journal) (op event : String) : Bool :=
  j.events.any fun e => e.field? "op" == some op && e.field? "event" == some event

/-- What to say when such an event is missing. -/
def missingMessage (j : Journal) (op event : String) : String :=
  s!"Expected event op={op} event={event} not found in {j.size} captured events"

/-- How many events have a field with the given text. -/
def countField (j : Journal) (name text : String) : Nat :=
  j.events.countP fun e => e.field? name == some text

end Journal
end RpkiOverlap
