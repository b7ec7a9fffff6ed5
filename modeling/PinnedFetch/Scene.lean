/-
# The scene of a run

A run happens on a scene: a file tree, the state of a writer, and the events so far, in order.
What can be seen of a run from outside are views of the events: the notices it wrote, the records
it logged, the commands it ran, the URLs it asked for.
-/
import PinnedFetch.Collaborators
import PinnedFetch.Notice
import PinnedFetch.Tree.Basic
import PinnedFetch.Writer

namespace PinnedFetch

/-- Something that a run does and that can be seen from outside. -/
inductive Event where
  /-- A command is run. -/
  | ran (call : Call)
  /-- A notice is written. -/
  | told (notice : Notice)
  /-- A URL is asked for. -/
  | fetched (url : String)
  /-- The artefact is opened for writing. -/
  | opened (path : String)
  /-- A record is logged. -/
  | logged (record : Log.Record)
  deriving DecidableEq, Repr

/-- Where a run happens, with a writer whose states have type `σ`. -/
structure Scene (σ : Type) where
  tree : Tree
  out : σ
  events : List Event := []

namespace Event

/-- The notice of an event, if it is one. -/
def notice? : Event → Option Notice
  | told n => some n
  | _ => none

/-- The record of an event, if it is one. -/
def record? : Event → Option Log.Record
  | logged r => some r
  | _ => none

/-- The command of an event, if it is one. -/
def call? : Event → Option Call
  | ran c => some c
  | _ => none

/-- The URL of an event, if it is one. -/
def url? : Event → Option String
  | fetched url => some url
  | _ => none

end Event

namespace Scene

variable {σ : Type}

/-! ## 1. What happens on a scene -/

/-- Something happens that changes neither tree nor writer. -/
def note (s : Scene σ) (e : Event) : Scene σ := { s with events := s.events ++ [e] }

/-- A record is logged. -/
def log (s : Scene σ) (r : Log.Record) : Scene σ := s.note (.logged r)

/-- Records are logged one after another. -/
def logAll (s : Scene σ) (records : List Log.Record) : Scene σ :=
  { s with events := s.events ++ records.map .logged }

/-- A notice is written, whatever becomes of it. -/
def tell (s : Scene σ) (w : Writer σ) (n : Notice) : Scene σ :=
  { s with out := w.lines s.out n.lines, events := s.events ++ [.told n] }

/-- A notice of progress is written, unless the run is quiet. -/
def progress (s : Scene σ) (w : Writer σ) (quiet : Bool) (n : Notice) : Scene σ :=
  if quiet then s else s.tell w n

/-! ## 2. Views -/

/-- The notices, in order. -/
def notices (s : Scene σ) : List Notice := s.events.filterMap Event.notice?

/-- The lines of the notices, in order. -/
def lines (s : Scene σ) : List String := s.notices.flatMap Notice.lines

/-- The records, in order. -/
def records (s : Scene σ) : List Log.Record := s.events.filterMap Event.record?

/-- The commands run, in order. -/
def calls (s : Scene σ) : List Call := s.events.filterMap Event.call?

/-- The URLs asked for, in order. -/
def urls (s : Scene σ) : List String := s.events.filterMap Event.url?

end Scene
end PinnedFetch
