/-
# Commands from a script

A script is a list of calls with their results.  Each call takes the next one off the script,
whether it matches or not, so no call shifts the judgement of a later one; a call past the end of
the script is refused.
-/
import PinnedFetch.Collaborators

namespace PinnedFetch.Replay

open Text.Quoted (quoteList)

/-- A call that is foreseen, and what it gives. -/
structure Expected where
  call : Call
  result : CommandResult

/-- A call as it is shown in a complaint. -/
def shown (c : Call) : String := c.command ++ " " ++ quoteList c.arguments

/-- The complaint about a call that nothing foresees. -/
def surplus (made : Call) : Failure := .script ("unexpected invocation of " ++ shown made)

/-- The complaint about a call in place of another. -/
def different (foreseen made : Call) : Failure :=
  .script ("expected " ++ shown foreseen ++ ", got " ++ shown made)

/-- The judgement of one call against what is foreseen in its place. -/
def judge : Option Expected → Call → CommandResult
  | none, made => .error (surplus made)
  | some e, made => if e.call = made then e.result else .error (different e.call made)

/-- One call: its result, and the script that is left. -/
def call (script : List Expected) (made : Call) : CommandResult × List Expected :=
  (judge script.head? made, script.tail)

/-- What running a command gives when there are no prepared answers left. -/
def commandsExhausted : Failure := .io (.told .other "executor script exhausted")

/-- Whether the whole script has been used. -/
def isFinished (script : List Expected) : Bool := script.isEmpty

/-- What is said when calls are left over. -/
def leftOver : String := "expected no further command invocations"

/-- The results of calls made one after another, each with what is left of the script. -/
def calls (script : List Expected) : List Call → List (CommandResult × List Expected)
  | [] => []
  | made :: more => call script made :: calls (call script made).2 more

/-- **Calls are judged in lockstep**: what is left after a call is the script without its
first entry. -/
theorem call_snd (script : List Expected) (made : Call) : (call script made).2 = script.tail := rfl

end PinnedFetch.Replay
