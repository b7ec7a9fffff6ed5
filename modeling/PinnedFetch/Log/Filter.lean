/-
# Log filters

A filter is written as directives with commas between them: a level, a target, or a target and a
level with an equals sign.  A slash may follow, and behind it a text that a message must contain.
Of the directives whose target begins the target of a record, the one with the longest target
decides; a record passes when it matters at least as much as the level there.
-/
import PinnedFetch.Log.Record
import PinnedFetch.Text.Blank
import PinnedFetch.Text.Fields

namespace PinnedFetch.Log

/-! ## 1. Filters -/

/-- What may pass of the records under a target. -/
structure Directive where
  /-- The beginning of a target; empty for every record. -/
  target : List Char
  /-- The rank up to which records pass; zero lets none pass. -/
  limit : Nat
  deriving DecidableEq, Repr

/-- Which records are shown. -/
structure Filter where
  directives : List Directive
  /-- What a message must contain. -/
  contained : List Char := []
  deriving DecidableEq, Repr

/-- Whether a text contains another. -/
def containsText (part : List Char) : List Char → Bool
  | [] => part.isEmpty
  | c :: cs => part.isPrefixOf (c :: cs) || containsText part cs

/-- The directive that decides about a target: the last of those with the longest text. -/
def deciding (ds : List Directive) (target : List Char) : Option Directive :=
  (ds.filter fun d => d.target.isPrefixOf target).foldl
    (fun best d =>
      match best with
      | some b => if b.target.length ≤ d.target.length then some d else some b
      | none => some d)
    none

/-- Whether a record is shown. -/
def Filter.passes (f : Filter) (r : Record) : Bool :=
  (match deciding f.directives r.source.target.toList with
    | some d => r.level.rank ≤ d.limit
    | none => false) &&
  containsText f.contained r.message.toList

/-! ## 2. Reading a filter -/

/-- The ranks by name; `off` lets nothing pass. -/
def limits : List (String × Nat) :=
  [("off", 0), ("error", 1), ("warn", 2), ("info", 3), ("debug", 4), ("trace", 5)]

/-- The rank of a name in any case. -/
def limit? (cs : List Char) : Option Nat := limits.lookup (String.ofList (cs.map Char.toLower))

/-- A directive, none where the text is empty, or what is wrong with it. -/
def readDirective (cs : List Char) : Except (List Char) (Option Directive) :=
  match Text.fields '=' cs with
  | [part] =>
    if part = [] then .ok none
    else match limit? part with
      | some n => .ok (some ⟨[], n⟩)
      | none => .ok (some ⟨part, 5⟩)
  | [target, level] =>
    if Text.trim level = [] then .ok (some ⟨target, 5⟩)
    else match limit? (Text.trim level) with
      | some n => .ok (some ⟨target, n⟩)
      | none => .error (Text.trim level)
  | _ => .error cs

/-- Directives with one more; a second directive for a target stands in the place of the first. -/
def addDirective (ds : List Directive) (d : Directive) : List Directive :=
  if ds.any (·.target = d.target) then
    ds.map fun e => if e.target = d.target then d else e
  else ds ++ [d]

/-- The complaint about a part of a filter. -/
def badPart (cs : List Char) : String := s!"invalid logging spec '{String.ofList cs}'"

/-- Reads directives one after another; a bad one is left out. -/
def readDirectives : List (List Char) → List Directive → List Directive × List String
  | [], ds => (ds, [])
  | cs :: rest, ds =>
    match readDirective (Text.trim cs) with
    | .ok none => readDirectives rest ds
    | .ok (some d) => readDirectives rest (addDirective ds d)
    | .error part =>
      let (ds', complaints) := readDirectives rest ds
      (ds', badPart part :: complaints)

/-- A filter of directives; without any, errors alone pass. -/
def Filter.ofDirectives (ds : List Directive) (contained : List Char) : Filter :=
  ⟨if ds.isEmpty then [⟨[], 1⟩] else ds, contained⟩

/-- Reads a filter; also gives the complaints about it. -/
def Filter.read (spec : String) : Filter × List String :=
  match Text.fields '/' spec.toList with
  | [directives] =>
    let (ds, complaints) := readDirectives (Text.fields ',' directives) []
    (.ofDirectives ds [], complaints)
  | [directives, contained] =>
    let (ds, complaints) := readDirectives (Text.fields ',' directives) []
    (.ofDirectives ds contained, complaints)
  | _ => (.ofDirectives [] [], [badPart spec.toList ++ " (too many '/'s)"])

/-! ## 3. Showing records -/

/-- A level, padded to five characters. -/
def Level.padded (l : Level) : String :=
  l.name ++ String.ofList (List.replicate (5 - l.name.length) ' ')

/-- A message whose further lines are indented. -/
def indented (message : String) : String :=
  "\n    ".intercalate ((Text.fields '\n' message.toList).map String.ofList)

/-- The line of a record. -/
def Record.line (r : Record) : String :=
  s!"[{r.level.padded} {r.source.target}] {indented r.message}\n"

/-- The line of a complaint about a filter. -/
def complaintLine (complaint : String) : String := s!"warning: {complaint}, ignoring it\n"

end PinnedFetch.Log
