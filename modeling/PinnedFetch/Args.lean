/-
# The command line

Arguments are octet strings, read one after another.  Four switches may be set: the directory,
with a value; quiet; verbose, which counts; and the check of an existing artefact.  Help and the
version stop the reading at once.

A short switch is a letter in a cluster behind one dash, a long one a word behind two.  The value
of the directory is the rest of its cluster, the text behind `=`, or the next argument unless that
looks like a switch.  It is judged only when the next switch, or the end, settles it; an argument
that nothing expects is refused first.
-/
import PinnedFetch.Config
import PinnedFetch.Text.Utf8

namespace PinnedFetch

/-- What the command line sets. -/
structure Args where
  /-- The directory that holds the artefact. -/
  dir : String := "."
  quiet : Bool := false
  /-- How often the log was asked to say more; at most 255. -/
  verbosity : Nat := 0
  verifyExisting : Bool := false
  deriving DecidableEq, Repr

namespace Args

/-- The settings of the run that the command line asks for. -/
def config (a : Args) : Config :=
  { release := .pinned, dir := a.dir, quiet := a.quiet, verifyExisting := a.verifyExisting }

/-- The log filter that a verbosity stands for. -/
def logSpec (a : Args) : String :=
  match a.verbosity with
  | 0 => "warn"
  | 1 => "info"
  | 2 => "debug"
  | _ => "trace"

/-! ## 1. Switches and faults -/

/-- A switch of the command line. -/
inductive Switch where
  | dir
  | quiet
  | verbose
  | verifyExisting
  | help
  | version
  deriving DecidableEq, Repr

/-- The word of a switch. -/
def Switch.word : Switch → String
  | dir => "dir"
  | quiet => "quiet"
  | verbose => "verbose"
  | verifyExisting => "verify-existing"
  | help => "help"
  | version => "version"

/-- Every switch. -/
def Switch.all : List Switch := [dir, quiet, verbose, verifyExisting, help, version]

/-- The switch of a word. -/
def Switch.ofWord? (w : String) : Option Switch := Switch.all.find? (·.word = w)

/-- The switch of a letter. -/
def Switch.ofLetter? (c : Char) : Option Switch :=
  if c = 'd' then some dir
  else if c = 'q' then some quiet
  else if c = 'v' then some verbose
  else if c = 'h' then some help
  else if c = 'V' then some version
  else none

/-- Why a command line is refused. -/
inductive Fault where
  /-- An argument that nothing expects. -/
  | unexpected (arg : String)
  /-- A switch that may be set once is set again. -/
  | repeated (s : Switch)
  /-- Two switches that exclude each other, the one set first in front. -/
  | conflict (s other : Switch)
  /-- The directory is asked for and not given. -/
  | missingValue
  /-- A switch that takes no value is given one. -/
  | surplusValue (value : String) (s : Switch)
  /-- A value is no text. -/
  | notText
  deriving DecidableEq, Repr

/-- Why reading stops before the end. -/
inductive Stop where
  | help
  | version
  /-- A fault, and the switches set before it. -/
  | fault (f : Fault) (seen : List Switch)
  deriving DecidableEq, Repr

/-! ## 2. The state of the reader -/

/-- Whether the directory has been asked for. -/
inductive Pending where
  | nothing
  /-- Its value is still to come. -/
  | awaited
  /-- Its value is there and has not been judged. -/
  | value (v : Bytes)
  deriving DecidableEq, Repr

/-- What has been read so far. -/
structure Reading where
  dir : Option String := none
  quiet : Bool := false
  verbosity : Nat := 0
  verifyExisting : Bool := false
  /-- The switches that are set, in the order in which they were last set. -/
  seen : List Switch := []
  pending : Pending := .nothing
  deriving DecidableEq, Repr

namespace Reading

/-- Stops with a fault. -/
def refuse {α : Type} (r : Reading) (f : Fault) : Except Stop α := .error (.fault f r.seen)

/-- Sets the directory. -/
def setDir (r : Reading) (v : Bytes) : Except Stop Reading :=
  if r.dir.isSome then r.refuse (.repeated .dir)
  else match Utf8.text v with
    | .ok s => .ok { r with dir := some s, seen := r.seen ++ [.dir], pending := .nothing }
    | .error _ => r.refuse .notText

/-- Settles a directory that has been asked for. -/
def settle (r : Reading) : Except Stop Reading :=
  match r.pending with
  | .nothing => .ok r
  | .awaited => r.refuse .missingValue
  | .value v => r.setDir v

/-- Sets a switch without a value; the directory is asked for. -/
def set (r : Reading) : Switch → Except Stop Reading
  | .dir => do
    let r ← r.settle
    .ok { r with pending := .awaited }
  | .quiet => do
    let r ← r.settle
    if r.quiet then r.refuse (.repeated .quiet)
    else .ok { r with quiet := true, seen := r.seen ++ [.quiet] }
  | .verbose => do
    let r ← r.settle
    .ok { r with
      verbosity := min 255 (r.verbosity + 1)
      seen := r.seen.filter (· ≠ .verbose) ++ [.verbose] }
  | .verifyExisting => do
    let r ← r.settle
    if r.verifyExisting then r.refuse (.repeated .verifyExisting)
    else .ok { r with verifyExisting := true, seen := r.seen ++ [.verifyExisting] }
  | .help => do
    let _ ← r.settle
    .error .help
  | .version => do
    let _ ← r.settle
    .error .version

/-- Sets the directory to a value that stands in the same argument. -/
def setAttached (r : Reading) (v : Bytes) : Except Stop Reading := do (← r.settle).setDir v

end Reading

/-! ## 3. Arguments -/

/-- The dash. -/
def dash : UInt8 := 0x2D

/-- The equals sign. -/
def equals : UInt8 := 0x3D

/-- Reads the argument behind two dashes: a word, and a value if there is an equals sign. -/
def readLong (r : Reading) (body : Bytes) : Except Stop Reading :=
  let word := body.takeWhile (· != equals)
  let value? : Option Bytes := (body.dropWhile (· != equals)).tail?
  match Utf8.text word with
  | .error _ => r.refuse (.unexpected ("--" ++ Utf8.repair word))
  | .ok w =>
    match Switch.ofWord? w, value? with
    | none, _ => r.refuse (.unexpected ("--" ++ w))
    | some s, none => r.set s
    | some .dir, some v => r.setAttached v
    | some s, some v => r.refuse (.surplusValue (Utf8.repair v) s)

/-- A value in a cluster; an equals sign in front of it does not belong to it. -/
def clusterValue : Bytes → Bytes
  | [] => []
  | b :: bs => if b = equals then bs else b :: bs

/-- Reads the letters behind one dash; `tail` holds the octets behind them that are no text. -/
def readCluster (tail : Bytes) : List Char → Reading → Except Stop Reading
  | [], r => if tail = [] then .ok r else r.refuse (.unexpected ("-" ++ Utf8.repair tail))
  | c :: cs, r =>
    match Switch.ofLetter? c with
    | none => r.refuse (.unexpected (String.ofList ['-', c]))
    | some .dir =>
      let v := Utf8.encode cs ++ tail
      if v = [] then r.set .dir else r.setAttached (clusterValue v)
    | some s => do readCluster tail cs (← r.set s)

/-- Reads one argument, which is not the pair of dashes that ends the switches. -/
def readArg (r : Reading) : Bytes → Except Stop Reading
  | 0x2D :: 0x2D :: body => readLong r body
  | 0x2D :: b :: bs => readCluster (Utf8.split (b :: bs)).2 (Utf8.split (b :: bs)).1 r
  | arg =>
    if r.pending = .awaited then .ok { r with pending := .value arg }
    else r.refuse (.unexpected (Utf8.repair arg))

/-- Reads arguments to the end.  A pair of dashes ends the switches, and nothing may follow. -/
def readAll : List Bytes → Reading → Except Stop Reading
  | [], r => r.settle
  | arg :: args, r =>
    if arg = [dash, dash] then
      match args with
      | [] => r.settle
      | next :: _ => r.refuse (.unexpected (Utf8.repair next))
    else do readAll args (← readArg r arg)

/-! ## 4. The whole command line -/

/-- Of two switches that exclude each other, the first one set and the other. -/
def conflict? (r : Reading) : Option (Switch × Switch) :=
  if r.quiet ∧ 0 < r.verbosity then
    match r.seen.find? (fun s => s = .quiet || s = .verbose) with
    | some .verbose => some (.verbose, .quiet)
    | _ => some (.quiet, .verbose)
  else none

/-- What a command line asks for, given the arguments behind the name of the program. -/
def read (args : List Bytes) : Except Stop Args := do
  let r ← readAll args {}
  match conflict? r with
  | some (s, other) => r.refuse (.conflict s other)
  | none =>
    .ok {
      dir := r.dir.getD "."
      quiet := r.quiet
      verbosity := r.verbosity
      verifyExisting := r.verifyExisting }

end Args
end PinnedFetch
