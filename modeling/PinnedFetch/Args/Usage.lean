/-
# What the command line says about itself

The help text, the version line, and the complaint about a command line that is refused: a first
paragraph with the fault, a usage line that fits it, and a pointer to the help text.
-/
import PinnedFetch.Args

namespace PinnedFetch.Args

/-- The name of the program. -/
def programName : String := "waf-bootstrap"

/-- Octets as characters, one each. -/
def asChars (bs : Bytes) : String := String.ofList (bs.map fun b => Char.ofNat b.toNat)

/-- The last name on the path by which the program was started, if it is text; a slash and a dot are
one octet each, so names can be told apart before they are read. -/
def calledAs (first : Bytes) : String :=
  match Path.fileName? (asChars first) with
  | none => programName
  | some name =>
    match Utf8.text (name.toList.map fun c => UInt8.ofNat c.toNat) with
    | .ok s => s
    | .error _ => programName

/-- A switch as it is shown. -/
def Switch.shown : Switch → String
  | dir => "--dir <DIR>"
  | verbose => "--verbose..."
  | s => "--" ++ s.word

namespace Fault

/-- The first paragraph of a complaint. -/
def message : Fault → String
  | unexpected arg => s!"error: unexpected argument '{arg}' found"
  | repeated s => s!"error: the argument '{s.shown}' cannot be used multiple times"
  | conflict s other => s!"error: the argument '{s.shown}' cannot be used with '{other.shown}'"
  | missingValue => s!"error: a value is required for '{Switch.dir.shown}' but none was supplied"
  | surplusValue value s =>
    s!"error: unexpected value '{value}' for '{s.shown}' found; no more were expected"
  | notText => "error: invalid UTF-8 was detected in one or more arguments"

/-- The switches that belong to the settings of a run, any of them. -/
def anySetting : String :=
  "<" ++ "|".intercalate ([Switch.dir, .quiet, .verbose, .verifyExisting].map Switch.shown) ++ ">"

/-- The usage that fits a fault, given the switches set before it. -/
def usage? (seen : List Switch) : Fault → Option String
  | missingValue => none
  | conflict _ other => some (" ".intercalate ((seen.filter (· ≠ other)).map Switch.shown))
  | surplusValue _ s =>
    if seen = [] then some s.shown
    else if s = .help ∨ s = .version then some (s.shown ++ " " ++ anySetting)
    else some anySetting
  | _ => some "[OPTIONS]"

end Fault

/-- The whole complaint about a command line. -/
def complaint (name : String) (f : Fault) (seen : List Switch) : String :=
  let usage := match f.usage? seen with
    | some u => s!"Usage: {name} {u}\n\n"
    | none => ""
  f.message ++ "\n\n" ++ usage ++ "For more information, try '--help'.\n"

/-- The version line. -/
def versionLine : String := programName ++ " 0.1.0\n"

/-- The help text. -/
def helpText (name : String) : String :=
  "Download a pinned waf release and verify its SHA-256 digest\n\n" ++
  s!"Usage: {name} [OPTIONS]\n\n" ++
  "Options:\n" ++
  "  -d, --dir <DIR>        Directory holding the waf script [default: .]\n" ++
  "  -q, --quiet            Suppress progress output (checksum diagnostics still shown)\n" ++
  "  -v, --verbose...       Increase log verbosity (repeatable: -v, -vv, -vvv)\n" ++
  "      --verify-existing  Hash an existing waf that reports the pinned version " ++
  "instead of trusting it\n" ++
  "  -h, --help             Print help\n" ++
  "  -V, --version          Print version\n\n" ++
  "EXIT STATUS:\n" ++
  "  0  waf is present at the pinned version, or was downloaded and verified\n" ++
  "  1  the downloaded file did not match the pinned checksum\n" ++
  "  2  any other failure (network, filesystem, version query)\n"

end PinnedFetch.Args
