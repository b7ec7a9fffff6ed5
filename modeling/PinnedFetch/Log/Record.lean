/-
# Log records

A record has a level, the part of the program it comes from, and a message.
-/

namespace PinnedFetch.Log

/-- How much a record matters, most first. -/
inductive Level where
  | error
  | warn
  | info
  | debug
  | trace
  deriving DecidableEq, Repr

/-- The rank of a level; the more it matters, the smaller. -/
def Level.rank : Level → Nat
  | error => 1
  | warn => 2
  | info => 3
  | debug => 4
  | trace => 5

/-- The name of a level. -/
def Level.name : Level → String
  | error => "ERROR"
  | warn => "WARN"
  | info => "INFO"
  | debug => "DEBUG"
  | trace => "TRACE"

/-- The part of the program that a record comes from. -/
inductive Source where
  /-- The command line. -/
  | program
  /-- The run. -/
  | fetcher
  /-- The question for a version. -/
  | version
  /-- The write of an artefact. -/
  | install
  /-- The download. -/
  | download
  deriving DecidableEq, Repr

/-- The name under which a part logs. -/
def Source.target : Source → String
  | program => "waf_bootstrap"
  | fetcher => "waf_bootstrap::fetcher"
  | version => "waf_bootstrap::version"
  | install => "waf_bootstrap::install"
  | download => "waf_bootstrap::download"

/-- One entry of the log. -/
structure Record where
  level : Level
  source : Source
  message : String
  deriving DecidableEq, Repr

end PinnedFetch.Log
