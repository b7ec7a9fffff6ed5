/-
# The grammar of the command line

A command line is a sequence of items and, if one likes, a pair of dashes behind them.  An item is
one argument that is complete by itself, or one that asks for the directory together with the
argument that gives it.  This module says how each item is spelled and what it sets, which
settings may stand together, and what the command line means by them.  Nothing here reads
arguments; the reader of `PinnedFetch.Args` is held against it.
-/
import PinnedFetch.Args

namespace PinnedFetch.Args

/-! ## 1. Settings -/

/-- What a part of the command line sets. -/
inductive Setting where
  | dir (v : String)
  | quiet
  | verbose
  | verifyExisting
  deriving DecidableEq, Repr

/-- The directory that a setting names. -/
@[simp] def Setting.dir? : Setting → Option String
  | dir v => some v
  | _ => none

/-- The directories that are named, in order. -/
def dirs (ss : List Setting) : List String := ss.filterMap Setting.dir?

/-- What may be set once is set once. -/
structure Once (ss : List Setting) : Prop where
  dir : (dirs ss).length ≤ 1
  quiet : ss.count .quiet ≤ 1
  verifyExisting : ss.count .verifyExisting ≤ 1

/-- Settings that may stand together. -/
structure Allowed (ss : List Setting) : Prop extends Once ss where
  exclusive : ¬(.quiet ∈ ss ∧ .verbose ∈ ss)

instance (ss : List Setting) : Decidable (Once ss) :=
  decidable_of_iff
    ((dirs ss).length ≤ 1 ∧ ss.count .quiet ≤ 1 ∧ ss.count .verifyExisting ≤ 1)
    ⟨fun ⟨dir, quiet, check⟩ => ⟨dir, quiet, check⟩,
      fun ⟨dir, quiet, check⟩ => ⟨dir, quiet, check⟩⟩

instance (ss : List Setting) : Decidable (Allowed ss) :=
  decidable_of_iff (Once ss ∧ ¬(.quiet ∈ ss ∧ .verbose ∈ ss))
    ⟨fun ⟨once, exclusive⟩ => ⟨once, exclusive⟩, fun ⟨once, exclusive⟩ => ⟨once, exclusive⟩⟩

/-- What settings amount to. -/
def ofSettings (ss : List Setting) : Args where
  dir := (dirs ss).head?.getD "."
  quiet := decide (.quiet ∈ ss)
  verbosity := min 255 (ss.count .verbose)
  verifyExisting := decide (.verifyExisting ∈ ss)

/-! ## 2. Spellings -/

/-- A letter that may stand in a cluster in any number. -/
inductive Letter where
  | q
  | v
  deriving DecidableEq, Repr

namespace Letter

def char : Letter → Char
  | q => 'q'
  | v => 'v'

def setting : Letter → Setting
  | q => .quiet
  | v => .verbose

end Letter

/-- A value in an argument of its own: it does not look like a switch. -/
structure LoneValue where
  text : String
  lone : text = "-" ∨ text.toList.head? ≠ some '-'

/-- A value behind the letter that asks for it. -/
structure JoinedValue where
  text : String
  nonempty : text.toList ≠ []

/-- An equals sign in front does not belong to the value. -/
def JoinedValue.value (j : JoinedValue) : String :=
  if j.text.toList.head? = some '=' then String.ofList j.text.toList.tail else j.text

/-- An argument that is complete by itself. -/
inductive Whole where
  /-- `--quiet` -/
  | quiet
  /-- `--verbose` -/
  | verbose
  /-- `--verify-existing` -/
  | verifyExisting
  /-- `--dir=V` -/
  | dir (v : String)
  /-- One letter or more behind a dash. -/
  | cluster (first : Letter) (rest : List Letter)
  /-- Letters behind a dash, then `d` and the directory. -/
  | clusterDir (letters : List Letter) (v : JoinedValue)

namespace Whole

/-- The argument. -/
def text : Whole → String
  | quiet => "--quiet"
  | verbose => "--verbose"
  | verifyExisting => "--verify-existing"
  | dir v => "--dir=" ++ v
  | cluster first rest => String.ofList ('-' :: (first :: rest).map Letter.char)
  | clusterDir letters v => String.ofList ('-' :: (letters.map Letter.char ++ 'd' :: v.text.toList))

def settings : Whole → List Setting
  | quiet => [.quiet]
  | verbose => [.verbose]
  | verifyExisting => [.verifyExisting]
  | dir v => [.dir v]
  | cluster first rest => (first :: rest).map Letter.setting
  | clusterDir letters v => letters.map Letter.setting ++ [.dir v.value]

end Whole

/-- An argument that asks for the directory. -/
inductive Asking where
  /-- `--dir` -/
  | dir
  /-- Letters behind a dash, then `d`. -/
  | cluster (letters : List Letter)

namespace Asking

/-- The argument. -/
def text : Asking → String
  | dir => "--dir"
  | cluster letters => String.ofList ('-' :: (letters.map Letter.char ++ ['d']))

/-- What is set besides the directory. -/
def settings : Asking → List Setting
  | dir => []
  | cluster letters => letters.map Letter.setting

end Asking

/-- A part of the command line that stands by itself. -/
inductive Item where
  | whole (w : Whole)
  | pair (a : Asking) (v : LoneValue)

namespace Item

/-- The arguments of an item. -/
def args : Item → List String
  | whole w => [w.text]
  | pair a v => [a.text, v.text]

def settings : Item → List Setting
  | whole w => w.settings
  | pair a v => a.settings ++ [.dir v.text]

end Item

/-! ## 3. Command lines -/

/-- The arguments of a command line, as octets; `ended` is the pair of dashes behind the items. -/
def commandLine (items : List Item) (ended : Bool) : List Bytes :=
  (items.flatMap Item.args ++ if ended then ["--"] else []).map Bytes.ofText

/-- Everything that a command line sets, in order. -/
def settings (items : List Item) : List Setting := items.flatMap Item.settings

end PinnedFetch.Args
