/-
# Small shell scripts

Enough of the shell for an artefact that prints something and ends: words with quotes and
parameters, commands on lines or with `;`, `&&` and `||` between them, output sent to the second
stream, and the commands `echo`, `printf`, `exit`, `kill`, `true`, `false` and `:`.  A command of
another name is not found.
-/
import PinnedFetch.Process.Output

namespace PinnedFetch.Shell

/-! ## 1. Words -/

/-- What a script is started with. -/
structure Start where
  script : String
  arguments : List String

/-- The process number by which a script may call itself. -/
def ownNumber : String := "1"

/-- The text of a parameter of one character. -/
def Start.parameter (s : Start) (c : Char) : String :=
  if c = '0' then s.script
  else if '1' ≤ c ∧ c ≤ '9' then s.arguments.getD (c.toNat - '1'.toNat) ""
  else if c = '#' then toString s.arguments.length
  else if c = '@' ∨ c = '*' then " ".intercalate s.arguments
  else if c = '$' then ownNumber
  else ""

/-- A piece of a script. -/
inductive Token where
  | word (cs : List Char)
  /-- The end of a command. -/
  | next
  /-- The next command runs if this one succeeds. -/
  | andThen
  /-- The next command runs if this one fails. -/
  | orElse
  /-- What the command prints goes to the second stream. -/
  | toStderr
  deriving DecidableEq, Repr

/-- Where in a script the reader stands. -/
inductive Mode where
  | plain
  | single
  | double
  | comment
  deriving DecidableEq, Repr

/-- The token of a word that has been read, last character first. -/
def close : Option (List Char) → List Token
  | none => []
  | some w => [.word w.reverse]

/-- A word with characters behind it. -/
def grow (w : Option (List Char)) (cs : List Char) : Option (List Char) :=
  some (cs.reverse ++ w.getD [])

/-- The tokens of a script; `w` is the word that has begun. -/
def lex (s : Start) : Mode → Option (List Char) → List Char → List Token
  | _, w, [] => close w
  | .comment, w, c :: cs =>
    if c = '\n' then close w ++ .next :: lex s .plain none cs else lex s .comment w cs
  | .single, w, c :: cs =>
    if c = '\'' then lex s .plain w cs else lex s .single (grow w [c]) cs
  | .double, w, '\\' :: c :: cs =>
    if c = '"' ∨ c = '\\' ∨ c = '$' then lex s .double (grow w [c]) cs
    else lex s .double (grow w ['\\', c]) cs
  | .double, w, '$' :: c :: cs => lex s .double (grow w (s.parameter c).toList) cs
  | .double, w, c :: cs =>
    if c = '"' then lex s .plain w cs else lex s .double (grow w [c]) cs
  | .plain, w, '\\' :: c :: cs => lex s .plain (grow w [c]) cs
  | .plain, w, '$' :: c :: cs => lex s .plain (grow w (s.parameter c).toList) cs
  | .plain, w, '&' :: '&' :: cs => close w ++ .andThen :: lex s .plain none cs
  | .plain, w, '|' :: '|' :: cs => close w ++ .orElse :: lex s .plain none cs
  | .plain, w, '>' :: '&' :: '2' :: cs =>
    (if w = some ['1'] then [] else close w) ++ .toStderr :: lex s .plain none cs
  | .plain, w, c :: cs =>
    if c = '\'' then lex s .single (grow w []) cs
    else if c = '"' then lex s .double (grow w []) cs
    else if c = ' ' ∨ c = '\t' then close w ++ lex s .plain none cs
    else if c = '\n' ∨ c = ';' then close w ++ .next :: lex s .plain none cs
    else if c = '#' ∧ w = none then lex s .comment none cs
    else lex s .plain (grow w [c]) cs

/-! ## 2. Commands -/

/-- When a command runs. -/
inductive Guard where
  | always
  | afterSuccess
  | afterFailure
  deriving DecidableEq, Repr

/-- A command: when it runs, its words, and where it prints. -/
structure Command where
  guard : Guard
  words : List String
  toStderr : Bool
  deriving DecidableEq, Repr

/-- The commands of some tokens, the first of which is the one given. -/
def gather : Command → List Token → List Command
  | c, [] => [c]
  | c, .word cs :: ts => gather { c with words := c.words ++ [String.ofList cs] } ts
  | c, .toStderr :: ts => gather { c with toStderr := true } ts
  | c, .next :: ts => c :: gather ⟨.always, [], false⟩ ts
  | c, .andThen :: ts => c :: gather ⟨.afterSuccess, [], false⟩ ts
  | c, .orElse :: ts => c :: gather ⟨.afterFailure, [], false⟩ ts

/-- What a command does: it prints and has a status, or it ends the script. -/
inductive Effect where
  | prints (text : List Char) (status : Nat)
  | ends (status : WaitStatus)
  deriving DecidableEq, Repr

/-- Escapes of `echo` and `printf`, undone. -/
def unescape : List Char → List Char
  | '\\' :: c :: cs =>
    if c = 'n' then '\n' :: unescape cs
    else if c = 't' then '\t' :: unescape cs
    else if c = 'r' then '\r' :: unescape cs
    else if c = '\\' then '\\' :: unescape cs
    else '\\' :: c :: unescape cs
  | c :: cs => c :: unescape cs
  | [] => []

/-- A format with its arguments put in. -/
def format : List Char → List String → List Char
  | '%' :: c :: cs, args =>
    if c = '%' then '%' :: format cs args
    else if c = 's' ∨ c = 'd' then (args.headD "").toList ++ format cs args.tail
    else '%' :: c :: format cs args
  | c :: cs, args => c :: format cs args
  | [], _ => []

/-- The signals that `kill` knows by name. -/
def signal? (name : String) : Option Nat :=
  match name.toNat? with
  | some n => some n
  | none => (signalNames.find? fun p => p.2 = name ∨ p.2 = "SIG" ++ name).map (·.1)

/-- Sends a signal, if it is known, to the script itself, if it is meant. -/
def kill (signal : Option Nat) (target : String) : Effect :=
  match signal with
  | some n => if target = ownNumber then .ends (.ofInt n) else .prints [] 1
  | none => .prints [] 1

/-- What a command of some words does, after a command with a status. -/
def effect (status : Nat) : List String → Effect
  | [] => .prints [] status
  | "echo" :: "-n" :: words => .prints (unescape (" ".intercalate words).toList) 0
  | "echo" :: words => .prints (unescape (" ".intercalate words).toList ++ ['\n']) 0
  | "printf" :: form :: args => .prints (format (unescape form.toList) args) 0
  | "exit" :: n :: _ => .ends (.ofCode ((n.toNat?.getD 2) % 256))
  | ["exit"] => .ends (.ofCode status)
  | ["kill", target] => kill (some 15) target
  | ["kill", "-s", name, target] => kill (signal? name) target
  | ["kill", option, target] => kill (signal? (String.ofList (option.toList.drop 1))) target
  | ["true"] | [":"] => .prints [] 0
  | ["false"] => .prints [] 1
  | _ => .prints [] 127

/-! ## 3. Scripts -/

/-- Whether a command runs after a command with a status. -/
def Guard.holds (g : Guard) (status : Nat) : Bool :=
  match g with
  | .always => true
  | .afterSuccess => status = 0
  | .afterFailure => status ≠ 0

/-- Runs commands one after another, from a status and what has been printed. -/
def runAll : List Command → Nat → Bytes → Bytes → CommandOutput
  | [], status, out, err => ⟨.ofCode status, out, err⟩
  | c :: cs, status, out, err =>
    if c.guard.holds status then
      match effect status c.words with
      | .ends s => ⟨s, out, err⟩
      | .prints text status' =>
        let bs := Bytes.ofText (String.ofList text)
        if c.toStderr then runAll cs status' out (err ++ bs) else runAll cs status' (out ++ bs) err
    else runAll cs status out err

/-- Runs a script. -/
def run (s : Start) (script : String) : CommandOutput :=
  runAll (gather ⟨.always, [], false⟩ (lex s .plain none script.toList)) 0 [] []

end PinnedFetch.Shell
