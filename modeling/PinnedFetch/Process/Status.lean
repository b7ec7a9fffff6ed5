/-
# How a process ended

A wait status is a 32-bit word.  Its low seven bits say whether the process exited (0), was
stopped (127) or died of a signal (anything else); the second octet holds the exit code or the
stopping signal.  Only the word 0 is a success: a word such as `0x10000` reads as exit code 0 and
is none.
-/

namespace PinnedFetch

/-- A wait status, as the system gives it. -/
structure WaitStatus where
  word : UInt32
  deriving DecidableEq, Repr

/-- What a wait status says. -/
inductive Ending where
  | exited (code : Nat)
  | killed (signal : Nat) (dumped : Bool)
  | stopped (signal : Nat)
  | continued
  | unknown
  deriving DecidableEq, Repr

/-- The names of the signals that have one. -/
def signalNames : List (Nat × String) :=
  [(1, "SIGHUP"), (2, "SIGINT"), (3, "SIGQUIT"), (4, "SIGILL"), (5, "SIGTRAP"), (6, "SIGABRT"),
   (7, "SIGBUS"), (8, "SIGFPE"), (9, "SIGKILL"), (10, "SIGUSR1"), (11, "SIGSEGV"),
   (12, "SIGUSR2"), (13, "SIGPIPE"), (14, "SIGALRM"), (15, "SIGTERM"), (16, "SIGSTKFLT"),
   (17, "SIGCHLD"), (18, "SIGCONT"), (19, "SIGSTOP"), (20, "SIGTSTP"), (21, "SIGTTIN"),
   (22, "SIGTTOU"), (23, "SIGURG"), (24, "SIGXCPU"), (25, "SIGXFSZ"), (26, "SIGVTALRM"),
   (27, "SIGPROF"), (28, "SIGWINCH"), (29, "SIGIO"), (30, "SIGPWR"), (31, "SIGSYS")]

/-- A signal with its name in brackets, if it has one. -/
def signalText (signal : Nat) : String :=
  match signalNames.lookup signal with
  | some name => s!"{signal} ({name})"
  | none => s!"{signal}"

namespace WaitStatus

/-- The status of a signed word. -/
def ofInt (n : Int) : WaitStatus := ⟨UInt32.ofInt n⟩

/-- The status of a process that exits with a code; the code moves up eight bits, and what
leaves the word is lost. -/
def ofCode (code : Int) : WaitStatus := ofInt (code * 256)

/-- Whether the process did what it was asked to. -/
def isSuccess (s : WaitStatus) : Bool := s.word = 0

/-- The reading of a status. -/
def ending (s : WaitStatus) : Ending :=
  let n := s.word.toNat
  if n % 128 = 0 then .exited (n / 256 % 256)
  else if n % 128 ≠ 127 then .killed (n % 128) (n / 128 % 2 = 1)
  else if n % 256 = 127 then .stopped (n / 256 % 256)
  else if n = 0xFFFF then .continued
  else .unknown

/-- The exit code, of a process that exited. -/
def code? (s : WaitStatus) : Option Nat :=
  match s.ending with
  | .exited code => some code
  | _ => none

/-- The signal, of a process that died of one. -/
def signal? (s : WaitStatus) : Option Nat :=
  match s.ending with
  | .killed signal _ => some signal
  | _ => none

/-- A status in words. -/
def describe (s : WaitStatus) : String :=
  match s.ending with
  | .exited code => s!"exit status: {code}"
  | .killed signal dumped =>
    s!"signal: {signalText signal}" ++ (if dumped then " (core dumped)" else "")
  | .stopped signal => s!"stopped (not terminated) by signal: {signalText signal}"
  | .continued => "continued (WIFCONTINUED)"
  | .unknown =>
    s!"unrecognised wait status: {s.word.toBitVec.toInt} 0x" ++
      String.ofList (Nat.toDigits 16 s.word.toNat)

theorem isSuccess_iff (s : WaitStatus) : s.isSuccess = true ↔ s = ⟨0⟩ := by
  cases s
  simp [isSuccess]

end WaitStatus
end PinnedFetch
