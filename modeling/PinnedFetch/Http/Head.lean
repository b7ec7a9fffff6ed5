/-
# Response heads

A head is a status line, header lines and an empty line.  It is read from the octets that arrive;
when they end too early the head is cut off, and octets that cannot belong to a head are a fault
whether or not the rest arrives.

A head may have any size and any number of header lines.  A client that reads into a buffer, or
counts the lines, gives up on a head that is too large for it; no such limit is modelled.
-/
import PinnedFetch.Text.Utf8

namespace PinnedFetch.Http

/-- The head of a response. -/
structure Head where
  /-- The digit behind `HTTP/1.` on the status line, 0 or 1. -/
  minor : Nat
  status : Nat
  /-- Names in lower case, with their values. -/
  headers : List (String × Bytes)
  deriving DecidableEq, Repr

/-- Why a response cannot be read. -/
inductive ResponseFault where
  /-- The connection ends too early. -/
  | cut
  /-- The octets break a rule. -/
  | broken (rule : String)
  deriving DecidableEq, Repr

namespace Head

/-- An octet that a plain value is made of: printable, or a tab. -/
def isPlainOctet (b : UInt8) : Bool := (0x20 ≤ b && b < 0x7F) || b = 0x09

/-- The characters of a value, if all of them are plain. -/
def plain? (value : Bytes) : Option (List Char) :=
  if value.all isPlainOctet then some (value.map fun b => Char.ofNat b.toNat) else none

/-- The first value of a header, if there is one and it is plain. -/
def header? (h : Head) (name : String) : Option (List Char) :=
  (h.headers.lookup name).bind plain?

/-- The last value of the header that leads to another URL. -/
def location? (h : Head) : Option Bytes :=
  (h.headers.filter (·.1 = "location")).getLast?.map (·.2)

/-! ## 1. Lines -/

/-- The line feed that ends a line. -/
def lineFeed : UInt8 := 0x0A

/-- The carriage return that may stand before it. -/
def carriageReturn : UInt8 := 0x0D

/-- A line without its end, and the octets behind it; none when the line does not end. -/
def line? : Bytes → Option (Bytes × Bytes)
  | [] => none
  | b :: bs =>
    if b = lineFeed then some ([], bs)
    else match line? bs with
      | none => none
      | some (l, rest) =>
        if b = carriageReturn ∧ l = [] then some ([], rest) else some (b :: l, rest)

theorem length_of_line? {bs l rest : Bytes} (h : line? bs = some (l, rest)) :
    rest.length < bs.length := by
  induction bs generalizing l rest with
  | nil => simp [line?] at h
  | cons b bs ih =>
    simp only [line?] at h
    split at h
    · cases h
      simp
    · split at h
      · cases h
      · rename_i l' rest' hl
        have := ih hl
        split at h <;> cases h <;> simp <;> omega

/-- A line without a line end in it is read back, and what follows it is left over. -/
theorem line?_append {l : Bytes} (hf : lineFeed ∉ l) (hr : carriageReturn ∉ l) (rest : Bytes) :
    line? (l ++ carriageReturn :: lineFeed :: rest) = some (l, rest) := by
  induction l with
  | nil => rfl
  | cons b l ih =>
    rw [List.mem_cons, not_or] at hf hr
    rw [List.cons_append, line?, if_neg (Ne.symm hf.1), ih hf.2 hr.2]
    simp [Ne.symm hr.1]

/-! ## 2. The status line -/

/-- A digit as a number. -/
def digit? (b : UInt8) : Option Nat :=
  if 0x30 ≤ b ∧ b ≤ 0x39 then some (b.toNat - 0x30) else none

/-- The text that starts every head, without its last digit. -/
def opening : Bytes := Bytes.ofText "HTTP/1."

/-- The fault of a head of another protocol. -/
def badVersion : ResponseFault := .broken "http parse fail: invalid HTTP version"

/-- The fault of a status that is no number of three digits. -/
def badStatus : ResponseFault := .broken "http parse fail: invalid response status"

/-- The fault of a header line without a name. -/
def badName : ResponseFault := .broken "http parse fail: invalid header name"

/-- The status of what follows the version on a status line. -/
def readStatus : Bytes → Except ResponseFault Nat
  | 0x20 :: a :: b :: c :: rest =>
    match digit? a, digit? b, digit? c with
    | some x, some y, some z =>
      if rest = [] ∨ rest.head? = some 0x20 then .ok (100 * x + 10 * y + z) else .error badStatus
    | _, _, _ => .error badStatus
  | _ => .error badStatus

/-- Reads the version that a head starts with: its last digit, and what follows it. -/
def readVersion (bs : Bytes) : Except ResponseFault (Nat × Bytes) :=
  if opening.isPrefixOf bs then
    match bs.drop opening.length with
    | [] => .error .cut
    | 0x30 :: rest => .ok (0, rest)
    | 0x31 :: rest => .ok (1, rest)
    | _ => .error badVersion
  else if bs.isPrefixOf opening then .error .cut
  else .error badVersion

/-! ## 3. Headers -/

/-- The octets of a header name. -/
def isNameOctet (b : UInt8) : Bool :=
  (0x30 ≤ b && b ≤ 0x39) || (0x41 ≤ b && b ≤ 0x5A) || (0x61 ≤ b && b ≤ 0x7A) ||
    (Bytes.ofText "!#$%&'*+-.^_|~").contains b || b = 0x60

/-- Spaces and tabs. -/
def isGap (b : UInt8) : Bool := b = 0x20 || b = 0x09

/-- A value without the gaps around it. -/
def trimGaps (bs : Bytes) : Bytes :=
  ((bs.dropWhile isGap).reverse.dropWhile isGap).reverse

/-- Reads a header line. -/
def readHeader (l : Bytes) : Except ResponseFault (String × Bytes) :=
  let name := l.takeWhile isNameOctet
  match name, l.dropWhile isNameOctet with
  | _ :: _, 0x3A :: value =>
    .ok (String.ofList (name.map fun b => (Char.ofNat b.toNat).toLower), trimGaps value)
  | _, _ => .error badName

/-- Reads header lines up to the empty one; also gives the octets behind it. -/
def readHeaders (bs : Bytes) : Except ResponseFault (List (String × Bytes) × Bytes) :=
  match h : line? bs with
  | none => .error .cut
  | some ([], rest) => .ok ([], rest)
  | some (b :: l, rest) => do
    let one ← readHeader (b :: l)
    have : rest.length < bs.length := length_of_line? h
    let (more, behind) ← readHeaders rest
    .ok (one :: more, behind)
termination_by bs.length

/-- Empty lines in front of a head are skipped. -/
def skipEmpty : Bytes → Bytes
  | 0x0D :: 0x0A :: bs => skipEmpty bs
  | 0x0A :: bs => skipEmpty bs
  | bs => bs

/-- Reads a head; also gives the octets behind it. -/
def read (bs : Bytes) : Except ResponseFault (Head × Bytes) := do
  let (minor, afterVersion) ← readVersion (skipEmpty bs)
  match line? afterVersion with
  | none => .error .cut
  | some (statusLine, rest) =>
    let status ← readStatus statusLine
    let (headers, behind) ← readHeaders rest
    .ok (⟨minor, status, headers⟩, behind)

end Head
end PinnedFetch.Http
