/-
# Response bodies

The head says how a body is framed: by a count of octets, in chunks, by the end of the connection,
or not at all.  A reader takes the body out of what follows the head; octets behind a counted body
are not looked at, and a counted or chunked body that the connection cuts off is a fault, never a
shorter body.

Content codings are left out: the body is the octets that are framed, and a header that says they
are compressed changes nothing about them.  There is no limit on their number but that of a count
(`countLimit`), nor on the length of a chunk's extension or of a trailer.
-/
import PinnedFetch.Http.Head
import PinnedFetch.Text.Blank
import PinnedFetch.Text.Fields

namespace PinnedFetch.Http

/-- How a body is framed. -/
inductive Framing where
  /-- There is none. -/
  | absent
  /-- It has this many octets. -/
  | counted (n : Nat)
  /-- It comes in chunks. -/
  | chunked
  /-- It lasts as long as the connection. -/
  | toEnd
  deriving DecidableEq, Repr

namespace Body

/-! ## 1. Writing -/

/-- The end of a line. -/
def crlf : Bytes := [0x0D, 0x0A]

/-- A number in hexadecimal digits. -/
def hexSize (n : Nat) : Bytes := (Nat.toDigits 16 n).map fun c => UInt8.ofNat c.toNat

/-- One chunk: its size, its octets. -/
def chunk (bs : Bytes) : Bytes := hexSize bs.length ++ crlf ++ bs ++ crlf

/-- A chunked body: its chunks and an empty one. -/
def chunks (parts : List Bytes) : Bytes := parts.flatMap chunk ++ chunk []

theorem chunks_cons (c : Bytes) (parts : List Bytes) :
    chunks (c :: parts) = chunk c ++ chunks parts := by
  simp [chunks]

/-! ## 2. Reading chunks -/

/-- The value of a hexadecimal digit. -/
def hexValue? (b : UInt8) : Option Nat :=
  if 0x30 ≤ b ∧ b ≤ 0x39 then some (b.toNat - 0x30)
  else if 0x61 ≤ b ∧ b ≤ 0x66 then some (b.toNat - 0x61 + 10)
  else if 0x41 ≤ b ∧ b ≤ 0x46 then some (b.toNat - 0x41 + 10)
  else none

/-- A number in hexadecimal digits, read on from `n`. -/
def readDigits (n : Nat) : Bytes → Option Nat
  | [] => some n
  | b :: bs =>
    match hexValue? b with
    | some d => readDigits (16 * n + d) bs
    | none => none

/-- The fault of a size that is no number. -/
def badSize : ResponseFault := .broken "chunk length cannot be read as a number"

/-- The fault of a chunk that does not end where its size says. -/
def badEnd : ResponseFault := .broken "chunk expected crlf as next character"

/-- The size on a line; what follows a semicolon says nothing about it. -/
def readSize (line : Bytes) : Except ResponseFault Nat :=
  match line.takeWhile (· != 0x3B) with
  | [] => .error badSize
  | digits =>
    match readDigits 0 digits with
    | some n => .ok n
    | none => .error badSize

/-- The lines behind the last chunk, up to an empty one. -/
def readTrailer (bs : Bytes) : Except ResponseFault Unit :=
  match h : Head.line? bs with
  | none => .error .cut
  | some ([], _) => .ok ()
  | some (_ :: _, rest) =>
    have : rest.length < bs.length := Head.length_of_line? h
    readTrailer rest
termination_by bs.length

/-- The octets behind the end of a chunk. -/
def readEnd : Bytes → Except ResponseFault Bytes
  | [] => .error .cut
  | [0x0D] => .error .cut
  | 0x0D :: 0x0A :: behind => .ok behind
  | _ => .error badEnd

/-- A chunk and the octets behind it; none for the empty chunk, which is the last. -/
def readChunk (bs : Bytes) : Except ResponseFault (Option (Bytes × Bytes)) :=
  match Head.line? bs with
  | none => .error .cut
  | some (line, rest) =>
    match readSize line with
    | .error fault => .error fault
    | .ok n =>
      if n = 0 then (fun _ => none) <$> readTrailer rest
      else (fun behind => some (rest.take n, behind)) <$> readEnd (rest.drop n)

theorem length_of_readEnd {bs behind : Bytes} (h : readEnd bs = .ok behind) :
    behind.length < bs.length := by
  unfold readEnd at h
  split at h <;> cases h
  simp only [List.length_cons]
  omega

theorem length_of_readChunk {bs c behind : Bytes} (h : readChunk bs = .ok (some (c, behind))) :
    behind.length < bs.length := by
  unfold readChunk at h
  split at h
  · cases h
  · next line rest hl =>
    have hr := Head.length_of_line? hl
    split at h
    · cases h
    split at h
    · cases ht : readTrailer rest <;> rw [ht] at h <;> cases h
    · next n _ _ =>
      cases he : readEnd (rest.drop n) with
      | error fault => rw [he] at h; cases h
      | ok b =>
        rw [he] at h
        cases h
        have := length_of_readEnd he
        rw [List.length_drop] at this
        omega

/-- The octets of a chunked body. -/
def readChunks (bs : Bytes) : Except ResponseFault Bytes :=
  match h : readChunk bs with
  | .error fault => .error fault
  | .ok none => .ok []
  | .ok (some (c, behind)) =>
    have : behind.length < bs.length := length_of_readChunk h
    (c ++ ·) <$> readChunks behind
termination_by bs.length

/-- The octet of a digit: it has the value of the digit, and ends no line and no size. -/
theorem octet_digit : ∀ d : Fin 16,
    hexValue? (UInt8.ofNat (Nat.digitChar d).toNat) = some d.val ∧
      UInt8.ofNat (Nat.digitChar d).toNat ≠ Head.lineFeed ∧
      UInt8.ofNat (Nat.digitChar d).toNat ≠ Head.carriageReturn ∧
      UInt8.ofNat (Nat.digitChar d).toNat ≠ 0x3B := by
  decide

theorem readChunks_of_chunk {bs c behind : Bytes} (h : readChunk bs = .ok (some (c, behind))) :
    readChunks bs = (c ++ ·) <$> readChunks behind := by
  rw [readChunks]
  split <;> simp_all

/-! ## 3. Reading a body -/

/-- A number in decimal digits, read on from `n`. -/
def readDecimal (n : Nat) : List Char → Option Nat
  | [] => some n
  | c :: cs => if '0' ≤ c ∧ c ≤ '9' then readDecimal (10 * n + (c.toNat - '0'.toNat)) cs else none

/-- A count of octets; a plus sign may stand before it. -/
def readCount (cs : List Char) : Option Nat :=
  match if cs.head? = some '+' then cs.tail else cs with
  | [] => none
  | digits => readDecimal 0 digits

/-- A bound on the counts that can be meant. -/
def countLimit : Nat := 0x10000000000000000

/-- The fault of a count that is no number. -/
def badCount : ResponseFault := .broken "content-length header not a number"

/-- Whether a response says that its body comes in chunks. -/
def isChunked (h : Head) : Bool :=
  match h.header? "transfer-encoding" with
  | some v =>
    (Text.fields ',' (v.map Char.toLower)).any fun part => Text.trim part = "chunked".toList
  | none => false

/-- The count that a response gives, if it gives one. -/
def count? (h : Head) : Except ResponseFault (Option Nat) :=
  match h.header? "content-length" with
  | none => .ok none
  | some v =>
    match readCount v with
    | some n => if n < countLimit then .ok (some n) else .error badCount
    | none => .error badCount

/-- Whether a status says that no body follows. -/
def isBare (status : Nat) : Bool := status = 204 || status = 304

/-- Whether a status speaks of another place; its body, if it has one, must be framed. -/
def isElsewhere (status : Nat) : Bool := 300 ≤ status && status < 400

/-- How the body of a response is framed.  A count must be a number even where it decides nothing,
and chunks win over a count; version 1.0 has no chunks. -/
def framing (h : Head) : Except ResponseFault Framing :=
  match count? h with
  | .error fault => .error fault
  | .ok count =>
    if isBare h.status then .ok .absent
    else if isChunked h ∧ h.minor ≠ 0 then .ok .chunked
    else match count with
      | some n => .ok (.counted n)
      | none => .ok (if isElsewhere h.status then .absent else .toEnd)

/-- The body in what follows a head. -/
def read : Framing → Bytes → Except ResponseFault Bytes
  | .absent, _ => .ok []
  | .counted n, bs => if bs.length < n then .error .cut else .ok (bs.take n)
  | .chunked, bs => readChunks bs
  | .toEnd, bs => .ok bs

theorem read_counted (body behind : Bytes) :
    read (.counted body.length) (body ++ behind) = .ok body := by
  simp [read]

theorem read_toEnd (body : Bytes) : read .toEnd body = .ok body := rfl

end Body
end PinnedFetch.Http
