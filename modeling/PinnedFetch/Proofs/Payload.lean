/-
# Payloads

What follows a head carries the body in the form that the head speaks of (`Frames`): as many octets
as are counted, chunks up to an empty one, or all octets up to the end of the connection
(`Payload`).

Whichever form it is, the reader gives the body, and octets behind a counted body or behind the
last chunk change nothing (`Payload.read`).  A counted body or chunks that are cut off somewhere are
a cut, never a shorter body (`Payload.read_short`).  For chunks this is an induction on how many
there are: in each, the cut is in the line of its size, in its octets, in the line end behind them,
or later.
-/
import PinnedFetch.Proofs.HeadText

namespace PinnedFetch.Http

open Body (crlf)

/-! ## 1. Numerals -/

/-- A number in digits of a base. -/
inductive Numeral {α : Type} (base : Nat) (digit : Nat → α → Prop) : Nat → List α → Prop
  | one {d : Nat} {a : α} (is : digit d a) : Numeral base digit d [a]
  | more {n d : Nat} {front : List α} {a : α} (value : Numeral base digit n front)
      (is : digit d a) : Numeral base digit (base * n + d) (front ++ [a])

section Numerals

variable {α β : Type} {base n : Nat} {digit : Nat → α → Prop} {digits : List α}

theorem Numeral.ne_nil (h : Numeral base digit n digits) : digits ≠ [] := by
  cases h with
  | one => simp
  | more => simp

theorem Numeral.exists_digit (h : Numeral base digit n digits) :
    ∀ a ∈ digits, ∃ d, digit d a := by
  induction h with
  | one is =>
    intro a ha
    rw [List.mem_singleton.mp ha]
    exact ⟨_, is⟩
  | more value is ih =>
    intro a ha
    rcases List.mem_append.mp ha with ha | ha
    · exact ih a ha
    · rw [List.mem_singleton.mp ha]
      exact ⟨_, is⟩

/-- A reader that goes on by one digit reads a number. -/
theorem Numeral.read (h : Numeral base digit n digits) {read : Nat → List α → β}
    (step : ∀ n d a rest, digit d a → read n (a :: rest) = read (base * n + d) rest) :
    ∀ rest, read 0 (digits ++ rest) = read n rest := by
  induction h with
  | one is =>
    intro rest
    rw [List.singleton_append, step _ _ _ _ is, Nat.mul_zero, Nat.zero_add]
  | more value is ih =>
    intro rest
    rw [List.append_assoc, ih, List.singleton_append, step _ _ _ _ is]

/-- The digits of a number, most significant first, are a numeral for it. -/
theorem numeral_toDigits (two : 1 < base) {f : Char → α}
    (is : ∀ d, d < base → digit d (f (Nat.digitChar d))) (n : Nat) :
    Numeral base digit n ((Nat.toDigits base n).map f) := by
  induction n using Nat.strongRecOn with
  | _ n ih =>
    rw [Nat.toDigits_eq_if two]
    split
    · rename_i small
      exact .one (is n small)
    · rename_i large
      have less : n / base < n := Nat.div_lt_self (by omega) two
      have parts := Numeral.more (ih (n / base) less) (is (n % base) (Nat.mod_lt n (by omega)))
      rw [Nat.div_add_mod] at parts
      rwa [List.map_append]

end Numerals

/-- The character of a decimal digit. -/
def DecimalDigit (d : Nat) (c : Char) : Prop := d < 10 ∧ c = Nat.digitChar d

/-- The octet of a hexadecimal digit, in either case. -/
def HexDigit (d : Nat) (b : UInt8) : Prop :=
  d < 16 ∧ (b = UInt8.ofNat (Nat.digitChar d).toNat ∨
    b = UInt8.ofNat (Nat.digitChar d).toUpper.toNat)

theorem numeral_decimal (n : Nat) : Numeral 10 DecimalDigit n (Nat.toDigits 10 n) := by
  have digits : Numeral 10 DecimalDigit n ((Nat.toDigits 10 n).map id) :=
    numeral_toDigits (by decide) (fun _ small => ⟨small, rfl⟩) n
  rwa [List.map_id] at digits

/-- The size of a chunk is written in lower case, without zeros in front. -/
theorem numeral_hexSize (n : Nat) : Numeral 16 HexDigit n (Body.hexSize n) :=
  numeral_toDigits (by decide) (fun _ small => ⟨small, Or.inl rfl⟩) n

theorem readCount_numeral {n : Nat} {digits : List Char} (h : Numeral 10 DecimalDigit n digits) :
    Body.readCount digits = some n := by
  have values : ∀ d : Fin 10, ('0' ≤ Nat.digitChar d ∧ Nat.digitChar d ≤ '9') ∧
      (Nat.digitChar d).toNat - '0'.toNat = d.val ∧ Nat.digitChar d ≠ '+' := by
    decide
  have step : ∀ n d a rest, DecimalDigit d a →
      Body.readDecimal n (a :: rest) = Body.readDecimal (10 * n + d) rest := by
    rintro n d a rest ⟨small, rfl⟩
    obtain ⟨isDigit, value, -⟩ := values ⟨d, small⟩
    rw [Body.readDecimal, if_pos isDigit, value]
  have unsigned : digits.head? ≠ some '+' := by
    intro sign
    obtain ⟨d, small, plus⟩ := h.exists_digit '+' (List.mem_of_head? sign)
    exact (values ⟨d, small⟩).2.2 plus.symm
  have value := h.read step []
  rw [List.append_nil, Body.readDecimal] at value
  unfold Body.readCount
  rw [if_neg unsigned]
  split
  · exact absurd rfl h.ne_nil
  · exact value

/-! ## 2. Chunks as they are sent -/

/-- What may follow the size on its line. -/
inductive Extension : Bytes → Prop
  | missing : Extension []
  | given {text : Bytes} (plain : OneLine text) : Extension (0x3B :: text)

/-- Lines behind the last chunk, up to an empty one. -/
inductive Trailer : Bytes → Prop
  | none : Trailer crlf
  | one {line lines : Bytes} (plain : OneLine line) (given : line ≠ []) (more : Trailer lines) :
      Trailer (line ++ crlf ++ lines)

/-- A body in chunks as it is sent: each with its size before it, and an empty one at the end. -/
inductive Chunked : List Bytes → Bytes → Prop
  | last {size extension lines : Bytes} (zero : Numeral 16 HexDigit 0 size)
      (extended : Extension extension) (trailer : Trailer lines) :
      Chunked [] (size ++ extension ++ crlf ++ lines)
  | one {chunk size extension text : Bytes} {chunks : List Bytes} (given : chunk ≠ [])
      (sized : Numeral 16 HexDigit chunk.length size) (extended : Extension extension)
      (more : Chunked chunks text) :
      Chunked (chunk :: chunks) (size ++ extension ++ crlf ++ (chunk ++ (crlf ++ text)))

/-- The octet of a hexadecimal digit has its value, and ends no line and no size. -/
theorem HexDigit.octet {d : Nat} {b : UInt8} (h : HexDigit d b) :
    Body.hexValue? b = some d ∧ b ≠ Head.lineFeed ∧ b ≠ Head.carriageReturn ∧ b ≠ 0x3B := by
  have capitals : ∀ d : Fin 16,
      Body.hexValue? (UInt8.ofNat (Nat.digitChar d).toUpper.toNat) = some d.val ∧
        UInt8.ofNat (Nat.digitChar d).toUpper.toNat ≠ Head.lineFeed ∧
        UInt8.ofNat (Nat.digitChar d).toUpper.toNat ≠ Head.carriageReturn ∧
        UInt8.ofNat (Nat.digitChar d).toUpper.toNat ≠ 0x3B := by
    decide
  obtain ⟨small, rfl | rfl⟩ := h
  · exact Body.octet_digit ⟨d, small⟩
  · exact capitals ⟨d, small⟩

section Sizes

variable {n : Nat} {size extension : Bytes}

theorem oneLine_size (sized : Numeral 16 HexDigit n size) (extended : Extension extension) :
    OneLine (size ++ extension) := by
  have digits : Head.lineFeed ∉ size ∧ Head.carriageReturn ∉ size := by
    refine ⟨fun here => ?_, fun here => ?_⟩
    · obtain ⟨d, is⟩ := sized.exists_digit _ here
      exact is.octet.2.1 rfl
    · obtain ⟨d, is⟩ := sized.exists_digit _ here
      exact is.octet.2.2.1 rfl
  unfold OneLine
  rw [List.mem_append, List.mem_append, not_or, not_or]
  cases extended with
  | missing => exact ⟨⟨digits.1, by simp⟩, digits.2, by simp⟩
  | given plain =>
    rw [List.mem_cons, List.mem_cons, not_or, not_or]
    exact ⟨⟨digits.1, by decide, plain.1⟩, digits.2, by decide, plain.2⟩

theorem readSize_numeral (sized : Numeral 16 HexDigit n size) (extended : Extension extension) :
    Body.readSize (size ++ extension) = .ok n := by
  have inside : ∀ b ∈ size, (b != 0x3B) = true := by
    intro b hb
    obtain ⟨d, is⟩ := sized.exists_digit b hb
    simpa using is.octet.2.2.2
  have ends : ∀ b, extension.head? = some b → (b != 0x3B) = false := by
    intro b first
    cases extended with
    | missing => exact absurd first (by simp)
    | given plain => rw [← Option.some.inj first]; rfl
  have step : ∀ n d b rest, HexDigit d b →
      Body.readDigits n (b :: rest) = Body.readDigits (16 * n + d) rest := by
    intro n d b rest is
    rw [Body.readDigits, is.octet.1]
  have value := sized.read step []
  rw [List.append_nil, Body.readDigits] at value
  unfold Body.readSize
  rw [Text.takeWhile_run inside ends]
  split
  · exact absurd rfl sized.ne_nil
  · rw [value]

theorem readChunk_size (sized : Numeral 16 HexDigit n size) (extended : Extension extension)
    (rest : Bytes) :
    Body.readChunk (size ++ extension ++ crlf ++ rest) =
      if n = 0 then (fun _ => none) <$> Body.readTrailer rest
      else (fun behind => some (rest.take n, behind)) <$> Body.readEnd (rest.drop n) := by
  unfold Body.readChunk
  rw [Head.line?_written (oneLine_size sized extended)]
  simp only
  rw [readSize_numeral sized extended]

end Sizes

/-! ## 3. Chunks are read back -/

namespace Body

theorem readTrailer_of_none {bs : Bytes} (h : Head.line? bs = none) :
    readTrailer bs = .error .cut := by
  rw [readTrailer]
  split
  · rfl
  · rename_i e
    exact absurd (h.symm.trans e) (by simp)
  · rename_i e
    exact absurd (h.symm.trans e) (by simp)

theorem readTrailer_of_line {bs line rest : Bytes} (h : Head.line? bs = some (line, rest)) :
    readTrailer bs = if line = [] then .ok () else readTrailer rest := by
  rw [readTrailer]
  split
  · rename_i e
    exact absurd (h.symm.trans e) (by simp)
  · rename_i e
    obtain ⟨rfl, -⟩ := Prod.mk.inj (Option.some.inj (h.symm.trans e))
    rfl
  · rename_i e
    obtain ⟨rfl, rfl⟩ := Prod.mk.inj (Option.some.inj (h.symm.trans e))
    rfl

theorem readTrailer_trailer {lines : Bytes} (h : Trailer lines) (behind : Bytes) :
    readTrailer (lines ++ behind) = .ok () := by
  induction h with
  | none =>
    have line : Head.line? (crlf ++ behind) = some ([], behind) := rfl
    rw [readTrailer_of_line line, if_pos rfl]
  | @one line lines plain given more ih =>
    rw [List.append_assoc, readTrailer_of_line (Head.line?_written plain _), if_neg given, ih]

theorem readTrailer_short {lines : Bytes} (h : Trailer lines) :
    ∀ p, Short p lines → readTrailer p = .error .cut := by
  induction h with
  | none =>
    intro p short
    exact readTrailer_of_none (Head.line?_short (l := []) ⟨by simp, by simp⟩ short)
  | @one line lines plain given more ih =>
    intro p short
    rcases short.append with inside | ⟨q, rfl, behind⟩
    · exact readTrailer_of_none (Head.line?_short plain inside)
    · rw [readTrailer_of_line (Head.line?_written plain q), if_neg given, ih q behind]

theorem readChunks_of_error {bs : Bytes} {fault : ResponseFault}
    (h : readChunk bs = .error fault) : readChunks bs = .error fault := by
  rw [readChunks]
  split
  · rename_i e
    exact congrArg Except.error (Except.error.inj (e.symm.trans h))
  · rename_i e
    exact absurd (e.symm.trans h) (by simp)
  · rename_i e
    exact absurd (e.symm.trans h) (by simp)

theorem readChunks_of_last {bs : Bytes} (h : readChunk bs = .ok none) : readChunks bs = .ok [] := by
  rw [readChunks]
  split
  · rename_i e
    exact absurd (e.symm.trans h) (by simp)
  · rfl
  · rename_i e
    exact absurd (e.symm.trans h) (by simp)

/-- A line end that is cut off. -/
theorem readEnd_short {p : Bytes} (short : Short p crlf) : readEnd p = .error .cut := by
  have ends : crlf = [0x0D] ++ [0x0A] := rfl
  rw [ends] at short
  rcases short.append with first | ⟨q, rfl, last⟩
  · rw [first.of_singleton]
    rfl
  · rw [last.of_singleton]
    rfl

/-- **Chunks are read back whole,** however the body is divided. -/
theorem readChunks_chunked {chunks : List Bytes} {text : Bytes} (h : Chunked chunks text)
    (behind : Bytes) : readChunks (text ++ behind) = .ok chunks.flatten := by
  induction h with
  | last zero extended trailer =>
    refine readChunks_of_last ?_
    rw [List.append_assoc, readChunk_size zero extended, if_pos rfl,
      readTrailer_trailer trailer]
    rfl
  | @one chunk size extension text chunks given sized extended more ih =>
    have solid : chunk.length ≠ 0 := fun none => given (List.length_eq_zero_iff.mp none)
    have first : readChunk (size ++ extension ++ crlf ++ (chunk ++ (crlf ++ text)) ++ behind) =
        .ok (some (chunk, text ++ behind)) := by
      rw [List.append_assoc, readChunk_size sized extended, if_neg solid, List.append_assoc,
        List.take_left, List.drop_left]
      rfl
    rw [readChunks_of_chunk first, ih]
    rfl

/-- **Chunks that are cut off are none,** wherever the cut is. -/
theorem readChunks_short {chunks : List Bytes} {text : Bytes} (h : Chunked chunks text) :
    ∀ p, Short p text → readChunks p = .error .cut := by
  induction h with
  | last zero extended trailer =>
    intro p short
    refine readChunks_of_error ?_
    rcases short.append with inside | ⟨q, rfl, behind⟩
    · unfold readChunk
      rw [Head.line?_short (oneLine_size zero extended) inside]
    · rw [readChunk_size zero extended, if_pos rfl, readTrailer_short trailer q behind]
      rfl
  | @one chunk size extension text chunks given sized extended more ih =>
    intro p short
    have solid : chunk.length ≠ 0 := fun none => given (List.length_eq_zero_iff.mp none)
    rcases short.append with inside | ⟨q, rfl, behind⟩
    · refine readChunks_of_error ?_
      unfold readChunk
      rw [Head.line?_short (oneLine_size sized extended) inside]
    have line := readChunk_size sized extended q
    rw [if_neg solid] at line
    rcases behind.append with octets | ⟨r, rfl, later⟩
    · -- the octets of the chunk end too early, and nothing is behind them
      have none : q.drop chunk.length = [] := List.drop_eq_nil_of_le octets.1.length_le
      rw [none] at line
      exact readChunks_of_error line
    rw [List.take_left, List.drop_left] at line
    rcases later.append with ending | ⟨s, rfl, rest⟩
    · rw [readEnd_short ending] at line
      exact readChunks_of_error line
    · have first : readChunk (size ++ extension ++ crlf ++ (chunk ++ (crlf ++ s))) =
          .ok (some (chunk, s)) := line
      rw [readChunks_of_chunk first, ih s rest]
      rfl

/-- Chunks as this library writes them. -/
theorem chunked_chunks {parts : List Bytes} (given : ∀ c ∈ parts, c ≠ []) :
    Chunked parts (chunks parts) := by
  induction parts with
  | nil => exact .last (numeral_hexSize 0) .missing .none
  | cons c parts ih =>
    have text : chunks (c :: parts) =
        hexSize c.length ++ [] ++ crlf ++ (c ++ (crlf ++ chunks parts)) := by
      simp [chunks_cons, chunk]
    rw [text]
    exact .one (given c List.mem_cons_self) (numeral_hexSize _) .missing
      (ih fun d hd => given d (List.mem_cons_of_mem c hd))

end Body

/-! ## 4. How a head frames what follows it -/

/-- No header has this name. -/
def Head.Lacks (h : Head) (name : String) : Prop := ∀ header ∈ h.headers, header.1 ≠ name

instance (h : Head) (name : String) : Decidable (h.Lacks name) :=
  List.decidableBAll (fun header : String × Bytes => header.1 ≠ name) h.headers

/-- The count that a head gives: a decimal number, and one that a machine can hold. -/
inductive Counts (h : Head) : Option Nat → Prop
  | none (lacks : h.Lacks "content-length") : Counts h none
  | some {n : Nat} {digits : List Char} (given : h.header? "content-length" = some digits)
      (spelled : Numeral 10 DecimalDigit n digits) (held : n < Body.countLimit) :
      Counts h (some n)

/-- How a head frames what follows it. -/
inductive Frames (h : Head) : Framing → Prop
  | counted {n : Nat} (count : Counts h (some n)) (solid : h.Lacks "transfer-encoding") :
      Frames h (.counted n)
  | chunked {count : Option Nat} {coding : List Char} (counts : Counts h count)
      (coded : h.header? "transfer-encoding" = some coding)
      (cased : coding.map Char.toLower = "chunked".toList) (version : h.minor ≠ 0) :
      Frames h .chunked
  | toEnd (uncounted : Counts h none) (solid : h.Lacks "transfer-encoding")
      (here : Body.isElsewhere h.status = false) : Frames h .toEnd
  | absent (uncounted : Counts h none) (solid : h.Lacks "transfer-encoding")
      (elsewhere : Body.isElsewhere h.status = true) : Frames h .absent

/-- The octets that carry a body. -/
inductive Payload : Framing → Bytes → Bytes → Prop
  | counted (body : Bytes) : Payload (.counted body.length) body body
  | chunked {chunks : List Bytes} {text : Bytes} (sent : Chunked chunks text) :
      Payload .chunked chunks.flatten text
  | toEnd (body : Bytes) : Payload .toEnd body body
  | absent : Payload .absent [] []

section Framed

variable {h : Head} {f : Framing} {body payload : Bytes}

theorem Head.Lacks.lookup {name : String} (lacks : h.Lacks name) :
    h.headers.lookup name = none := by
  rw [List.lookup_eq_none_iff]
  intro header here
  simpa using Ne.symm (lacks header here)

theorem Head.Lacks.header? {name : String} (lacks : h.Lacks name) : h.header? name = none := by
  rw [Head.header?, lacks.lookup]
  rfl

theorem Counts.count? {count : Option Nat} (counts : Counts h count) :
    Body.count? h = .ok count := by
  unfold Body.count?
  cases counts with
  | none lacks => rw [lacks.header?]
  | some given spelled held =>
    rw [given]
    simp only
    rw [readCount_numeral spelled]
    simp only [if_pos held]

theorem isChunked_of_lacks (solid : h.Lacks "transfer-encoding") : Body.isChunked h = false := by
  rw [Body.isChunked, solid.header?]

theorem isChunked_of_coding {coding : List Char}
    (coded : h.header? "transfer-encoding" = some coding)
    (cased : coding.map Char.toLower = "chunked".toList) : Body.isChunked h = true := by
  rw [Body.isChunked, coded]
  simp only [cased]
  decide

/-- The head is taken at its word, unless its status says that nothing follows. -/
theorem Frames.framing (frames : Frames h f) (bodied : Body.isBare h.status = false) :
    Body.framing h = .ok f := by
  unfold Body.framing
  cases frames with
  | counted count solid =>
    simp [count.count?, bodied, isChunked_of_lacks solid]
  | chunked counts coded cased version =>
    simp [counts.count?, bodied, isChunked_of_coding coded cased, version]
  | toEnd uncounted solid here =>
    simp [uncounted.count?, bodied, isChunked_of_lacks solid, here]
  | absent uncounted solid elsewhere =>
    simp [uncounted.count?, bodied, isChunked_of_lacks solid, elsewhere]

/-- **The body is read back,** whole and verbatim. -/
theorem Payload.read (carries : Payload f body payload) {behind : Bytes}
    (last : f = .toEnd → behind = []) : Body.read f (payload ++ behind) = .ok body := by
  cases carries with
  | counted => exact Body.read_counted body behind
  | chunked sent => exact Body.readChunks_chunked sent behind
  | toEnd => rw [last rfl, List.append_nil, Body.read_toEnd]
  | absent => rfl

/-- **What is cut off is no shorter body.** -/
theorem Payload.read_short (carries : Payload f body payload) (bounded : f ≠ .toEnd) {p : Bytes}
    (short : Short p payload) : Body.read f p = .error .cut := by
  cases carries with
  | counted =>
    have less : p.length < body.length := by
      refine Nat.lt_of_le_of_ne short.1.length_le fun same => ?_
      exact short.2 (short.1.eq_of_length same)
    rw [Body.read, if_pos less]
  | chunked sent => exact Body.readChunks_short sent p short
  | toEnd => exact absurd rfl bounded
  | absent => exact absurd rfl short.ne_nil

end Framed

/-! ## 5. Whole responses -/

/-- A whole response: a head, and a payload that carries a body as the head says. -/
inductive Complete (h : Head) (body : Bytes) : Bytes → Prop
  | mk {f : Framing} {head payload : Bytes} (written : h.Written head) (frames : Frames h f)
      (carries : Payload f body payload) : Complete h body (head ++ payload)

end PinnedFetch.Http
