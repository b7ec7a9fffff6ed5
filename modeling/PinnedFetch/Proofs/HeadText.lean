/-
# Heads as they are written

A head is written as a status line, a line for each header and an empty line (`Head.Written`).  The
reader takes every such text for the head that it writes and leaves what is behind it
(`read_written`).  A text that is cut off somewhere is never taken for a shorter head: wherever the
cut is, the reader reports it (`read_short`).

Each part is treated in the same way: what is read of it when it is whole, and that it is not whole
as long as its last octet is missing.  A cut in a text of two parts lies in the first, or behind it
in the second (`Short.append`), so the parts put together give the head.
-/
import PinnedFetch.Http.Body
import PinnedFetch.Text.Fields

namespace PinnedFetch.Http

open Body (crlf)

/-! ## 1. Texts that are cut off -/

/-- A text that is cut off somewhere before its end. -/
def Short (p text : Bytes) : Prop := p <+: text ∧ p ≠ text

theorem Short.append {p a b : Bytes} (h : Short p (a ++ b)) :
    Short p a ∨ ∃ q, p = a ++ q ∧ Short q b := by
  obtain ⟨⟨rest, whole⟩, part⟩ := h
  rcases List.append_eq_append_iff.mp whole with ⟨q, before, -⟩ | ⟨q, behind, after⟩
  · by_cases all : p = a
    · subst all
      obtain rfl : q = [] := by simpa using before
      exact Or.inr ⟨[], by simp, List.nil_prefix, fun e => part (by simp [← e])⟩
    · exact Or.inl ⟨⟨q, before.symm⟩, all⟩
  · refine Or.inr ⟨q, behind, ⟨rest, after.symm⟩, ?_⟩
    rintro rfl
    exact part behind

theorem Short.of_singleton {p : Bytes} {b : UInt8} (h : Short p [b]) : p = [] := by
  obtain ⟨sub, part⟩ := h
  rcases List.prefix_cons_iff.mp sub with rfl | ⟨q, rfl, rest⟩
  · rfl
  · exact absurd (by rw [List.prefix_nil.mp rest]) part

theorem Short.ne_nil {p text : Bytes} (h : Short p text) : text ≠ [] := by
  rintro rfl
  exact h.2 (List.prefix_nil.mp h.1)

/-! ## 2. Lines -/

/-- No octet ends a line. -/
def OneLine (l : Bytes) : Prop := Head.lineFeed ∉ l ∧ Head.carriageReturn ∉ l

namespace Head

theorem line?_of_not_mem {bs : Bytes} (h : lineFeed ∉ bs) : line? bs = none := by
  induction bs with
  | nil => rfl
  | cons b bs ih =>
    rw [List.mem_cons, not_or] at h
    rw [line?, if_neg (Ne.symm h.1), ih h.2]

theorem line?_written {l : Bytes} (h : OneLine l) (rest : Bytes) :
    line? (l ++ crlf ++ rest) = some (l, rest) := by
  rw [List.append_assoc]
  exact line?_append h.1 h.2 rest

theorem line?_short {l p : Bytes} (h : OneLine l) (short : Short p (l ++ crlf)) :
    line? p = none := by
  have ends : l ++ crlf = l ++ [carriageReturn] ++ [lineFeed] := by
    rw [List.append_assoc]
    rfl
  rw [ends] at short
  refine line?_of_not_mem fun feed => ?_
  have clean : lineFeed ∉ l ++ [carriageReturn] := by
    simp only [List.mem_append, List.mem_singleton, not_or]
    exact ⟨h.1, by decide⟩
  rcases short.append with inside | ⟨q, rfl, last⟩
  · exact clean (inside.1.mem feed)
  · rw [last.of_singleton, List.append_nil] at feed
    exact clean feed

/-! ## 3. The status line -/

/-- The octet of a decimal digit. -/
def digit (d : Nat) : UInt8 := UInt8.ofNat (0x30 + d)

theorem digit?_digit : ∀ d : Fin 10, digit? (digit d) = some d.val := by
  decide

/-- A status line behind its version: three digits, and a reason. -/
def statusText (x y z : Fin 10) (reason : Bytes) : Bytes :=
  0x20 :: digit x :: digit y :: digit z :: reason

theorem readStatus_statusText (x y z : Fin 10) {reason : Bytes}
    (apart : reason = [] ∨ reason.head? = some 0x20) :
    readStatus (statusText x y z reason) = .ok (100 * x + 10 * y + z) := by
  simp only [statusText, readStatus, digit?_digit, if_pos apart]

theorem oneLine_statusText (x y z : Fin 10) {reason : Bytes} (plain : OneLine reason) :
    OneLine (statusText x y z reason) := by
  have digits : ∀ d : Fin 10, lineFeed ≠ digit d ∧ carriageReturn ≠ digit d := by
    decide
  constructor
  · simp only [statusText, List.mem_cons, not_or]
    exact ⟨by decide, (digits x).1, (digits y).1, (digits z).1, plain.1⟩
  · simp only [statusText, List.mem_cons, not_or]
    exact ⟨by decide, (digits x).2, (digits y).2, (digits z).2, plain.2⟩

theorem opening_eq : opening = [0x48, 0x54, 0x54, 0x50, 0x2F, 0x31, 0x2E] := by
  decide +kernel

/-- Nothing is skipped at the start of a head. -/
theorem skipEmpty_opening (rest : Bytes) : skipEmpty (opening ++ rest) = opening ++ rest := by
  rw [opening_eq]
  rfl

theorem readVersion_written (minor : Fin 2) (rest : Bytes) :
    readVersion (opening ++ digit minor :: rest) = .ok (minor.val, rest) := by
  have starts : opening.isPrefixOf (opening ++ digit minor :: rest) = true :=
    List.isPrefixOf_iff_prefix.mpr (List.prefix_append _ _)
  rw [readVersion, if_pos starts, List.drop_left]
  obtain rfl | rfl : minor = 0 ∨ minor = 1 := by omega
  · rfl
  · rfl

/-- Before its last digit, the version is cut off. -/
theorem readVersion_short {p : Bytes} (h : p <+: opening) :
    readVersion (skipEmpty p) = .error .cut := by
  have kept : skipEmpty p = p := by
    rw [opening_eq] at h
    rcases List.prefix_cons_iff.mp h with rfl | ⟨q, rfl, -⟩
    · rfl
    · rfl
  rw [kept, readVersion]
  split
  · rename_i starts
    have all : p = opening := h.eq_of_length_le (List.isPrefixOf_iff_prefix.mp starts).length_le
    rw [all, List.drop_length]
  · rw [if_pos (List.isPrefixOf_iff_prefix.mpr h)]

/-! ## 4. Headers -/

/-- The octets of a header value: visible ones, gaps, and all beyond ASCII. -/
def isValueOctet (b : UInt8) : Bool := b = 0x09 || (0x20 ≤ b && b ≠ 0x7F)

/-- A header as a line: its name in either case, a colon, its value with gaps around it. -/
inductive HeaderLine : String × Bytes → Bytes → Prop
  | mk {lower : String} {name before value after : Bytes} (given : name ≠ [])
      (octets : ∀ b ∈ name, isNameOctet b = true)
      (cased : name.map (fun b => (Char.ofNat b.toNat).toLower) = lower.toList)
      (gaps : ∀ b ∈ before ++ after, isGap b = true)
      (printed : ∀ b ∈ value, isValueOctet b = true)
      (bare : ∀ b, value.head? = some b ∨ value.getLast? = some b → isGap b = false) :
      HeaderLine (lower, value) (name ++ 0x3A :: (before ++ value ++ after))

theorem trimGaps_between {before value after : Bytes} (gaps : ∀ b ∈ before ++ after, isGap b = true)
    (bare : ∀ b, value.head? = some b ∨ value.getLast? = some b → isGap b = false) :
    trimGaps (before ++ value ++ after) = value := by
  have front : ∀ b ∈ before, isGap b = true := fun b hb => gaps b (List.mem_append_left _ hb)
  have back : ∀ b ∈ after.reverse, isGap b = true := fun b hb =>
    gaps b (List.mem_append_right _ (List.mem_reverse.mp hb))
  unfold trimGaps
  cases value with
  | nil =>
    have all : (before ++ after ++ []).dropWhile isGap = [] :=
      Text.dropWhile_run gaps (by simp)
    rw [List.append_nil] at all ⊢
    rw [all]
    rfl
  | cons c cs =>
    have first : ∀ b, (c :: cs ++ after).head? = some b → isGap b = false :=
      fun b hb => bare b (Or.inl hb)
    have last : ∀ b, (c :: cs).reverse.head? = some b → isGap b = false := by
      intro b hb
      rw [List.head?_reverse] at hb
      exact bare b (Or.inr hb)
    rw [List.append_assoc, Text.dropWhile_run front first, List.reverse_append,
      Text.dropWhile_run back last, List.reverse_reverse]

theorem readHeader_written {header : String × Bytes} {line : Bytes} (h : HeaderLine header line) :
    readHeader line = .ok header := by
  cases h with
  | @mk lower name before value after given octets cased gaps printed bare =>
    have colon : ∀ b, (0x3A :: (before ++ value ++ after)).head? = some b →
        isNameOctet b = false := by
      intro b first
      rw [← Option.some.inj first]
      decide +kernel
    unfold readHeader
    rw [Text.takeWhile_run octets colon, Text.dropWhile_run octets colon]
    obtain ⟨b, bs, rfl⟩ := List.exists_cons_of_ne_nil given
    simp only
    rw [cased, trimGaps_between gaps bare, String.ofList_toList]

theorem oneLine_headerLine {header : String × Bytes} {line : Bytes} (h : HeaderLine header line) :
    OneLine line ∧ line ≠ [] := by
  cases h with
  | @mk lower name before value after given octets cased gaps printed bare =>
    -- an octet that ends a line is none of a name, no gap and none of a value
    have ends : ∀ e, isNameOctet e = false → isGap e = false → isValueOctet e = false →
        e ≠ 0x3A → e ∉ name ++ 0x3A :: (before ++ value ++ after) := by
      intro e noName noGap noValue noColon
      simp only [List.mem_append, List.mem_cons, not_or]
      refine ⟨fun here => ?_, noColon, ⟨fun here => ?_, fun here => ?_⟩, fun here => ?_⟩
      · exact absurd (octets e here) (by simp [noName])
      · exact absurd (gaps e (List.mem_append_left _ here)) (by simp [noGap])
      · exact absurd (printed e here) (by simp [noValue])
      · exact absurd (gaps e (List.mem_append_right _ here)) (by simp [noGap])
    refine ⟨⟨ends _ ?_ ?_ ?_ ?_, ends _ ?_ ?_ ?_ ?_⟩, by simp⟩ <;> decide +kernel

/-- Headers as lines, up to an empty one. -/
inductive HeaderLines : List (String × Bytes) → Bytes → Prop
  | none : HeaderLines [] crlf
  | one {header : String × Bytes} {line : Bytes} {headers : List (String × Bytes)} {lines : Bytes}
      (first : HeaderLine header line) (more : HeaderLines headers lines) :
      HeaderLines (header :: headers) (line ++ crlf ++ lines)

theorem readHeaders_of_none {bs : Bytes} (h : line? bs = none) :
    readHeaders bs = .error .cut := by
  rw [readHeaders]
  split
  · rfl
  · rename_i e
    exact absurd (h.symm.trans e) (by simp)
  · rename_i e
    exact absurd (h.symm.trans e) (by simp)

theorem readHeaders_of_empty {bs rest : Bytes} (h : line? bs = some ([], rest)) :
    readHeaders bs = .ok ([], rest) := by
  rw [readHeaders]
  split
  · rename_i e
    exact absurd (h.symm.trans e) (by simp)
  · rename_i e
    obtain ⟨-, rfl⟩ := Prod.mk.inj (Option.some.inj (h.symm.trans e))
    rfl
  · rename_i e
    exact absurd (h.symm.trans e) (by simp)

theorem readHeaders_of_line {bs l rest : Bytes} {header : String × Bytes}
    (h : line? bs = some (l, rest)) (given : l ≠ []) (one : readHeader l = .ok header) :
    readHeaders bs = (fun more => (header :: more.1, more.2)) <$> readHeaders rest := by
  rw [readHeaders]
  split
  · rename_i e
    exact absurd (h.symm.trans e) (by simp)
  · rename_i e
    obtain ⟨none, -⟩ := Prod.mk.inj (Option.some.inj (h.symm.trans e))
    exact absurd none given
  · rename_i e
    obtain ⟨rfl, rfl⟩ := Prod.mk.inj (Option.some.inj (h.symm.trans e))
    rw [one]
    cases readHeaders rest with
    | error fault => rfl
    | ok more => rfl

theorem HeaderLines.read {headers : List (String × Bytes)} {lines : Bytes}
    (h : HeaderLines headers lines) (behind : Bytes) :
    readHeaders (lines ++ behind) = .ok (headers, behind) := by
  induction h with
  | none => exact readHeaders_of_empty rfl
  | @one header line headers lines first more ih =>
    obtain ⟨plain, given⟩ := oneLine_headerLine first
    have line : line? (line ++ crlf ++ lines ++ behind) = some (line, lines ++ behind) := by
      rw [List.append_assoc]
      exact line?_written plain _
    rw [readHeaders_of_line line given (readHeader_written first), ih]
    rfl

/-- Header lines that are cut off: a cut in the first, or behind it. -/
theorem HeaderLines.short {headers : List (String × Bytes)} {lines : Bytes}
    (h : HeaderLines headers lines) : ∀ p, Short p lines → readHeaders p = .error .cut := by
  induction h with
  | none =>
    intro p short
    exact readHeaders_of_none (line?_short (l := []) ⟨by simp, by simp⟩ short)
  | @one header line headers lines first more ih =>
    intro p short
    obtain ⟨plain, given⟩ := oneLine_headerLine first
    rcases short.append with inside | ⟨q, rfl, behind⟩
    · exact readHeaders_of_none (line?_short plain inside)
    · rw [readHeaders_of_line (line?_written plain q) given (readHeader_written first),
        ih q behind]
      rfl

/-! ## 5. Heads -/

/-- A head as it is written. -/
inductive Written : Head → Bytes → Prop
  | mk {minor : Fin 2} {x y z : Fin 10} {reason : Bytes} {headers : List (String × Bytes)}
      {lines : Bytes} (apart : reason = [] ∨ reason.head? = some 0x20) (plain : OneLine reason)
      (rest : HeaderLines headers lines) :
      Written ⟨minor, 100 * x + 10 * y + z, headers⟩
        (opening ++ [digit minor] ++ (statusText x y z reason ++ crlf) ++ lines)

variable {h : Head} {text : Bytes}

/-- **A head is read back,** and what follows it is left over. -/
theorem read_written (written : Written h text) (behind : Bytes) :
    read (text ++ behind) = .ok (h, behind) := by
  cases written with
  | @mk minor x y z reason headers lines apart plain rest =>
    have parts : opening ++ [digit minor] ++ (statusText x y z reason ++ crlf) ++ lines ++ behind =
        opening ++ digit minor :: (statusText x y z reason ++ crlf ++ (lines ++ behind)) := by
      simp
    unfold read
    rw [parts, skipEmpty_opening, readVersion_written]
    simp only [bind, Except.bind]
    rw [line?_written (oneLine_statusText x y z plain)]
    simp only
    rw [readStatus_statusText x y z apart, rest.read]

/-- **A head that is cut off is none,** wherever the cut is. -/
theorem read_short (written : Written h text) {p : Bytes} (short : Short p text) :
    read p = .error .cut := by
  cases written with
  | @mk minor x y z reason headers lines apart plain rest =>
    unfold read
    rw [List.append_assoc] at short
    rcases short.append with version | ⟨q, rfl, behind⟩
    · have early : p <+: opening := by
        rcases version.append with sub | ⟨r, rfl, last⟩
        · exact sub.1
        · exact ⟨[], by rw [last.of_singleton, List.append_nil, List.append_nil]⟩
      rw [readVersion_short early]
      rfl
    · rw [List.append_assoc, skipEmpty_opening]
      simp only [List.singleton_append]
      rw [readVersion_written]
      simp only [bind, Except.bind]
      rcases behind.append with status | ⟨r, rfl, late⟩
      · rw [line?_short (oneLine_statusText x y z plain) status]
      · rw [line?_written (oneLine_statusText x y z plain)]
        simp only
        rw [readStatus_statusText x y z apart, rest.short r late]

theorem read_nil : read [] = .error .cut := by
  unfold read
  rw [readVersion_short List.nil_prefix]
  rfl

end Head

end PinnedFetch.Http
