/-
# What a version query answers

Whatever running the artefact gives, the query answers in one of six ways, and which one it is can
be said without the functions that the query is made of (`Answered`): by the status of the command,
by the first fault of its output as text, by the spaces in that text.

`answered_iff` says that this is what is answered, so the six exclude each other and leave nothing
out.  It is put together from what each part of a query comes to: the reader of UTF-8
(`decode_eq_ok_iff`, `decode_eq_error_iff`), the cut at the spaces
(`secondField?_eq_some_iff_between`) and the trimming (`trims_iff`).
-/
import PinnedFetch.Proofs.IllFormed
import PinnedFetch.Proofs.VersionToken
import PinnedFetch.Run

namespace PinnedFetch

/-! ## 1. The field between two separators -/

namespace Text

/-- The field stands between the first separator and the second one, or the end. -/
def Between (sep : Char) (cs field : List Char) : Prop :=
  ∃ front tail, cs = front ++ sep :: (field ++ tail) ∧ sep ∉ front ∧ sep ∉ field ∧
    (tail = [] ∨ tail.head? = some sep)

theorem firstField_eq_iff {sep : Char} {cs field : List Char} :
    firstField sep cs = field ↔
      sep ∉ field ∧ ∃ tail, cs = field ++ tail ∧ (tail = [] ∨ tail.head? = some sep) := by
  constructor
  · rintro rfl
    refine ⟨sep_not_mem_firstField sep cs, cs.dropWhile (· != sep), ?_, ?_⟩
    · exact List.takeWhile_append_dropWhile.symm
    · cases rest : cs.dropWhile (· != sep) with
      | nil => exact Or.inl rfl
      | cons c more =>
        have stops := List.head?_dropWhile_not (· != sep) cs
        rw [rest] at stops
        simp only [List.head?_cons, bne_eq_false_iff_eq] at stops
        exact Or.inr (congrArg some stops)
  · rintro ⟨solid, tail, rfl, ends⟩
    have inside : ∀ c ∈ field, (c != sep) = true :=
      fun c hc => bne_iff_ne.mpr fun e => solid (e ▸ hc)
    rw [firstField, List.takeWhile_append_of_pos inside]
    have stops : tail.takeWhile (· != sep) = [] := firstField_eq_nil_iff.mpr ends
    rw [stops, List.append_nil]

theorem secondField?_eq_some_iff_between {sep : Char} {cs field : List Char} :
    secondField? sep cs = some field ↔ Between sep cs field := by
  rw [secondField?_eq_some_iff]
  constructor
  · rintro ⟨front, rest, before, rfl, first⟩
    obtain ⟨solid, tail, rfl, ends⟩ := firstField_eq_iff.mp first
    exact ⟨front, tail, rfl, before, solid, ends⟩
  · rintro ⟨front, tail, rfl, before, solid, ends⟩
    exact ⟨front, field ++ tail, before, rfl, firstField_eq_iff.mpr ⟨solid, tail, rfl, ends⟩⟩

/-- There is a second field where there is a separator. -/
theorem secondField?_eq_none_iff {sep : Char} {cs : List Char} :
    secondField? sep cs = none ↔ sep ∉ cs := by
  constructor
  · intro none there
    obtain ⟨front, rest, rfl, before⟩ := List.eq_append_cons_of_mem there
    rw [secondField?_append_sep before] at none
    exact absurd none (by simp)
  · exact secondField?_of_not_mem

/-! ## 2. What is left of a text when its ends are trimmed -/

/-- Blanks stand before and behind what is left, which itself has none at either end. -/
structure Trims (cs left : List Char) : Prop where
  cut : ∃ before behind, cs = before ++ left ++ behind ∧ (∀ c ∈ before, isBlank c = true) ∧
    ∀ c ∈ behind, isBlank c = true
  head : ∀ c, left.head? = some c → isBlank c = false
  last : ∀ c, left.getLast? = some c → isBlank c = false

theorem trims_trim (cs : List Char) : Trims cs (trim cs) where
  cut := by
    refine ⟨cs.takeWhile isBlank, (trimStart cs).rtakeWhile isBlank, ?_, ?_, ?_⟩
    · have behind : trim cs ++ (trimStart cs).rtakeWhile isBlank = trimStart cs :=
        List.rdropWhile_append_rtakeWhile
      rw [List.append_assoc, behind]
      exact List.takeWhile_append_dropWhile.symm
    · intro c hc
      exact List.mem_takeWhile_imp hc
    · intro c hc
      exact List.mem_rtakeWhile_imp hc
  head c hc := by
    obtain ⟨behind, whole⟩ : trim cs <+: trimStart cs := List.rdropWhile_prefix isBlank _
    have start : (trimStart cs).head? = some c := by
      rw [← whole, List.head?_append, hc]
      rfl
    exact isBlank_head_trimStart start
  last c hc := isBlank_getLast_trimEnd hc

theorem trimStart_append {before : List Char} (blank : ∀ c ∈ before, isBlank c = true)
    (cs : List Char) : trimStart (before ++ cs) = trimStart cs :=
  List.dropWhile_append_of_pos blank

theorem trimEnd_append {behind : List Char} (blank : ∀ c ∈ behind, isBlank c = true)
    (cs : List Char) : trimEnd (cs ++ behind) = trimEnd cs := by
  have blank' : ∀ c ∈ behind.reverse, isBlank c = true :=
    fun c hc => blank c (List.mem_reverse.mp hc)
  rw [trimEnd, List.reverse_append, List.dropWhile_append_of_pos blank']
  rfl

/-- **Trimming leaves what is without blanks at its ends, and nothing else.** -/
theorem trims_iff {cs left : List Char} : Trims cs left ↔ trim cs = left := by
  constructor
  · rintro ⟨⟨before, behind, rfl, blank, blank'⟩, head, last⟩
    rw [trim, List.append_assoc, trimStart_append blank]
    cases left with
    | nil =>
      have all := trimStart_append blank' []
      rw [List.append_nil] at all
      rw [List.nil_append, all]
      rfl
    | cons c left =>
      have start : trimStart (c :: left ++ behind) = c :: left ++ behind :=
        trimStart_eq_self_iff.mpr head
      rw [start, trimEnd_append blank']
      exact trimEnd_eq_self_iff.mpr last
  · rintro rfl
    exact trims_trim cs

end Text

/-! ## 3. The six answers -/

namespace Version

/-- What is answered for the artefact at `path`, by what running it gave. -/
inductive Answered (path : String) : CommandResult → Except Failure String → Prop
  /-- The command could not be run.  Its failure is handed on as it is. -/
  | notRun (cause : Failure) : Answered path (.error cause) (.error cause)
  /-- The command ran and did not succeed, whatever it printed. -/
  | ended {o : CommandOutput} (failed : o.status.word ≠ 0) :
      Answered path (.ok o) (.error (.version path ("exited with " ++ o.status.describe)))
  /-- The output ends within a character. -/
  | cutOff {o : CommandOutput} {i : Nat} (done : o.status.word = 0)
      (fault : Utf8.FirstFault o.stdout ⟨i, none⟩) :
      Answered path (.ok o) (.error (.version path
        ("output is not UTF-8: " ++ s!"incomplete utf-8 byte sequence from index {i}")))
  /-- The output has octets in it that make no character. -/
  | notText {o : CommandOutput} {i n : Nat} (done : o.status.word = 0)
      (fault : Utf8.FirstFault o.stdout ⟨i, some n⟩) :
      Answered path (.ok o) (.error (.version path
        ("output is not UTF-8: " ++ s!"invalid utf-8 sequence of {n} bytes from index {i}")))
  /-- The output is a text without a space. -/
  | oneField {o : CommandOutput} {text : String} (done : o.status.word = 0)
      (octets : o.stdout = Bytes.ofText text) (solid : ' ' ∉ text.toList) :
      Answered path (.ok o) (.error (.version path
        ("no version token in " ++ Text.Quoted.quote (String.ofList (Text.trimEnd text.toList)))))
  /-- The output is a text with a second field, which is the version once it is trimmed. -/
  | reported {o : CommandOutput} {text version : String} {field : List Char}
      (done : o.status.word = 0) (octets : o.stdout = Bytes.ofText text)
      (second : Text.Between ' ' text.toList field) (trimmed : Text.Trims field version.toList) :
      Answered path (.ok o) (.ok version)

section Answers

variable {path : String} {o : CommandOutput}

theorem isSuccess_of_done (done : o.status.word = 0) : o.status.isSuccess = true :=
  decide_eq_true done

theorem ofResult_of_failed (failed : o.status.word ≠ 0) :
    ofResult path (.ok o) = .error (.version path ("exited with " ++ o.status.describe)) := by
  have unsuccessful : o.status.isSuccess = false := decide_eq_false failed
  rw [ofResult, ofOutput, unsuccessful]
  rfl

theorem ofResult_of_fault {fault : Utf8.IllFormed} (done : o.status.word = 0)
    (first : Utf8.FirstFault o.stdout fault) :
    ofResult path (.ok o) =
      .error (.version path ("output is not UTF-8: " ++ fault.message)) := by
  rw [ofResult, ofOutput, isSuccess_of_done done, Utf8.decode_eq_error_iff.mpr first]
  rfl

/-- Of an output that is a text, the second field decides. -/
theorem ofResult_of_text {text : String} (done : o.status.word = 0)
    (octets : o.stdout = Bytes.ofText text) :
    ofResult path (.ok o) = match Text.secondField? ' ' text.toList with
      | some field => .ok (String.ofList (Text.trim field))
      | none => .error (.version path ("no version token in " ++
          Text.Quoted.quote (String.ofList (Text.trimEnd text.toList)))) := by
  rw [ofResult, ofOutput, isSuccess_of_done done, octets, Utf8.decode_ofText]
  simp only [if_true, token?]
  cases Text.secondField? ' ' text.toList with
  | none => rfl
  | some field => rfl

end Answers

/-- Every result of a command is answered in one of the six ways. -/
theorem answered_ofResult (path : String) (result : CommandResult) :
    Answered path result (ofResult path result) := by
  cases result with
  | error cause => exact .notRun cause
  | ok o =>
    rcases Decidable.em (o.status.word = 0) with done | failed
    · cases read : Utf8.decode o.stdout with
      | error fault =>
        have first := Utf8.decode_eq_error_iff.mp read
        rw [ofResult_of_fault done first]
        obtain ⟨i, length⟩ := fault
        cases length with
        | none => exact .cutOff done first
        | some n => exact .notText done first
      | ok cs =>
        have octets : o.stdout = Bytes.ofText (String.ofList cs) := by
          rw [Utf8.ofText_ofList]
          exact Utf8.decode_eq_ok_iff.mp read
        rw [ofResult_of_text done octets]
        cases cut : Text.secondField? ' ' (String.ofList cs).toList with
        | none => exact .oneField done octets (Text.secondField?_eq_none_iff.mp cut)
        | some field =>
          refine .reported done octets (Text.secondField?_eq_some_iff_between.mp cut) ?_
          rw [String.toList_ofList]
          exact Text.trims_trim field
    · rw [ofResult_of_failed failed]
      exact .ended failed

/-- No result is answered in two ways. -/
theorem Answered.ofResult_eq {path : String} {result : CommandResult}
    {answer : Except Failure String} (h : Answered path result answer) :
    ofResult path result = answer := by
  cases h with
  | notRun cause => rfl
  | ended failed => exact ofResult_of_failed failed
  | cutOff done fault => exact ofResult_of_fault done fault
  | notText done fault => exact ofResult_of_fault done fault
  | oneField done octets solid =>
    rw [ofResult_of_text done octets, Text.secondField?_eq_none_iff.mpr solid]
  | reported done octets second trimmed =>
    rw [ofResult_of_text done octets, Text.secondField?_eq_some_iff_between.mpr second]
    simp only [Text.trims_iff.mp trimmed, String.ofList_toList]

/-- **What a query answers, by what running the artefact gave.** -/
theorem answered_iff {path : String} {result : CommandResult} {answer : Except Failure String} :
    Answered path result answer ↔ ofResult path result = answer := by
  constructor
  · exact Answered.ofResult_eq
  · rintro rfl
    exact answered_ofResult path result

/-- A version that was reported has no space in it, and no blank at either end. -/
theorem Answered.plain {path version : String} {result : CommandResult}
    (h : Answered path result (.ok version)) :
    ' ' ∉ version.toList ∧ Text.trim version.toList = version.toList := by
  cases h with
  | reported done octets second trimmed =>
    obtain ⟨front, tail, -, -, solid, -⟩ := second
    obtain ⟨⟨before, behind, rfl, -, -⟩, head, last⟩ := trimmed
    refine ⟨?_, Text.trim_eq_self_iff.mpr ⟨head, last⟩⟩
    intro space
    exact solid (List.mem_append_left behind (List.mem_append_right before space))

/-- A version is reported when the command succeeds and prints a text with a space in it. -/
theorem exists_answered_ok_iff {path : String} {result : CommandResult} :
    (∃ version, Answered path result (.ok version)) ↔
      ∃ o text, result = .ok o ∧ o.status.word = 0 ∧ o.stdout = Bytes.ofText text ∧
        ' ' ∈ text.toList := by
  constructor
  · rintro ⟨version, h⟩
    cases h with
    | reported done octets second trimmed =>
      obtain ⟨front, tail, cut, -⟩ := second
      refine ⟨_, _, rfl, done, octets, ?_⟩
      rw [cut]
      exact List.mem_append_right front List.mem_cons_self
  · rintro ⟨o, text, rfl, done, octets, space⟩
    cases cut : Text.secondField? ' ' text.toList with
    | none => exact absurd space (Text.secondField?_eq_none_iff.mp cut)
    | some field =>
      refine ⟨String.ofList (Text.trim field), answered_iff.mpr ?_⟩
      rw [ofResult_of_text done octets, cut]

theorem ofResult_stderr (path : String) (o : CommandOutput) (stderr : Bytes) :
    ofResult path (.ok { o with stderr := stderr }) = ofResult path (.ok o) := rfl

end Version

/-! ## 4. The query -/

namespace Run

/-- **A query classifies what running the artefact gave.**  The answer is the one of the six that
the result calls for.  It is a version exactly when the command succeeded and printed a text with a
space in it, and then the version has no space in it and no blank at either end.  What the command
wrote to its error stream is never looked at. -/
theorem askVersion_classifies {σ : Type} (h : Collaborators) (path : String) (s : Scene σ) :
    let result := h.run ⟨path, ["--version"]⟩
    let answer := (askVersion h path s).1
    (∀ other, Version.Answered path result other ↔ answer = other) ∧
      ((∃ version, answer = .ok version) ↔
        ∃ o text, result = .ok o ∧ o.status.word = 0 ∧ o.stdout = Bytes.ofText text ∧
          ' ' ∈ text.toList) ∧
      (∀ version, answer = .ok version →
        ' ' ∉ version.toList ∧ Text.trim version.toList = version.toList) ∧
      ∀ (o : CommandOutput) (stderr : Bytes) (h' : Collaborators), result = .ok o →
        h'.run ⟨path, ["--version"]⟩ = .ok { o with stderr := stderr } →
        (askVersion h' path s).1 = answer := by
  intro result answer
  have classified : ∀ other, Version.Answered path result other ↔ answer = other := by
    intro other
    exact Version.answered_iff
  refine ⟨classified, ?_, ?_, ?_⟩
  · have versions : (∃ version, answer = .ok version) ↔
        ∃ version, Version.Answered path result (.ok version) :=
      exists_congr fun version => (classified (.ok version)).symm
    exact versions.trans Version.exists_answered_ok_iff
  · intro version reported
    exact ((classified (.ok version)).mpr reported).plain
  · intro o stderr h' ran ran'
    have answers : answer = Version.ofResult path (.ok o) := congrArg (Version.ofResult path) ran
    have answers' : (askVersion h' path s).1 =
        Version.ofResult path (.ok { o with stderr := stderr }) :=
      congrArg (Version.ofResult path) ran'
    rw [answers, answers', Version.ofResult_stderr]

/-- A word whose low sixteen bits are clear reads as exit code 0 and is no success. -/
example (out err : Bytes) :
    Version.ofOutput ⟨⟨0x10000⟩, out, err⟩ = .error (.ended ⟨0x10000⟩) ∧
      (VersionFault.ended ⟨0x10000⟩).reason = "exited with exit status: 0" := ⟨rfl, rfl⟩

end Run

end PinnedFetch
