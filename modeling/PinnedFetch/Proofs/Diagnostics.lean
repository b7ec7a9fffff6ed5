/-
# What the reason of a failed version query shows

An artefact prints what it likes, and part of that comes back in the reason for which its version is
not known, on the way to somebody's terminal.  Two things are asked of the reason.

* Nothing in it acts on the terminal: it has no control character (`tame_reason`).  The library's
  own words have none, numbers are digits, and what the artefact printed is quoted: of a character,
  its escape is shown, and a character that is shown as it is has a shape
  (`not_isControl_of_isShown`).
* Nothing of the output is lost but the blanks at its end: the escapes can be undone
  (`Text.Quoted.unquote_quote`), so two outputs that differ before those blanks differ in the reason
  (`noToken_reason_inj`).
-/
import PinnedFetch.Proofs.VersionQuery

namespace PinnedFetch

/-! ## 1. Texts without control characters -/

namespace Text

/-- The control characters, which are the general category Cc. -/
def IsControl (c : Char) : Prop := c.toNat ≤ 0x1F ∨ (0x7F ≤ c.toNat ∧ c.toNat ≤ 0x9F)

instance : DecidablePred IsControl := fun _ => inferInstanceAs (Decidable (_ ∨ _))

/-- A text without control characters. -/
def Tame (s : String) : Prop := ∀ c ∈ s.toList, ¬ IsControl c

instance : DecidablePred Tame := fun s => List.decidableBAll (fun c => ¬ IsControl c) s.toList

theorem tame_append {s t : String} : Tame (s ++ t) ↔ Tame s ∧ Tame t := by
  unfold Tame
  rw [String.toList_append, List.forall_mem_append]

theorem tame_ofList {cs : List Char} : Tame (String.ofList cs) ↔ ∀ c ∈ cs, ¬ IsControl c := by
  rw [Tame, String.toList_ofList]

/-! ## 2. Numbers -/

theorem not_isControl_digitChar {d : Nat} (h : d < 16) : ¬ IsControl (Nat.digitChar d) := by
  have key : ∀ k : Fin 16, ¬ IsControl (Nat.digitChar k) := by decide
  exact key ⟨d, h⟩

/-- The digits of a number, in a base up to sixteen. -/
theorem not_isControl_of_mem_toDigits {b n : Nat} (base : 1 < b) (small : b ≤ 16) {c : Char}
    (h : c ∈ Nat.toDigits b n) : ¬ IsControl c := by
  induction n using Nat.strongRecOn with
  | _ n ih =>
    rw [Nat.toDigits_eq_if base] at h
    split at h
    · rename_i one
      rw [List.mem_singleton.mp h]
      exact not_isControl_digitChar (Nat.lt_of_lt_of_le one small)
    · rename_i more
      rcases List.mem_append.mp h with front | last
      · have less : n / b < n := Nat.div_lt_self (by omega) base
        exact ih (n / b) less front
      · rw [List.mem_singleton.mp last]
        have digit : n % b < b := Nat.mod_lt n (by omega)
        exact not_isControl_digitChar (Nat.lt_of_lt_of_le digit small)

theorem tame_nat (n : Nat) : Tame (toString n) := by
  rw [Nat.toString_eq_ofList_toDigits, tame_ofList]
  intro c hc
  exact not_isControl_of_mem_toDigits (by decide) (by decide) hc

theorem tame_int (n : Int) : Tame (toString n) := by
  cases n with
  | ofNat m => exact tame_nat m
  | negSucc m => exact tame_append.mpr ⟨by decide, tame_nat (m + 1)⟩

/-! ## 3. Quoted text -/

namespace Quoted

/-- A character that is shown as it is has a shape. -/
theorem not_isControl_of_isShown {c : Char} (h : isShown c = true) : ¬ IsControl c := by
  have nat_le : ∀ {a b : Char}, a ≤ b → a.toNat ≤ b.toNat := fun h => h
  unfold isShown at h
  rw [Bool.or_eq_true, Bool.and_eq_true, decide_eq_true_eq, decide_eq_true_eq] at h
  rcases h with ⟨low, high⟩ | shaped
  · replace low : 0x20 ≤ c.toNat := nat_le low
    replace high : c.toNat ≤ 0x7E := nat_le high
    unfold IsControl
    omega
  · rintro (low | ⟨low, high⟩)
    · have unseen : inRanges unprintableRanges c = true := by
        refine List.any_eq_true.mpr ⟨(0x0000, 0x001F), ?_, ?_⟩
        · exact List.mem_cons_self
        · simpa using low
      simp [unseen] at shaped
    · have unseen : inRanges unprintableRanges c = true := by
        refine List.any_eq_true.mpr ⟨(0x007F, 0x00A0), ?_, ?_⟩
        · exact List.mem_cons_of_mem _ List.mem_cons_self
        · simp only [Bool.and_eq_true, decide_eq_true_eq]
          omega
      simp [unseen] at shaped

/-- **No character's escape has a control character in it.** -/
theorem not_isControl_of_mem_escape {c d : Char} (h : d ∈ escape c) : ¬ IsControl d := by
  have pair {e : Char} (plain : ¬ IsControl e) : d ∈ ['\\', e] → ¬ IsControl d := by
    intro hd
    rcases List.mem_cons.mp hd with rfl | hd
    · decide
    · rwa [List.mem_singleton.mp hd]
  unfold escape at h
  split at h
  · exact pair (by decide) h
  split at h
  · exact pair (by decide) h
  split at h
  · exact pair (by decide) h
  split at h
  · exact pair (by decide) h
  split at h
  · exact pair (by decide) h
  split at h
  · exact pair (by decide) h
  split at h
  · rename_i shown
    rw [List.mem_singleton.mp h]
    exact not_isControl_of_isShown shown
  · simp only [codePoint, List.mem_cons, List.mem_append, List.not_mem_nil, or_false] at h
    rcases h with rfl | rfl | rfl | digit | rfl
    · decide
    · decide
    · decide
    · exact not_isControl_of_mem_toDigits (by decide) (by decide) digit
    · decide

theorem tame_quote (s : String) : Tame (quote s) := by
  rw [quote, tame_ofList]
  intro d hd
  rcases List.mem_cons.mp hd with rfl | hd
  · decide
  · rcases List.mem_append.mp hd with inside | last
    · obtain ⟨c, -, escaped⟩ := List.mem_flatMap.mp inside
      exact not_isControl_of_mem_escape escaped
    · rw [List.mem_singleton.mp last]
      decide

end Quoted
end Text

/-! ## 4. The reasons -/

open Text (Tame tame_append)

theorem tame_signalText (signal : Nat) : Tame (signalText signal) := by
  unfold signalText
  split
  · rename_i name found
    have named : ∀ p ∈ signalNames, Tame p.2 := by decide
    obtain ⟨front, back, table, -⟩ := List.lookup_eq_some_iff.mp found
    have listed : (signal, name) ∈ signalNames := by
      rw [table]
      exact List.mem_append_right front List.mem_cons_self
    have start : Tame (toString signal ++ " (") :=
      tame_append.mpr ⟨Text.tame_nat signal, by decide⟩
    exact tame_append.mpr ⟨tame_append.mpr ⟨start, named _ listed⟩, by decide⟩
  · exact Text.tame_nat signal

theorem WaitStatus.tame_describe (s : WaitStatus) : Tame s.describe := by
  unfold describe
  split
  · exact tame_append.mpr ⟨by decide, Text.tame_nat _⟩
  · rename_i signal dumped _
    refine tame_append.mpr ⟨tame_append.mpr ⟨by decide, tame_signalText signal⟩, ?_⟩
    cases dumped with
    | true => decide
    | false => decide
  · exact tame_append.mpr ⟨by decide, tame_signalText _⟩
  · decide
  · have words : Tame "unrecognised wait status: " := by decide +kernel
    have number := tame_append.mpr ⟨words, Text.tame_int s.word.toBitVec.toInt⟩
    refine tame_append.mpr ⟨tame_append.mpr ⟨number, by decide⟩, ?_⟩
    · rw [Text.tame_ofList]
      intro c hc
      exact Text.not_isControl_of_mem_toDigits (by decide) (by decide) hc

theorem Utf8.IllFormed.tame_message (fault : Utf8.IllFormed) : Tame fault.message := by
  obtain ⟨index, length⟩ := fault
  cases length with
  | none =>
    have words : Tame "incomplete utf-8 byte sequence from index " := by decide +kernel
    exact tame_append.mpr ⟨words, Text.tame_nat index⟩
  | some n =>
    have words : Tame "invalid utf-8 sequence of " := by decide +kernel
    have more : Tame " bytes from index " := by decide +kernel
    have start : Tame ("invalid utf-8 sequence of " ++ toString n) :=
      tame_append.mpr ⟨words, Text.tame_nat n⟩
    exact tame_append.mpr ⟨tame_append.mpr ⟨start, more⟩, Text.tame_nat index⟩

namespace VersionFault

/-- **No reason has a control character in it**, whatever was printed. -/
theorem tame_reason (fault : VersionFault) : Tame fault.reason := by
  cases fault with
  | ended status =>
    have words : Tame "exited with " := by decide +kernel
    exact tame_append.mpr ⟨words, status.tame_describe⟩
  | notText sequence =>
    have words : Tame "output is not UTF-8: " := by decide +kernel
    exact tame_append.mpr ⟨words, sequence.tame_message⟩
  | noToken output =>
    have words : Tame "no version token in " := by decide +kernel
    exact tame_append.mpr ⟨words, Text.Quoted.tame_quote _⟩

/-- **One reason stands for one output**, but for the blanks at its end. -/
theorem noToken_reason_inj {cs ds : List Char} (h : (noToken cs).reason = (noToken ds).reason) :
    Text.trimEnd cs = Text.trimEnd ds := by
  have quoted : Text.Quoted.quote (String.ofList (Text.trimEnd cs)) =
      Text.Quoted.quote (String.ofList (Text.trimEnd ds)) :=
    (String.append_right_inj "no version token in ").mp h
  exact String.ofList_injective (Text.Quoted.quote_inj quoted)

end VersionFault

namespace Version

/-- The faults of an answer are those of the query itself. -/
theorem exists_fault_of_ofResult {path : String} {o : CommandOutput} {failure : Failure}
    (h : ofResult path (.ok o) = .error failure) :
    ∃ fault : VersionFault, failure = .version path fault.reason := by
  rw [ofResult] at h
  split at h
  · exact absurd h (by simp)
  · rename_i fault _
    exact ⟨fault, (Except.error.inj h).symm⟩

theorem ofResult_of_solid {path text : String} {o : CommandOutput} (done : o.status.word = 0)
    (octets : o.stdout = Bytes.ofText text) (solid : ' ' ∉ text.toList) :
    ofResult path (.ok o) = .error (.version path (VersionFault.noToken text.toList).reason) :=
  (Answered.oneField done octets solid).ofResult_eq

end Version

/-! ## 5. The query -/

namespace Run

/-- **What a query says of a failure is safe to show, and says all.**  When the command ran, a
failure of the query is its own, and the reason has no control character in it, whatever the
artefact printed.  Of an output in one field the reason quotes all but the blanks at its end: they
are what undoing the escapes does not give back, so outputs that differ before them are told
apart. -/
theorem askVersion_diagnoses {σ : Type} (h : Collaborators) (path : String) (s : Scene σ) :
    let result := h.run ⟨path, ["--version"]⟩
    let answer := (askVersion h path s).1
    (∀ o failure, result = .ok o → answer = .error failure →
      ∃ reason, failure = .version path reason ∧ Text.Tame reason) ∧
    (∀ o text, result = .ok o → o.status.word = 0 → o.stdout = Bytes.ofText text →
      ' ' ∉ text.toList →
      ∃ quoted, answer = .error (.version path ("no version token in " ++ quoted)) ∧
        Text.Quoted.unquote quoted = some (String.ofList (Text.trimEnd text.toList))) ∧
    ∀ (h' : Collaborators) (path' : String) (o o' : CommandOutput) (text text' reason : String),
      result = .ok o → o.status.word = 0 → o.stdout = Bytes.ofText text → ' ' ∉ text.toList →
      h'.run ⟨path', ["--version"]⟩ = .ok o' → o'.status.word = 0 →
      o'.stdout = Bytes.ofText text' → ' ' ∉ text'.toList →
      answer = .error (.version path reason) →
      (askVersion h' path' s).1 = .error (.version path' reason) →
      Text.trimEnd text.toList = Text.trimEnd text'.toList := by
  intro result answer
  have of_ran {o : CommandOutput} (ran : result = .ok o) :
      answer = Version.ofResult path (.ok o) := congrArg (Version.ofResult path) ran
  refine ⟨?_, ?_, ?_⟩
  · intro o failure ran failed
    rw [of_ran ran] at failed
    obtain ⟨fault, rfl⟩ := Version.exists_fault_of_ofResult failed
    exact ⟨fault.reason, rfl, fault.tame_reason⟩
  · intro o text ran done octets solid
    refine ⟨Text.Quoted.quote (String.ofList (Text.trimEnd text.toList)), ?_, ?_⟩
    · rw [of_ran ran, Version.ofResult_of_solid done octets solid]
      rfl
    · exact Text.Quoted.unquote_quote _
  · intro h' path' o o' text text' reason ran done octets solid ran' done' octets' solid' told told'
    have answer' : (askVersion h' path' s).1 = Version.ofResult path' (.ok o') :=
      congrArg (Version.ofResult path') ran'
    rw [of_ran ran, Version.ofResult_of_solid done octets solid] at told
    rw [answer', Version.ofResult_of_solid done' octets' solid'] at told'
    injection told with told
    injection told with _ first
    injection told' with told'
    injection told' with _ second
    exact VersionFault.noToken_reason_inj (first.trans second.symm)

/-- A sequence that would colour the terminal is shown as what it is. -/
example : (VersionFault.noToken "waf\x1b[31m\n".toList).reason =
    "no version token in \"waf\\u\x7b1b\x7d[31m\"" := by decide +kernel

end Run

end PinnedFetch
