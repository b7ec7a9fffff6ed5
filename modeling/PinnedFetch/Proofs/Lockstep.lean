/-
# Calls and the script they are judged by

A script foresees calls.  Every call that is made takes the next entry off the script, and it takes
that entry also when another call was foreseen (`left_eq_drop`).  So the call made at some place
meets the entry of the same place and no other (`getElem?_calls`): what came before it, matching or
not, and how much of the script is left behind it make no difference.

`Judged` says in words of its own what becomes of a call that meets an entry, or none.
-/
import PinnedFetch.Replay.Commands

namespace PinnedFetch.Replay

open Text.Quoted (quoteList)

/-! ## 1. One call -/

/-- What a call is answered, by the entry that it meets. -/
inductive Judged (made : Call) : Option Expected → CommandResult → Prop
  /-- It is the call that was foreseen. -/
  | foreseen {e : Expected} (same : e.call = made) : Judged made (some e) e.result
  /-- Another call was foreseen, and both are shown. -/
  | another {e : Expected} (differs : e.call ≠ made) :
      Judged made (some e) (.error (.script
        ("expected " ++ e.call.command ++ " " ++ quoteList e.call.arguments ++
          ", got " ++ made.command ++ " " ++ quoteList made.arguments)))
  /-- The script had ended before. -/
  | surplus :
      Judged made none (.error (.script
        ("unexpected invocation of " ++ made.command ++ " " ++ quoteList made.arguments)))

theorem surplus_eq (made : Call) :
    surplus made = .script
      ("unexpected invocation of " ++ made.command ++ " " ++ quoteList made.arguments) := by
  simp only [surplus, shown, String.append_assoc]

theorem different_eq (foreseen made : Call) :
    different foreseen made = .script
      ("expected " ++ foreseen.command ++ " " ++ quoteList foreseen.arguments ++
        ", got " ++ made.command ++ " " ++ quoteList made.arguments) := by
  simp only [different, shown, String.append_assoc]

theorem judged_iff {made : Call} {entry : Option Expected} {result : CommandResult} :
    Judged made entry result ↔ judge entry made = result := by
  constructor
  · intro h
    cases h with
    | foreseen same => rw [judge, if_pos same]
    | another differs => rw [judge, if_neg differs, different_eq]
    | surplus => rw [judge, surplus_eq]
  · rintro rfl
    cases entry with
    | none =>
      rw [judge, surplus_eq]
      exact .surplus
    | some e =>
      by_cases same : e.call = made
      · rw [judge, if_pos same]
        exact .foreseen same
      · rw [judge, if_neg same, different_eq]
        exact .another same

/-! ## 2. One call after another -/

/-- The script that is left after some calls. -/
def left (script : List Expected) : List Call → List Expected
  | [] => script
  | made :: more => left (call script made).2 more

/-- Every call takes one entry, whatever it is answered. -/
theorem left_eq_drop (script : List Expected) (made : List Call) :
    left script made = script.drop made.length := by
  induction made generalizing script with
  | nil => rfl
  | cons c made ih => rw [left, call_snd, ih, List.drop_tail, List.length_cons]

theorem left_take {made : List Call} {k : Nat} (within : k ≤ made.length)
    (script : List Expected) : left script (made.take k) = script.drop k := by
  rw [left_eq_drop, List.length_take_of_le within]

theorem isFinished_drop_iff (script : List Expected) (k : Nat) :
    isFinished (script.drop k) = true ↔ script.length ≤ k := by
  rw [isFinished, List.isEmpty_iff, List.drop_eq_nil_iff]

theorem length_calls (script : List Expected) (made : List Call) :
    (calls script made).length = made.length := by
  induction made generalizing script with
  | nil => rfl
  | cons c made ih => rw [calls, List.length_cons, List.length_cons, ih]

/-- **The call at a place meets the entry at that place,** and leaves those behind it. -/
theorem getElem?_calls (script : List Expected) (made : List Call) (i : Nat) :
    (calls script made)[i]? =
      made[i]?.map fun c => (judge script[i]? c, script.drop (i + 1)) := by
  induction made generalizing script i with
  | nil => rfl
  | cons c made ih =>
    cases i with
    | zero =>
      rw [calls, call, List.getElem?_cons_zero, List.getElem?_cons_zero, Option.map_some,
        List.head?_eq_getElem?, List.drop_one]
    | succ i =>
      rw [calls, List.getElem?_cons_succ, List.getElem?_cons_succ, call_snd, ih,
        List.getElem?_tail, List.drop_tail]

/-- **A script is replayed in lockstep.**

* Every call is answered, once.
* The call at a place is answered by the entry of the script at the same place alone.  It gets the
  result of that entry if it is the call foreseen there, else a complaint that shows both; past the
  end of the script the complaint is about the call itself.
* With another call at some place, matching or not, all the other places are answered as before.
* After some calls the script is left without its first entries, one for each call.  It is finished
  once as many calls were made as it has entries, and not before. -/
theorem calls_lockstep (script : List Expected) (made : List Call) :
    (calls script made).length = made.length ∧
    (∀ i c, made[i]? = some c → ∀ result rest,
      (calls script made)[i]? = some (result, rest) ↔
        Judged c script[i]? result ∧ rest = left script (made.take (i + 1))) ∧
    (∀ i j c, i ≠ j → (calls script (made.set j c))[i]? = (calls script made)[i]?) ∧
    (∀ k, k ≤ made.length → left script (made.take k) = script.drop k ∧
      (isFinished (left script (made.take k)) = true ↔ script.length ≤ k)) := by
  refine ⟨length_calls script made, ?_, ?_, ?_⟩
  · intro i c here result rest
    obtain ⟨within, -⟩ := List.getElem?_eq_some_iff.mp here
    rw [getElem?_calls, here, Option.map_some, judged_iff, left_take within, Option.some.injEq,
      Prod.mk.injEq, eq_comm (a := rest)]
  · intro i j c other
    rw [getElem?_calls, getElem?_calls, List.getElem?_set_ne other.symm]
  · intro k within
    rw [left_take within]
    exact ⟨rfl, isFinished_drop_iff script k⟩

/-- The first call is not the one foreseen; the second one is, and gets its result. -/
example (r s : CommandResult) :
    (calls [⟨⟨"./waf", ["--version"]⟩, r⟩, ⟨⟨"./waf", []⟩, s⟩] [⟨"./waf", []⟩, ⟨"./waf", []⟩]).map
      Prod.fst = [.error (.script "expected ./waf [\"--version\"], got ./waf []"), s] := rfl

end PinnedFetch.Replay
