/-
# Writers

A writer takes octets and says whether it took them all.  A line goes out in two parts, its text
and its end; when the text does not go through, the end is not tried, and the failure is dropped.
`bounded n` takes `n` octets in all and then fails for good.  Any such writer (`Fills`) holds the
first `n` octets of the lines it was given, wherever its end cut one of them (`Fills.held_lines`).
-/
import PinnedFetch.Bytes

namespace PinnedFetch

/-- Something that octets are written to, over states of type `σ`. -/
structure Writer (σ : Type) where
  /-- Takes octets; the flag says whether every octet was taken. -/
  put : σ → Bytes → Bool × σ

namespace Writer

variable {σ : Type}

/-- Writes a line, and lets a failure pass. -/
def line (w : Writer σ) (s : σ) (text : String) : σ :=
  match w.put s (Bytes.ofText text) with
  | (true, s') => (w.put s' [0x0A]).2
  | (false, s') => s'

/-- Writes lines, each whatever became of the one before. -/
def lines (w : Writer σ) (s : σ) (texts : List String) : σ := texts.foldl w.line s

/-- Takes everything and keeps it. -/
def unbounded : Writer Bytes where
  put held bs := (true, held ++ bs)

/-- Keeps the first `n` octets in all. -/
def bounded (n : Nat) : Writer Bytes where
  put held bs := (held.length + bs.length ≤ n, (held ++ bs).take n)

/-- A writer that takes `limit` octets, or everything. -/
def limited : Option Nat → Writer Bytes
  | some n => bounded n
  | none => unbounded

/-! ## What writers hold -/

/-- The octets of lines, each with its end. -/
def lineOctets (texts : List String) : Bytes := texts.flatMap fun t => Bytes.ofText t ++ [0x0A]

theorem line_unbounded (held : Bytes) (t : String) :
    unbounded.line held t = held ++ (Bytes.ofText t ++ [0x0A]) := by
  simp [line, unbounded]

theorem lines_unbounded (held : Bytes) (ts : List String) :
    unbounded.lines held ts = held ++ lineOctets ts := by
  induction ts generalizing held with
  | nil => simp [lines, lineOctets]
  | cons t ts ih =>
    have step := ih (held ++ (Bytes.ofText t ++ [0x0A]))
    simp only [lines, List.foldl_cons, line_unbounded] at step ⊢
    simp [step, lineOctets]

/-- What was cut off cannot come back. -/
theorem take_take_append {α : Type} (n : Nat) (xs ys : List α) :
    (xs.take n ++ ys).take n = (xs ++ ys).take n := by
  simp only [List.take_append, List.take_take, List.length_take, Nat.min_self]
  have room : n - min n xs.length = n - xs.length := by omega
  rw [room]

/-- A writer that takes `n` octets in all and then fails for good; `held` is what it has taken. -/
structure Fills (w : Writer σ) (held : σ → Bytes) (n : Nat) : Prop where
  /-- Of what it is given, it takes as much as there is room for. -/
  held_put : ∀ s bs, held (w.put s bs).2 = (held s ++ bs).take n
  /-- It fails when that is not all. -/
  put_iff : ∀ s bs, (w.put s bs).1 = true ↔ (held s ++ bs).length ≤ n

theorem fills_bounded (n : Nat) : (bounded n).Fills id n where
  held_put _ _ := rfl
  put_iff held bs := by simp [bounded]

section Filling

variable {w : Writer σ} {held : σ → Bytes} {n : Nat}

/-- A line whose text does not fit leaves no room for its end, so it makes no difference that the
end is not tried. -/
theorem Fills.held_line (fills : w.Fills held n) (s : σ) (t : String) :
    held (w.line s t) = (held s ++ (Bytes.ofText t ++ [0x0A])).take n := by
  have text := fills.held_put s (Bytes.ofText t)
  have fits := fills.put_iff s (Bytes.ofText t)
  unfold line
  cases e : w.put s (Bytes.ofText t) with
  | mk took s' =>
    rw [e] at text fits
    cases took with
    | true =>
      rw [← List.append_assoc, ← take_take_append, ← text]
      exact fills.held_put s' [0x0A]
    | false =>
      have full : n ≤ (held s ++ Bytes.ofText t).length := by
        have beyond := mt fits.mpr (by simp)
        omega
      rw [← List.append_assoc, List.take_append_of_le_length full]
      exact text

/-- **A writer with room for `n` octets holds the first `n` octets of the lines,** behind those that
it held before.  The induction is on the lines: a writer that is full is still given the rest. -/
theorem Fills.held_lines (fills : w.Fills held n) (s : σ) (ts : List String)
    (within : (held s).length ≤ n) :
    held (w.lines s ts) = (held s ++ lineOctets ts).take n := by
  induction ts generalizing s with
  | nil => simp [lines, lineOctets, List.take_of_length_le within]
  | cons t ts ih =>
    have line := fills.held_line s t
    have rest := ih (w.line s t) (by rw [line]; exact List.length_take_le _ _)
    rw [line, take_take_append] at rest
    simpa [lines, lineOctets] using rest

end Filling

end Writer
end PinnedFetch
