/-
# Quoted text

A text in double quotes, with every character that would not be seen, or would be mistaken,
written as an escape: a backslash with `0`, `t`, `n`, `r`, a backslash or a quote behind it, or
`u` and the code point in hexadecimal between braces.  `decode` undoes the escapes
(`decode_encode`), so two texts with one quoted form are equal (`quote_inj`).
-/
import PinnedFetch.Text.Blank
import PinnedFetch.Text.Hex
import PinnedFetch.Text.Unprintable

namespace PinnedFetch.Text.Quoted

/-! ## 1. Writing -/

/-- Whether a character stands for itself: it is printable and does not join its neighbour. -/
def isShown (c : Char) : Bool :=
  (' ' ≤ c && c ≤ '~') || !(inRanges unprintableRanges c || inRanges extendingRanges c)

/-- The escape by code point. -/
def codePoint (c : Char) : List Char :=
  '\\' :: 'u' :: '\x7b' :: (Nat.toDigits 16 c.toNat ++ ['\x7d'])

/-- A character as it is written between the quotes. -/
def escape (c : Char) : List Char :=
  if c = '\x00' then ['\\', '0']
  else if c = '\t' then ['\\', 't']
  else if c = '\r' then ['\\', 'r']
  else if c = '\n' then ['\\', 'n']
  else if c = '\\' then ['\\', '\\']
  else if c = '"' then ['\\', '"']
  else if isShown c then [c]
  else codePoint c

/-- The text between the quotes. -/
def encode (cs : List Char) : List Char := cs.flatMap escape

/-- A text in quotes. -/
def quote (s : String) : String := String.ofList ('"' :: (encode s.toList ++ ['"']))

/-- A list of quoted texts in brackets. -/
def quoteList (ss : List String) : String :=
  "[" ++ String.intercalate ", " (ss.map quote) ++ "]"

/-! ## 2. Reading -/

/-- The character of an escape of one letter. -/
def short? (c : Char) : Option Char :=
  if c = '0' then some '\x00'
  else if c = 't' then some '\t'
  else if c = 'r' then some '\r'
  else if c = 'n' then some '\n'
  else if c = '\\' then some '\\'
  else if c = '"' then some '"'
  else none

/-- Reads on; with `some n`, from inside the braces of a code point whose digits so far spell
`n`. -/
def readFrom : Option Nat → List Char → Option (List Char)
  | none, [] => some []
  | some _, [] => none
  | none, '\\' :: 'u' :: '\x7b' :: cs => readFrom (some 0) cs
  | none, '\\' :: c :: cs =>
    match short? c with
    | some d => (readFrom none cs).map (d :: ·)
    | none => none
  | none, c :: cs => if c = '\\' ∨ c = '"' then none else (readFrom none cs).map (c :: ·)
  | some n, c :: cs =>
    if c = '\x7d' then (readFrom none cs).map (Char.ofNat n :: ·)
    else match Hex.value? c with
      | some d => readFrom (some (16 * n + d)) cs
      | none => none

/-- The text that an escaped text stands for. -/
def decode (cs : List Char) : Option (List Char) := readFrom none cs

/-- The text inside a pair of quotes. -/
def unquote (s : String) : Option String :=
  match s.toList with
  | '"' :: cs =>
    if cs.getLast? = some '"' then (decode cs.dropLast).map String.ofList else none
  | _ => none

/-! ## 3. Reading what was written -/

theorem digit_ne_brace {n : Nat} (h : n < 16) : Nat.digitChar n ≠ '\x7d' := by
  have key : ∀ k : Fin 16, Nat.digitChar k ≠ '\x7d' := by decide
  exact key ⟨n, h⟩

theorem readFrom_digit {n d : Nat} (h : d < 16) (cs : List Char) :
    readFrom (some n) (Nat.digitChar d :: cs) = readFrom (some (16 * n + d)) cs := by
  have value : Hex.value? (Nat.digitChar d) = some d := Hex.value?_digit h
  simp [readFrom, digit_ne_brace h, value]

theorem readFrom_toDigits (n : Nat) (cs : List Char) :
    readFrom (some 0) (Nat.toDigits 16 n ++ cs) = readFrom (some n) cs := by
  induction n using Nat.strongRecOn generalizing cs with
  | _ n ih =>
    by_cases h : n < 16
    · rw [Nat.toDigits_of_lt_base h]
      simpa using readFrom_digit (n := 0) h cs
    · have hlt : n / 16 < n := by omega
      have hmod : n % 16 < 16 := Nat.mod_lt _ (by decide)
      have hsplit : Nat.toDigits 16 n = Nat.toDigits 16 (n / 16) ++ [Nat.digitChar (n % 16)] := by
        rw [Nat.toDigits_eq_if (by decide), if_neg h]
      rw [hsplit, List.append_assoc, ih _ hlt, List.singleton_append, readFrom_digit hmod,
        Nat.div_add_mod]

theorem readFrom_escape (c : Char) (cs : List Char) :
    readFrom none (escape c ++ cs) = (readFrom none cs).map (c :: ·) := by
  unfold escape
  split
  · next h => subst h; rfl
  split
  · next h => subst h; rfl
  split
  · next h => subst h; rfl
  split
  · next h => subst h; rfl
  split
  · next h => subst h; rfl
  split
  · next h => subst h; rfl
  next hslash hquote =>
  split
  · simp [readFrom, hslash, hquote]
  · have hu := readFrom_toDigits c.toNat ('\x7d' :: cs)
    simp only [codePoint, List.cons_append, List.append_assoc, List.nil_append, readFrom] at hu ⊢
    rw [hu]
    simp [Char.ofNat_toNat]

/-- **What was written is read back.** -/
theorem decode_encode (cs : List Char) : decode (encode cs) = some cs := by
  induction cs with
  | nil => rfl
  | cons c cs ih =>
    have step : decode (escape c ++ encode cs) = (decode (encode cs)).map (c :: ·) :=
      readFrom_escape c (encode cs)
    rw [ih] at step
    simpa [encode] using step

/-- A text is read back from its quoted form. -/
theorem unquote_quote (s : String) : unquote (quote s) = some s := by
  simp [unquote, quote, decode_encode]

/-- Two texts with one quoted form are equal. -/
theorem quote_inj {s t : String} (h : quote s = quote t) : s = t := by
  have := congrArg unquote h
  rwa [unquote_quote, unquote_quote, Option.some.injEq] at this

end PinnedFetch.Text.Quoted
