/-
# The first ill-formed sequence

Octets that are no text are a text as far as it goes, and a rest with which no character begins.
What is wrong with the rest is said without the reader (`FirstFault`):

* if more octets could still make a character of it, the end of the octets has cut it off;
* if not, as much of it is given up as the octets of some character begin with, and one octet at
  the least.

`decode_eq_error_iff` says that this is what the reader reports.  In one direction an induction on
the octets goes through the reader's states, and keeps beside each state the octets that led to it
(`Reads`); in the other, octets have one first fault at most (`FirstFault.unique`), because no
character's octets begin with those of another (`eq_of_front`).
-/
import PinnedFetch.Proofs.Encoding

namespace PinnedFetch.Utf8

/-! ## 1. Where the text ends, and what is given up -/

/-- The octets of some character begin with these. -/
def Begins (bs : Bytes) : Prop := ∃ c, bs <+: String.utf8EncodeChar c

/-- No character stands at the front. -/
def Stuck (rest : Bytes) : Prop := ∀ c, ¬ String.utf8EncodeChar c <+: rest

/-- How much is given up of octets at whose front no character stands. -/
inductive GivenUp (rest : Bytes) : Option Nat → Prop
  /-- More octets could have made a character of them. -/
  | cutOff (begins : Begins rest) : GivenUp rest none
  /-- A character may begin with the first `n` of them, and none with one octet more. -/
  | refused {n : Nat} (positive : 0 < n) (begins : n = 1 ∨ Begins (rest.take n))
      (ends : ¬ Begins (rest.take (n + 1))) : GivenUp rest (some n)

/-- The fault is the first one of the octets: they are a text up to its index, there they are stuck,
and as much is given up as the fault says. -/
def FirstFault (bs : Bytes) (fault : IllFormed) : Prop :=
  ∃ cs rest, bs = encode cs ++ rest ∧ fault.index = (encode cs).length ∧ rest ≠ [] ∧
    Stuck rest ∧ GivenUp rest fault.length

theorem Begins.of_front {as bs : Bytes} (h : Begins bs) (front : as <+: bs) : Begins as := by
  obtain ⟨c, hc⟩ := h
  exact ⟨c, front.trans hc⟩

theorem stuck_nil : Stuck [] := by
  intro c front
  exact String.utf8EncodeChar_ne_nil (List.prefix_nil.mp front)

/-! ## 2. There is one first fault at most -/

theorem scan_utf8EncodeChar_self (c : Char) (i : Nat) :
    scan i none (String.utf8EncodeChar c) = .ok [c] := by
  have h := scan_encode [c] i
  rwa [encode_cons, encode_nil, List.append_nil] at h

/-- No character's octets begin with those of another. -/
theorem eq_of_front {c d : Char} (h : String.utf8EncodeChar c <+: String.utf8EncodeChar d) :
    c = d := by
  obtain ⟨more, octets⟩ := h
  have read := scan_utf8EncodeChar_self d 0
  rw [← octets, scan_utf8EncodeChar] at read
  obtain ⟨cs, same, -⟩ := map_cons_eq_ok read
  exact (List.cons.inj same).1.symm

/-- The text before the place where octets get stuck, and the rest, are settled by the octets. -/
theorem encode_append_inj {cs : List Char} : ∀ {ds : List Char} {as bs : Bytes}, Stuck as →
    Stuck bs → encode cs ++ as = encode ds ++ bs → cs = ds ∧ as = bs := by
  induction cs with
  | nil =>
    intro ds as bs stuck _ same
    cases ds with
    | nil => exact ⟨rfl, same⟩
    | cons d ds =>
      refine absurd ?_ (stuck d)
      rw [encode_nil, List.nil_append, encode_cons, List.append_assoc] at same
      exact ⟨_, same.symm⟩
  | cons c cs ih =>
    intro ds as bs stuck stuck' same
    cases ds with
    | nil =>
      refine absurd ?_ (stuck' c)
      rw [encode_nil, List.nil_append, encode_cons, List.append_assoc] at same
      exact ⟨_, same⟩
    | cons d ds =>
      rw [encode_cons, encode_cons, List.append_assoc, List.append_assoc] at same
      have front : String.utf8EncodeChar c <+:
          String.utf8EncodeChar d ++ (encode ds ++ bs) := ⟨_, same⟩
      obtain rfl : c = d := by
        rcases List.prefix_or_prefix_of_prefix front (List.prefix_append _ _) with h | h
        · exact eq_of_front h
        · exact (eq_of_front h).symm
      obtain ⟨rfl, rfl⟩ := ih stuck stuck' (List.append_cancel_left same)
      exact ⟨rfl, rfl⟩

theorem GivenUp.unique {rest : Bytes} {m n : Option Nat} (hm : GivenUp rest m)
    (hn : GivenUp rest n) : m = n := by
  -- If no character begins with one octet more, none begins with a longer piece.
  have shorter {k l : Nat} (ends : ¬ Begins (rest.take (k + 1))) (positive : 0 < k)
      (begins : l = 1 ∨ Begins (rest.take l)) : l ≤ k := by
    rcases begins with rfl | begins
    · exact positive
    · refine Nat.not_lt.mp ?_
      intro longer
      exact ends (begins.of_front (List.take_prefix_take_left longer))
  cases hm with
  | cutOff begins =>
    cases hn with
    | cutOff _ => rfl
    | refused _ _ ends => exact absurd (begins.of_front (List.take_prefix _ _)) ends
  | refused positive begins ends =>
    cases hn with
    | cutOff begins' => exact absurd (begins'.of_front (List.take_prefix _ _)) ends
    | refused positive' begins' ends' =>
      have le := shorter ends positive begins'
      have ge := shorter ends' positive' begins
      rw [Nat.le_antisymm ge le]

/-- **Octets have one first fault at most.** -/
theorem FirstFault.unique {bs : Bytes} {f g : IllFormed} (hf : FirstFault bs f)
    (hg : FirstFault bs g) : f = g := by
  obtain ⟨cs, as, rfl, index, -, stuck, given⟩ := hf
  obtain ⟨ds, rest, same, index', -, stuck', given'⟩ := hg
  obtain ⟨rfl, rfl⟩ := encode_append_inj stuck stuck' same
  obtain ⟨i, m⟩ := f
  obtain ⟨j, n⟩ := g
  obtain rfl : i = j := index.trans index'.symm
  obtain rfl : m = n := given.unique given'
  rfl

/-- Octets with a fault are no text. -/
theorem FirstFault.ne_encode {bs : Bytes} {f : IllFormed} (hf : FirstFault bs f)
    (cs : List Char) : bs ≠ encode cs := by
  obtain ⟨ds, rest, octets, -, some, stuck, -⟩ := hf
  intro whole
  have same : encode ds ++ rest = encode cs ++ [] := by
    rw [← octets, whole, List.append_nil]
  exact some (encode_append_inj stuck stuck_nil same).2

/-! ## 3. What the reader has taken of a sequence -/

/-- The octets `pre` have brought the reader from between two characters into the sequence `p`. -/
structure Reads (pre : Bytes) (p : Pending) : Prop where
  scan_eq : ∀ i bs, scan i none (pre ++ bs) = scan i (some p) bs
  length_eq : pre.length = p.taken
  taken_pos : 0 < p.taken
  room : p.low ≤ p.high

theorem lead_room {b : UInt8} {p : Pending} (h : lead? b = some p) :
    p.taken = 1 ∧ p.low ≤ p.high := by
  unfold lead? at h
  grind

theorem reads_lead {b : UInt8} {p : Pending} (big : ¬ b < 0x80) (lead : lead? b = some p) :
    Reads [b] p where
  scan_eq i bs := scan_lead big lead i bs
  length_eq := (lead_room lead).1.symm
  taken_pos := by rw [(lead_room lead).1]; exact Nat.one_pos
  room := (lead_room lead).2

theorem Reads.next {pre : Bytes} {p : Pending} {b : UInt8} (r : Reads pre p)
    (within : p.low ≤ b ∧ b ≤ p.high) (owes : p.owed ≠ 0) : Reads (pre ++ [b]) (p.next b) where
  scan_eq i bs := by
    rw [List.append_assoc, r.scan_eq, List.singleton_append, scan, if_pos within, if_neg owes]
  length_eq := by
    rw [List.length_append, r.length_eq]
    rfl
  taken_pos := Nat.succ_pos _
  room := (by decide : (0x80 : UInt8) ≤ 0xBF)

/-- The last octet of a sequence makes a character of it. -/
theorem Reads.last {pre : Bytes} {p : Pending} {b : UInt8} (r : Reads pre p)
    (within : p.low ≤ b ∧ b ≤ p.high) (done : p.owed = 0) :
    String.utf8EncodeChar (Char.ofNat (p.shift b)) = pre ++ [b] := by
  have read : scan 0 none (pre ++ [b]) = .ok [Char.ofNat (p.shift b)] := by
    rw [r.scan_eq, scan, if_pos within, if_pos done]
    rfl
  rw [← encode_of_scan read, encode_cons, encode_nil, List.append_nil]

/-- Any sequence can be read to its end: the induction is on the octets that it owes. -/
theorem exists_scan_eq_ok {n : Nat} : ∀ {p : Pending}, p.owed = n → p.low ≤ p.high →
    ∃ more c, ∀ i, scan i (some p) more = .ok [c] := by
  induction n with
  | zero =>
    intro p done room
    refine ⟨[p.low], Char.ofNat (p.shift p.low), ?_⟩
    intro i
    rw [scan, if_pos ⟨UInt8.le_refl _, room⟩, if_pos done]
    rfl
  | succ n ih =>
    intro p owes room
    obtain ⟨more, c, read⟩ := ih (p.owed_next p.low owes)
      (by decide : (0x80 : UInt8) ≤ 0xBF)
    refine ⟨p.low :: more, c, ?_⟩
    intro i
    rw [scan, if_pos ⟨UInt8.le_refl _, room⟩, if_neg (by omega)]
    exact read i

/-- So the octets read so far begin some character. -/
theorem Reads.begins {pre : Bytes} {p : Pending} (r : Reads pre p) : Begins pre := by
  obtain ⟨more, c, read⟩ := exists_scan_eq_ok rfl r.room
  have octets := encode_of_scan ((r.scan_eq 0 more).trans (read 0))
  rw [encode_cons, encode_nil, List.append_nil] at octets
  exact ⟨c, more, octets.symm⟩

/-! ## 4. What the reader reports -/

theorem map_cons_eq_error {c : Char} {x : Except IllFormed (List Char)} {f : IllFormed}
    (h : (c :: ·) <$> x = .error f) : x = .error f := by
  cases x with
  | error g => exact congrArg Except.error (Except.error.inj h)
  | ok cs => exact absurd h (by simp [Functor.map, Except.map])

/-- A fault is not reported before the place where the reader stands. -/
theorem le_index_of_scan {f : IllFormed} (bs : Bytes) :
    ∀ {i : Nat} {at? : Option Pending}, scan i at? bs = .error f → i ≤ f.index := by
  induction bs with
  | nil =>
    intro i at? h
    cases at? with
    | none => exact absurd h (by simp [scan])
    | some p =>
      obtain rfl := Except.error.inj h
      exact Nat.le_refl i
  | cons b bs ih =>
    intro i at? h
    cases at? with
    | none =>
      rw [scan] at h
      split at h
      · exact Nat.le_of_succ_le (ih (map_cons_eq_error h))
      · split at h
        · exact ih h
        · obtain rfl := Except.error.inj h
          exact Nat.le_refl i
    | some p =>
      rw [scan] at h
      split at h
      · split at h
        · have := ih (map_cons_eq_error h)
          omega
        · exact ih h
      · obtain rfl := Except.error.inj h
        exact Nat.le_refl i

/-- Where the reader finds a fault at once, no character stands. -/
theorem stuck_of_scan {i : Nat} {bs : Bytes} {length : Option Nat}
    (h : scan i none bs = .error ⟨i, length⟩) : Stuck bs := by
  rintro c ⟨more, rfl⟩
  rw [scan_utf8EncodeChar] at h
  have later : i + (String.utf8EncodeChar c).length ≤ i :=
    le_index_of_scan more (map_cons_eq_error h)
  have some : 0 < (String.utf8EncodeChar c).length :=
    List.length_pos_iff.mpr String.utf8EncodeChar_ne_nil
  omega

/-- Octets after which the reader fails, whatever follows, begin no character. -/
theorem not_begins {bs : Bytes} (fails : ∀ more, ∃ f, scan 0 none (bs ++ more) = .error f) :
    ¬ Begins bs := by
  rintro ⟨c, more, octets⟩
  obtain ⟨f, h⟩ := fails more
  rw [octets, scan_utf8EncodeChar_self] at h
  exact absurd h (by simp)

/-- A fault of octets that come after `i` others. -/
def FaultAfter (i : Nat) (bs : Bytes) (fault : IllFormed) : Prop :=
  ∃ j, fault.index = i + j ∧ FirstFault bs ⟨j, fault.length⟩

theorem FaultAfter.cons {i : Nat} {as bs : Bytes} {f : IllFormed} {c : Char}
    (octets : String.utf8EncodeChar c = as) (h : FaultAfter (i + as.length) bs f) :
    FaultAfter i (as ++ bs) f := by
  obtain ⟨j, index, cs, rest, rfl, rfl, more⟩ := h
  subst octets
  refine ⟨(encode (c :: cs)).length, ?_, c :: cs, rest, ?_, rfl, more⟩
  · rw [index, encode_cons, List.length_append, Nat.add_assoc]
  · rw [encode_cons, List.append_assoc]

/-- A fault at the very place where the reader stands. -/
theorem faultAfter_of_stuck {i : Nat} {bs : Bytes} {length : Option Nat} (some : bs ≠ [])
    (h : scan i none bs = .error ⟨i, length⟩) (given : GivenUp bs length) :
    FaultAfter i bs ⟨i, length⟩ :=
  ⟨0, rfl, [], bs, rfl, rfl, some, stuck_of_scan h, given⟩

/-- The octets end within a sequence. -/
theorem Reads.faultAfter_cutOff {pre : Bytes} {p : Pending} (r : Reads pre p) (i : Nat) :
    FaultAfter i pre ⟨i, none⟩ := by
  have some : pre ≠ [] := by
    rintro rfl
    exact absurd r.length_eq (Nat.ne_of_lt r.taken_pos)
  have read : scan i none (pre ++ []) = .error ⟨i, none⟩ := r.scan_eq i []
  rw [List.append_nil] at read
  exact faultAfter_of_stuck some read (.cutOff r.begins)

/-- No character begins with the octet. -/
theorem faultAfter_of_lead {b : UInt8} (big : ¬ b < 0x80) (unled : lead? b = none) (i : Nat)
    (bs : Bytes) : FaultAfter i (b :: bs) ⟨i, some 1⟩ := by
  have read (j : Nat) (more : Bytes) : scan j none (b :: more) = .error ⟨j, some 1⟩ := by
    rw [scan, if_neg big, unled]
  have ends : ¬ Begins [b] := not_begins fun more => ⟨⟨0, some 1⟩, read 0 more⟩
  refine faultAfter_of_stuck (List.cons_ne_nil b bs) (read i bs) ?_
  refine .refused Nat.one_pos (.inl rfl) ?_
  intro begins
  exact ends (begins.of_front ⟨bs.take 1, rfl⟩)

/-- The sequence cannot go on with the octet. -/
theorem Reads.faultAfter_of_outside {pre : Bytes} {p : Pending} {b : UInt8} (r : Reads pre p)
    (outside : ¬ (p.low ≤ b ∧ b ≤ p.high)) (i : Nat) (bs : Bytes) :
    FaultAfter i (pre ++ b :: bs) ⟨i, some p.taken⟩ := by
  have read (j : Nat) (more : Bytes) :
      scan j none (pre ++ b :: more) = .error ⟨j, some p.taken⟩ := by
    rw [r.scan_eq, scan, if_neg outside]
  have ends : ¬ Begins (pre ++ [b]) := by
    refine not_begins ?_
    intro more
    refine ⟨⟨0, some p.taken⟩, ?_⟩
    rw [List.append_assoc]
    exact read 0 more
  have front : (pre ++ b :: bs).take p.taken = pre := by
    rw [← r.length_eq, List.take_left]
  have longer : (pre ++ b :: bs).take (p.taken + 1) = pre ++ [b] := by
    rw [← r.length_eq, List.take_length_add_append]
    rfl
  refine faultAfter_of_stuck (by simp) (read i bs) (.refused r.taken_pos (.inr ?_) ?_)
  · rw [front]
    exact r.begins
  · rw [longer]
    exact ends

/-- **What the reader reports is the first fault,** from between two characters and from within a
sequence.  The induction is on the octets still to be read. -/
theorem faultAfter_of_scan {f : IllFormed} (bs : Bytes) :
    (∀ i, scan i none bs = .error f → FaultAfter i bs f) ∧
      ∀ i pre p, Reads pre p → scan i (some p) bs = .error f → FaultAfter i (pre ++ bs) f := by
  induction bs with
  | nil =>
    constructor
    · intro i h
      exact absurd h (by simp [scan])
    · intro i pre p r h
      obtain rfl := Except.error.inj h
      rw [List.append_nil]
      exact r.faultAfter_cutOff i
  | cons b bs ih =>
    obtain ⟨between, within⟩ := ih
    constructor
    · intro i h
      rw [scan] at h
      split at h
      · rename_i small
        have octet := utf8EncodeChar_one (UInt8.lt_iff_toNat_lt.mp small)
        exact FaultAfter.cons octet (between (i + 1) (map_cons_eq_error h))
      · rename_i big
        split at h
        · rename_i p lead
          exact within i [b] p (reads_lead big lead) h
        · rename_i unled
          obtain rfl := Except.error.inj h
          exact faultAfter_of_lead big unled i bs
    · intro i pre p r h
      rw [scan] at h
      split at h
      · rename_i inside
        split at h
        · rename_i done
          have length : i + p.taken + 1 = i + (pre ++ [b]).length := by
            rw [List.length_append, r.length_eq, Nat.add_assoc, List.length_singleton]
          have later := between (i + p.taken + 1) (map_cons_eq_error h)
          rw [length] at later
          have whole := FaultAfter.cons (r.last inside done) later
          rwa [List.append_assoc] at whole
        · rename_i owes
          have later := within i (pre ++ [b]) (p.next b) (r.next inside owes) h
          rwa [List.append_assoc] at later
      · rename_i outside
        obtain rfl := Except.error.inj h
        exact r.faultAfter_of_outside outside i bs

/-- **The reader refuses octets for their first fault,** which all octets that are no text have. -/
theorem decode_eq_error_iff {bs : Bytes} {f : IllFormed} :
    decode bs = .error f ↔ FirstFault bs f := by
  have sound {g : IllFormed} (h : decode bs = .error g) : FirstFault bs g := by
    obtain ⟨j, index, first⟩ := (faultAfter_of_scan bs).1 0 h
    rw [Nat.zero_add] at index
    rwa [← index] at first
  constructor
  · exact sound
  · intro first
    cases read : decode bs with
    | ok cs => exact absurd (decode_eq_ok_iff.mp read) (first.ne_encode cs)
    | error g => rw [first.unique (sound read)]

end PinnedFetch.Utf8
