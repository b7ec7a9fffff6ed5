/-
# Responses as a server sends them

What a server is given as a status, headers and a body is sent in the form that heads are written in
(`Response.written`), and with the count that the server adds it is whole
(`Response.complete_counted`).  So the client reads what the server means.
-/
import PinnedFetch.Http.Response
import PinnedFetch.Proofs.Encoding
import PinnedFetch.Proofs.Payload

namespace PinnedFetch.Http

open Body (crlf)

/-! ## 1. Printed texts -/

/-- A text of visible characters and spaces. -/
def IsPrinted (text : String) : Prop := ∀ c ∈ text.toList, 0x20 ≤ c.toNat ∧ c.toNat < 0x7F

instance (text : String) : Decidable (IsPrinted text) :=
  List.decidableBAll (fun c : Char => 0x20 ≤ c.toNat ∧ c.toNat < 0x7F) text.toList

theorem IsPrinted.ofText {text : String} (printed : IsPrinted text) :
    Bytes.ofText text = text.toList.map fun c => UInt8.ofNat c.toNat := by
  rw [Utf8.ofText_eq_encode]
  exact Utf8.encode_ascii fun c hc => Nat.lt_trans (printed c hc).2 (by decide)

theorem IsPrinted.toNat {text : String} (printed : IsPrinted text) :
    ∀ c ∈ text.toList, (UInt8.ofNat c.toNat).toNat = c.toNat := by
  intro c hc
  exact UInt8.toNat_ofNat_of_lt (Nat.lt_trans (printed c hc).2 (by decide))

/-- Each octet is the character again. -/
theorem IsPrinted.map_toNat {text : String} (printed : IsPrinted text) {α : Type} (f : Char → α) :
    (Bytes.ofText text).map (fun b => f (Char.ofNat b.toNat)) = text.toList.map f := by
  rw [printed.ofText, List.map_map]
  refine List.map_congr_left fun c hc => ?_
  rw [Function.comp, printed.toNat c hc, Char.ofNat_toNat]

theorem IsPrinted.plain? {text : String} (printed : IsPrinted text) :
    Head.plain? (Bytes.ofText text) = some text.toList := by
  have plain : (Bytes.ofText text).all Head.isPlainOctet = true := by
    rw [printed.ofText, List.all_map, List.all_eq_true]
    intro c hc
    simp only [Function.comp, Head.isPlainOctet, Bool.or_eq_true, Bool.and_eq_true,
      decide_eq_true_eq, UInt8.le_iff_toNat_le, UInt8.lt_iff_toNat_lt, printed.toNat c hc]
    exact Or.inl (printed c hc)
  rw [Head.plain?, if_pos plain]
  exact congrArg some ((printed.map_toNat id).trans (List.map_id _))

theorem IsPrinted.isValueOctet {text : String} (printed : IsPrinted text) :
    ∀ b ∈ Bytes.ofText text, Head.isValueOctet b = true := by
  intro b hb
  rw [printed.ofText, List.mem_map] at hb
  obtain ⟨c, hc, rfl⟩ := hb
  obtain ⟨low, high⟩ := printed c hc
  simp only [Head.isValueOctet, Bool.or_eq_true, Bool.and_eq_true, decide_eq_true_eq,
    UInt8.le_iff_toNat_le, ne_eq, ← UInt8.toNat_inj, printed.toNat c hc]
  refine Or.inr ⟨low, ?_⟩
  intro del
  exact absurd (del ▸ high) (by decide)

/-- A gap in such a text is a space. -/
theorem IsPrinted.isGap {text : String} (printed : IsPrinted text) {c : Char} (hc : c ∈ text.toList)
    (other : c ≠ ' ') : Head.isGap (UInt8.ofNat c.toNat) = false := by
  have low := (printed c hc).1
  simp only [Head.isGap, Bool.or_eq_false_iff, decide_eq_false_iff_not, ← UInt8.toNat_inj,
    printed.toNat c hc]
  refine ⟨fun space => other ?_, fun tab => absurd (tab ▸ low) (by decide)⟩
  exact Char.toNat_inj.mp space

namespace Response

/-! ## 2. Heads -/

/-- The name of a header that can be sent. -/
structure IsName (name : String) : Prop where
  given : name ≠ ""
  printed : IsPrinted name
  octets : ∀ c ∈ name.toList, Head.isNameOctet (UInt8.ofNat c.toNat) = true

instance (name : String) : Decidable (IsName name) :=
  have := List.decidableBAll (fun c => Head.isNameOctet (UInt8.ofNat c.toNat) = true) name.toList
  decidable_of_iff (name ≠ "" ∧ IsPrinted name ∧ _) ⟨fun h => ⟨h.1, h.2.1, h.2.2⟩,
    fun h => ⟨h.given, h.printed, h.octets⟩⟩

/-- The value of a header that can be sent: it neither starts nor ends with a space. -/
structure IsValue (value : String) : Prop where
  printed : IsPrinted value
  first : value.toList.head? ≠ some ' '
  last : value.toList.getLast? ≠ some ' '

instance (value : String) : Decidable (IsValue value) :=
  decidable_of_iff (IsPrinted value ∧ _ ∧ _) ⟨fun h => ⟨h.1, h.2.1, h.2.2⟩,
    fun h => ⟨h.printed, h.first, h.last⟩⟩

/-- A name in lower case. -/
def lower (name : String) : String := String.ofList (name.toList.map Char.toLower)

/-- A header as it is read back. -/
def readBack (header : String × String) : String × Bytes :=
  (lower header.1, Bytes.ofText header.2)

theorem headerLine_text {name value : String} (isName : IsName name) (isValue : IsValue value) :
    Head.HeaderLine (readBack (name, value)) (Bytes.ofText (name ++ ": " ++ value)) := by
  have parts : Bytes.ofText (name ++ ": " ++ value) =
      Bytes.ofText name ++ 0x3A :: ([0x20] ++ Bytes.ofText value ++ []) := by
    have between : Bytes.ofText ": " = [0x3A, 0x20] := by decide +kernel
    rw [Utf8.ofText_append, Utf8.ofText_append, between, List.append_nil, List.append_assoc]
    rfl
  rw [parts]
  refine .mk ?_ ?_ ?_ ?_ isValue.printed.isValueOctet ?_
  · intro none
    refine isName.given (String.toList_eq_nil_iff.mp ?_)
    rwa [isName.printed.ofText, List.map_eq_nil_iff] at none
  · intro b hb
    rw [isName.printed.ofText, List.mem_map] at hb
    obtain ⟨c, hc, rfl⟩ := hb
    exact isName.octets c hc
  · rw [isName.printed.map_toNat, lower, String.toList_ofList]
  · intro b hb
    rw [List.append_nil, List.mem_singleton] at hb
    rw [hb]
    rfl
  · intro b ends
    rw [isValue.printed.ofText, List.head?_map, List.getLast?_map, Option.map_eq_some_iff,
      Option.map_eq_some_iff] at ends
    rcases ends with ⟨c, at', rfl⟩ | ⟨c, at', rfl⟩
    · refine isValue.printed.isGap (List.mem_of_head? at') ?_
      rintro rfl
      exact isValue.first at'
    · refine isValue.printed.isGap (List.mem_of_getLast? at') ?_
      rintro rfl
      exact isValue.last at'

/-- The head of a response. -/
def head (r : Response) : Head := ⟨1, r.status, r.headers.map readBack⟩

/-- The octets of the head. -/
def headOctets (r : Response) : Bytes :=
  line s!"HTTP/1.1 {r.status} OK" ++ r.headers.flatMap headerLine ++ line ""

theorem octets_eq (r : Response) : r.octets = r.headOctets ++ r.body := rfl

/-- A response that can be sent. -/
structure IsSendable (r : Response) : Prop where
  status : 100 ≤ r.status ∧ r.status < 1000
  headers : ∀ header ∈ r.headers, IsName header.1 ∧ IsValue header.2

/-- A number of three digits, in octets. -/
theorem exists_digits {n : Nat} (three : 100 ≤ n ∧ n < 1000) :
    ∃ x y z : Fin 10, n = 100 * x + 10 * y + z ∧
      Bytes.ofText (toString n) = [Head.digit x, Head.digit y, Head.digit z] := by
  have digits : Nat.toDigits 10 n =
      [Nat.digitChar (n / 100), Nat.digitChar (n / 10 % 10), Nat.digitChar (n % 10)] := by
    rw [Nat.toDigits_eq_if (by decide), if_neg (by omega), Nat.toDigits_eq_if (by decide),
      if_neg (by omega), Nat.toDigits_of_lt_base (by omega), Nat.div_div_eq_div_mul]
    rfl
  have octet : ∀ d : Fin 10, String.utf8EncodeChar (Nat.digitChar d) = [Head.digit d] := by
    decide
  refine ⟨⟨n / 100, by omega⟩, ⟨n / 10 % 10, by omega⟩, ⟨n % 10, by omega⟩, ?_, ?_⟩
  · simp only
    omega
  · have first := octet ⟨n / 100, by omega⟩
    have second := octet ⟨n / 10 % 10, by omega⟩
    have third := octet ⟨n % 10, by omega⟩
    simp only at first second third
    rw [Utf8.ofText_eq_encode, Nat.toString_eq_ofList_toDigits, String.toList_ofList, digits,
      Utf8.encode_cons, Utf8.encode_cons, Utf8.encode_cons, first, second, third]
    rfl

theorem headerLines_flatMap {headers : List (String × String)}
    (all : ∀ header ∈ headers, IsName header.1 ∧ IsValue header.2) :
    Head.HeaderLines (headers.map readBack) (headers.flatMap headerLine ++ line "") := by
  induction headers with
  | nil =>
    have empty : ([] : List (String × String)).flatMap headerLine ++ line "" = crlf := by
      decide +kernel
    rw [empty]
    exact .none
  | cons header headers ih =>
    rw [List.map_cons, List.flatMap_cons, List.append_assoc]
    obtain ⟨isName, isValue⟩ := all header List.mem_cons_self
    exact .one (headerLine_text isName isValue)
      (ih fun h hh => all h (List.mem_cons_of_mem header hh))

theorem line_status {n : Nat} {x y z : Fin 10}
    (digits : Bytes.ofText (toString n) = [Head.digit x, Head.digit y, Head.digit z]) :
    line s!"HTTP/1.1 {n} OK" =
      Head.opening ++ [Head.digit (1 : Fin 2)] ++
        (Head.statusText x y z (Bytes.ofText " OK") ++ crlf) := by
  have front : Bytes.ofText "HTTP/1.1 " = Head.opening ++ [Head.digit 1] ++ [0x20] := by
    decide +kernel
  have text : Bytes.ofText ("HTTP/1.1 " ++ toString n ++ " OK") =
      Head.opening ++ [Head.digit 1] ++ Head.statusText x y z (Bytes.ofText " OK") := by
    rw [Utf8.ofText_append, Utf8.ofText_append, front, digits]
    simp only [Head.statusText, List.append_assoc, List.cons_append, List.nil_append]
  rw [← List.append_assoc]
  exact congrArg (· ++ crlf) text

/-- **A response that can be sent has a head as heads are written.** -/
theorem written {r : Response} (sendable : r.IsSendable) : Head.Written r.head r.headOctets := by
  obtain ⟨x, y, z, status, digits⟩ := exists_digits sendable.status
  have head : r.head = ⟨(1 : Fin 2), 100 * x + 10 * y + z, r.headers.map readBack⟩ := by
    rw [Response.head, status]
    rfl
  have plain : OneLine (Bytes.ofText " OK") := by
    unfold OneLine
    decide +kernel
  rw [head, headOctets, line_status digits, List.append_assoc _ _ (line "")]
  exact .mk (Or.inr (by decide +kernel)) plain (headerLines_flatMap sendable.headers)

/-! ## 3. Counted bodies -/

theorem toList_toString (n : Nat) : (toString n).toList = Nat.toDigits 10 n := by
  rw [Nat.toString_eq_ofList_toDigits, String.toList_ofList]

/-- A count is a value that can be sent. -/
theorem isValue_toString (n : Nat) : IsValue (toString n) := by
  have digits : ∀ d : Fin 10, (0x20 ≤ (Nat.digitChar d).toNat ∧ (Nat.digitChar d).toNat < 0x7F) ∧
      Nat.digitChar d ≠ ' ' := by
    decide
  have all : ∀ c ∈ (toString n).toList, (0x20 ≤ c.toNat ∧ c.toNat < 0x7F) ∧ c ≠ ' ' := by
    intro c hc
    rw [toList_toString] at hc
    obtain ⟨d, small, rfl⟩ := (numeral_decimal n).exists_digit c hc
    exact digits ⟨d, small⟩
  refine ⟨fun c hc => (all c hc).1, fun first => ?_, fun last => ?_⟩
  · exact (all _ (List.mem_of_head? first)).2 rfl
  · exact (all _ (List.mem_of_getLast? last)).2 rfl

section Sent

variable {r : Response} {name value : String}

theorem IsSendable.withHeader (sendable : r.IsSendable) (isName : IsName name)
    (isValue : IsValue value) : (r.withHeader name value).IsSendable := by
  refine ⟨sendable.status, fun header here => ?_⟩
  rcases List.mem_append.mp here with old | new
  · exact sendable.headers header old
  · rw [List.mem_singleton.mp new]
    exact ⟨isName, isValue⟩

/-- The head of an unframed response says nothing about the payload. -/
theorem lacks_of_unframed (unframed : r.isFramed = false) {name : String}
    (framing : name ∈ framingNames) : r.head.Lacks name := by
  intro header here same
  obtain ⟨written, inside, rfl⟩ := List.mem_map.mp here
  unfold isFramed at unframed
  rw [List.any_eq_false] at unframed
  refine unframed written inside ?_
  rw [List.contains_iff_mem]
  rw [← same] at framing
  exact framing

theorem lacks_withHeader {other : String} (lacks : r.head.Lacks other)
    (differs : lower name ≠ other) : (r.withHeader name value).head.Lacks other := by
  intro header here
  obtain ⟨written, inside, rfl⟩ := List.mem_map.mp here
  rcases List.mem_append.mp inside with old | new
  · exact lacks _ (List.mem_map_of_mem old)
  · rw [List.mem_singleton.mp new]
    exact differs

theorem headers_withHeader (r : Response) (name value : String) :
    (r.withHeader name value).head.headers =
      r.head.headers ++ [(lower name, Bytes.ofText value)] :=
  List.map_append

theorem header?_withHeader (lacks : r.head.Lacks (lower name)) (printed : IsPrinted value) :
    (r.withHeader name value).head.header? (lower name) = some value.toList := by
  rw [Head.header?, headers_withHeader, List.lookup_append, lacks.lookup, Option.none_or,
    List.lookup_cons_self]
  exact printed.plain?

theorem header?_withHeader_of_ne {other : String} (differs : lower name ≠ other) :
    (r.withHeader name value).head.header? other = r.head.header? other := by
  have missing : [(lower name, Bytes.ofText value)].lookup other = none := by
    rw [List.lookup_cons, beq_false_of_ne (Ne.symm differs)]
    rfl
  rw [Head.header?, headers_withHeader, List.lookup_append, missing, Option.or_none, Head.header?]

/-- **A response that the server counts is whole.** -/
theorem complete_counted (sendable : r.IsSendable) (unframed : r.isFramed = false)
    (held : r.body.length < Body.countLimit) :
    Complete r.counted.closing.head r.body r.counted.closing.octets := by
  have counted : r.counted = r.withHeader "Content-Length" (toString r.body.length) := by
    rw [Response.counted, unframed, if_neg (by simp)]
  have count := isValue_toString r.body.length
  have countName : IsName "Content-Length" := by decide +kernel
  have closeName : IsName "Connection" := by decide +kernel
  have close : IsValue "close" := by decide +kernel
  have uncounted : r.head.Lacks (lower "Content-Length") := lacks_of_unframed unframed (by decide)
  have solid : r.head.Lacks "transfer-encoding" := lacks_of_unframed unframed (by decide)
  have given : (r.withHeader "Content-Length" (toString r.body.length)).closing.head.header?
      "content-length" = some (Nat.toDigits 10 r.body.length) := by
    rw [closing, header?_withHeader_of_ne (by decide), ← toList_toString]
    exact header?_withHeader uncounted count.printed
  rw [counted, octets_eq]
  refine .mk (written ((sendable.withHeader countName count).withHeader closeName close))
    (.counted (.some given (numeral_decimal _) held) ?_) (.counted r.body)
  exact lacks_withHeader (lacks_withHeader solid (by decide)) (by decide)

end Sent
end Response
end PinnedFetch.Http
