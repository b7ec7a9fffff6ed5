/-
# Arguments as the grammar spells them

The reader of the command line takes the arguments that the grammar spells and no others, and on
them it does what their settings ask.

One direction is an equation, faults included (`readAll_commandLine`).  The value of a directory in
an argument of its own is judged late; as whatever comes next settles it first, it may be judged at
once (`settle_bind_finish`), and then each item is a list of settings to obey.

The other direction takes one argument that was read apart (`spelled_or_value`): it is spelled as
the grammar has it, or it is a directory that was awaited.  Either way it is known what is open
behind it, and an induction on the arguments makes items of them (`commandLine_of_readAll`).
-/
import PinnedFetch.Args.Grammar
import PinnedFetch.Proofs.Encoding

namespace PinnedFetch.Args

open Utf8 (encode ofText_eq_encode)

/-! ## 1. What settings do -/

namespace Reading

theorem refuse_ne_ok {α : Type} {r : Reading} {f : Fault} {a : α} : r.refuse f ≠ .ok a := by
  simp [refuse]

/-- What is settled has nothing left to settle. -/
theorem settle_of_nothing {r : Reading} (settled : r.pending = .nothing) : r.settle = .ok r := by
  rw [settle, settled]

theorem setDir_pending {r s : Reading} {v : Bytes} (h : r.setDir v = .ok s) :
    s.pending = .nothing := by
  unfold setDir at h
  split at h
  · exact absurd h refuse_ne_ok
  split at h
  · rw [← Except.ok.inj h]
  · exact absurd h refuse_ne_ok

theorem settle_pending {r s : Reading} (h : r.settle = .ok s) : s.pending = .nothing := by
  unfold settle at h
  split at h
  · rename_i settled
    rw [← Except.ok.inj h, settled]
  · exact absurd h refuse_ne_ok
  · exact setDir_pending h

/-- Whatever settles first may as well be given a reading that is settled. -/
theorem settle_bind {α : Type} (r : Reading) (f : Reading → Except Stop α) :
    (r.settle >>= fun s => s.settle >>= f) = r.settle >>= f := by
  cases h : r.settle with
  | error stop => rfl
  | ok s => exact congrArg (· >>= f) (settle_of_nothing (settle_pending h))

/-- Does what a setting says. -/
def obey (r : Reading) : Setting → Except Stop Reading
  | .dir v => r.setAttached (Bytes.ofText v)
  | .quiet => r.set .quiet
  | .verbose => r.set .verbose
  | .verifyExisting => r.set .verifyExisting

/-- Does what settings say, one after another. -/
def obeyAll (ss : List Setting) (r : Reading) : Except Stop Reading := ss.foldlM obey r

theorem obeyAll_append (ss ts : List Setting) (r : Reading) :
    obeyAll (ss ++ ts) r = obeyAll ss r >>= obeyAll ts := List.foldlM_append

/-- Does what settings say, up to the end of the command line. -/
def finish (ss : List Setting) (r : Reading) : Except Stop Reading := obeyAll ss r >>= settle

theorem finish_cons (s : Setting) (ss : List Setting) (r : Reading) :
    finish (s :: ss) r = r.obey s >>= finish ss := by
  rw [finish, obeyAll, List.foldlM_cons, bind_assoc]
  rfl

theorem finish_append (ss ts : List Setting) (r : Reading) :
    finish (ss ++ ts) r = obeyAll ss r >>= finish ts := by
  rw [finish, obeyAll_append, bind_assoc]
  rfl

theorem settle_bind_obey (r : Reading) (s : Setting) :
    (r.settle >>= fun t => t.obey s) = r.obey s := by
  cases s <;> exact settle_bind r _

/-- **A value may be judged at once.**  Whatever comes next settles it first. -/
theorem settle_bind_finish (ss : List Setting) (r : Reading) :
    r.settle >>= finish ss = finish ss r := by
  cases ss with
  | nil =>
    have again := settle_bind r pure
    simp only [bind_pure] at again
    exact again
  | cons s ss =>
    calc r.settle >>= finish (s :: ss)
        = r.settle >>= fun t => t.obey s >>= finish ss :=
          congrArg (r.settle >>= ·) (funext (finish_cons s ss))
      _ = (r.settle >>= fun t => t.obey s) >>= finish ss := (bind_assoc ..).symm
      _ = r.obey s >>= finish ss := by rw [settle_bind_obey]
      _ = finish (s :: ss) r := (finish_cons s ss r).symm

end Reading

/-! ## 2. What the grammar allows is read -/

/-- A dash is one octet. -/
theorem encode_dash (cs : List Char) : encode ('-' :: cs) = dash :: encode cs := rfl

theorem readArg_long (r : Reading) (body : Bytes) :
    readArg r (dash :: dash :: body) = readLong r body := rfl

theorem readArg_cluster {b : UInt8} (single : b ≠ dash) (r : Reading) (bs : Bytes) :
    readArg r (dash :: b :: bs) =
      readCluster (Utf8.split (b :: bs)).2 (Utf8.split (b :: bs)).1 r := by
  unfold readArg
  split
  · rename_i body same
    exact absurd (List.cons.inj (List.cons.inj same).2).1 single
  · rename_i c cs same
    rw [(List.cons.inj same).2]
  · rename_i other
    exact absurd rfl (other b bs)

theorem readArg_lone {arg : Bytes} (lone : arg = [dash] ∨ arg.head? ≠ some dash) (r : Reading) :
    readArg r arg = if r.pending = .awaited then .ok { r with pending := .value arg }
      else r.refuse (.unexpected (Utf8.repair arg)) := by
  unfold readArg
  split
  · exact absurd lone (by simp [dash])
  · exact absurd lone (by simp [dash])
  · rfl

/-- Letters in a cluster are read one after another. -/
theorem readCluster_letters (tail : Bytes) (ls : List Letter) (cs : List Char) (r : Reading) :
    readCluster tail (ls.map Letter.char ++ cs) r =
      Reading.obeyAll (ls.map Letter.setting) r >>= readCluster tail cs := by
  induction ls generalizing r with
  | nil => rfl
  | cons l ls ih =>
    have step : readCluster tail ((l :: ls).map Letter.char ++ cs) r =
        r.obey l.setting >>= readCluster tail (ls.map Letter.char ++ cs) := by
      cases l <;> rfl
    rw [step, List.map_cons, Reading.obeyAll, List.foldlM_cons, bind_assoc]
    exact congrArg (r.obey l.setting >>= ·) (funext ih)

/-- The reader of clusters drops the equals sign that the grammar drops. -/
theorem clusterValue_ofText (j : JoinedValue) :
    clusterValue (encode j.text.toList) = Bytes.ofText j.value := by
  have sign := Utf8.head?_encode (b := equals) j.text.toList (by decide)
  rw [JoinedValue.value]
  split
  · rename_i front
    obtain ⟨cs, text⟩ := List.head?_eq_some_iff.mp front
    rw [text, Utf8.ofText_ofList]
    rfl
  · rename_i front
    rw [ofText_eq_encode]
    cases octets : encode j.text.toList with
    | nil => rfl
    | cons b bs =>
      have other : b ≠ equals := by
        rintro rfl
        exact front (sign.mp (by rw [octets]; rfl))
      rw [clusterValue, if_neg other]

theorem readCluster_joined (j : JoinedValue) (r : Reading) :
    readCluster [] ('d' :: j.text.toList) r = r.setAttached (Bytes.ofText j.value) := by
  have nonempty : encode j.text.toList ++ [] ≠ [] := by
    rw [List.append_nil]
    exact fun empty => j.nonempty (Utf8.encode_eq_nil_iff.mp empty)
  have step : readCluster [] ('d' :: j.text.toList) r =
      r.setAttached (clusterValue (encode j.text.toList ++ [])) := if_neg nonempty
  rw [step, List.append_nil, clusterValue_ofText]

/-- A cluster is read by its characters. -/
theorem readArg_cluster_encode {c : Char} (single : c ≠ '-') (cs : List Char) (r : Reading) :
    readArg r (encode ('-' :: c :: cs)) = readCluster [] (c :: cs) r := by
  have front := Utf8.head?_encode (b := dash) (c :: cs) (by decide)
  rw [encode_dash]
  cases octets : encode (c :: cs) with
  | nil => exact absurd (Utf8.encode_eq_nil_iff.mp octets) (by simp)
  | cons b bs =>
    have other : b ≠ dash := by
      rintro rfl
      exact single (Option.some.inj (front.mp (by rw [octets]; rfl)))
    rw [readArg_cluster other, ← octets, Utf8.split_encode]

/-- A cluster in which the directory comes up starts with a letter, too. -/
theorem readArg_letters_dir (ls : List Letter) (cs : List Char) (r : Reading) :
    readArg r (Bytes.ofText (String.ofList ('-' :: (ls.map Letter.char ++ 'd' :: cs)))) =
      readCluster [] (ls.map Letter.char ++ 'd' :: cs) r := by
  rw [Utf8.ofText_ofList]
  cases ls with
  | nil => exact readArg_cluster_encode (by decide) _ r
  | cons l ls => exact readArg_cluster_encode (by cases l <;> decide) _ r

/-- A word by itself sets its switch. -/
theorem readLong_word (s : Switch) (r : Reading) :
    readLong r (Bytes.ofText s.word) = r.set s := by
  have word : (Bytes.ofText s.word).takeWhile (· != equals) = Bytes.ofText s.word := by
    cases s <;> decide
  have value : ((Bytes.ofText s.word).dropWhile (· != equals)).tail? = none := by
    cases s <;> decide
  have known : Switch.ofWord? s.word = some s := by
    cases s <;> decide
  simp only [readLong, word, value, Utf8.text_eq_ok_iff.mpr rfl, known]

/-- Two dashes and a word. -/
theorem ofText_long {text word : String} (chars : text.toList = '-' :: '-' :: word.toList) :
    Bytes.ofText text = dash :: dash :: Bytes.ofText word := by
  rw [ofText_eq_encode, chars, encode_dash, encode_dash, ← ofText_eq_encode]

theorem readArg_word {text : String} {s : Switch}
    (word : text.toList = '-' :: '-' :: s.word.toList) (r : Reading) :
    readArg r (Bytes.ofText text) = r.set s := by
  rw [ofText_long word, readArg_long, readLong_word]

/-- Two dashes, the word and the value of a directory. -/
theorem ofText_dir (v : String) : Bytes.ofText (Whole.dir v).text =
    dash :: dash :: (Bytes.ofText "dir" ++ equals :: Bytes.ofText v) := by
  have word : encode "--dir=".toList = dash :: dash :: (Bytes.ofText "dir" ++ [equals]) := by
    decide
  rw [ofText_eq_encode, Whole.text, String.toList_append, Utf8.encode_append, word,
    ofText_eq_encode v]
  rfl

/-- The directory behind an equals sign. -/
theorem readLong_dir (v : String) (r : Reading) :
    readLong r (Bytes.ofText "dir" ++ equals :: Bytes.ofText v) =
      r.setAttached (Bytes.ofText v) := by
  have word : (Bytes.ofText "dir" ++ equals :: Bytes.ofText v).takeWhile (· != equals) =
      Bytes.ofText "dir" := rfl
  have value : ((Bytes.ofText "dir" ++ equals :: Bytes.ofText v).dropWhile (· != equals)).tail? =
      some (Bytes.ofText v) := rfl
  have known : Switch.ofWord? "dir" = some .dir := by decide
  simp only [readLong, word, value, Utf8.text_eq_ok_iff.mpr rfl, known]

/-- **An argument that is complete by itself does what its settings say.** -/
theorem readArg_whole (w : Whole) (r : Reading) :
    readArg r (Bytes.ofText w.text) = r.obeyAll w.settings := by
  cases w with
  | quiet => exact (readArg_word (s := .quiet) (by decide) r).trans (bind_pure _).symm
  | verbose => exact (readArg_word (s := .verbose) (by decide) r).trans (bind_pure _).symm
  | verifyExisting =>
    exact (readArg_word (s := .verifyExisting) (by decide) r).trans (bind_pure _).symm
  | dir v =>
    rw [ofText_dir, readArg_long, readLong_dir]
    exact (bind_pure _).symm
  | cluster first rest =>
    have single : first.char ≠ '-' := by cases first <;> decide
    have letters := readCluster_letters [] (first :: rest) [] r
    rw [List.append_nil] at letters
    rw [Whole.text, Utf8.ofText_ofList]
    exact (readArg_cluster_encode single _ r).trans (letters.trans (bind_pure _))
  | clusterDir ls v =>
    have value (t : Reading) : readCluster [] ('d' :: v.text.toList) t =
        t.obeyAll [.dir v.value] := (readCluster_joined v t).trans (bind_pure _).symm
    rw [Whole.text, readArg_letters_dir, readCluster_letters, Whole.settings,
      Reading.obeyAll_append]
    exact congrArg (r.obeyAll _ >>= ·) (funext value)

/-- **An argument that asks for the directory does the rest, and asks.** -/
theorem readArg_asking (a : Asking) (r : Reading) :
    readArg r (Bytes.ofText a.text) = r.obeyAll a.settings >>= fun t => t.set .dir := by
  cases a with
  | dir => exact readArg_word (s := .dir) (by decide) r
  | cluster ls =>
    rw [Asking.text, readArg_letters_dir, readCluster_letters]
    rfl

/-! ## 3. Whole command lines -/

theorem readAll_cons {arg : Bytes} (single : arg ≠ [dash, dash]) (args : List Bytes)
    (r : Reading) : readAll (arg :: args) r = readArg r arg >>= readAll args :=
  if_neg single

/-- What stands by itself is seen in octets and in characters alike. -/
theorem lone_iff (s : String) :
    (Bytes.ofText s = [dash] ∨ (Bytes.ofText s).head? ≠ some dash) ↔
      (s = "-" ∨ s.toList.head? ≠ some '-') := by
  have single : Bytes.ofText s = [dash] ↔ s = "-" := Utf8.ofText_inj (t := "-")
  have front : (Bytes.ofText s).head? = some dash ↔ s.toList.head? = some '-' := by
    rw [ofText_eq_encode]
    exact Utf8.head?_encode _ (by decide)
  rw [single, Ne, front]

theorem ne_dashes_of_lone {v : Bytes} (lone : v = [dash] ∨ v.head? ≠ some dash) :
    v ≠ [dash, dash] := by
  rintro rfl
  exact absurd lone (by simp)

theorem ofText_ne_dashes {text : String} : Bytes.ofText text ≠ [dash, dash] ↔ text ≠ "--" :=
  not_congr (Utf8.ofText_inj (t := "--"))

theorem cluster_ne {c : Char} (single : c ≠ '-') (cs : List Char) :
    String.ofList ('-' :: c :: cs) ≠ "--" := by
  intro same
  have chars := congrArg String.toList same
  rw [String.toList_ofList] at chars
  exact single (List.cons.inj (List.cons.inj chars).2).1

theorem letters_dir_ne (ls : List Letter) (cs : List Char) :
    String.ofList ('-' :: (ls.map Letter.char ++ 'd' :: cs)) ≠ "--" := by
  cases ls with
  | nil => exact cluster_ne (by decide) cs
  | cons l ls => exact cluster_ne (by cases l <;> decide) _

theorem Whole.text_ne (w : Whole) : w.text ≠ "--" := by
  cases w with
  | quiet | verbose | verifyExisting => decide
  | dir v =>
    intro same
    have size := congrArg (·.toList.length) same
    have word : "--dir=".toList.length = 6 := by decide
    have dashes : "--".toList.length = 2 := by decide
    simp only [text, String.toList_append, List.length_append] at size
    omega
  | cluster first rest => exact cluster_ne (by cases first <;> decide) _
  | clusterDir ls v => exact letters_dir_ne ls v.text.toList

theorem Asking.text_ne (a : Asking) : a.text ≠ "--" := by
  cases a with
  | dir => decide
  | cluster ls => exact letters_dir_ne ls []

theorem commandLine_whole (w : Whole) (items : List Item) (ended : Bool) :
    commandLine (.whole w :: items) ended = Bytes.ofText w.text :: commandLine items ended := rfl

theorem commandLine_pair (a : Asking) (v : LoneValue) (items : List Item) (ended : Bool) :
    commandLine (.pair a v :: items) ended =
      Bytes.ofText a.text :: Bytes.ofText v.text :: commandLine items ended := rfl

/-- The directory that is asked for, and the argument that gives it, set the directory. -/
theorem readAll_value (v : LoneValue) (args : List Bytes) (r : Reading) :
    (r.set .dir >>= readAll (Bytes.ofText v.text :: args)) =
      r.settle >>= fun s => readAll args { s with pending := .value (Bytes.ofText v.text) } := by
  have lone := (lone_iff v.text).mpr v.lone
  rw [Reading.set, bind_assoc]
  refine congrArg (r.settle >>= ·) (funext fun s => ?_)
  have taken : readArg { s with pending := .awaited } (Bytes.ofText v.text) =
      .ok { s with pending := .value (Bytes.ofText v.text) } :=
    (readArg_lone lone _).trans (if_pos rfl)
  exact (readAll_cons (ne_dashes_of_lone lone) args _).trans (congrArg (· >>= readAll args) taken)

/-- **On a command line of the grammar the reader does what the settings say.**  The induction is on
the items; that a value may be judged at once carries the pairs. -/
theorem readAll_commandLine (items : List Item) (ended : Bool) (r : Reading) :
    readAll (commandLine items ended) r = Reading.finish (settings items) r := by
  induction items generalizing r with
  | nil => cases ended <;> rfl
  | cons item items ih =>
    have later : readAll (commandLine items ended) = Reading.finish (settings items) := funext ih
    have parts : settings (item :: items) = item.settings ++ settings items := rfl
    cases item with
    | whole w =>
      have single := ofText_ne_dashes.mpr w.text_ne
      rw [commandLine_whole, readAll_cons single, readArg_whole, later, parts,
        Reading.finish_append]
      rfl
    | pair a v =>
      have value (t : Reading) : (t.set .dir >>=
          readAll (Bytes.ofText v.text :: commandLine items ended)) =
          t.obey (.dir v.text) >>= Reading.finish (settings items) := by
        rw [readAll_value, later, Reading.obey, Reading.setAttached, bind_assoc]
        exact congrArg (t.settle >>= ·) (funext fun s => (Reading.settle_bind_finish _ _).symm)
      have single := ofText_ne_dashes.mpr a.text_ne
      rw [commandLine_pair, readAll_cons single, readArg_asking, bind_assoc, parts,
        Item.settings, List.append_assoc, Reading.finish_append]
      refine congrArg (r.obeyAll a.settings >>= ·) (funext fun t => ?_)
      exact (value t).trans (Reading.finish_cons _ _ t).symm

/-! ## 4. What is read the grammar allows -/

theorem bind_eq_ok {α β : Type} {x : Except Stop α} {f : α → Except Stop β} {b : β}
    (h : x >>= f = .ok b) : ∃ a, x = .ok a ∧ f a = .ok b := by
  cases x with
  | error stop => exact absurd h (by simp [bind, Except.bind])
  | ok a => exact ⟨a, rfl, h⟩

namespace Reading

/-- A directory that is set is a text. -/
theorem setDir_text {r s : Reading} {v : Bytes} (h : r.setDir v = .ok s) :
    ∃ t, v = Bytes.ofText t := by
  unfold setDir at h
  split at h
  · exact absurd h refuse_ne_ok
  split at h
  · rename_i t text
    exact ⟨t, Utf8.text_eq_ok_iff.mp text⟩
  · exact absurd h refuse_ne_ok

theorem setAttached_text {r s : Reading} {v : Bytes} (h : r.setAttached v = .ok s) :
    ∃ t, v = Bytes.ofText t := by
  obtain ⟨_, -, set⟩ := bind_eq_ok h
  exact setDir_text set

/-- Help and the version end the reading. -/
theorem set_ne_ok {r s : Reading} {x : Switch} (ends : x = .help ∨ x = .version) :
    r.set x ≠ .ok s := by
  intro h
  rcases ends with rfl | rfl
  · obtain ⟨_, -, stop⟩ := bind_eq_ok h
    exact absurd stop (by simp)
  · obtain ⟨_, -, stop⟩ := bind_eq_ok h
    exact absurd stop (by simp)

/-- What was done is settled. -/
theorem obey_pending {r s : Reading} {x : Setting} (h : r.obey x = .ok s) :
    s.pending = .nothing := by
  cases x with
  | dir v =>
    obtain ⟨_, -, set⟩ := bind_eq_ok h
    exact setDir_pending set
  | verbose =>
    obtain ⟨t, settled, set⟩ := bind_eq_ok h
    have idle := settle_pending settled
    rw [← Except.ok.inj set]
    exact idle
  | quiet | verifyExisting =>
    obtain ⟨t, settled, set⟩ := bind_eq_ok h
    have idle := settle_pending settled
    split at set
    · exact absurd set refuse_ne_ok
    · rw [← Except.ok.inj set]
      exact idle

theorem obeyAll_pending {ss : List Setting} {r s : Reading} (idle : r.pending = .nothing)
    (h : r.obeyAll ss = .ok s) : s.pending = .nothing := by
  induction ss generalizing r with
  | nil => exact Except.ok.inj h ▸ idle
  | cons x ss ih =>
    obtain ⟨t, first, later⟩ := bind_eq_ok h
    exact ih (obey_pending first) later

/-- Whatever is set, what stood open before is settled first, and nothing is open behind it. -/
theorem settled_of_obeyAll {ss : List Setting} {r s : Reading} (nonempty : ss ≠ [])
    (h : r.obeyAll ss = .ok s) : (∃ t, r.settle = .ok t) ∧ s.pending = .nothing := by
  cases ss with
  | nil => exact absurd rfl nonempty
  | cons x ss =>
    obtain ⟨t, first, later⟩ := bind_eq_ok h
    refine ⟨?_, obeyAll_pending (obey_pending first) later⟩
    rw [← settle_bind_obey] at first
    obtain ⟨u, settled, -⟩ := bind_eq_ok first
    exact ⟨u, settled⟩

end Reading

/-- An argument as the grammar spells it. -/
inductive Spelled (arg : Bytes) : Prop where
  | whole (w : Whole) (spelled : arg = Bytes.ofText w.text)
  | asking (a : Asking) (spelled : arg = Bytes.ofText a.text)

/-- Where the word behind two dashes ends. -/
theorem word_or_value (body : Bytes) :
    ((body.dropWhile (· != equals)).tail? = none ∧ body = body.takeWhile (· != equals)) ∨
      ∃ v, (body.dropWhile (· != equals)).tail? = some v ∧
        body = body.takeWhile (· != equals) ++ equals :: v := by
  have parts := List.takeWhile_append_dropWhile (p := (· != equals)) (l := body)
  have sign := List.head?_dropWhile_not (· != equals) body
  cases rest : body.dropWhile (· != equals) with
  | nil =>
    rw [rest, List.append_nil] at parts
    exact Or.inl ⟨rfl, parts.symm⟩
  | cons b v =>
    rw [rest] at parts sign
    obtain rfl : b = equals := by simpa using sign
    exact Or.inr ⟨v, rfl, parts.symm⟩

theorem spelled_of_readLong {r s : Reading} {body : Bytes} (h : readLong r body = .ok s) :
    Spelled (dash :: dash :: body) := by
  unfold readLong at h
  simp only at h
  split at h
  · exact absurd h Reading.refuse_ne_ok
  rename_i w text
  have word := Utf8.text_eq_ok_iff.mp text
  have known {x : Switch} (found : Switch.ofWord? w = some x) : x.word = w := by
    simpa using List.find?_some found
  obtain ⟨bare, octets⟩ | ⟨v, value, octets⟩ := word_or_value body
  · rw [bare] at h
    rw [octets, word]
    split at h
    · exact absurd h Reading.refuse_ne_ok
    · rename_i x found _
      rw [← known found]
      -- A bare word is that of a switch; behind help and the version nothing is read.
      cases x with
      | dir => exact .asking .dir (ofText_long (by decide)).symm
      | quiet => exact .whole .quiet (ofText_long (by decide)).symm
      | verbose => exact .whole .verbose (ofText_long (by decide)).symm
      | verifyExisting => exact .whole .verifyExisting (ofText_long (by decide)).symm
      | help => exact absurd h (Reading.set_ne_ok (Or.inl rfl))
      | version => exact absurd h (Reading.set_ne_ok (Or.inr rfl))
    · contradiction
    · contradiction
  · rw [value] at h
    rw [octets, word]
    split at h
    · exact absurd h Reading.refuse_ne_ok
    · contradiction
    · rename_i found same
      obtain rfl := Option.some.inj same
      obtain ⟨t, rfl⟩ := Reading.setAttached_text h
      rw [← known found]
      exact .whole (.dir t) (ofText_dir t).symm
    · exact absurd h Reading.refuse_ne_ok

/-- The letters that may stand behind a dash. -/
theorem letter_cases {c : Char} {s : Switch} (h : Switch.ofLetter? c = some s) :
    (c = 'd' ∧ s = .dir) ∨ (∃ l : Letter, c = l.char ∧ s ≠ .dir) ∨ s = .help ∨ s = .version := by
  unfold Switch.ofLetter? at h
  split at h
  · exact Or.inl ⟨‹_›, (Option.some.inj h).symm⟩
  split at h
  · exact Or.inr (Or.inl ⟨.q, ‹_›, by simp [← Option.some.inj h]⟩)
  split at h
  · exact Or.inr (Or.inl ⟨.v, ‹_›, by simp [← Option.some.inj h]⟩)
  split at h
  · exact Or.inr (Or.inr (Or.inl (Option.some.inj h).symm))
  split at h
  · exact Or.inr (Or.inr (Or.inr (Option.some.inj h).symm))
  · exact absurd h (by simp)

/-- A value in a cluster is a text when what is left without the equals sign is one. -/
theorem text_of_clusterValue {v : Bytes} {t : String} (h : clusterValue v = Bytes.ofText t) :
    ∃ cs, v = encode cs := by
  cases v with
  | nil => exact ⟨[], rfl⟩
  | cons b bs =>
    rw [ofText_eq_encode, clusterValue] at h
    split at h
    · rename_i sign
      refine ⟨'=' :: t.toList, ?_⟩
      rw [sign, h]
      rfl
    · exact ⟨_, h⟩

/-- **The characters of a cluster that is read.**  The induction is on them; the value of a
directory takes the octets that are no text with it, and must then be a text. -/
theorem letters_of_readCluster {tail : Bytes} {cs : List Char} {r s : Reading}
    (h : readCluster tail cs r = .ok s) :
    ∃ ls : List Letter, encode cs ++ tail = encode (ls.map Letter.char) ∨
      ∃ ds, encode cs ++ tail = encode (ls.map Letter.char ++ 'd' :: ds) := by
  induction cs generalizing r with
  | nil =>
    rw [readCluster] at h
    split at h
    · rename_i clean
      exact ⟨[], Or.inl (by rw [clean]; rfl)⟩
    · exact absurd h Reading.refuse_ne_ok
  | cons c cs ih =>
    rw [readCluster] at h
    split at h
    · exact absurd h Reading.refuse_ne_ok
    · rename_i letter
      obtain ⟨rfl, -⟩ | ⟨l, -, other⟩ | other := letter_cases letter
      · refine ⟨[], Or.inr ?_⟩
        simp only at h
        split at h
        · rename_i empty
          exact ⟨[], by rw [Utf8.encode_cons, List.append_assoc, empty]; rfl⟩
        · obtain ⟨t, value⟩ := Reading.setAttached_text h
          obtain ⟨ds, octets⟩ := text_of_clusterValue value
          exact ⟨ds, by rw [Utf8.encode_cons, List.append_assoc, octets]; rfl⟩
      · exact absurd rfl other
      · exact absurd other (by simp)
    · rename_i x _ letter
      obtain ⟨t, set, later⟩ := bind_eq_ok h
      obtain ⟨-, rfl⟩ | ⟨l, rfl, -⟩ | ends := letter_cases letter
      · contradiction
      · obtain ⟨ls, chars | ⟨ds, chars⟩⟩ := ih later
        · refine ⟨l :: ls, Or.inl ?_⟩
          rw [List.map_cons, Utf8.encode_cons, Utf8.encode_cons, List.append_assoc, chars]
        · refine ⟨l :: ls, Or.inr ⟨ds, ?_⟩⟩
          rw [List.map_cons, List.cons_append, Utf8.encode_cons, Utf8.encode_cons,
            List.append_assoc, chars]
      · exact absurd set (Reading.set_ne_ok ends)

theorem spelled_of_readCluster {b : UInt8} {bs : Bytes} {r s : Reading}
    (h : readCluster (Utf8.split (b :: bs)).2 (Utf8.split (b :: bs)).1 r = .ok s) :
    Spelled (dash :: b :: bs) := by
  obtain ⟨ls, chars | ⟨ds, chars⟩⟩ := letters_of_readCluster h
  · rw [Utf8.encode_split] at chars
    rw [chars, ← encode_dash, ← Utf8.ofText_ofList]
    cases ls with
    | nil => exact absurd chars (by simp)
    | cons l ls => exact .whole (.cluster l ls) rfl
  · rw [Utf8.encode_split] at chars
    rw [chars, ← encode_dash, ← Utf8.ofText_ofList]
    cases ds with
    | nil => exact .asking (.cluster ls) rfl
    | cons d ds =>
      refine .whole (.clusterDir ls ⟨String.ofList (d :: ds), by simp⟩) ?_
      rw [Whole.text, String.toList_ofList]

/-- **What the reader takes for one argument.**  It is spelled as the grammar has it, or it is the
directory that is awaited. -/
theorem spelled_or_value {arg : Bytes} {r s : Reading} (h : readArg r arg = .ok s) :
    Spelled arg ∨ r.pending = .awaited ∧ (arg = [dash] ∨ arg.head? ≠ some dash) ∧
      s = { r with pending := .value arg } := by
  have value (lone : arg = [dash] ∨ arg.head? ≠ some dash) : r.pending = .awaited ∧
      (arg = [dash] ∨ arg.head? ≠ some dash) ∧ s = { r with pending := .value arg } := by
    rw [readArg_lone lone] at h
    split at h
    · exact ⟨‹_›, lone, (Except.ok.inj h).symm⟩
    · exact absurd h Reading.refuse_ne_ok
  match arg with
  | [] => exact Or.inr (value (Or.inr (by simp)))
  | b :: bs =>
    by_cases front : b = dash
    · subst front
      match bs with
      | [] => exact Or.inr (value (Or.inl rfl))
      | c :: bs =>
        by_cases second : c = dash
        · subst second
          exact Or.inl (spelled_of_readLong h)
        · rw [readArg_cluster second] at h
          exact Or.inl (spelled_of_readCluster h)
    · exact Or.inr (value (Or.inr (by simpa using front)))

theorem Whole.settings_ne (w : Whole) : w.settings ≠ [] := by
  cases w <;> simp [settings]

/-- What stood open is settled by an argument of the grammar, and behind one that is complete
nothing is open. -/
theorem settled_of_whole {w : Whole} {r s : Reading}
    (h : readArg r (Bytes.ofText w.text) = .ok s) :
    (∃ t, r.settle = .ok t) ∧ s.pending = .nothing := by
  rw [readArg_whole] at h
  exact Reading.settled_of_obeyAll w.settings_ne h

/-- Behind one that asks for the directory it is awaited. -/
theorem settled_of_asking {a : Asking} {r s : Reading}
    (h : readArg r (Bytes.ofText a.text) = .ok s) :
    (∃ t, r.settle = .ok t) ∧ s.pending = .awaited := by
  rw [readArg_asking] at h
  obtain ⟨t, others, asked⟩ := bind_eq_ok h
  obtain ⟨u, settled, set⟩ := bind_eq_ok asked
  refine ⟨?_, by rw [← Except.ok.inj set]⟩
  by_cases empty : a.settings = []
  · rw [empty] at others
    rw [Except.ok.inj others]
    exact ⟨u, settled⟩
  · exact (Reading.settled_of_obeyAll empty others).1

/-- The reader is at the end, or it reads one argument and goes on. -/
theorem readAll_ok {args : List Bytes} {r s : Reading} (h : readAll args r = .ok s) :
    (args = [] ∨ args = [[dash, dash]]) ∧ r.settle = .ok s ∨
      ∃ arg rest t, args = arg :: rest ∧ readArg r arg = .ok t ∧ readAll rest t = .ok s := by
  match args with
  | [] => exact Or.inl ⟨Or.inl rfl, h⟩
  | arg :: rest =>
    by_cases ended : arg = [dash, dash]
    · subst ended
      match rest with
      | [] => exact Or.inl ⟨Or.inr rfl, h⟩
      | _ :: _ => exact absurd h Reading.refuse_ne_ok
    · rw [readAll_cons ended] at h
      obtain ⟨t, first, later⟩ := bind_eq_ok h
      exact Or.inr ⟨arg, rest, t, rfl, first, later⟩

/-- What is open in the end is settled, unless it is the directory that is awaited. -/
theorem settle_of_readAll {args : List Bytes} {r s : Reading} (idle : r.pending ≠ .awaited)
    (h : readAll args r = .ok s) : ∃ t, r.settle = .ok t := by
  obtain ⟨-, settled⟩ | ⟨arg, rest, t, -, first, -⟩ := readAll_ok h
  · exact ⟨s, settled⟩
  obtain (⟨w, rfl⟩ | ⟨a, rfl⟩) | ⟨awaited, -⟩ := spelled_or_value first
  · exact (settled_of_whole first).1
  · exact (settled_of_asking first).1
  · exact absurd awaited idle

theorem not_awaited {r s : Reading} (h : r.settle = .ok s) : r.pending ≠ .awaited := by
  intro awaited
  rw [Reading.settle, awaited] at h
  exact absurd h Reading.refuse_ne_ok

/-- A value that is settled is one that may stand in an argument of its own. -/
theorem loneValue_of_settle {arg : Bytes} {r s : Reading}
    (lone : arg = [dash] ∨ arg.head? ≠ some dash)
    (h : Reading.settle { r with pending := .value arg } = .ok s) :
    ∃ v : LoneValue, arg = Bytes.ofText v.text := by
  obtain ⟨t, rfl⟩ := Reading.setDir_text h
  exact ⟨⟨t, (lone_iff t).mp lone⟩, rfl⟩

/-- **What is read the grammar allows.**  The induction is on the arguments.  Where the directory is
awaited its value comes first, and the grammar has what comes behind it. -/
theorem commandLine_of_readAll {args : List Bytes} {r s : Reading} (h : readAll args r = .ok s) :
    (r.pending ≠ .awaited → ∃ items ended, args = commandLine items ended) ∧
      (r.pending = .awaited → ∃ (v : LoneValue) (items : List Item) (ended : Bool),
        args = Bytes.ofText v.text :: commandLine items ended) := by
  obtain ⟨ended | ended, settled⟩ | ⟨arg, rest, t, parts, first, later⟩ := readAll_ok h
  · exact ⟨fun _ => ⟨[], false, ended⟩, fun awaited => absurd awaited (not_awaited settled)⟩
  · exact ⟨fun _ => ⟨[], true, ended⟩, fun awaited => absurd awaited (not_awaited settled)⟩
  subst parts
  have behind := commandLine_of_readAll later
  obtain (⟨w, rfl⟩ | ⟨a, rfl⟩) | ⟨awaited, lone, rfl⟩ := spelled_or_value first
  · obtain ⟨⟨u, settled⟩, idle⟩ := settled_of_whole first
    refine ⟨fun _ => ?_, fun awaited => absurd awaited (not_awaited settled)⟩
    obtain ⟨items, ended, rfl⟩ := behind.1 (by rw [idle]; simp)
    exact ⟨.whole w :: items, ended, rfl⟩
  · obtain ⟨⟨u, settled⟩, asked⟩ := settled_of_asking first
    refine ⟨fun _ => ?_, fun awaited => absurd awaited (not_awaited settled)⟩
    obtain ⟨v, items, ended, rfl⟩ := behind.2 asked
    exact ⟨.pair a v :: items, ended, rfl⟩
  · refine ⟨fun idle => absurd awaited idle, fun _ => ?_⟩
    obtain ⟨items, ended, rfl⟩ := behind.1 (by simp)
    -- That the value is a text shows only when it is settled, by what comes behind it.
    obtain ⟨u, settled⟩ := settle_of_readAll (by simp) later
    obtain ⟨v, rfl⟩ := loneValue_of_settle lone settled
    exact ⟨v, items, ended, rfl⟩
termination_by args.length

end PinnedFetch.Args
