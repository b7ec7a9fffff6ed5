/-
# Fields

A separator cuts a text into fields.  `firstField` is what stands before the first separator, so it
never holds one (`sep_not_mem_firstField`), and `secondField?` is the same of what stands behind it,
if there is a separator at all.  `fields` are all of them, the second among them
(`secondField?_eq_getElem?`), and with the separator between them they give the text back
(`intercalate_fields`).  Two texts with a separator between them have the fields of both
(`fields_append_sep`).
-/

namespace PinnedFetch.Text

/-- The characters before the first separator, or all of them. -/
def firstField (sep : Char) (cs : List Char) : List Char := cs.takeWhile (· != sep)

/-- The characters after the first separator, if there is one. -/
def afterField? (sep : Char) (cs : List Char) : Option (List Char) :=
  match cs.dropWhile (· != sep) with
  | [] => none
  | _ :: rest => some rest

/-- The characters strictly between the first separator and the second, or the end. -/
def secondField? (sep : Char) (cs : List Char) : Option (List Char) :=
  (afterField? sep cs).map (firstField sep)

/-- All the fields of a text: one more than it has separators. -/
def fields (sep : Char) : List Char → List (List Char)
  | [] => [[]]
  | c :: cs =>
    if c = sep then [] :: fields sep cs
    else match fields sep cs with
      | [] => [[c]]
      | f :: fs => (c :: f) :: fs

/-! ## Runs -/

section Runs

variable {α : Type} {p : α → Bool} {run rest : List α}

/-- No run starts where what comes first does not belong to one. -/
theorem no_run (ends : ∀ a, rest.head? = some a → p a = false) :
    rest.takeWhile p = [] ∧ rest.dropWhile p = rest := by
  cases rest with
  | nil => exact ⟨rfl, rfl⟩
  | cons a rest =>
    have out : ¬ p a = true := by simp [ends a rfl]
    exact ⟨List.takeWhile_cons_of_neg out, List.dropWhile_cons_of_neg out⟩

/-- A run is taken whole, up to what does not belong to it. -/
theorem takeWhile_run (inside : ∀ a ∈ run, p a = true)
    (ends : ∀ a, rest.head? = some a → p a = false) : (run ++ rest).takeWhile p = run := by
  rw [List.takeWhile_append_of_pos inside, (no_run ends).1, List.append_nil]

theorem dropWhile_run (inside : ∀ a ∈ run, p a = true)
    (ends : ∀ a, rest.head? = some a → p a = false) : (run ++ rest).dropWhile p = rest := by
  rw [List.dropWhile_append_of_pos inside, (no_run ends).2]

end Runs

/-! ## The first two fields -/

theorem sep_not_mem_firstField (sep : Char) (cs : List Char) : sep ∉ firstField sep cs := by
  induction cs with
  | nil => simp [firstField]
  | cons c cs ih =>
    simp only [firstField, List.takeWhile_cons]
    by_cases h : c = sep
    · simp [h]
    · simpa [h, Ne.symm h, firstField] using ih

/-- A text without a separator is one field. -/
theorem secondField?_of_not_mem {sep : Char} {cs : List Char} (h : sep ∉ cs) :
    secondField? sep cs = none := by
  have hd : cs.dropWhile (· != sep) = [] := by
    induction cs with
    | nil => rfl
    | cons c cs ih =>
      rw [List.mem_cons, not_or] at h
      simpa [Ne.symm h.1] using ih h.2
  simp [secondField?, afterField?, hd]

/-! ## All the fields -/

theorem fields_ne_nil (sep : Char) (cs : List Char) : fields sep cs ≠ [] := by
  cases cs with
  | nil => simp [fields]
  | cons c cs =>
    simp only [fields]
    split
    · simp
    · split <;> simp

theorem fields_sep (sep : Char) (cs : List Char) :
    fields sep (sep :: cs) = [] :: fields sep cs := by
  simp [fields]

theorem fields_cons_of_ne {sep c : Char} (h : c ≠ sep) (cs : List Char) :
    ∃ f fs, fields sep cs = f :: fs ∧ fields sep (c :: cs) = (c :: f) :: fs := by
  obtain ⟨f, fs, e⟩ := List.exists_cons_of_ne_nil (fields_ne_nil sep cs)
  exact ⟨f, fs, e, by simp [fields, h, e]⟩

theorem head?_fields (sep : Char) (cs : List Char) :
    (fields sep cs).head? = some (firstField sep cs) := by
  induction cs with
  | nil => rfl
  | cons c cs ih =>
    by_cases hc : c = sep
    · subst hc
      rw [fields_sep]
      simp [firstField]
    · obtain ⟨f, fs, e, e'⟩ := fields_cons_of_ne hc cs
      rw [e, List.head?_cons, Option.some.injEq] at ih
      rw [e', ih]
      simp [firstField, hc]

/-- The second field is the one at the second place. -/
theorem secondField?_eq_getElem? (sep : Char) (cs : List Char) :
    secondField? sep cs = (fields sep cs)[1]? := by
  induction cs with
  | nil => rfl
  | cons c cs ih =>
    by_cases hc : c = sep
    · subst hc
      rw [fields_sep, List.getElem?_cons_succ, ← List.head?_eq_getElem?, head?_fields]
      simp [secondField?, afterField?]
    · obtain ⟨f, fs, e, e'⟩ := fields_cons_of_ne hc cs
      have on : secondField? sep (c :: cs) = secondField? sep cs := by
        simp [secondField?, afterField?, hc]
      rw [on, ih, e, e', List.getElem?_cons_succ, List.getElem?_cons_succ]

/-- A text without a separator is its only field. -/
theorem fields_of_not_mem {sep : Char} {cs : List Char} (h : sep ∉ cs) : fields sep cs = [cs] := by
  induction cs with
  | nil => rfl
  | cons c cs ih =>
    rw [List.mem_cons, not_or] at h
    simp [fields, Ne.symm h.1, ih h.2]

/-- The fields before a separator, then those behind it. -/
theorem fields_append_sep (sep : Char) (cs ds : List Char) :
    fields sep (cs ++ sep :: ds) = fields sep cs ++ fields sep ds := by
  induction cs with
  | nil => exact fields_sep sep ds
  | cons c cs ih =>
    by_cases hc : c = sep
    · subst hc
      rw [List.cons_append, fields_sep, fields_sep, ih, List.cons_append]
    · obtain ⟨f, fs, e, e'⟩ := fields_cons_of_ne hc cs
      obtain ⟨g, gs, d, d'⟩ := fields_cons_of_ne hc (cs ++ sep :: ds)
      have both : g :: gs = f :: (fs ++ fields sep ds) := by rw [← d, ih, e, List.cons_append]
      obtain ⟨rfl, rfl⟩ := List.cons.inj both
      rw [List.cons_append, d', e', List.cons_append]

/-- **The fields, with the separator between them, are the text.** -/
theorem intercalate_fields (sep : Char) (cs : List Char) :
    [sep].intercalate (fields sep cs) = cs := by
  induction cs with
  | nil => simp [fields, List.intercalate]
  | cons c cs ih =>
    by_cases hc : c = sep
    · subst hc
      obtain ⟨f, fs, e⟩ := List.exists_cons_of_ne_nil (fields_ne_nil c cs)
      rw [fields_sep]
      rw [e] at ih ⊢
      rw [List.intercalate_cons_cons, ih]
      simp
    · obtain ⟨f, fs, e, e'⟩ := fields_cons_of_ne hc cs
      rw [e] at ih
      rw [e']
      cases fs with
      | nil => simpa [List.intercalate] using ih
      | cons g gs =>
        rw [List.intercalate_cons_cons] at ih ⊢
        simpa using ih

end PinnedFetch.Text
