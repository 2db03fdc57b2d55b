import TerseQuery.Text.Blank

/-!
# Words of texts

The words of a text are its runs of characters other than blanks.

* `isWord_of_mem_words`: each is such a run;
* `words_intercalate`: words that are joined by single spaces are read back.
-/

namespace TerseQuery.Text

/-- A run of characters other than blanks. -/
def IsWord (word : String) : Prop :=
  word ≠ "" ∧ ∀ c ∈ word.toList, isBlank c = false

theorem isWord_iff {word : String} :
    IsWord word ↔ word ≠ "" ∧ word.toList.all (fun c => !isBlank c) = true := by
  simp [IsWord]

instance {word : String} : Decidable (IsWord word) := decidable_of_iff _ isWord_iff.symm

section
variable {word run cs : List Char}

/-- A run of characters other than blanks goes on with the word before it. -/
theorem wordsFrom_append (h : ∀ c ∈ run, isBlank c = false) (rest : List Char) :
    wordsFrom word (run ++ rest) = wordsFrom (word ++ run) rest := by
  induction run generalizing word with
  | nil => simp
  | cons c run ih =>
    have hc : isBlank c = false := h c List.mem_cons_self
    simp only [List.cons_append, wordsFrom, hc, Bool.false_eq_true, ↓reduceIte]
    rw [ih fun d hd => h d (List.mem_cons_of_mem _ hd), List.append_assoc, List.singleton_append]

theorem not_isBlank_of_mem_wordsFrom (hword : ∀ c ∈ word, isBlank c = false) :
    ∀ w ∈ wordsFrom word cs, ∀ c ∈ w, isBlank c = false := by
  have hnil : ∀ c ∈ ([] : List Char), isBlank c = false := fun _ hc => absurd hc List.not_mem_nil
  induction cs generalizing word with
  | nil =>
    rw [wordsFrom]
    split
    · exact fun _ hw => absurd hw List.not_mem_nil
    · intro w hw
      rw [List.mem_singleton.mp hw]
      exact hword
  | cons c rest ih =>
    rw [wordsFrom]
    split
    · split
      · exact ih hnil
      · intro w hw
        rcases List.mem_cons.mp hw with rfl | hlater
        · exact hword
        · exact ih hnil w hlater
    · rename_i hc
      apply ih
      intro d hd
      rcases List.mem_append.mp hd with hbefore | hhere
      · exact hword d hbefore
      · rw [List.mem_singleton.mp hhere]
        exact Bool.eq_false_iff.mpr hc

end

theorem isWord_of_mem_words {s word : String} (h : word ∈ words s) : IsWord word := by
  obtain ⟨cs, hcs, rfl⟩ := List.mem_map.mp h
  have hnil : ∀ c ∈ ([] : List Char), isBlank c = false := fun _ hc => absurd hc List.not_mem_nil
  rw [IsWord, String.toList_ofList]
  exact ⟨by simpa using wordsFrom_ne_nil cs hcs, not_isBlank_of_mem_wordsFrom hnil cs hcs⟩

/-- Words that are joined by single spaces are read back. -/
theorem words_intercalate {ws : List String} (h : ∀ word ∈ ws, IsWord word) :
    words (String.intercalate " " ws) = ws := by
  have hspace : isBlank ' ' = true := by decide
  have hread : wordsFrom [] ([' '].intercalate (ws.map String.toList)) = ws.map String.toList := by
    induction ws with
    | nil => rfl
    | cons word rest ih =>
      obtain ⟨hne, hchars⟩ := h word List.mem_cons_self
      have hsome : word.toList.isEmpty = false := by simpa using hne
      cases rest with
      | nil =>
        have hend : wordsFrom [] (word.toList ++ []) = wordsFrom ([] ++ word.toList) [] :=
          wordsFrom_append hchars []
        rw [List.append_nil, List.nil_append, wordsFrom, hsome] at hend
        rw [List.map_cons, List.map_nil, List.intercalate_singleton]
        exact hend
      | cons next rest =>
        have hlater := ih fun other hother => h other (List.mem_cons_of_mem _ hother)
        rw [List.map_cons] at hlater
        rw [List.map_cons, List.map_cons, List.intercalate_cons_cons, List.append_assoc,
          wordsFrom_append hchars, List.nil_append, List.singleton_append, wordsFrom, hspace, hsome, hlater]
        rfl
  rw [words, String.toList_intercalate]
  have hsep : " ".toList = [' '] := rfl
  rw [hsep, hread, List.map_map]
  simp

end TerseQuery.Text
