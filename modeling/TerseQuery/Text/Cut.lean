/-!
# Cutting and folding texts

Cutting a text at the first occurrence of another one, and comparing texts without regard to the case
of ASCII letters. Main statement: a cut loses nothing (`append_of_cut?`).
-/
namespace TerseQuery.Text

/-- The parts before and after the first occurrence of `mark`. -/
def cut? (mark : List Char) : List Char → Option (List Char × List Char)
  | [] => if mark.isEmpty then some ([], []) else none
  | c :: rest =>
    if mark.isPrefixOf (c :: rest) then some ([], (c :: rest).drop mark.length)
    else (cut? mark rest).map fun parts => (c :: parts.1, parts.2)

/-- The parts of a string before and after the first occurrence of a mark. -/
def cutAt? (s mark : String) : Option (String × String) :=
  (cut? mark.toList s.toList).map fun parts => (String.ofList parts.1, String.ofList parts.2)

/-- What follows `start` in a string that starts with it. -/
def strip? (s start : String) : Option String :=
  if start.toList.isPrefixOf s.toList then some (String.ofList (s.toList.drop start.length)) else none

/-- A string with its ASCII letters in lower case. -/
def lower (s : String) : String :=
  s.map Char.toLower

/-- Equality up to the case of ASCII letters. -/
def equalFolded (a b : String) : Bool :=
  lower a == lower b

theorem append_of_cut? {mark cs before after : List Char} (h : cut? mark cs = some (before, after)) :
    cs = before ++ mark ++ after := by
  induction cs generalizing before with
  | nil =>
    unfold cut? at h
    split at h
    · simp_all
    · simp at h
  | cons c rest ih =>
    unfold cut? at h
    split at h
    · rename_i found
      obtain ⟨tail, split⟩ := List.isPrefixOf_iff_prefix.1 found
      simp only [Option.some.injEq, Prod.mk.injEq] at h
      obtain ⟨rfl, rfl⟩ := h
      rw [← split]
      simp
    · simp only [Option.map_eq_some_iff] at h
      obtain ⟨⟨inner, outer⟩, found, same⟩ := h
      simp only [Prod.mk.injEq] at same
      obtain ⟨rfl, rfl⟩ := same
      simp [ih found]

theorem append_of_strip? {s start rest : String} (h : strip? s start = some rest) : s = start ++ rest := by
  unfold strip? at h
  split at h
  · rename_i found
    obtain ⟨tail, split⟩ := List.isPrefixOf_iff_prefix.1 found
    simp only [Option.some.injEq] at h
    rw [← String.toList_inj, ← h, String.toList_append, String.toList_ofList, ← split,
      ← String.length_toList, List.drop_left]
  · simp at h

end TerseQuery.Text
