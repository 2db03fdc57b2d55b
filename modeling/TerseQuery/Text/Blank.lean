import TerseQuery.Text.Ranges

/-!
# Blanks

Blanks are the code points with the property `White_Space`. Texts are trimmed of them and cut into
words at them.
-/
namespace TerseQuery.Text

/-- All blanks. -/
def blankRanges : List (Nat × Nat) := [
  (0x9, 0xD), (0x20, 0x20), (0x85, 0x85), (0xA0, 0xA0), (0x1680, 0x1680), (0x2000, 0x200A),
  (0x2028, 0x2029), (0x202F, 0x202F), (0x205F, 0x205F), (0x3000, 0x3000)]

/-- A blank: a space, tab or line break of any script. -/
def isBlank (c : Char) : Bool :=
  inRanges blankRanges c.toNat

/-- A text without the blanks it starts with. -/
def trimStart (cs : List Char) : List Char :=
  cs.dropWhile isBlank

/-- A text without the blanks it ends with. -/
def trimEnd (cs : List Char) : List Char :=
  (cs.reverse.dropWhile isBlank).reverse

/-- A text without the blanks around it. -/
def trim (cs : List Char) : List Char :=
  trimEnd (trimStart cs)

/-- The words of a text, `word` being the part of the first word that is read already. -/
def wordsFrom (word : List Char) : List Char → List (List Char)
  | [] => if word.isEmpty then [] else [word]
  | c :: rest =>
    if isBlank c then
      if word.isEmpty then wordsFrom [] rest else word :: wordsFrom [] rest
    else wordsFrom (word ++ [c]) rest

/-- The maximal runs of characters other than blanks, in order. -/
def words (s : String) : List String :=
  (wordsFrom [] s.toList).map String.ofList

theorem wordsFrom_ne_nil {word cs : List Char} :
    ∀ w ∈ wordsFrom word cs, w ≠ [] := by
  induction cs generalizing word with
  | nil => unfold wordsFrom; split <;> simp_all
  | cons c rest ih =>
    unfold wordsFrom
    split
    · split
      · exact ih
      · intro w member
        rcases List.mem_cons.1 member with rfl | later
        · simp_all
        · exact ih w later
    · exact ih

end TerseQuery.Text
