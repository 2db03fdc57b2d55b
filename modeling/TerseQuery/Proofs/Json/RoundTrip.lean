import Mathlib.Data.List.DropRight
import Mathlib.Data.List.TakeWhile
import TerseQuery.Json.Printer
import TerseQuery.Json.Reader
import TerseQuery.Proofs.Text.Numeral

/-!
# Values read as they were written

* `readText_quoted`: a text in quotes is read up to the quote that closes it, whatever characters it has;
* `readNumber_integer`: an integer of 64 bits is read to its last digit;
* `read?_pretty`: a value is read from its indented form as it was, but for the order of fields.

Doubles are left out: `isExact` holds of values without them.
-/

namespace TerseQuery.Json

open Text (NumeralChar numeralSigns digitsValue digitsValue_toDigits isDigit_of_mem_toDigits)

/-! ## Texts -/

theorem hexUnit?_control :
    ∀ n < 0x20, hexUnit? '0' '0' (hexChar (n / 16)) (hexChar (n % 16)) = some n := by
  decide

theorem readText_plain {c : Char} (hquote : c ≠ '"') (hslash : c ≠ '\\') (hcontrol : 0x20 ≤ c.toNat)
    (rest : List Char) : readText (c :: rest) = consRead c (readText rest) := by
  rw [readText]
  · rw [if_neg (by omega)]
  · exact hquote
  · exact fun _ _ _ _ _ h _ => hslash h
  · exact fun _ _ h _ => hslash h

/-- An escaped character is read as the character, and reading goes on behind it. -/
theorem readText_escape (c : Char) (rest : List Char) :
    readText (escape c ++ rest) = consRead c (readText rest) := by
  unfold escape
  split
  case h_8 hquote hslash _ _ _ _ _ =>
    split
    · rename_i hcontrol
      have hunit := hexUnit?_control c.toNat hcontrol
      simp only [List.cons_append, List.nil_append]
      rw [readText, hunit]
      dsimp only
      rw [if_pos (.inl (by omega)), Char.ofNat_toNat]
    · exact readText_plain hquote hslash (by omega) rest
  all_goals rfl

theorem readText_quoted (s : String) (rest : List Char) :
    readText (s.toList.flatMap escape ++ '"' :: rest) = some (s.toList, rest) := by
  induction s.toList with
  | nil => simp [readText]
  | cons c cs ih =>
    rw [List.flatMap_cons, List.append_assoc, readText_escape, ih]
    rfl

/-! ## Numbers -/

/-- What follows a number: nothing that could be part of it. -/
def EndsNumber (rest : List Char) : Prop :=
  ∀ c ∈ rest.head?, ¬ NumeralChar c

theorem endsNumber_nil : EndsNumber [] := by
  intro c hc
  cases hc

theorem endsNumber_cons {c : Char} {rest : List Char} (h : ¬ NumeralChar c) : EndsNumber (c :: rest) := by
  intro d hd
  cases hd
  exact h

theorem readDigits_append {digits rest : List Char} (h : ∀ c ∈ digits, c.isDigit = true)
    (hrest : EndsNumber rest) : readDigits (digits ++ rest) = (digits, rest) := by
  have hstop : rest.head?.all (fun c => !c.isDigit) = true := by
    cases rest with
    | nil => rfl
    | cons c rest =>
      have : c.isDigit ≠ true := fun hc => hrest c rfl (.inl hc)
      simpa using this
  rw [readDigits]
  induction digits with
  | nil =>
    cases rest with
    | nil => rfl
    | cons c rest => 
      have hc : c.isDigit = false := by simpa using hstop
      simp [hc]
  | cons d digits ih =>
    have hd := h d List.mem_cons_self
    have ih := ih fun c hc => h c (List.mem_cons_of_mem _ hc)
    simp only [Prod.mk.injEq] at ih ⊢
    simp [hd, ih.1, ih.2]

/-- Only zero is written with a zero in front. -/
theorem head?_toDigits_ne_zero {n : Nat} (h : 0 < n) : (Nat.toDigits 10 n).head? ≠ some '0' := by
  induction n using Nat.strongRecOn with
  | ind n ih =>
    rw [Nat.toDigits_eq_if (by decide)]
    split
    · rename_i hlt
      have hall : ∀ m < 10, 0 < m → ([Nat.digitChar m]).head? ≠ some '0' := by decide
      exact hall n hlt h
    · rename_i hge
      have hhead := ih (n / 10) (by omega) (by omega)
      rw [List.head?_append]
      cases hdigits : Nat.toDigits 10 (n / 10) with
      | nil => exact absurd hdigits Nat.toDigits_ne_nil
      | cons d digits =>
        rw [hdigits] at hhead
        exact hhead

theorem readUnsigned_append {negative : Bool} {n : Nat} {value : Json} {rest : List Char}
    (hrest : EndsNumber rest) (hvalue : wholeNumber? negative (Nat.toDigits 10 n) = some value) :
    readUnsigned negative (Nat.toDigits 10 n ++ rest) = some (value, rest) := by
  have hdigits : ∀ c ∈ Nat.toDigits 10 n, c.isDigit = true := fun c hc => isDigit_of_mem_toDigits hc
  have hplain : (Nat.toDigits 10 n).isEmpty = false := by simp
  have hzero :
      ((Nat.toDigits 10 n).head? == some '0' && decide ((Nat.toDigits 10 n).length > 1)) = false := by
    cases n with
    | zero => decide
    | succ n => simp [head?_toDigits_ne_zero (Nat.succ_pos n)]
  have hfraction : readFraction rest = some (none, rest) := by
    cases rest with
    | nil => rfl
    | cons c rest =>
      have hc : c ≠ '.' := by rintro rfl; exact hrest '.' rfl (.inr (by decide))
      rw [readFraction]
      rintro _ h
      cases h
      exact hc rfl
  have hexponent : readExponent rest = some (none, rest) := by
    cases rest with
    | nil => rfl
    | cons c rest =>
      have he : c ≠ 'e' := by rintro rfl; exact hrest 'e' rfl (.inr (by decide))
      have hE : c ≠ 'E' := by rintro rfl; exact hrest 'E' rfl (.inr (by decide))
      simp [readExponent, he, hE]
  rw [readUnsigned, readDigits_append hdigits hrest]
  simp [hplain, hzero, hfraction, hexponent, hvalue]


theorem wholeNumber?_natural {n : Nat} (h : n ≤ greatestInteger) :
    wholeNumber? false (Nat.toDigits 10 n) = some (.integer n) := by
  simp [wholeNumber?, digitsValue_toDigits, h]

theorem wholeNumber?_negative {n : Nat} (hpos : 0 < n) (h : n ≤ UInt64.size / 2) :
    wholeNumber? true (Nat.toDigits 10 n) = some (.integer (-n)) := by
  simp [wholeNumber?, digitsValue_toDigits, hpos, h]

/-- Whether an integer is kept exact: it has 64 bits, with or without a sign. -/
def isWord (n : Int) : Bool :=
  decide (-(UInt64.size / 2 : Nat) ≤ n ∧ n ≤ greatestInteger)

theorem toString_natural (n : Nat) : (toString (Int.ofNat n)).toList = Nat.toDigits 10 n :=
  Text.toList_toString n

theorem toString_negative (n : Nat) : (toString (Int.negSucc n)).toList = '-' :: Nat.toDigits 10 (n + 1) := by
  change ("-" ++ toString (n + 1)).toList = _
  rw [Nat.toString_eq_ofList_toDigits, String.toList_append]
  simp

theorem readNumber_integer {n : Int} (h : isWord n = true) {rest : List Char} (hrest : EndsNumber rest) :
    readNumber ((toString n).toList ++ rest) = some (.integer n, rest) := by
  obtain ⟨hlow, hhigh⟩ : -(UInt64.size / 2 : Nat) ≤ n ∧ n ≤ greatestInteger := by
    simpa [isWord] using h
  cases n with
  | ofNat n =>
    have hbound : n ≤ greatestInteger := Int.ofNat_le.mp hhigh
    have hread := readUnsigned_append hrest (wholeNumber?_natural hbound)
    rw [toString_natural, readNumber]
    · exact hread
    · -- a digit is no sign
      intro tail htail
      cases hdigits : Nat.toDigits 10 n with
      | nil => exact Nat.toDigits_ne_nil hdigits
      | cons d digits =>
        rw [hdigits] at htail
        have hd : d.isDigit = true := isDigit_of_mem_toDigits (n := n) (by simp [hdigits])
        rw [(List.cons.inj htail).1] at hd
        exact absurd hd (by decide)
  | negSucc n =>
    rw [toString_negative, List.cons_append, readNumber]
    exact readUnsigned_append hrest (wholeNumber?_negative (Nat.succ_pos n) (by omega))

/-! ## Values -/


mutual

/-- Whether a value is kept exact: its numbers are integers of 64 bits, and at most `depth` lists and records
stand around each other. -/
def isExact : (depth : Nat) → Json → Bool
  | _, .integer n => isWord n
  | _, .real _ => false
  | depth + 1, .list items => itemsExact depth items
  | depth + 1, .record fields => fieldsExact depth fields
  | 0, .list _ => false
  | 0, .record _ => false
  | _, _ => true

def itemsExact (depth : Nat) : List Json → Bool
  | [] => true
  | item :: rest => isExact depth item && itemsExact depth rest

def fieldsExact (depth : Nat) : List (String × Json) → Bool
  | [] => true
  | (_, value) :: rest => isExact depth value && fieldsExact depth rest

end

mutual

/-- The value with the fields of all its records in order of names. -/
def ordered : Json → Json
  | .list items => .list (orderedItems items)
  | .record fields => .record (sortEntries (orderedFields fields))
  | value => value

def orderedItems : List Json → List Json
  | [] => []
  | item :: rest => ordered item :: orderedItems rest

def orderedFields : List (String × Json) → List (String × Json)
  | [] => []
  | (name, value) :: rest => (name, ordered value) :: orderedFields rest

end

theorem skipSpace_newLine (level : Nat) (cs : List Char) :
    skipSpace (newLine level ++ cs) = skipSpace cs := by
  rw [skipSpace, List.dropWhile_append_of_pos]
  · rfl
  · intro c hc
    rcases List.mem_cons.mp hc with rfl | hc
    · rfl
    · rw [List.eq_of_mem_replicate hc]
      rfl

/-- A number is read where no other value can start. -/
theorem readValue_number {c : Char} (h : NumeralChar c) (fuel depth : Nat) (cs : List Char) :
    readValue (fuel + 1) depth (c :: cs) = readNumber (c :: cs) := by
  have hne : ∀ d ∈ [' ', '\n', '\t', '\r', '"', '[', '\x7b', 'n', 't', 'f'], c ≠ d := by
    have hall : ∀ d ∈ [' ', '\n', '\t', '\r', '"', '[', '\x7b', 'n', 't', 'f'],
        d.isDigit = false ∧ d ∉ numeralSigns := by simp [numeralSigns]
    exact fun d hd => h.ne (hall d hd).1 (hall d hd).2
  simp only [List.mem_cons, List.not_mem_nil, or_false, forall_eq_or_imp, forall_eq] at hne
  have hskip : skipSpace (c :: cs) = c :: cs := by simp [skipSpace, isSpace, hne]
  rw [readValue, hskip]
  split <;> simp_all

theorem exists_toString_eq_cons (n : Int) : ∃ c cs, (toString n).toList = c :: cs ∧ NumeralChar c := by
  cases n with
  | ofNat n =>
    cases hdigits : Nat.toDigits 10 n with
    | nil => exact absurd hdigits Nat.toDigits_ne_nil
    | cons d digits =>
      have hd : d.isDigit = true := isDigit_of_mem_toDigits (n := n) (by simp [hdigits])
      exact ⟨d, digits, (toString_natural n).trans hdigits, .inl hd⟩
  | negSucc n => exact ⟨'-', _, toString_negative n, .inr (by decide)⟩

theorem readValue_integer {n : Int} (h : isWord n = true) {rest : List Char} (hrest : EndsNumber rest)
    (fuel depth : Nat) :
    readValue (fuel + 1) depth ((toString n).toList ++ rest) = some (.integer n, rest) := by
  have hread := readNumber_integer h hrest
  obtain ⟨c, cs, hchars, hc⟩ := exists_toString_eq_cons n
  rw [hchars] at hread ⊢
  rw [← hread]
  exact readValue_number hc fuel depth (cs ++ rest)

theorem skipSpace_cons {c : Char} (h : isSpace c = false) (rest : List Char) :
    skipSpace (c :: rest) = c :: rest := by
  simp [skipSpace, h]

theorem skipSpace_skipSpace (cs : List Char) : skipSpace (skipSpace cs) = skipSpace cs :=
  List.dropWhile_idempotent isSpace cs

theorem readValue_skipSpace (fuel depth : Nat) (cs : List Char) :
    readValue fuel depth (skipSpace cs) = readValue fuel depth cs := by
  cases fuel with
  | zero => rfl
  | succ fuel => rw [readValue, readValue, skipSpace_skipSpace]

theorem readItems_skipSpace (fuel depth : Nat) (cs : List Char) :
    readItems fuel depth (skipSpace cs) = readItems fuel depth cs := by
  cases fuel with
  | zero => rfl
  | succ fuel => rw [readItems, readItems, readValue_skipSpace]

theorem readFields_skipSpace (fuel depth : Nat) (cs : List Char) :
    readFields fuel depth (skipSpace cs) = readFields fuel depth cs := by
  cases fuel with
  | zero => rfl
  | succ fuel => rw [readFields, readFields, skipSpace_skipSpace]

theorem readValue_text (s : String) (fuel depth : Nat) (rest : List Char) :
    readValue (fuel + 1) depth (quoted s ++ rest) = some (.text s, rest) := by
  have hquoted : quoted s ++ rest = '"' :: (s.toList.flatMap escape ++ '"' :: rest) := by simp [quoted]
  rw [hquoted, readValue, skipSpace_cons (by decide)]
  simp [readText_quoted]

theorem readItems_bracket (fuel depth : Nat) (cs : List Char) : readItems fuel depth (']' :: cs) = none := by
  cases fuel with
  | zero => rfl
  | succ fuel =>
    cases fuel with
    | zero => rfl
    | succ fuel =>
      simp [readItems, readValue, skipSpace, isSpace, readNumber, readUnsigned, readDigits]

theorem readFields_brace (fuel depth : Nat) (cs : List Char) :
    readFields fuel depth ('\x7d' :: cs) = none := by
  cases fuel with
  | zero => rfl
  | succ fuel => simp [readFields, skipSpace, isSpace]

theorem readValue_opened (fuel depth : Nat) (cs : List Char) :
    readValue (fuel + 1) (depth + 1) ('[' :: cs) =
      match skipSpace cs with
      | ']' :: after => some (.list [], after)
      | items => (readItems fuel depth items).map fun parts => (.list parts.1, parts.2) := rfl

theorem readValue_list {fuel depth : Nat} {cs after : List Char} {items : List Json}
    (h : readItems fuel depth cs = some (items, after)) :
    readValue (fuel + 1) (depth + 1) ('[' :: cs) = some (.list items, after) := by
  rw [← readItems_skipSpace] at h
  rw [readValue_opened]
  split
  · rename_i hbracket
    rw [hbracket, readItems_bracket] at h
    cases h
  · rw [h]
    rfl

theorem readValue_openedRecord (fuel depth : Nat) (cs : List Char) :
    readValue (fuel + 1) (depth + 1) ('\x7b' :: cs) =
      match skipSpace cs with
      | '\x7d' :: after => some (.record [], after)
      | fields =>
        (readFields fuel depth fields).map fun parts => (.record (sortEntries parts.1), parts.2) := rfl

theorem readValue_record {fuel depth : Nat} {cs after : List Char} {fields : List (String × Json)}
    (h : readFields fuel depth cs = some (fields, after)) :
    readValue (fuel + 1) (depth + 1) ('\x7b' :: cs) = some (.record (sortEntries fields), after) := by
  rw [← readFields_skipSpace] at h
  rw [readValue_openedRecord]
  split
  · rename_i hbrace
    rw [hbrace, readFields_brace] at h
    cases h
  · rw [h]
    rfl

theorem readItems_last {fuel depth level : Nat} {cs after : List Char} {item : Json}
    (h : readValue fuel depth cs = some (item, newLine level ++ ']' :: after)) :
    readItems (fuel + 1) depth cs = some ([item], after) := by
  rw [readItems, h]
  dsimp only
  rw [skipSpace_newLine, skipSpace_cons (by decide)]
  rfl

theorem readItems_more {fuel depth : Nat} {cs more after : List Char} {item : Json} {items : List Json}
    (h : readValue fuel depth cs = some (item, ',' :: more))
    (hmore : readItems fuel depth more = some (items, after)) :
    readItems (fuel + 1) depth cs = some (item :: items, after) := by
  rw [readItems, h]
  dsimp only
  rw [skipSpace_cons (by decide)]
  simp [hmore]

/-- A field on a line of its own, up to its value. -/
def fieldLine (level : Nat) (name : String) (cs : List Char) : List Char :=
  newLine level ++ (quoted name ++ ':' :: ' ' :: cs)

/-- The value of a field is read where its name and a colon end. -/
theorem readFields_fieldLine (fuel depth level : Nat) (name : String) (cs : List Char) :
    readFields (fuel + 1) depth (fieldLine level name cs) =
      (readValue fuel depth cs).bind fun parts =>
        match skipSpace parts.2 with
        | ',' :: more => (readFields fuel depth more).map fun rest => ((name, parts.1) :: rest.1, rest.2)
        | '\x7d' :: after => some ([(name, parts.1)], after)
        | _ => none := by
  have hquoted : quoted name ++ ':' :: ' ' :: cs =
      '"' :: (name.toList.flatMap escape ++ '"' :: ':' :: ' ' :: cs) := by simp [quoted]
  have hspace : readValue fuel depth (' ' :: cs) = readValue fuel depth cs := by
    rw [← readValue_skipSpace, ← readValue_skipSpace fuel depth cs]
    rfl
  rw [fieldLine, readFields, skipSpace_newLine, hquoted, skipSpace_cons (by decide)]
  simp only [readText_quoted, skipSpace_cons (c := ':') (by decide), hspace, String.ofList_toList]
  cases readValue fuel depth cs <;> rfl

theorem readFields_last {fuel depth level close : Nat} {name : String} {cs after : List Char} {value : Json}
    (h : readValue fuel depth cs = some (value, newLine close ++ '\x7d' :: after)) :
    readFields (fuel + 1) depth (fieldLine level name cs) = some ([(name, value)], after) := by
  rw [readFields_fieldLine, h, Option.bind_some]
  dsimp only
  rw [skipSpace_newLine, skipSpace_cons (by decide)]
  rfl

theorem readFields_more {fuel depth level : Nat} {name : String} {cs more after : List Char} {value : Json}
    {fields : List (String × Json)} (h : readValue fuel depth cs = some (value, ',' :: more))
    (hmore : readFields fuel depth more = some (fields, after)) :
    readFields (fuel + 1) depth (fieldLine level name cs) = some ((name, value) :: fields, after) := by
  rw [readFields_fieldLine, h, Option.bind_some]
  dsimp only
  rw [skipSpace_cons (by decide)]
  simp [hmore]

theorem endsNumber_newLine (level : Nat) (rest : List Char) : EndsNumber (newLine level ++ rest) :=
  endsNumber_cons fun h => h.ne (by decide) (by decide) rfl

theorem endsNumber_comma (rest : List Char) : EndsNumber (',' :: rest) :=
  endsNumber_cons fun h => h.ne (by decide) (by decide) rfl

theorem length_newLine (level : Nat) : (newLine level).length = 2 * level + 1 := by
  simp [newLine]

theorem readValue_newLine (fuel depth level : Nat) (cs : List Char) :
    readValue fuel depth (newLine level ++ cs) = readValue fuel depth cs := by
  rw [← readValue_skipSpace, skipSpace_newLine, readValue_skipSpace]

theorem prettyItems_cons_cons (level : Nat) (item next : Json) (items : List Json) :
    prettyItems level (item :: next :: items) =
      newLine level ++ prettyChars level item ++ ',' :: prettyItems level (next :: items) := rfl

theorem prettyFields_cons_cons (level : Nat) (name : String) (value : Json) (next : String × Json)
    (fields : List (String × Json)) :
    prettyFields level ((name, value) :: next :: fields) =
      newLine level ++ quoted name ++ ':' :: ' ' :: prettyChars level value ++
        ',' :: prettyFields level (next :: fields) := rfl

-- Fuel is counted in characters: each value, item or field takes two steps at most, and is written with at
-- least one character of its own.
mutual

theorem readValue_pretty : ∀ (value : Json) (fuel depth level : Nat) (rest : List Char),
    value.isExact depth = true → 2 * (prettyChars level value).length ≤ fuel + 1 → EndsNumber rest →
      readValue (fuel + 1) depth (prettyChars level value ++ rest) = some (value.ordered, rest)
  | .null, _, _, _, _, _, _, _ => rfl
  | .bool true, _, _, _, _, _, _, _ => rfl
  | .bool false, _, _, _, _, _, _, _ => rfl
  | .integer n, fuel, depth, _, _, hexact, _, hrest => by
    rw [isExact] at hexact
    exact readValue_integer hexact hrest fuel depth
  | .real _, _, _, _, _, hexact, _, _ => by
    rw [isExact] at hexact
    cases hexact
  | .text s, fuel, depth, _, rest, _, _, _ => readValue_text s fuel depth rest
  | .list _, _, 0, _, _, hexact, _, _ => by
    rw [isExact] at hexact
    cases hexact
  | .record _, _, 0, _, _, hexact, _, _ => by
    rw [isExact] at hexact
    cases hexact
  | .list items, fuel, depth + 1, level, rest, hexact, hfuel, _ => by
    have hread := fun fuel => readItems_pretty items fuel depth (level + 1) level rest
    cases items with
    | nil => rfl
    | cons item items =>
      rw [isExact] at hexact
      simp only [prettyChars, List.length_append, List.length_cons, List.append_assoc, List.cons_append,
        List.nil_append] at hfuel ⊢
      obtain ⟨fuel, rfl⟩ : ∃ inner, fuel = inner + 1 := ⟨fuel - 1, by omega⟩
      exact readValue_list (hread fuel (List.cons_ne_nil _ _) hexact (by omega))
  | .record fields, fuel, depth + 1, level, rest, hexact, hfuel, _ => by
    have hread := fun fuel => readFields_pretty fields fuel depth (level + 1) level rest
    cases fields with
    | nil => rfl
    | cons field fields =>
      rw [isExact] at hexact
      simp only [prettyChars, List.length_append, List.length_cons, List.append_assoc, List.cons_append,
        List.nil_append] at hfuel ⊢
      obtain ⟨fuel, rfl⟩ : ∃ inner, fuel = inner + 1 := ⟨fuel - 1, by omega⟩
      exact readValue_record (hread fuel (List.cons_ne_nil _ _) hexact (by omega))

theorem readItems_pretty : ∀ (items : List Json) (fuel depth level close : Nat) (rest : List Char),
    items ≠ [] → itemsExact depth items = true → 2 * (prettyItems level items).length ≤ fuel →
      readItems (fuel + 1) depth (prettyItems level items ++ (newLine close ++ ']' :: rest)) =
        some (orderedItems items, rest)
  | [], _, _, _, _, _, hne, _, _ => absurd rfl hne
  | [item], fuel, depth, level, close, rest, _, hexact, hfuel => by
    have hread := fun fuel => readValue_pretty item fuel depth level (newLine close ++ ']' :: rest)
    obtain ⟨hitem, -⟩ := Bool.and_eq_true_iff.mp hexact
    simp only [prettyItems, List.length_append, length_newLine, List.append_assoc] at hfuel ⊢
    obtain ⟨fuel, rfl⟩ : ∃ inner, fuel = inner + 1 := ⟨fuel - 1, by omega⟩
    apply readItems_last
    rw [readValue_newLine]
    exact hread fuel hitem (by omega) (endsNumber_newLine close _)
  | item :: next :: items, fuel, depth, level, close, rest, _, hexact, hfuel => by
    have hread := fun fuel after => readValue_pretty item fuel depth level (',' :: after)
    have hmore := fun fuel => readItems_pretty (next :: items) fuel depth level close rest
    obtain ⟨hitem, hitems⟩ := Bool.and_eq_true_iff.mp hexact
    rw [prettyItems_cons_cons] at hfuel ⊢
    simp only [List.length_append, List.length_cons, length_newLine, List.append_assoc,
      List.cons_append] at hfuel ⊢
    obtain ⟨fuel, rfl⟩ : ∃ inner, fuel = inner + 1 := ⟨fuel - 1, by omega⟩
    have hrest := hmore fuel (List.cons_ne_nil _ _) hitems (by omega)
    refine readItems_more ?_ hrest
    rw [readValue_newLine]
    exact hread fuel _ hitem (by omega) (endsNumber_comma _)

theorem readFields_pretty : ∀ (fields : List (String × Json)) (fuel depth level close : Nat)
    (rest : List Char), fields ≠ [] → fieldsExact depth fields = true →
      2 * (prettyFields level fields).length ≤ fuel →
      readFields (fuel + 1) depth (prettyFields level fields ++ (newLine close ++ '\x7d' :: rest)) =
        some (orderedFields fields, rest)
  | [], _, _, _, _, _, hne, _, _ => absurd rfl hne
  | [(name, value)], fuel, depth, level, close, rest, _, hexact, hfuel => by
    have hread := fun fuel => readValue_pretty value fuel depth level (newLine close ++ '\x7d' :: rest)
    obtain ⟨hvalue, -⟩ := Bool.and_eq_true_iff.mp hexact
    simp only [prettyFields, List.length_append, List.length_cons, length_newLine, List.append_assoc,
      List.cons_append] at hfuel ⊢
    obtain ⟨fuel, rfl⟩ : ∃ inner, fuel = inner + 1 := ⟨fuel - 1, by omega⟩
    exact readFields_last (hread fuel hvalue (by omega) (endsNumber_newLine close _))
  | (name, value) :: next :: fields, fuel, depth, level, close, rest, _, hexact, hfuel => by
    have hread := fun fuel after => readValue_pretty value fuel depth level (',' :: after)
    have hmore := fun fuel => readFields_pretty (next :: fields) fuel depth level close rest
    obtain ⟨hvalue, hfields⟩ := Bool.and_eq_true_iff.mp hexact
    rw [prettyFields_cons_cons] at hfuel ⊢
    simp only [List.length_append, List.length_cons, length_newLine, List.append_assoc,
      List.cons_append] at hfuel ⊢
    obtain ⟨fuel, rfl⟩ : ∃ inner, fuel = inner + 1 := ⟨fuel - 1, by omega⟩
    have hrest := hmore fuel (List.cons_ne_nil _ _) hfields (by omega)
    exact readFields_more (hread fuel _ hvalue (by omega) (endsNumber_comma _)) hrest

end

/-- A value that is kept exact is read back from its indented form. -/
theorem read?_pretty {value : Json} (h : value.isExact greatestDepth = true) :
    read? value.pretty = some value.ordered := by
  have hread := readValue_pretty value (2 * (prettyChars 0 value).length + 1) greatestDepth 0 [] h (by omega)
    endsNumber_nil
  rw [List.append_nil] at hread
  rw [read?, pretty, String.toList_ofList, hread]
  rfl

end TerseQuery.Json
