import TerseQuery.Proofs.Sql.Conditions
import TerseQuery.Proofs.Sql.Truth

/-!
# Conditions read back from SQL

What a text of conditions says of a row, found from the text alone: it is cut into words and parentheses, and
these are read one after the other. Where a condition is expected a word is part of one whatever it is, so that
a column may be called like a connective.

* `lexes_toSql`: the lexemes of a condition, when its literal is one;
* `foldlM_lexemes`: reading them gives what the condition says;
* `truth?_intercalate`: joined conditions say what they say one by one, joined;
* `kept?_toSql`: the clause of a filter keeps the rows that the filter keeps.
-/

namespace TerseQuery.Sql

/-! ## Lexemes -/

/-- A part of a text of conditions. -/
inductive Lexeme where
  | word (text : String)
  | opens
  | closes
  /-- A string without an end. -/
  | unended
  deriving DecidableEq, Repr

/-- The word that is read, if there is any of it. -/
def wordRead (read : List Char) : List Lexeme :=
  if read.isEmpty then [] else [.word (String.ofList read)]

/-- The lexemes of a text. `read` is what is read of a word, and `quoted` tells whether a string goes on. -/
def lexFrom : Bool → List Char → List Char → List Lexeme
  | true, _, [] => [.unended]
  | false, read, [] => wordRead read
  | true, read, c :: rest => lexFrom (c != '\'') (read ++ [c]) rest
  | false, read, c :: rest =>
    if c = ' ' then wordRead read ++ lexFrom false [] rest
    else if c = '(' then wordRead read ++ .opens :: lexFrom false [] rest
    else if c = ')' then wordRead read ++ .closes :: lexFrom false [] rest
    else lexFrom (c == '\'') (read ++ [c]) rest

def lex (sql : String) : List Lexeme :=
  lexFrom false [] sql.toList

/-! ## Evaluation -/

/-- The comparison that a sign of SQL asks for. -/
def Comparison.ofSql? : String → Option Comparison
  | "=" => some .equals
  | "<>" => some .differs
  | "<=" => some .atMost
  | ">=" => some .atLeast
  | "<" => some .below
  | ">" => some .above
  | _ => none

/-- A connective without the spaces around it. -/
def Connective.word : Connective → String
  | .all => "AND"
  | .any => "OR"

def Connective.ofWord? (word : String) : Option Connective :=
  [all, any].find? fun k => k.word == word

/-- Conditions in parentheses as far as they are read: what the alternatives before the last `OR` say, and what
the conditions since then say together. -/
structure Group where
  alternatives : Truth
  conjunction : Truth
  deriving DecidableEq, Repr

namespace Group

/-- No condition is read. -/
def start : Group := ⟨.fails, .holds⟩

/-- What a group says that ends with a condition. -/
def truth (g : Group) (t : Truth) : Truth :=
  g.alternatives.or (g.conjunction.and t)

/-- A group with one more condition and the connective after it. -/
def join (k : Connective) (g : Group) (t : Truth) : Group :=
  match k with
  | .all => ⟨g.alternatives, g.conjunction.and t⟩
  | .any => ⟨g.truth t, .holds⟩

end Group

/-- What is read last: some words of a condition, or a whole one. -/
inductive Operand where
  | started (words : List String)
  | finished (t : Truth)
  deriving DecidableEq, Repr

/-- A text of conditions as far as it is read. -/
structure Reading where
  outer : List Group
  inner : Group
  operand : Operand
  deriving DecidableEq, Repr

namespace Row

variable {α : Type} (row : Row α)

/-- What the words of a condition say of a row. The last word of a comparison is taken for a literal. -/
def wordsTruth? : List String → Option Truth
  | [column, "IS", "NULL"] => some (.ofBool (row.isMissing column))
  | [column, "IS", "NOT", "NULL"] => some (.ofBool (!row.isMissing column))
  | [column, symbol, literal] =>
    (Comparison.ofSql? symbol).map fun comparison => row.compares column comparison literal
  | _ => none

/-- A condition with one more word. -/
def extend (words : List String) (word : String) : Operand :=
  match row.wordsTruth? (words ++ [word]) with
  | none => .started (words ++ [word])
  | some t => .finished t

/-- A text of conditions with one more lexeme, where it may stand. -/
def read? (s : Reading) (lexeme : Lexeme) : Option Reading :=
  match s.operand, lexeme with
  | .started words, .word word => some { s with operand := row.extend words word }
  | .started [], .opens => some ⟨s.inner :: s.outer, .start, .started []⟩
  | .finished t, .word word =>
    (Connective.ofWord? word).map fun k => { s with inner := s.inner.join k t, operand := .started [] }
  | .finished t, .closes =>
    match s.outer with
    | [] => none
    | g :: outer => some ⟨outer, g, .finished (s.inner.truth t)⟩
  | _, _ => none

end Row

/-- What a text says that is read to its end. -/
def Reading.truth? (s : Reading) : Option Truth :=
  match s.outer, s.operand with
  | [], .finished t => some (s.inner.truth t)
  | _, _ => none

/-- What a text of conditions says of a row, if it is one. -/
def Row.truth? {α : Type} (row : Row α) (sql : String) : Option Truth :=
  (lex sql).foldlM row.read? ⟨[], .start, .started []⟩ >>= Reading.truth?

/-- Whether a row is kept by the clause of a filter, if that can be read. -/
def Row.kept? {α : Type} (row : Row α) (clause : String) : Option Bool :=
  if clause = "" then some true
  else Text.strip? clause " WHERE " >>= fun sql => (row.truth? sql).map (· == .holds)

/-! ## The lexemes of a condition -/

/-- The characters that end a word. -/
def wordEnds : List Char := [' ', '(', ')']

/-- A text has these lexemes wherever it stands before the end of a word. -/
def Lexes (text : List Char) (lexemes : List Lexeme) : Prop :=
  ∀ rest : List Char, (∀ c ∈ rest.head?, c ∈ wordEnds) →
    lexFrom false [] (text ++ rest) = lexemes ++ lexFrom false [] rest

/-- A text is part of one word. -/
def Solid (text : List Char) : Prop :=
  ∀ read rest, lexFrom false read (text ++ rest) = lexFrom false (read ++ text) rest

theorem solid_of_plain {text : List Char} (h : ∀ c ∈ text, Plain c) : Solid text := by
  induction text with
  | nil => simp [Solid]
  | cons c text ih =>
    intro read rest
    obtain ⟨hspace, hquote, hopen, hclose⟩ := h c List.mem_cons_self
    have hrest := ih fun d hd => h d (List.mem_cons_of_mem _ hd)
    have hquoted : (c == '\'') = false := beq_eq_false_iff_ne.mpr hquote
    rw [List.cons_append, lexFrom, if_neg hspace, if_neg hopen, if_neg hclose, hquoted, hrest,
      List.append_assoc, List.singleton_append]

/-- Inside a string quotes that stand together end nothing. -/
theorem lexFrom_quoted {inside : List Char} (h : QuotesPaired inside) (read rest : List Char) :
    lexFrom true read (inside ++ rest) = lexFrom true (read ++ inside) rest := by
  induction h generalizing read with
  | nil => simp
  | pair _ ih => simp [lexFrom, ih]
  | other hc _ ih =>
    have hquoted := bne_iff_ne.mpr hc
    simp [lexFrom, hquoted, ih]

theorem IsLiteral.solid {s : String} (h : IsLiteral s) : Solid s.toList := by
  rcases h with rfl | hnumber | ⟨inside, hs, hinside⟩
  · exact solid_of_plain (List.all_iff_forall_prop.mp (by decide))
  · exact solid_of_plain fun c hc => (numeralChar_plain (hnumber.numeralChar c hc)).1
  · intro read rest
    rw [hs, List.cons_append, lexFrom]
    simp [lexFrom_quoted hinside, lexFrom]

theorem IsLiteral.ne_nil {s : String} (h : IsLiteral s) : s.toList ≠ [] := by
  rcases h with rfl | hnumber | ⟨inside, hs, -⟩
  · decide
  · exact hnumber.ne_nil
  · simp [hs]

namespace Lexes

theorem word {text : String} (hne : text.toList ≠ []) (h : Solid text.toList) :
    Lexes text.toList [.word text] := by
  intro rest hrest
  have hread : wordRead text.toList = [.word text] := by simp [wordRead, hne]
  have hnone : wordRead [] = [] := rfl
  rw [h, List.nil_append]
  cases rest with
  | nil => simp [lexFrom, hread, hnone]
  | cons c rest =>
    have hc : c = ' ' ∨ c = '(' ∨ c = ')' := by simpa [wordEnds] using hrest c rfl
    rcases hc with rfl | rfl | rfl <;> simp [lexFrom, hread, hnone]

variable {xs ys : List Char} {ls ms : List Lexeme}

theorem spaced (hx : Lexes xs ls) (hy : Lexes ys ms) : Lexes (xs ++ ' ' :: ys) (ls ++ ms) := by
  intro rest hrest
  have hspace : lexFrom false [] (' ' :: (ys ++ rest)) = lexFrom false [] (ys ++ rest) := by
    simp [lexFrom, wordRead]
  rw [List.append_assoc, List.cons_append, hx _ (by simp [wordEnds]), hspace, hy rest hrest,
    List.append_assoc]

theorem enclosed (hx : Lexes xs ls) : Lexes ('(' :: (xs ++ [')'])) (.opens :: (ls ++ [.closes])) := by
  intro rest hrest
  have hopen : lexFrom false [] ('(' :: (xs ++ (')' :: rest))) =
      .opens :: lexFrom false [] (xs ++ (')' :: rest)) := by
    simp [lexFrom, wordRead]
  have hclose : lexFrom false [] (')' :: rest) = .closes :: lexFrom false [] rest := by
    simp [lexFrom, wordRead]
  simp only [List.cons_append, List.append_assoc, List.nil_append]
  rw [hopen, hx _ (by simp [wordEnds]), hclose]

end Lexes

/-- The words of a condition and the parentheses around it. -/
def Condition.lexemes : Condition → List Lexeme
  | .isNull column => [.word column, .word "IS", .word "NULL"]
  | .isNotNull column => [.word column, .word "IS", .word "NOT", .word "NULL"]
  | .compares column comparison literal => [.word column, .word comparison.sqlSymbol, .word literal]
  | .differsOrNull column literal =>
    [.opens, .word column, .word "<>", .word literal, .word "OR", .word column, .word "IS", .word "NULL",
      .closes]

/-- A condition on a name, and with a literal if it compares. -/
def Condition.IsProper : Condition → Prop
  | .isNull column => isIdentifier column = true
  | .isNotNull column => isIdentifier column = true
  | .compares column _ literal => isIdentifier column = true ∧ IsLiteral literal
  | .differsOrNull column literal => isIdentifier column = true ∧ IsLiteral literal

theorem lexes_name {column : String} (h : isIdentifier column = true) :
    Lexes column.toList [.word column] :=
  .word (by simpa using (isIdentifier_iff.mp h).1) (solid_of_plain (plain_of_isIdentifier h))

theorem lexes_keyword (word : String) (hne : word.toList ≠ []) (h : word.toList.all (Plain ·) = true) :
    Lexes word.toList [.word word] :=
  .word hne (solid_of_plain (List.all_iff_forall_prop.mp h))

theorem lexes_symbol (comparison : Comparison) :
    Lexes comparison.sqlSymbol.toList [.word comparison.sqlSymbol] := by
  cases comparison <;> exact lexes_keyword _ (by decide) (by decide)

theorem lexes_connective (k : Connective) : Lexes k.word.toList [.word k.word] := by
  cases k <;> exact lexes_keyword _ (by decide) (by decide)

theorem lexes_isNull {column : String} (h : isIdentifier column = true) :
    Lexes (column ++ " IS NULL").toList [.word column, .word "IS", .word "NULL"] := by
  have hall := (lexes_name h).spaced ((lexes_keyword "IS" (by decide) (by decide)).spaced
    (lexes_keyword "NULL" (by decide) (by decide)))
  simpa using hall

theorem lexes_isNotNull {column : String} (h : isIdentifier column = true) :
    Lexes (column ++ " IS NOT NULL").toList [.word column, .word "IS", .word "NOT", .word "NULL"] := by
  have hall := (lexes_name h).spaced ((lexes_keyword "IS" (by decide) (by decide)).spaced
    ((lexes_keyword "NOT" (by decide) (by decide)).spaced
      (lexes_keyword "NULL" (by decide) (by decide))))
  simpa using hall

theorem lexes_comparison {column literal : String} (hcolumn : isIdentifier column = true)
    (hliteral : IsLiteral literal) (comparison : Comparison) :
    Lexes (column ++ " " ++ comparison.sqlSymbol ++ " " ++ literal).toList
      [.word column, .word comparison.sqlSymbol, .word literal] := by
  have hall := (lexes_name hcolumn).spaced ((lexes_symbol comparison).spaced
    (.word hliteral.ne_nil hliteral.solid))
  simpa using hall

theorem lexes_toSql {c : Condition} (h : c.IsProper) : Lexes c.toSql.toList c.lexemes := by
  cases c with
  | isNull column => exact lexes_isNull h
  | isNotNull column => exact lexes_isNotNull h
  | compares column comparison literal => exact lexes_comparison h.1 h.2 comparison
  | differsOrNull column literal =>
    have hall := ((lexes_comparison h.1 h.2 .differs).spaced
      ((lexes_connective .any).spaced (lexes_isNull h.1))).enclosed
    simpa [Condition.toSql, Condition.lexemes, Connective.word, Comparison.sqlSymbol] using hall

/-! ## Reading a condition -/

section
variable {α : Type} (row : Row α) (outer : List Group) (inner : Group)

theorem wordsTruth?_compares (column : String) (comparison : Comparison) (literal : String) :
    row.wordsTruth? [column, comparison.sqlSymbol, literal] =
      some (row.compares column comparison literal) := by
  cases comparison <;> rfl

/-- Fewer than three words are no condition. -/
theorem foldlM_words (first second third : String) :
    [Lexeme.word first, .word second, .word third].foldlM row.read? ⟨outer, inner, .started []⟩ =
      some ⟨outer, inner, row.extend [first, second] third⟩ := by
  have hfirst : row.extend [] first = .started [first] := by simp [Row.extend, Row.wordsTruth?]
  have hsecond : row.extend [first] second = .started [first, second] := by
    simp [Row.extend, Row.wordsTruth?]
  simp [Row.read?, hfirst, hsecond]

theorem foldlM_isNull (column : String) :
    [Lexeme.word column, .word "IS", .word "NULL"].foldlM row.read? ⟨outer, inner, .started []⟩ =
      some ⟨outer, inner, .finished (.ofBool (row.isMissing column))⟩ :=
  foldlM_words row outer inner column "IS" "NULL"

theorem foldlM_comparison (column : String) (comparison : Comparison) (literal : String) :
    [Lexeme.word column, .word comparison.sqlSymbol, .word literal].foldlM row.read?
        ⟨outer, inner, .started []⟩ =
      some ⟨outer, inner, .finished (row.compares column comparison literal)⟩ := by
  rw [foldlM_words, Row.extend, List.cons_append, List.singleton_append, wordsTruth?_compares]

theorem read?_word (k : Connective) (t : Truth) :
    row.read? ⟨outer, inner, .finished t⟩ (.word k.word) =
      some ⟨outer, inner.join k t, .started []⟩ := by
  cases k <;> rfl

/-- Reading the lexemes of a condition gives what it says, whatever was read before. -/
theorem foldlM_lexemes (c : Condition) :
    c.lexemes.foldlM row.read? ⟨outer, inner, .started []⟩ =
      some ⟨outer, inner, .finished (c.truth row)⟩ := by
  cases c with
  | isNull column => exact foldlM_isNull row outer inner column
  | isNotNull column =>
    have hnot : row.extend [column, "IS"] "NOT" = .started [column, "IS", "NOT"] := rfl
    have hlexemes : (Condition.isNotNull column).lexemes =
        [.word column, .word "IS", .word "NOT"] ++ [.word "NULL"] := rfl
    rw [hlexemes, List.foldlM_append, foldlM_words, hnot]
    rfl
  | compares column comparison literal => exact foldlM_comparison row outer inner column comparison literal
  | differsOrNull column literal =>
    have hlexemes : (Condition.differsOrNull column literal).lexemes =
        [.opens] ++ ([.word column, .word Comparison.differs.sqlSymbol, .word literal] ++
          ([.word Connective.any.word] ++ ([.word column, .word "IS", .word "NULL"] ++ [.closes]))) := rfl
    have hopens : [Lexeme.opens].foldlM row.read? ⟨outer, inner, .started []⟩ =
        some ⟨inner :: outer, .start, .started []⟩ := rfl
    have hor (t : Truth) : [Lexeme.word Connective.any.word].foldlM row.read?
        ⟨inner :: outer, .start, .finished t⟩ = some ⟨inner :: outer, Group.start.join .any t, .started []⟩ := rfl
    have hcloses (g : Group) (t : Truth) : [Lexeme.closes].foldlM row.read?
        ⟨inner :: outer, g, .finished t⟩ = some ⟨outer, inner, .finished (g.truth t)⟩ := rfl
    simp only [hlexemes, List.foldlM_append, hopens, foldlM_comparison, hor, foldlM_isNull, hcloses,
      Option.bind_eq_bind, Option.bind_some]
    simp [Condition.truth, Group.truth, Group.join, Group.start]

end

/-! ## Reading conditions that are joined -/

namespace Group

/-- What a group says whose last condition is joined to nothing. -/
def joinedTruth (k : Connective) (g : Group) : Truth :=
  match k with
  | .all => g.alternatives.or g.conjunction
  | .any => g.alternatives

theorem truth_eq_joinedTruth (k : Connective) (g : Group) (t : Truth) :
    g.truth t = (g.join k t).joinedTruth k := by
  cases k <;> rfl

theorem foldl_join_all (g : Group) (ts : List Truth) :
    ts.foldl (join .all) g = ⟨g.alternatives, g.conjunction.and (.joined .all ts)⟩ := by
  induction ts generalizing g with
  | nil => simp [Truth.joined]
  | cons t ts ih => simp [ih, join, Truth.joined, Truth.and_assoc]

theorem foldl_join_any (a : Truth) (ts : List Truth) :
    ts.foldl (join .any) ⟨a, .holds⟩ = ⟨a.or (.joined .any ts), .holds⟩ := by
  induction ts generalizing a with
  | nil => simp [Truth.joined]
  | cons t ts ih => simp [ih, join, truth, Truth.joined, Truth.or_assoc]

theorem joinedTruth_foldl (k : Connective) (ts : List Truth) :
    (ts.foldl (join k) start).joinedTruth k = .joined k ts := by
  cases k with
  | all => simp [foldl_join_all, start, joinedTruth]
  | any => simp [foldl_join_any, start, joinedTruth]

end Group

/-- The lexemes of conditions that are joined. -/
def joinedLexemes (k : Connective) : List Condition → List Lexeme
  | [] => []
  | [c] => c.lexemes
  | c :: d :: rest => c.lexemes ++ .word k.word :: joinedLexemes k (d :: rest)

theorem lexes_intercalate (k : Connective) {c : Condition} {rest : List Condition}
    (h : ∀ d ∈ c :: rest, d.IsProper) :
    Lexes (k.toSql.toList.intercalate (((c :: rest).map Condition.toSql).map String.toList))
      (joinedLexemes k (c :: rest)) := by
  induction rest generalizing c with
  | nil => simpa [joinedLexemes] using lexes_toSql (h c List.mem_cons_self)
  | cons d rest ih =>
    have hc := lexes_toSql (h c List.mem_cons_self)
    have hrest := ih fun d' hd' => h d' (List.mem_cons_of_mem _ hd')
    have hall := hc.spaced ((lexes_connective k).spaced hrest)
    have hmark : k.toSql.toList = ' ' :: (k.word.toList ++ [' ']) := by cases k <;> decide
    simpa [joinedLexemes, hmark] using hall

theorem lex_intercalate (k : Connective) {conditions : List Condition} (hne : conditions ≠ [])
    (h : ∀ c ∈ conditions, c.IsProper) :
    lex (k.toSql.intercalate (conditions.map Condition.toSql)) = joinedLexemes k conditions := by
  cases conditions with
  | nil => exact absurd rfl hne
  | cons c rest =>
    have hlex := lexes_intercalate k h [] (by simp)
    rw [lex, String.toList_intercalate]
    simpa [lexFrom, wordRead] using hlex

section
variable {α : Type} (row : Row α)

/-- Reading joined conditions takes them into the group one by one, the last one apart. -/
theorem foldlM_joinedLexemes (k : Connective) (outer : List Group) (inner : Group) (c : Condition)
    (rest : List Condition) :
    ∃ g t, (joinedLexemes k (c :: rest)).foldlM row.read? ⟨outer, inner, .started []⟩ =
        some ⟨outer, g, .finished t⟩ ∧
      g.join k t = ((c :: rest).map (Condition.truth row)).foldl (Group.join k) inner := by
  induction rest generalizing c inner with
  | nil => exact ⟨inner, c.truth row, foldlM_lexemes row outer inner c, rfl⟩
  | cons d rest ih =>
    obtain ⟨g, t, hread, hjoin⟩ := ih (inner.join k (c.truth row)) d
    refine ⟨g, t, ?_, hjoin⟩
    rw [joinedLexemes, List.foldlM_append, foldlM_lexemes, Option.bind_eq_bind, Option.bind_some,
      List.foldlM_cons, read?_word, Option.bind_eq_bind, Option.bind_some, hread]

/-- A text of joined conditions is read, and says what they say one by one, joined. -/
theorem truth?_intercalate (k : Connective) {conditions : List Condition} (hne : conditions ≠ [])
    (h : ∀ c ∈ conditions, c.IsProper) :
    row.truth? (k.toSql.intercalate (conditions.map Condition.toSql)) =
      some (.joined k (conditions.map (Condition.truth row))) := by
  rw [Row.truth?, lex_intercalate k hne h]
  obtain ⟨c, rest, rfl⟩ := List.exists_cons_of_ne_nil hne
  obtain ⟨g, t, hread, hjoin⟩ := foldlM_joinedLexemes row k [] .start c rest
  have hend : Reading.truth? ⟨[], g, .finished t⟩ = some (g.truth t) := rfl
  rw [hread, Option.bind_eq_bind, Option.bind_some, hend, Group.truth_eq_joinedTruth k, hjoin,
    Group.joinedTruth_foldl]

/-- The clause of a filter is read, and keeps the rows that the filter keeps. -/
theorem kept?_toSql {f : RowFilter} (h : ∀ c ∈ f.conditions, c.IsProper) :
    row.kept? f.toSql = some (f.keeps row) := by
  unfold RowFilter.toSql RowFilter.keeps
  cases hempty : f.conditions.isEmpty with
  | true => rfl
  | false =>
    have hne : f.conditions ≠ [] := List.isEmpty_eq_false_iff.mp hempty
    have hstrip (sql : String) : Text.strip? (" WHERE " ++ sql) " WHERE " = some sql := by
      have hlength : " WHERE ".length = 7 := rfl
      simp [Text.strip?, List.isPrefixOf, hlength]
    rw [if_neg Bool.false_ne_true, Row.kept?, if_neg (by simp), hstrip, Option.bind_eq_bind, Option.bind_some,
      truth?_intercalate row f.connective hne h]
    rfl

end

end TerseQuery.Sql
