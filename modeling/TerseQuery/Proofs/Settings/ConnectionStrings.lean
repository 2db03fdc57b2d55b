import TerseQuery.Proofs.Text.Cut
import TerseQuery.Proofs.Text.Numeral
import TerseQuery.Settings.Connection

/-!
# Reading a connection string back

The connection string of a connection that is defined by its parts has the form
`engine[+driver]://[user[:password]@]host[:port][/database[?options]]`. Where no part holds a separator, the
parts are found again by cutting, so different connections have different connection strings.

* `assemble_eq_spelled`: the string has this form;
* `read?_spelled`: a text of this form is cut into its parts;
* `connectionString_read?`: the connection string is read back, and no other connection has it.
-/

namespace TerseQuery.Connection

/-- A connection defined by its parts, whose password is held as it is. -/
def ofParts (parts : ConnectionParts) (user password : Option String) : Connection :=
  ⟨.components parts, user, password, none⟩

/-! ## The form of a connection string -/

/-- The characters between the parts of a connection string. -/
def separators : List Char := ['+', ':', '/', '@', '?']

/-- A text that can stand between separators. -/
structure IsPart (text : String) : Prop where
  nonempty : text ≠ ""
  free : ∀ c ∈ separators, c ∉ text.toList

theorem isPart_iff {text : String} :
    IsPart text ↔ text ≠ "" ∧ (separators.all fun c => decide (c ∉ text.toList)) = true := by
  rw [List.all_iff_forall_prop]
  exact ⟨fun h => ⟨h.nonempty, h.free⟩, fun h => ⟨h.1, h.2⟩⟩

instance (text : String) : Decidable (IsPart text) :=
  decidable_of_iff' _ isPart_iff

/-- A host is named, a password stands with its user and options with their database, and no separator stands
in any part. -/
structure Separable (parts : ConnectionParts) (user password database : Option String) : Prop where
  named : parts.host.isSome
  login : password.isSome → user.isSome
  source : parts.driverOptions.isSome → database.isSome
  engine : IsPart parts.engine
  driver : ∀ text ∈ parts.driver, IsPart text
  host : ∀ text ∈ parts.host, IsPart text
  user : ∀ text ∈ user, IsPart text
  password : ∀ text ∈ password, IsPart text
  database : ∀ text ∈ database, IsPart text
  options : ∀ text ∈ parts.driverOptions, IsPart text

/-- A text behind its mark, or nothing. -/
def behind (mark : String) (text : Option String) : String :=
  text.elim "" (mark ++ ·)

@[simp] theorem behind_none (mark : String) : behind mark none = "" :=
  rfl

@[simp] theorem behind_some (mark text : String) : behind mark (some text) = mark ++ text :=
  rfl

/-- A text before its mark, or nothing. -/
def ahead (mark : String) (text : Option String) : String :=
  text.elim "" (· ++ mark)

@[simp] theorem ahead_none (mark : String) : ahead mark none = "" :=
  rfl

@[simp] theorem ahead_some (mark text : String) : ahead mark (some text) = text ++ mark :=
  rfl

/-- The digits of a port. -/
def portText (port : UInt16) : String :=
  toString port.toNat

/-- The connection string of some parts, with what may be missing in brackets:
`engine[+driver]://[user[:password]@]host[:port][/database[?options]]`. -/
def spelled (parts : ConnectionParts) (user password database : Option String) : String :=
  parts.engine ++ behind "+" parts.driver ++ "://" ++
    (ahead "@" (user.map (· ++ behind ":" password)) ++
      (parts.host.getD "" ++ behind ":" (parts.port.map portText)) ++
      behind "/" (database.map (· ++ behind "?" parts.driverOptions)))

section
variable {mark text : String}

theorem joinNonempty_empty_left (mark right : String) : joinNonempty mark "" right = right := by
  rw [joinNonempty, if_pos (.inl rfl), String.empty_append]

theorem joinNonempty_empty_right (mark left : String) : joinNonempty mark left "" = left := by
  rw [joinNonempty, if_pos (.inr rfl), String.append_empty]

theorem joinNonempty_of_ne {left right : String} (hleft : left ≠ "") (hright : right ≠ "") (mark : String) :
    joinNonempty mark left right = left ++ mark ++ right :=
  if_neg (not_or.mpr ⟨hleft, hright⟩)

theorem withSuffix_some (mark text : String) (suffix : Option String) :
    withSuffix mark (some text) suffix = text ++ behind mark suffix := by
  cases suffix with
  | none => rw [behind_none, String.append_empty]; rfl
  | some suffix => rw [behind_some, ← String.append_assoc]; rfl

theorem IsPart.append_ne_empty (h : IsPart text) (rest : String) : text ++ rest ≠ "" :=
  fun happend => h.nonempty (String.append_eq_empty_iff.mp happend).1

theorem joinNonempty_account {user : Option String} (huser : ∀ text ∈ user, IsPart text)
    (password : Option String) {server : String} (hserver : server ≠ "") :
    joinNonempty "@" (withSuffix ":" user password) server =
      ahead "@" (user.map (· ++ behind ":" password)) ++ server := by
  cases user with
  | none => rw [withSuffix, joinNonempty_empty_left, Option.map_none, ahead_none, String.empty_append]
  | some user =>
    have hne := (huser user rfl).append_ne_empty (behind ":" password)
    rw [withSuffix_some, joinNonempty_of_ne hne hserver, Option.map_some, ahead_some]

theorem joinNonempty_source {address : String} (haddress : address ≠ "") {database : Option String}
    (hdatabase : ∀ text ∈ database, IsPart text) (options : Option String) :
    joinNonempty "/" address (withSuffix "?" database options) =
      address ++ behind "/" (database.map (· ++ behind "?" options)) := by
  cases database with
  | none => rw [withSuffix, joinNonempty_empty_right, Option.map_none, behind_none, String.append_empty]
  | some database =>
    have hne := (hdatabase database rfl).append_ne_empty (behind "?" options)
    rw [withSuffix_some, joinNonempty_of_ne haddress hne, Option.map_some, behind_some, String.append_assoc]

end

/-- The connection string has the form of one. -/
theorem assemble_eq_spelled {parts : ConnectionParts} {user password database : Option String}
    (h : Separable parts user password database) :
    assemble parts user password database = spelled parts user password database := by
  obtain ⟨host, hhost⟩ := Option.isSome_iff_exists.mp h.named
  have hserver (rest : String) : host ++ rest ≠ "" := (h.host host hhost).append_ne_empty rest
  have haddress {account rest : String} : account ++ (host ++ rest) ≠ "" :=
    fun hempty => hserver rest (String.append_eq_empty_iff.mp hempty).2
  simp only [assemble, spelled, hhost, withSuffix_some, Option.getD_some]
  rw [joinNonempty_account h.user password (hserver _), joinNonempty_source haddress h.database]
  rfl

/-! ## Cutting a connection string into its parts -/

/-- A text up to a mark, and the text after the mark if it occurs. -/
def splitOff (mark text : String) : String × Option String :=
  match Text.cutAt? text mark with
  | some (before, after) => (before, some after)
  | none => (text, none)

/-- The text before a mark if it occurs, and the text after it. -/
def splitBefore (mark text : String) : Option String × String :=
  match Text.cutAt? text mark with
  | some (before, after) => (some before, after)
  | none => (none, text)

/-- The port that a text is. -/
def port? (text : String) : Option UInt16 :=
  (Text.natural? text).bind fun n => if n < UInt16.size then some (UInt16.ofNat n) else none

/-- The connection and the database behind a connection string. -/
def read? (text : String) : Option (Connection × Option String) := do
  let (scheme, rest) ← Text.cutAt? text "://"
  let (engine, driver) := splitOff "+" scheme
  let (address, source) := splitOff "/" rest
  let (account, server) := splitBefore "@" address
  let (host, digits) := splitOff ":" server
  let port ← digits.mapM port?
  let login := account.map (splitOff ":")
  let opened := source.map (splitOff "?")
  return (ofParts ⟨engine, driver, some host, port, opened.bind Prod.snd⟩ (login.map Prod.fst)
    (login.bind Prod.snd), opened.map Prod.fst)

section
variable {mark text : String} {c : Char}

theorem splitOff_behind (mark : String) (hmark : mark.toList = [c]) (h : c ∉ text.toList)
    (suffix : Option String) :
    splitOff mark (text ++ behind mark suffix) = (text, suffix) := by
  cases suffix with
  | none => rw [behind_none, String.append_empty, splitOff, Text.cutAt?_eq_none mark hmark h]
  | some suffix => rw [behind_some, ← String.append_assoc, splitOff, Text.cutAt?_append mark hmark h]

theorem splitBefore_ahead (mark : String) (hmark : mark.toList = [c]) {first : Option String}
    (hfirst : ∀ text ∈ first, c ∉ text.toList) (h : c ∉ text.toList) :
    splitBefore mark (ahead mark first ++ text) = (first, text) := by
  cases first with
  | none => rw [ahead_none, String.empty_append, splitBefore, Text.cutAt?_eq_none mark hmark h]
  | some first => rw [ahead_some, splitBefore, Text.cutAt?_append mark hmark (hfirst first rfl)]

theorem map_splitOff (mark : String) (hmark : mark.toList = [c]) {first : Option String}
    (hfirst : ∀ text ∈ first, c ∉ text.toList) (second : Option String) :
    (first.map (· ++ behind mark second)).map (splitOff mark) = first.map (·, second) := by
  cases first with
  | none => rfl
  | some first =>
    rw [Option.map_some, Option.map_some, Option.map_some, splitOff_behind mark hmark (hfirst first rfl)]

/-- Of two texts the second is kept where it stands only beside the first. -/
theorem bind_snd_map {first second : Option String} (h : second.isSome → first.isSome) :
    (first.map (·, second)).bind Prod.snd = second := by
  cases first with
  | none =>
    cases second with
    | none => rfl
    | some second => cases h rfl
  | some first => rfl

theorem map_fst_map (first second : Option String) : (first.map (·, second)).map Prod.fst = first := by
  cases first <;> rfl

theorem notMem_append {rest : String} (h : c ∉ text.toList) (hrest : c ∉ rest.toList) :
    c ∉ (text ++ rest).toList := by
  rw [String.toList_append]
  exact List.not_mem_append h hrest

theorem notMem_behind (mark : String) {suffix : Option String} (hmark : c ∉ mark.toList)
    (hsuffix : ∀ text ∈ suffix, c ∉ text.toList) : c ∉ (behind mark suffix).toList := by
  cases suffix with
  | none => exact List.not_mem_nil
  | some suffix => exact notMem_append hmark (hsuffix suffix rfl)

theorem notMem_ahead (mark : String) {first : Option String} (hmark : c ∉ mark.toList)
    (hfirst : ∀ text ∈ first, c ∉ text.toList) : c ∉ (ahead mark first).toList := by
  cases first with
  | none => exact List.not_mem_nil
  | some first => exact notMem_append (hfirst first rfl) hmark

end

theorem notMem_portText {c : Char} (hc : c ∈ separators) (port : UInt16) : c ∉ (portText port).toList := by
  have hseparators : (separators.all fun c => !c.isDigit) = true := by decide
  rw [portText, Text.toList_toString]
  intro hmem
  have hdigit := List.all_eq_true.mp hseparators c hc
  rw [Text.isDigit_of_mem_toDigits hmem] at hdigit
  cases hdigit

theorem port?_portText (port : UInt16) : port? (portText port) = some port := by
  have hlt : port.toNat < UInt16.size := port.toNat_lt_size
  rw [port?, portText, Text.natural?_toString (Nat.lt_trans hlt (by decide)), Option.bind_some, if_pos hlt,
    UInt16.ofNat_toNat]

theorem mapM_port? (port : Option UInt16) : (port.map portText).mapM port? = some port := by
  cases port with
  | none => rfl
  | some port => simp [port?_portText]

section
variable {parts : ConnectionParts} {user password database : Option String}

theorem forall_notMem {part : Option String} (hpart : ∀ text ∈ part, IsPart text) {c : Char}
    (hc : c ∈ separators) : ∀ text ∈ part, c ∉ text.toList :=
  fun text ht => (hpart text ht).free c hc

namespace Separable

theorem exists_host (h : Separable parts user password database) :
    ∃ host, parts.host = some host ∧ IsPart host := by
  obtain ⟨host, hhost⟩ := Option.isSome_iff_exists.mp h.named
  exact ⟨host, hhost, h.host host hhost⟩

theorem notMem_scheme (h : Separable parts user password database) :
    ':' ∉ (parts.engine ++ behind "+" parts.driver).toList :=
  notMem_append (h.engine.free _ (by decide))
    (notMem_behind "+" (by decide) (forall_notMem h.driver (by decide)))

theorem notMem_account (h : Separable parts user password database) {c : Char} (hc : c ∈ separators)
    (hmark : c ∉ ":".toList) : ∀ text ∈ user.map (· ++ behind ":" password), c ∉ text.toList := by
  intro text ht
  obtain ⟨name, hname, rfl⟩ := Option.map_eq_some_iff.mp ht
  exact notMem_append (forall_notMem h.user hc name hname)
    (notMem_behind ":" hmark (forall_notMem h.password hc))

end Separable

theorem IsPart.notMem_server {host : String} (h : IsPart host) {c : Char} (hc : c ∈ separators)
    (hmark : c ∉ ":".toList) (port : Option UInt16) :
    c ∉ (host ++ behind ":" (port.map portText)).toList := by
  refine notMem_append (h.free c hc) (notMem_behind ":" hmark fun text ht => ?_)
  obtain ⟨number, -, rfl⟩ := Option.map_eq_some_iff.mp ht
  exact notMem_portText hc number

/-- A text of the form of a connection string is cut into its parts. -/
theorem read?_spelled (h : Separable parts user password database) :
    read? (spelled parts user password database) = some (ofParts parts user password, database) := by
  obtain ⟨host, hsome, hhost⟩ := h.exists_host
  have haccount := h.notMem_account (c := '@') (by decide) (by decide)
  have haddress := notMem_append
    (notMem_ahead (c := '/') "@" (by decide) (h.notMem_account (by decide) (by decide)))
    (hhost.notMem_server (by decide) (by decide) parts.port)
  -- each cut takes off what was put on, since the mark does not occur before
  have hscheme := Text.cutAt?_append "://" rfl h.notMem_scheme
  have hengine := splitOff_behind "+" rfl (h.engine.free _ (by decide)) parts.driver
  have hsource := splitOff_behind "/" rfl haddress (database.map (· ++ behind "?" parts.driverOptions))
  have hlogin := splitBefore_ahead "@" rfl haccount (hhost.notMem_server (by decide) (by decide) parts.port)
  have hserver := splitOff_behind ":" rfl (hhost.free _ (by decide)) (parts.port.map portText)
  have huser := map_splitOff ":" rfl (forall_notMem h.user (by decide)) password
  have hdatabase := map_splitOff "?" rfl (forall_notMem h.database (by decide)) parts.driverOptions
  simp only [read?, spelled, hsome, hscheme, Option.bind_eq_bind, Option.bind_some, Option.getD_some, hengine,
    hsource, hlogin, hserver, mapM_port?, huser, hdatabase, bind_snd_map h.login, bind_snd_map h.source,
    map_fst_map]
  rw [← hsome]
  rfl

theorem connectionString_ofParts (h : Separable parts user password database) (environment : Dict String) :
    (ofParts parts user password).connectionString environment database =
      .ok (spelled parts user password database) := by
  have hpassword : (ofParts parts user password).resolvePassword environment = .ok password := by
    cases password <;> rfl
  rw [← assemble_eq_spelled h, connectionString, ofParts, ← ofParts, hpassword]
  rfl

/-- The connection string of a connection by parts is cut into the connection and the database, and no
other connection or database has it. -/
theorem connectionString_read? (h : Separable parts user password database) (environment : Dict String) :
    ∃ text, (ofParts parts user password).connectionString environment database = .ok text ∧
      text = spelled parts user password database ∧
      read? text = some (ofParts parts user password, database) ∧
      ∀ parts' user' password' database' environment', Separable parts' user' password' database' →
        (ofParts parts' user' password').connectionString environment' database' = .ok text →
          parts' = parts ∧ user' = user ∧ password' = password ∧ database' = database := by
  refine ⟨_, connectionString_ofParts h environment, rfl, read?_spelled h, ?_⟩
  intro parts' user' password' database' environment' h' heq
  rw [connectionString_ofParts h'] at heq
  have hread := read?_spelled h'
  rw [Except.ok.inj heq, read?_spelled h] at hread
  cases hread
  exact ⟨rfl, rfl, rfl, rfl⟩

end

/-- A connection with everything that may be missing, to a database with options. -/
theorem connectionString_read?_shop :
    (ofParts ⟨"postgresql", some "psycopg", some "db", some 5432, some "sslmode=require"⟩ (some "ann")
        (some "s3cret")).connectionString .empty (some "shop") =
      .ok "postgresql+psycopg://ann:s3cret@db:5432/shop?sslmode=require" ∧
    read? "postgresql+psycopg://ann:s3cret@db:5432/shop?sslmode=require" =
      some (ofParts ⟨"postgresql", some "psycopg", some "db", some 5432, some "sslmode=require"⟩ (some "ann")
        (some "s3cret"), some "shop") := by
  have h : Separable ⟨"postgresql", some "psycopg", some "db", some 5432, some "sslmode=require"⟩ (some "ann")
      (some "s3cret") (some "shop") := by
    constructor <;> decide
  obtain ⟨text, hstring, hspelled, hread, -⟩ := connectionString_read? h .empty
  have htext : text = "postgresql+psycopg://ann:s3cret@db:5432/shop?sslmode=require" := by
    rw [hspelled]
    rfl
  rw [htext] at hstring hread
  exact ⟨hstring, hread⟩

end TerseQuery.Connection
