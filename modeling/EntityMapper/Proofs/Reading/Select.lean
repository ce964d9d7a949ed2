import EntityMapper.Dialect
import EntityMapper.Proofs.Reading.Column
import EntityMapper.Query

/-!
# Reading selects

What the text of a select asks for, by the grammar of clauses that the dialects of SQL share. Behind
the select list and the table the text is cut wherever a clause begins, and the clauses are then
taken in the order in which the grammar has them. A predicate is one expression, and is read as
such.

The dialects differ in one clause: for SQLite an `OFFSET` belongs to a `LIMIT`, for PostgreSQL it
may stand alone.

## Structure

* `Clause` — the clauses with their keywords, and their ranks in the order of the grammar. A clause
  begins where all words of its keyword stand one behind the other (`begins`).
* `clauses` — the elements behind the table, cut wherever a clause begins.
* `Selection` — what a select asks for. `Selection.ofClauses` takes the clauses in their order, and
  refuses a text with anything left over.
* `Phrase` — a clause with its body, as it is written. `clauses_flatMap` says that phrases are cut
  where they were put together, provided that no clause begins in a body (`quiet`).
* `take?_present`, `take?_absent` — a clause is taken if it is there, and passed over if a later one
  is.
* `Selection.ofText` — the reading of a whole text, for each dialect.
-/

namespace EntityMapper.Reading

/-! ## Names

What may stand for a table or a column in a select without quotes. -/

/-- The words that a select is put together with, and that cannot stand for a table or column. -/
def selectWords : List String :=
  ["SELECT", "DISTINCT", "FROM", "INNER", "LEFT", "RIGHT", "JOIN", "ON", "WHERE", "GROUP",
    "HAVING", "ORDER",
    "ASC", "DESC", "LIMIT", "OFFSET"]

/-- A word as an element. -/
def wordElement (s : String) : Element := .token (.word s.toList)

/-- Whether a text refers to a table or column, and is none of the words of a select or of a
predicate. -/
def isName (s : String) : Bool := isColumn s && selectWords.all fun word => !(wordElement s).is word

/-! ## Clauses -/

/-- What may follow the table of a select, in the order of the grammar. -/
inductive Clause where
  | join (kind : JoinKind)
  | where_
  | group
  | having
  | order
  | limit
  | offset
deriving DecidableEq, Repr

namespace Clause

/-- The words by which a clause is known. -/
def words : Clause → List String
  | .join .inner => ["INNER", "JOIN"]
  | .join .left => ["LEFT", "JOIN"]
  | .join .right => ["RIGHT", "JOIN"]
  | .where_ => ["WHERE"]
  | .group => ["GROUP", "BY"]
  | .having => ["HAVING"]
  | .order => ["ORDER", "BY"]
  | .limit => ["LIMIT"]
  | .offset => ["OFFSET"]

def all : List Clause :=
  [.join .inner, .join .left, .join .right, .where_, .group, .having, .order, .limit, .offset]

theorem mem_all (c : Clause) : c ∈ all := by
  cases c with
  | join kind => cases kind <;> decide
  | _ => decide

end Clause

/-- Whether a sequence begins with these words. -/
def leads : List String → List Element → Bool
  | [], _ => true
  | _ :: _, [] => false
  | word :: words, e :: es => e.is word && leads words es

/-- Whether a clause begins here. -/
def begins (es : List Element) : Bool := Clause.all.any fun c => leads c.words es

/-- The parts of a sequence, cut wherever a clause begins. -/
def clauses : List Element → List (List Element)
  | [] => []
  | e :: rest =>
    match clauses rest with
    | [] => [[e]]
    | part :: parts => if begins rest then [e] :: part :: parts else (e :: part) :: parts

/-- Whether no clause begins anywhere in a sequence. -/
def quiet : List Element → Bool
  | [] => true
  | e :: es => !begins (e :: es) && quiet es

/-- Whether a text with these values is one expression, which no clause of a select cuts short. -/
def isExpression (text : List Char) (values : List (Option Value)) : Bool :=
  ((tokens text).bind fun ts => (fill values ts).bind elements).any fun es =>
    (read es).isSome && quiet es

/-! ## Parts of clauses

What stands in the clauses, each with a function that reads it from elements. -/

/-- A joined table with the condition under which its rows are joined. -/
structure Joined where
  kind : JoinKind
  table : String
  on : Formula

/-- The name that a single element stands for. -/
def name? : List Element → Option String
  | [.token (.word s)] => if isName (String.ofList s) then some (String.ofList s) else none
  | _ => none

/-- The direction that a word stands for. -/
def direction? (e : Element) : Option Direction :=
  if e.is "ASC" then some .ascending else if e.is "DESC" then some .descending else none

/-- A column with the direction of the order; the ascending one may be left out. -/
def ordering? : List Element → Option (String × Direction)
  | [e] => (name? [e]).map (·, .ascending)
  | [e, d] => (name? [e]).bind fun column => (direction? d).map (column, ·)
  | _ => none

/-- The number that a word of digits stands for. -/
def number? : List Element → Option Nat
  | [.token (.word s)] => if s.all Char.isDigit then some (Nat.ofDigitChars 10 s 0) else none
  | _ => none

/-- Whether an element is a comma. -/
def Element.isComma : Element → Bool
  | .token .comma => true
  | _ => false

/-- The items of a list with commas between them. -/
def listed? {α : Type} (item? : List Element → Option α) (es : List Element) : Option (List α) :=
  (es.splitOnP Element.isComma).mapM item?

/-- A select list; that of all columns is empty here. -/
def selectList? : List Element → Option (List String)
  | [.token (.symbol ['*'])] => some []
  | es => listed? name? es

/-- A joined table, with what stands behind `ON`. -/
def join? (kind : JoinKind) : List Element → Option Joined
  | table :: on :: rest =>
    if on.is "ON" then
      (name? [table]).bind fun table => (read rest).map fun f => ⟨kind, table, f⟩
    else none
  | _ => none

/-! ## Selects

A select from its first word to the last. The clauses are taken in the order of the grammar, each at
most once (`take?`), and none may be left. -/

/-- A clause, if it comes next, and what comes after it. -/
def take? {α : Type} (c : Clause) (body? : List Element → Option α) :
    List (List Element) → Option (Option α × List (List Element))
  | [] => some (none, [])
  | part :: rest =>
    if leads c.words part then (body? (part.drop c.words.length)).map fun x => (some x, rest)
    else some (none, part :: rest)

/-- The kind of join that a part begins with, if it begins with one. -/
def joinKind? (part : List Element) : Option JoinKind :=
  [JoinKind.inner, .left, .right].find? fun kind => leads (Clause.join kind).words part

/-- The joined tables that come next, and what comes after them. -/
def takeJoins : List (List Element) → Option (List Joined × List (List Element))
  | [] => some ([], [])
  | part :: rest =>
    match joinKind? part with
    | none => some ([], part :: rest)
    | some kind =>
      (join? kind (part.drop 2)).bind fun j => (takeJoins rest).map fun (joins, rest) =>
        (j :: joins, rest)

/-- What a select asks for. -/
structure Selection where
  isDistinct : Bool
  /-- The columns that are read, or none for all of them. -/
  columns : List String
  table : String
  joins : List Joined
  where? : Option Formula
  groups : List String
  having? : Option Formula
  order : List (String × Direction)
  limit? : Option Nat
  offset? : Option Nat

namespace Selection

/-- What comes behind the table. -/
def ofClauses (isDistinct : Bool) (columns : List String) (table : String)
    (parts : List (List Element)) :
    Option Selection := do
  let (joins, parts) ← takeJoins parts
  let (where?, parts) ← take? .where_ read parts
  let (groups?, parts) ← take? .group (listed? name?) parts
  let (having?, parts) ← take? .having read parts
  let (order?, parts) ← take? .order (listed? ordering?) parts
  let (limit?, parts) ← take? .limit number? parts
  let (offset?, parts) ← take? .offset number? parts
  if parts.isEmpty then
    some ⟨isDistinct, columns, table, joins, where?, groups?.getD [], having?, order?.getD [],
      limit?, offset?⟩
  else none

/-- Whether a dialect has a select with these bounds. -/
def isBounded (limit? offset? : Option Nat) : Dialect → Bool
  | .postgres => true
  | .sqlite => limit?.isSome || offset?.isNone

/-- What comes behind `SELECT`, or behind `DISTINCT`. -/
def ofList (d : Dialect) (isDistinct : Bool) (es : List Element) : Option Selection :=
  match es.dropWhile fun e => !e.is "FROM" with
  | _ :: table :: rest => do
    let columns ← selectList? (es.takeWhile fun e => !e.is "FROM")
    let table ← name? [table]
    let s ← ofClauses isDistinct columns table (clauses rest)
    if isBounded s.limit? s.offset? d then some s else none
  | _ => none

/-- What the elements of a text ask for, if it is a select. -/
def ofElements (d : Dialect) : List Element → Option Selection
  | [] => none
  | e :: es =>
    if !e.is "SELECT" then none
    else if leads ["DISTINCT"] es then ofList d true (es.drop 1)
    else ofList d false es

/-- What the text of a select asks for in a dialect, with these values in its placeholders. -/
def ofText (d : Dialect) (text : List Char) (values : List (Option Value)) : Option Selection :=
  (tokens text).bind fun ts => (fill values ts).bind fun ts => (elements ts).bind (ofElements d)

end Selection

/-! ## Cutting

That cutting a text at its clauses gives back the clauses that it was put together of
(`clauses_flatMap`). A clause begins at certain words, and the bodies must not have them, which is
what `quiet` says. -/

namespace Clause

/-- The words of a clause, as a text has them. -/
def elements (c : Clause) : List Element := c.words.map wordElement

/-- The words of a clause as they are written. -/
def keyword : Clause → String
  | .join kind => kind.token
  | .where_ => "WHERE"
  | .group => "GROUP BY"
  | .having => "HAVING"
  | .order => "ORDER BY"
  | .limit => "LIMIT"
  | .offset => "OFFSET"

/-- The place of a clause in a select. -/
def rank : Clause → Nat
  | .join _ => 0
  | .where_ => 1
  | .group => 2
  | .having => 3
  | .order => 4
  | .limit => 5
  | .offset => 6

/-- The words of a clause are read as its elements. -/
theorem reads_keyword (c : Clause) : Reads c.keyword.toList [] c.elements := by
  -- a keyword of two words has a space between them
  have hpair : ∀ first second : String, tokens first.toList = some [.word first.toList] →
      tokens second.toList = some [.word second.toList] →
      Reads (first.toList ++ ' ' :: second.toList) [] [wordElement first, wordElement second] :=
    fun first second hfirst hsecond =>
      (Reads.keyword first hfirst).append_space (.keyword second hsecond)
  cases c with
  | join kind =>
    cases kind with
    | inner => exact hpair "INNER" "JOIN" rfl rfl
    | left => exact hpair "LEFT" "JOIN" rfl rfl
    | right => exact hpair "RIGHT" "JOIN" rfl rfl
  | group => exact hpair "GROUP" "BY" rfl rfl
  | order => exact hpair "ORDER" "BY" rfl rfl
  | where_ => exact .keyword "WHERE" rfl
  | having => exact .keyword "HAVING" rfl
  | limit => exact .keyword "LIMIT" rfl
  | offset => exact .keyword "OFFSET" rfl

end Clause

/-- A clause with what stands in it. -/
structure Phrase where
  clause : Clause
  body : List Element

namespace Phrase

/-- A clause and its body, as a text has them. -/
def elements (p : Phrase) : List Element := p.clause.elements ++ p.body

end Phrase

/-- Whether a clause may begin with an element. -/
def Element.opens (e : Element) : Bool := Clause.all.any fun c => leads (c.words.take 1) [e]

/-- A sequence that does not go on with a clause that has begun before. -/
def Fresh (es : List Element) : Prop := ∀ e ∈ es.head?, e.is "JOIN" = false ∧ e.is "BY" = false

/-- No clause begins with the words of another. By cases on both. -/
theorem leads_clause (c c' : Clause) (body : List Element) :
    leads c.words (c'.elements ++ body) = decide (c = c') := by
  cases c with
  | join kind =>
    cases c' with
    | join kind' => cases kind <;> cases kind' <;> rfl
    | _ => cases kind <;> rfl
  | _ =>
    cases c' with
    | join kind' => cases kind' <;> rfl
    | _ => rfl

theorem begins_phrase (p : Phrase) (rest : List Element) : begins (p.elements ++ rest) = true := by
  refine List.any_eq_true.mpr ⟨p.clause, p.clause.mem_all, ?_⟩
  rw [Phrase.elements, List.append_assoc, leads_clause, decide_eq_true rfl]

/-- Where a clause begins, the first element opens it. -/
theorem opens_of_begins {e : Element} {es : List Element} (h : begins (e :: es) = true) :
    e.opens = true := by
  obtain ⟨c, hc, h⟩ := List.any_eq_true.mp h
  refine List.any_eq_true.mpr ⟨c, hc, ?_⟩
  -- the first word of the clause is the element
  cases hwords : c.words with
  | nil => rfl
  | cons word words =>
    rw [hwords, leads, Bool.and_eq_true] at h
    rw [List.take_succ_cons, leads, h.1]
    rfl

/-- An element that opens no clause does not disturb what is quiet. -/
theorem quiet_cons {e : Element} {es : List Element} (he : e.opens = false)
    (hes : quiet es = true) :
    quiet (e :: es) = true := by
  have hbegins : begins (e :: es) = false := by
    cases hb : begins (e :: es) with
    | false => rfl
    | true => exact absurd (opens_of_begins hb) (by simp [he])
  rw [quiet, hbegins, hes]
  rfl

/-- Elements none of which opens a clause are quiet. -/
theorem quiet_of_forall {es : List Element} (h : ∀ e ∈ es, e.opens = false) : quiet es = true := by
  induction es with
  | nil => rfl
  | cons e es ih =>
    obtain ⟨he, hes⟩ := List.forall_mem_cons.mp h
    exact quiet_cons he (ih hes)

/-- Behind its first element a sequence decides whether a clause begins with that. -/
theorem begins_append {es rest : List Element} (hne : es ≠ []) (hrest : Fresh rest) :
    begins (es ++ rest) = begins es := by
  have hleads : ∀ c : Clause, leads c.words (es ++ rest) = leads c.words es := by
    intro c
    obtain ⟨e, tail, rfl⟩ := List.exists_cons_of_ne_nil hne
    cases tail with
    | cons f tail =>
      -- no clause has more than two words
      cases c with
      | join kind => cases kind <;> rfl
      | _ => rfl
    | nil =>
      cases rest with
      | nil => rfl
      | cons f rest =>
        obtain ⟨hjoin, hby⟩ := hrest f rfl
        cases c with
        | join kind => cases kind <;> simp [leads, Clause.words, hjoin]
        | group => simp [leads, Clause.words, hby]
        | order => simp [leads, Clause.words, hby]
        | _ => rfl
  unfold begins
  simp only [hleads]

/-- Two quiet sequences are quiet together, if the second one does not go on with a clause of two
words. -/
theorem quiet_append {es rest : List Element} (hes : quiet es = true) (hrest : quiet rest = true)
    (hfresh : Fresh rest) : quiet (es ++ rest) = true := by
  induction es with
  | nil => exact hrest
  | cons e es ih =>
    obtain ⟨he, hes⟩ := Bool.and_eq_true_iff.mp hes
    rw [List.cons_append, quiet, ih hes, ← List.cons_append, begins_append (by simp) hfresh, he]
    rfl

/-- Quiet sequences with a word between them that opens nothing are quiet. -/
theorem quiet_joined {word : String} (hopens : (wordElement word).opens = false)
    (hjoin : (wordElement word).is "JOIN" = false) (hby : (wordElement word).is "BY" = false)
    {parts : List (List Element)} (h : ∀ part ∈ parts, quiet part = true) :
    quiet (joined word parts) = true := by
  induction parts with
  | nil => rfl
  | cons part rest ih =>
    obtain ⟨hpart, hrest⟩ := List.forall_mem_cons.mp h
    cases rest with
    | nil => rwa [joined, List.intercalate_singleton]
    | cons next rest =>
      rw [joined, List.intercalate_cons_cons, List.append_assoc, List.singleton_append]
      refine quiet_append hpart (quiet_cons hopens (ih hrest)) fun e he => ?_
      obtain rfl := Option.some.inj he
      exact ⟨hjoin, hby⟩

/-- An expression can be read wherever it stands. -/
theorem exists_reads_of_isExpression {text : List Char} {values : List (Option Value)}
    (h : isExpression text values = true) :
    ∃ es, Reads text values es ∧ (read es).isSome = true ∧ quiet es = true := by
  obtain ⟨es, hes, h⟩ := (Option.any_eq_true _ _).mp h
  obtain ⟨ts, hts, hes⟩ := Option.bind_eq_some_iff.mp hes
  obtain ⟨filled, hfilled, hes⟩ := Option.bind_eq_some_iff.mp hes
  obtain ⟨hread, hquiet⟩ := Bool.and_eq_true_iff.mp h
  exact ⟨es, ⟨ts, filled, hts, hfilled, .of_elements hes⟩, hread, hquiet⟩

/-- What is quiet stays together with the element before it. -/
theorem clauses_append {e : Element} {body rest : List Element} (hbody : quiet body = true)
    (hrest : rest = [] ∨ begins rest = true) (hfresh : Fresh rest) :
    clauses (e :: body ++ rest) = (e :: body) :: clauses rest := by
  induction body generalizing e with
  | nil =>
    show clauses (e :: rest) = [e] :: clauses rest
    rw [clauses]
    cases hparts : clauses rest with
    | nil => rfl
    | cons part parts =>
      rcases hrest with rfl | hrest
      · simp [clauses] at hparts
      · simp only [hrest, if_true]
  | cons f body ih =>
    obtain ⟨hf, hbody⟩ := Bool.and_eq_true_iff.mp hbody
    -- within the body no clause begins, whatever comes behind
    have hbegins : begins (f :: body ++ rest) = false := by
      rw [begins_append (by simp) hfresh]
      simpa using hf
    rw [List.cons_append, clauses, ih hbody]
    simp only [hbegins, Bool.false_eq_true, if_false]

namespace Phrase

/-- A phrase begins with an element that is not the second word of a clause, and is quiet behind it.
-/
theorem elements_eq_cons (p : Phrase) :
    ∃ e tail, p.elements = e :: tail ∧ e.is "JOIN" = false ∧ e.is "BY" = false
      ∧ (quiet p.body = true → quiet tail = true) := by
  obtain ⟨c, body⟩ := p
  cases c with
  | join kind => cases kind <;> exact ⟨_, _, rfl, rfl, rfl, fun h => quiet_cons rfl h⟩
  | group => exact ⟨_, _, rfl, rfl, rfl, fun h => quiet_cons rfl h⟩
  | order => exact ⟨_, _, rfl, rfl, rfl, fun h => quiet_cons rfl h⟩
  | _ => exact ⟨_, _, rfl, rfl, rfl, id⟩

theorem fresh_flatMap (phrases : List Phrase) : Fresh (phrases.flatMap elements) := by
  intro f hf
  cases phrases with
  | nil => simp at hf
  | cons p phrases =>
    obtain ⟨e, tail, heq, hjoin, hby, -⟩ := p.elements_eq_cons
    rw [List.flatMap_cons, heq] at hf
    obtain rfl := Option.some.inj hf
    exact ⟨hjoin, hby⟩

/-- **Cutting at clauses.** Phrases without clauses inside are cut where they were put together. -/
theorem clauses_flatMap {phrases : List Phrase} (h : ∀ p ∈ phrases, quiet p.body = true) :
    clauses (phrases.flatMap elements) = phrases.map elements := by
  induction phrases with
  | nil => rfl
  | cons p phrases ih =>
    obtain ⟨hp, hphrases⟩ := List.forall_mem_cons.mp h
    obtain ⟨e, tail, heq, -, -, hquiet⟩ := p.elements_eq_cons
    -- behind a phrase there is nothing, or the next phrase begins
    have hrest : phrases.flatMap elements = [] ∨ begins (phrases.flatMap elements) = true := by
      cases phrases with
      | nil => exact .inl rfl
      | cons q phrases => exact .inr (begins_phrase q _)
    rw [List.flatMap_cons, heq, clauses_append (hquiet hp) hrest (fresh_flatMap phrases),
      ih hphrases, List.map_cons, heq]

end Phrase

/-! ## Taking clauses

Of phrases in the order of the grammar, each is taken when its turn comes, and what is left out is
passed over. -/

section Taking

variable {α : Type} {rest : List Phrase}

/-- A clause that comes next is taken, with what its body stands for. -/
theorem take?_present {c : Clause} {body? : List Element → Option α} {body : List Element} {x : α}
    (h : body? body = some x) (rest : List (List Element)) :
    take? c body? ((Phrase.mk c body).elements :: rest) = some (some x, rest) := by
  have hbody : ((Phrase.mk c body).elements).drop c.words.length = body :=
    List.drop_left' (by rw [Clause.elements, List.length_map])
  rw [take?, hbody, h, Phrase.elements, leads_clause, decide_eq_true rfl]
  rfl

/-- A clause that is left out is not mistaken for one that comes later in the grammar. -/
theorem take?_absent {c : Clause} (body? : List Element → Option α)
    (hrest : ∀ p ∈ rest, c.rank < p.clause.rank) :
    take? c body? (rest.map Phrase.elements) = some (none, rest.map Phrase.elements) := by
  cases rest with
  | nil => rfl
  | cons p rest =>
    -- the next clause comes later in the grammar, so it is another one
    have hne : c ≠ p.clause := by
      rintro rfl
      exact absurd (hrest p (by simp)) (by omega)
    rw [List.map_cons, take?, Phrase.elements, leads_clause, decide_eq_false hne]
    rfl

/-- A phrase is a join just if its clause is one. -/
theorem joinKind?_phrase (p : Phrase) :
    joinKind? p.elements = match p.clause with
      | .join kind => some kind
      | _ => none := by
  obtain ⟨c, body⟩ := p
  cases c with
  | join kind => cases kind <;> rfl
  | _ => rfl

/-- A join that comes next is taken, and then those behind it. -/
theorem takeJoins_cons {kind : JoinKind} {body : List Element} {x : Joined} {xs : List Joined}
    {parts after : List (List Element)} (h : join? kind body = some x)
    (hparts : takeJoins parts = some (xs, after)) :
    takeJoins ((Phrase.mk (.join kind) body).elements :: parts) = some (x :: xs, after) := by
  have hbody : ((Phrase.mk (.join kind) body).elements).drop 2 = body :=
    List.drop_left' (by cases kind <;> rfl)
  rw [takeJoins, joinKind?_phrase, hbody]
  show ((join? kind body).bind fun j => (takeJoins parts).map _) = _
  rw [h, hparts]
  rfl

/-- What comes behind the joins is none of them. -/
theorem takeJoins_nil (hrest : ∀ p ∈ rest, 0 < p.clause.rank) :
    takeJoins (rest.map Phrase.elements) = some ([], rest.map Phrase.elements) := by
  cases rest with
  | nil => rfl
  | cons p rest =>
    have hkind : joinKind? p.elements = none := by
      have hrank := hrest p (by simp)
      rw [joinKind?_phrase]
      cases hc : p.clause with
      | join kind => exact absurd hrank (by rw [hc]; exact Nat.lt_irrefl 0)
      | _ => rfl
    rw [List.map_cons, takeJoins, hkind]

end Taking

/-! ## Names and lists

Lists of names, as in a select list and behind `GROUP BY`. -/

theorem isColumn_of_isName {s : String} (h : isName s = true) : isColumn s = true :=
  (Bool.and_eq_true_iff.mp h).1

theorem is_of_isName {s : String} (h : isName s = true) :
    ∀ word ∈ selectWords, (wordElement s).is word = false := by
  have hwords := List.all_eq_true.mp (Bool.and_eq_true_iff.mp h).2
  intro word hword
  simpa using hwords word hword

theorem Reads.name {s : String} (h : isName s = true) : Reads s.toList [] [wordElement s] :=
  .column (isColumn_of_isName h)

/-- What is none of the words of a select opens no clause. -/
theorem opens_eq_false {e : Element} (h : ∀ word ∈ selectWords, e.is word = false) :
    e.opens = false := by
  rw [Element.opens, List.any_eq_false]
  intro c _
  have hfirst : ∃ word ∈ selectWords, c.words.take 1 = [word] := by
    cases c with
    | join kind => cases kind <;> exact ⟨_, by decide, rfl⟩
    | _ => exact ⟨_, by decide, rfl⟩
  obtain ⟨word, hword, hfirst⟩ := hfirst
  rw [hfirst, leads, h word hword]
  simp

theorem opens_wordElement {s : String} (h : isName s = true) : (wordElement s).opens = false :=
  opens_eq_false (is_of_isName h)

theorem name?_wordElement {s : String} (h : isName s = true) : name? [wordElement s] = some s := by
  simp [name?, wordElement, h]

/-- Items with commas between them are read as a list, if each of them is read and has no comma
inside. -/
theorem listed?_intercalate {α : Type} {item? : List Element → Option α} {write : α → List Element}
    {xs : List α} (hne : xs ≠ []) (hitem : ∀ x ∈ xs, item? (write x) = some x)
    (hcomma : ∀ x ∈ xs, ∀ e ∈ write x, e.isComma = false) :
    listed? item? ([.token .comma].intercalate (xs.map write)) = some xs := by
  rw [listed?, splitOnP_intercalate rfl (by simpa using hne) (List.forall_mem_map.mpr hcomma)]
  clear hne hcomma
  induction xs with
  | nil => rfl
  | cons x xs ih =>
    obtain ⟨hx, hxs⟩ := List.forall_mem_cons.mp hitem
    rw [List.map_cons, List.mapM_cons, hx, ih hxs]
    rfl

/-! ### Select lists -/

/-- A select list, as a text has it. -/
def listElements (columns : List String) : List Element :=
  if columns.isEmpty then [.token (.symbol ['*'])]
  else [.token .comma].intercalate (columns.map fun s => [wordElement s])

theorem listed?_names {names : List String} (hne : names ≠ []) (h : ∀ s ∈ names, isName s = true) :
    listed? name? ([.token .comma].intercalate (names.map fun s => [wordElement s])) =
      some names := by
  refine listed?_intercalate hne (fun s hs => name?_wordElement (h s hs)) fun s _ e he => ?_
  rw [List.mem_singleton.mp he]
  rfl

/-- In a select list there is none of the words of a select. -/
theorem is_listElements {columns : List String} (h : ∀ s ∈ columns, isName s = true) :
    ∀ e ∈ listElements columns, ∀ word ∈ selectWords, e.is word = false := by
  intro e he word hword
  unfold listElements at he
  split at he
  · rw [List.mem_singleton.mp he]
    rfl
  · -- an element of the list is one of a name, or a comma
    rcases mem_intercalate he with ⟨part, hpart, he⟩ | rfl
    · obtain ⟨s, hs, rfl⟩ := List.mem_map.mp hpart
      rw [List.mem_singleton.mp he]
      exact is_of_isName (h s hs) word hword
    · rfl

/-- The list of a select is never empty, since all columns are a star. -/
theorem listElements_ne_nil (columns : List String) : listElements columns ≠ [] := by
  match columns with
  | [] => simp [listElements]
  | [s] => simp [listElements]
  | s :: t :: rest => simp [listElements, List.intercalate_cons_cons]

theorem selectList?_listElements {columns : List String} (h : ∀ s ∈ columns, isName s = true) :
    selectList? (listElements columns) = some columns := by
  match columns with
  | [] => rfl
  | s :: rest =>
    rw [← listed?_names (List.cons_ne_nil s rest) h]
    -- a list of names begins with a name, and so is not that of all columns
    cases rest with
    | nil => rfl
    | cons t rest =>
      simp only [listElements, List.isEmpty_cons, List.map_cons, List.intercalate_cons_cons]
      rfl

/-! ### Pairs of columns -/

/-- Two columns that have to be equal. -/
def Atom.equates (left right : String) : Atom :=
  .other [.word left.toList, .symbol ['='], .word right.toList]

/-- Two columns with an equals sign between them. -/
def pairElements (pair : String × String) : List Element :=
  [wordElement pair.1, .token (.symbol ['=']), wordElement pair.2]

/-- Such a comparison is plain, and of a form that is not looked into. -/
theorem plain_pairElements {pair : String × String} (hleft : isColumn pair.1 = true)
    (hright : isColumn pair.2 = true) :
    Plain (pairElements pair) (.atom (.equates pair.1 pair.2)) := by
  refine Plain.of_column hleft (List.forall_mem_cons.mpr ⟨rfl, ?_⟩)
  intro e he
  obtain rfl := List.mem_singleton.mp he
  simp only [isColumn, Bool.and_eq_true, Bool.not_eq_true'] at hright
  exact hright.1.2

theorem reads_pair {pair : String × String} (hleft : isColumn pair.1 = true)
    (hright : isColumn pair.2 = true) :
    Reads s!"{pair.1} = {pair.2}".toList [] (pairElements pair) := by
  have hpair :=
    (Reads.column hleft).append_space ((Reads.operator .equal).append_space (Reads.column hright))
  have hchars : s!"{pair.1} = {pair.2}".toList =
      pair.1.toList ++ ' ' :: ("=".toList ++ ' ' :: pair.2.toList) := by
    simp [toString]
  rw [hchars]
  exact hpair

/-! ### Orders and bounds -/

/-- A direction as a word. -/
def directionElement (d : Direction) : Element := .token (.word d.token.toList)

theorem direction?_directionElement (d : Direction) : direction? (directionElement d) = some d := by
  cases d <;> decide

/-- A column with its direction. -/
def orderElements (order : String × Direction) : List Element :=
  [wordElement order.1, directionElement order.2]

theorem ordering?_orderElements {order : String × Direction} (h : isName order.1 = true) :
    ordering? (orderElements order) = some order := by
  show (name? [wordElement order.1]).bind (fun column => (direction? _).map (column, ·))
    = some order
  rw [name?_wordElement h, direction?_directionElement]
  rfl

/-- A number as a word. -/
def numberElement (n : Nat) : Element := wordElement (toString n)

theorem toList_toString (n : Nat) : (toString n).toList = Nat.toDigits 10 n := by
  rw [Nat.toString_eq_repr, Nat.toList_repr]

theorem isDigit_of_mem_toString {n : Nat} {c : Char} (hc : c ∈ (toString n).toList) :
    c.isDigit = true := by
  rw [toList_toString] at hc
  exact Nat.isDigit_of_mem_toDigits (by decide) (by decide) hc

theorem toUpper_of_isDigit {c : Char} (h : c.isDigit = true) : c.toUpper = c := by
  unfold Char.toUpper
  simp only [Char.isDigit, Bool.and_eq_true, decide_eq_true_eq, ge_iff_le, UInt32.le_iff_toNat_le]
    at h ⊢
  rw [dif_neg]
  rintro ⟨hlower, -⟩
  have hdigit := h.2
  simp at hlower hdigit
  omega

theorem reads_number (n : Nat) : Reads (toString n).toList [] [numberElement n] := by
  refine .word (tokens_word ?_ fun c hc => kind_of_continues (.inl ?_))
  · rw [toList_toString]
    exact Nat.toDigits_ne_nil
  · simp [FieldToken.continuesIdentifier, Char.isAlphanum, isDigit_of_mem_toString hc]

theorem number?_numberElement (n : Nat) : number? [numberElement n] = some n := by
  have hall : (toString n).toList.all Char.isDigit = true :=
    List.all_eq_true.mpr fun c hc => isDigit_of_mem_toString hc
  rw [numberElement, wordElement, number?, if_pos hall, toList_toString,
    Nat.ofDigitChars_ten_toDigits]

/-- A number opens no clause, as no keyword is made of digits. -/
theorem opens_numberElement (n : Nat) : (numberElement n).opens = false := by
  refine opens_eq_false fun word hword => ?_
  -- the words of a select have letters, and no digit becomes a letter
  have hletter : word.toList.all Char.isDigit = false := by
    revert word
    decide
  obtain ⟨c, hc, hno⟩ := List.all_eq_false.mp hletter
  refine Bool.eq_false_iff.mpr fun his => hno ?_
  have heq : (toString n).toList.map Char.toUpper = word.toList := beq_iff_eq.mp his
  obtain ⟨digit, hdigit, rfl⟩ := List.mem_map.mp (heq ▸ hc)
  rw [toUpper_of_isDigit (isDigit_of_mem_toString hdigit)]
  exact isDigit_of_mem_toString hdigit

/-! ## Reading what is put together

The front of a select, which is not a clause. -/

namespace Selection

/-- The select list and the table, as a text has them. -/
def sourceElements (columns : List String) (table : String) : List Element :=
  listElements columns ++ [wordElement "FROM", wordElement table]

/-- Select list and table are read, and the clauses behind them are left. -/
theorem ofList_source (d : Dialect) (isDistinct : Bool) {columns : List String} {table : String}
    (hcolumns : ∀ s ∈ columns, isName s = true) (htable : isName table = true)
    (rest : List Element) :
    ofList d isDistinct (sourceElements columns table ++ rest) =
      (ofClauses isDistinct columns table (clauses rest)).bind fun s =>
        if isBounded s.limit? s.offset? d then some s else none := by
  have hes : sourceElements columns table ++ rest =
      listElements columns ++ wordElement "FROM" :: wordElement table :: rest := by
    rw [sourceElements, List.append_assoc]
    rfl
  -- the list ends at the first `FROM`, which is not in it
  have hlist : ∀ e ∈ listElements columns, (!e.is "FROM") = true := fun e he => by
    rw [is_listElements hcolumns e he "FROM" (by decide)]
    rfl
  have hfrom : ¬ (!(wordElement "FROM").is "FROM") = true := by decide
  rw [hes, ofList, List.dropWhile_append_of_pos hlist, List.takeWhile_append_of_pos hlist,
    List.dropWhile_cons_of_neg (p := fun e : Element => !e.is "FROM") hfrom,
    List.takeWhile_cons_of_neg (p := fun e : Element => !e.is "FROM") hfrom, List.append_nil]
  show ((selectList? (listElements columns)).bind fun columns =>
      (name? [wordElement table]).bind fun table =>
    (ofClauses isDistinct columns table (clauses rest)).bind fun s => _) = _
  rw [selectList?_listElements hcolumns, name?_wordElement htable]
  rfl

theorem ofElements_select (d : Dialect) (isDistinct : Bool) {columns : List String}
    (hcolumns : ∀ s ∈ columns, isName s = true) (table : String) (rest : List Element) :
    ofElements d (wordElement "SELECT" :: (if isDistinct then [wordElement "DISTINCT"] else [])
        ++ sourceElements columns table ++ rest) =
      ofList d isDistinct (sourceElements columns table ++ rest) := by
  have hselect : ¬ (!(wordElement "SELECT").is "SELECT") = true := by decide
  cases isDistinct with
  | true =>
    have hdistinct : (wordElement "DISTINCT").is "DISTINCT" = true := by decide
    show ofElements d
      (wordElement "SELECT" :: wordElement "DISTINCT" :: (sourceElements columns table ++ rest)) = _
    rw [ofElements, if_neg hselect, leads, leads, hdistinct]
    rfl
  | false =>
    obtain ⟨e, es, heq⟩ := List.exists_cons_of_ne_nil (listElements_ne_nil columns)
    -- what is selected could be taken for the flag only if it began with the same word
    have he : e.is "DISTINCT" = false :=
      is_listElements hcolumns e (by rw [heq]; exact List.mem_cons_self) "DISTINCT" (by decide)
    have hlead : leads ["DISTINCT"] (sourceElements columns table ++ rest) = false := by
      rw [sourceElements, heq, List.cons_append, List.cons_append, leads, he]
      rfl
    show ofElements d (wordElement "SELECT" :: (sourceElements columns table ++ rest)) = _
    rw [ofElements, if_neg hselect, hlead]
    rfl

end Selection

/-- A text asks for what its elements ask for. -/
theorem Reads.ofText_select {text : List Char} {values : List (Option Value)} {es : List Element}
    (h : Reads text values es) (d : Dialect) :
    Selection.ofText d text values = Selection.ofElements d es := by
  obtain ⟨ts, filled, hts, hfilled, hnests⟩ := h
  simp [Selection.ofText, hts, hfilled, elements_of_nests hnests]

end EntityMapper.Reading
