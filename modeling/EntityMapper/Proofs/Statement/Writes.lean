import EntityMapper.Proofs.Reading.Write
import EntityMapper.Proofs.Statement.Restriction

/-!
# Values in their columns

An insert lists its columns and then, apart from them, its values; an update sets its columns one by
one. Nulls are written out and not bound, so which value a placeholder takes depends on the columns
before it. The main statement is that nothing gets out of place (`writes_read_back`): what is read
of an insert, or of the assignments of an update, are the fields that it was made of.

## Structure

* `Sql.Lexes` — SQL as tokens.
* `takes_slot`, `takes_values`, `takes_pairs` — the parts of an insert, as the rules of the grammar
  take them.
* `leadingTokens_update` — the tokens of an update up to its clause, and what the clause begins
  with.
* `endsList_clause` — no assignment goes on into the clause.
-/

namespace EntityMapper

open Reading

/-! ## Tokens of SQL

SQL is taken apart into tokens before it is read. Where a blank or a comma stands between two parts,
the tokens are those of the one and then those of the other. -/

theorem Reading.tokens_reference {s : String} (h : FieldToken.isReference s.toList = true) :
    tokens s.toList = some [.word s.toList] := by
  obtain ⟨hne, hchars⟩ := isReference_chars h
  exact tokens_word hne fun c hc => kind_of_continues (hchars c hc)

namespace Sql

theorem bindings_text (s : String) (sql : Sql) : bindings (.text s :: sql) = sql.bindings := rfl

/-- SQL that consists of these tokens. -/
def Lexes (sql : Sql) (ts : List Token) : Prop := tokens sql.chars = some ts

theorem Lexes.listed {α : Type} {make : α → Sql} {write : α → List Token} {xs : List α}
    (h : ∀ x ∈ xs, (make x).Lexes (write x)) :
    (joined ", " (xs.map make)).Lexes ([.comma].intercalate (xs.map write)) := by
  induction xs with
  | nil => rfl
  | cons x xs ih =>
    obtain ⟨hx, hxs⟩ := List.forall_mem_cons.mp h
    cases xs with
    | nil =>
      rw [List.map_singleton, List.map_singleton, joined_singleton, List.intercalate_singleton]
      exact hx
    | cons y ys =>
      have hchars : (joined ", " ((x :: y :: ys).map make)).chars =
          (make x).chars ++ ',' :: ' ' :: (joined ", " ((y :: ys).map make)).chars := by
        simp [chars, Piece.chars]
      -- the blank behind a comma is passed over
      have hrest : tokens (' ' :: (joined ", " ((y :: ys).map make)).chars) =
          some ([.comma].intercalate ((y :: ys).map write)) := by
        rw [tokens_cons_blank (by decide)]
        exact ih hxs
      have hcomma : kind ',' = .alone [.comma] := rfl
      show tokens (joined ", " ((x :: y :: ys).map make)).chars =
        some ([.comma].intercalate (write x :: write y :: ys.map write))
      rw [hchars, List.intercalate_cons_cons]
      exact tokens_append_cons hx hcomma hrest

end Sql

namespace Statement

/-! ## Slots

A value is a word or a mark, and so one token in either case. -/

/-- What the place of a written value is read as. -/
def slotToken (v : Value) : Token := if v.isNull then .word "NULL".toList else .slot none

/-- A null is the word `NULL`, and any other value is a mark. -/
theorem lexes_valueSlot (v : Value) : (valueSlot v).Lexes [slotToken v] := by
  unfold valueSlot slotToken
  cases v.isNull <;> rfl

/-- The place of a value takes the value that is bound there, and a null takes none. -/
theorem takes_slot (v : Value) : Rule.slot.Takes [slotToken v] (valueSlot v).bindings v := by
  cases v with
  | null => exact Rule.Takes.slot_null
  | _ => exact Rule.Takes.slot_bound _

/-- A column, and behind it its value. -/
def assignmentTokens (entry : String × Value) : List Token :=
  [.word entry.1.toList, .symbol ['='], slotToken entry.2]

/-- Blanks are around the equals sign, so none of its neighbours runs into it. -/
theorem lexes_assignment {column : String} (h : FieldToken.isReference column.toList = true)
    (v : Value) :
    Sql.Lexes (.text s!"{column} = " :: valueSlot v) (assignmentTokens (column, v)) := by
  have hchars : Sql.chars (.text s!"{column} = " :: valueSlot v) =
      column.toList ++ ' ' :: ("=".toList ++ ' ' :: (valueSlot v).chars) := by
    simp [Sql.chars, Sql.Piece.chars, toString]
  have hequals : tokens "=".toList = some [.symbol ['=']] := rfl
  rw [Sql.Lexes, hchars]
  exact tokens_append_space (tokens_reference h) (tokens_append_space hequals (lexes_valueSlot v))

/-! ## Inserts

An insert has its columns in one list and its values in another. What relates them is their order
alone, so the pairs that are read are right if no value is skipped: a null has its place in the
list, although it is not bound. -/

variable {table : String} {fields : Fields}

/-- The values that are bound for fields: all but the nulls. -/
def boundValues (fields : Fields) : List Value :=
  fields.entries.flatMap fun entry => (valueSlot entry.2).bindings

/-- Nothing is bound for fields but their values, whatever else is written for them. -/
theorem bindings_slots (fields : Fields) (write : String × Value → Sql)
    (hwrite : ∀ entry, (write entry).bindings = (valueSlot entry.2).bindings) :
    (Sql.joined ", " (fields.entries.map write)).bindings = boundValues fields := by
  rw [Fragment.bindings_joined, List.flatMap_map]
  exact List.flatMap_congr fun entry _ => hwrite entry

/-- The columns of an insert. -/
def nameList (fields : Fields) : Sql := Sql.joined ", " (fields.keys.map Sql.plain)

/-- The places of its values. -/
def slotList (fields : Fields) : Sql :=
  Sql.joined ", " (fields.entries.map fun entry => valueSlot entry.2)

/-- An insert of at least one field, with its two lists named. -/
theorem sql_insert (hne : fields.isEmpty = false) :
    (insert table fields).sql = .text s!"INSERT INTO {table} (" :: nameList fields
      ++ .text ") VALUES (" :: slotList fields ++ [.text ")"] :=
  if_neg (by simp [hne])

/-- The columns as tokens. -/
def columnTokens (fields : Fields) : List Token :=
  [.comma].intercalate (fields.keys.map fun column => [.word column.toList])

/-- The places of the values as tokens. -/
def slotTokens (fields : Fields) : List Token :=
  [.comma].intercalate (fields.entries.map fun entry => [slotToken entry.2])

/-- An insert as tokens. -/
def insertTokens (table : String) (fields : Fields) : List Token :=
  .word "INSERT".toList :: .word "INTO".toList :: .word table.toList ::
    (.opening :: columnTokens fields ++ .closing :: .word "VALUES".toList ::
      (.opening :: slotTokens fields ++ [.closing]))

/-- Part by part from the last one to the first, each set off by a blank. -/
theorem lexes_insert (htable : FieldToken.isReference table.toList = true)
    (hne : fields.isEmpty = false)
    (hcolumns : ∀ column ∈ fields.keys, FieldToken.isReference column.toList = true) :
    (insert table fields).sql.Lexes (insertTokens table fields) := by
  have hnames : (nameList fields).Lexes (columnTokens fields) := by
    refine Sql.Lexes.listed fun column hcolumn => ?_
    have hchars : (Sql.plain column).chars = column.toList := List.append_nil _
    rw [Sql.Lexes, hchars]
    exact tokens_reference (hcolumns column hcolumn)
  have hslots : (slotList fields).Lexes (slotTokens fields) :=
    Sql.Lexes.listed fun entry _ => lexes_valueSlot entry.2
  have hchars : (insert table fields).sql.chars =
      "INSERT".toList ++ ' ' :: ("INTO".toList ++ ' ' :: (table.toList ++ ' ' ::
        ('(' :: (nameList fields).chars ++ ')' :: ' ' :: ("VALUES".toList ++ ' ' ::
          ('(' :: (slotList fields).chars ++ ')' :: []))))) := by
    simp [sql_insert hne, Sql.chars, Sql.Piece.chars, toString]
  have hinsert : tokens "INSERT".toList = some [.word "INSERT".toList] := rfl
  have hinto : tokens "INTO".toList = some [.word "INTO".toList] := rfl
  have hvalues : tokens "VALUES".toList = some [.word "VALUES".toList] := rfl
  have hend : tokens [] = some [] := rfl
  -- the values are the last part
  have hlast := tokens_append_space hvalues (tokens_group hslots hend)
  rw [← tokens_cons_blank (c := ' ') (by decide)] at hlast
  rw [Sql.Lexes, hchars]
  exact tokens_append_space hinsert (tokens_append_space hinto
    (tokens_append_space (tokens_reference htable) (tokens_group hnames hlast)))

theorem bindings_insert (hne : fields.isEmpty = false) :
    (insert table fields).bindings = boundValues fields := by
  have hslots : (slotList fields).bindings = boundValues fields :=
    bindings_slots fields (fun entry => valueSlot entry.2) fun _ => rfl
  have hnames : (nameList fields).bindings = [] := by
    rw [nameList, Fragment.bindings_joined, List.flatMap_map]
    exact List.flatMap_eq_nil_iff.mpr fun _ _ => rfl
  rw [bindings, sql_insert hne, Sql.bindings_append, Sql.bindings_append, Sql.bindings_text,
    Sql.bindings_text, hnames, hslots]
  exact List.append_nil _

theorem takes_columns (hne : fields.entries ≠ []) :
    (Rule.parenthesised (Rule.listOf Rule.name)).Takes
      (.opening :: columnTokens fields ++ [.closing]) []
      fields.keys := by
  have hkeys : fields.keys ≠ [] := by simpa [Dict.keys] using hne
  have hnothing : fields.keys.flatMap (fun _ => ([] : List Value)) = [] :=
    List.flatMap_eq_nil_iff.mpr fun _ _ => rfl
  have hnames := Rule.Takes.parenthesised hkeys fun column _ => Rule.Takes.name column
  rw [hnothing] at hnames
  exact hnames

theorem takes_values (hne : fields.entries ≠ []) :
    (Rule.parenthesised (Rule.listOf Rule.slot)).Takes (.opening :: slotTokens fields ++ [.closing])
      (boundValues fields) (fields.entries.map Prod.snd) := by
  have hvalues : fields.entries.map Prod.snd ≠ [] := by simpa using hne
  have hslots := Rule.Takes.parenthesised hvalues fun v _ => takes_slot v
  rw [List.map_map, List.flatMap_map] at hslots
  exact hslots

/-- Columns and values belong together in the order in which they were listed. -/
theorem takes_pairs :
    Rule.Takes (if fields.keys.length = (fields.entries.map Prod.snd).length then
        pure ⟨table, fields.keys.zip (fields.entries.map Prod.snd)⟩ else failure) [] []
      (⟨table, fields.entries⟩ : Writing) := by
  have hlength : fields.keys.length = (fields.entries.map Prod.snd).length := by simp [Dict.keys]
  have hzip : fields.keys.zip (fields.entries.map Prod.snd) = fields.entries := by
    have hunzip := List.zip_unzip fields.entries
    rw [List.unzip_eq_map] at hunzip
    exact hunzip
  rw [if_pos hlength, hzip]
  exact .pure _

/-- The rule for inserts takes the tokens of an insert. It is followed part by part, with the values
that each part takes. -/
theorem takes_insertion (hne : fields.isEmpty = false) :
    Rule.insertion.Takes (insertTokens table fields) (boundValues fields)
      ⟨table, fields.entries⟩ := by
  have hentries : fields.entries ≠ [] := by simpa [Dict.isEmpty] using hne
  have hinsert : (Rule.keyword "INSERT").Takes [.word "INSERT".toList] [] () := .keyword rfl
  have hinto : (Rule.keyword "INTO").Takes [.word "INTO".toList] [] () := .keyword rfl
  have hword : (Rule.keyword "VALUES").Takes [.word "VALUES".toList] [] () := .keyword rfl
  have htokens : insertTokens table fields = [.word "INSERT".toList] ++ ([.word "INTO".toList] ++
      ([.word table.toList] ++ ((.opening :: columnTokens fields ++ [.closing]) ++
        ([.word "VALUES".toList] ++ ((.opening :: slotTokens fields ++ [.closing]) ++ []))))) := by
    simp [insertTokens]
  -- only the values take anything
  have hbound :
      boundValues fields = [] ++ ([] ++ ([] ++ ([] ++ ([] ++ (boundValues fields ++ []))))) :=
    (List.append_nil _).symm
  rw [htokens, hbound]
  exact hinsert.bind (hinto.bind ((Rule.Takes.name table).bind ((takes_columns hentries).bind
    (hword.bind ((takes_values hentries).bind takes_pairs)))))

/-! ## Updates

An update has the columns and values side by side. Here it is the clause behind them that has to be
kept apart: the list of assignments ends before its keyword, and the values of the condition come
behind all others. -/

/-- An update without a clause, as tokens. -/
def updateTokens (table : String) (fields : Fields) : List Token :=
  .word "UPDATE".toList :: .word table.toList :: .word "SET".toList ::
    [.comma].intercalate (fields.entries.map assignmentTokens)

/-- The update of all rows has just these tokens. -/
theorem tokens_update (htable : FieldToken.isReference table.toList = true)
    (hcolumns : ∀ column ∈ fields.keys, FieldToken.isReference column.toList = true) :
    tokens (update table fields .empty).text.toList = some (updateTokens table fields) := by
  have hset : (setList fields).Lexes ([.comma].intercalate (fields.entries.map assignmentTokens)) :=
    Sql.Lexes.listed fun entry hentry =>
      lexes_assignment (hcolumns entry.1 (List.mem_map_of_mem hentry)) entry.2
  -- the words are set off by blanks, and the assignments are a list
  have hchars : (update table fields .empty).text.toList =
      "UPDATE".toList
          ++ ' ' :: (table.toList ++ ' ' :: ("SET".toList ++ ' ' :: (setList fields).chars)) := by
    have hempty : Condition.empty.clause "WHERE" = [] := rfl
    simp [text, Sql.text, sql_update, hempty, Sql.chars, Sql.Piece.chars, toString]
  have hupdate : tokens "UPDATE".toList = some [.word "UPDATE".toList] := rfl
  have hword : tokens "SET".toList = some [.word "SET".toList] := rfl
  rw [hchars]
  exact tokens_append_space hupdate (tokens_append_space (tokens_reference htable)
    (tokens_append_space hword hset))

/-- The assignments end where the text does, or at the blank before a clause. -/
theorem leadingTokens_update (conditions : Condition)
    (htable : FieldToken.isReference table.toList = true)
    (hcolumns : ∀ column ∈ fields.keys, FieldToken.isReference column.toList = true) :
    leadingTokens (update table fields conditions).text.toList =
      updateTokens table fields ++ leadingTokens (conditions.clauseText "WHERE").toList := by
  rw [text_update, String.toList_append]
  refine leadingTokens_append (tokens_update htable hcolumns) fun c hc => ⟨[], ?_⟩
  -- a clause begins with a blank
  have hspace : c = ' ' := by
    unfold Condition.clauseText at hc
    split at hc
    · simp at hc
    · simpa [toString] using hc.symm
  rw [hspace]
  rfl

/-- No list goes on with a clause: it begins with its keyword, if there is one at all. -/
theorem endsList_clause {keyword : String}
    (hkeyword : tokens keyword.toList = some [.word keyword.toList])
    (conditions : Condition) :
    Rule.EndsList (leadingTokens (conditions.clauseText keyword).toList) := by
  unfold Condition.clauseText
  split
  next => exact fun ts h => nomatch h
  next =>
    have hchars : s!" {keyword} {conditions.predicate.text}".toList =
        ' ' :: keyword.toList ++ ' ' :: conditions.predicate.text.toList := by
      simp [toString]
    have hword : tokens (' ' :: keyword.toList) = some [.word keyword.toList] := by
      rw [tokens_cons_blank (by decide), hkeyword]
    have hends : ∀ c ∈ (' ' :: conditions.predicate.text.toList).head?, ∃ self,
        kind c = .alone self := by
      intro c hc
      rw [← Option.some.inj hc]
      exact ⟨[], rfl⟩
    -- the first token is the keyword, and that is no comma
    intro ts h
    rw [hchars, leadingTokens_append hword hends] at h
    cases h

/-- The values of the assignments come first, then those of the condition. -/
theorem bindings_update (conditions : Condition) :
    (update table fields conditions).bindings =
      boundValues fields ++ conditions.predicate.bindings := by
  have hslots : (setList fields).bindings = boundValues fields :=
    bindings_slots fields (fun entry => .text s!"{entry.1} = " :: valueSlot entry.2) fun _ => rfl
  have hclause : (conditions.clause "WHERE").bindings = conditions.predicate.bindings := by
    cases hempty : conditions.isEmpty with
    | true =>
      rw [Condition.clause_eq_nil_iff.mpr hempty, Condition.bindings_predicate_of_isEmpty hempty]
      rfl
    | false =>
      rw [Condition.clause_of_ne hempty]
      rfl
  rw [bindings, sql_update, Sql.bindings_append, Sql.bindings_text, hslots, hclause]

/-- The rule for updates takes the assignments, whatever ends their list. -/
theorem takes_update (hne : fields.isEmpty = false) :
    Rule.update.Takes (updateTokens table fields) (boundValues fields) ⟨table, fields.entries⟩
      Rule.EndsList := by
  have hentries : fields.entries ≠ [] := by simpa [Dict.isEmpty] using hne
  -- a list of assignments, each with what the place of its value takes
  have hset :=
    Rule.Takes.listOf hentries fun entry _ => Rule.Takes.assignment entry.1 (takes_slot entry.2)
  have hupdate : (Rule.keyword "UPDATE").Takes [.word "UPDATE".toList] [] () := .keyword rfl
  have hword : (Rule.keyword "SET").Takes [.word "SET".toList] [] () := .keyword rfl
  have hrule :
    Rule.update.Takes ([.word "UPDATE".toList] ++ ([.word table.toList] ++ ([.word "SET".toList] ++
      ([.comma].intercalate (fields.entries.map assignmentTokens) ++ []))))
      ([] ++ ([] ++ ([] ++ (boundValues fields ++ []))))
      ⟨table, fields.entries⟩ Rule.EndsList :=
    hupdate.bind ((Rule.Takes.name table).bind (hword.bind
      (hset.bindBefore (.pure (Writing.mk table fields.entries)) fun _ hrest => hrest)))
  simp only [List.append_nil, List.nil_append] at hrule
  exact hrule

/-! ## Writes -/

/-- **Values get to their columns.** Of a table with a plain name and fields with plain columns, of
which there is one at least, an insert is read as just these fields, with a placeholder for each
value that it binds. An update is made, and its assignments are read as just these fields; what is
left behind them is the clause of the condition with the values of its predicate. The columns come
in ascending order, each of them once. -/
theorem writes_read_back (conditions : Condition)
    (htable : FieldToken.isReference table.toList = true)
    (hne : fields.isEmpty = false)
    (hcolumns : ∀ column ∈ fields.keys, FieldToken.isReference column.toList = true) :
    Writing.ofInsert (insert table fields).text.toList (insert table fields).bindings
        = some ⟨table, fields.entries⟩
    ∧ (∃ s, ofUpdate table fields conditions = .ok s
      ∧ Writing.ofUpdate s.text.toList s.bindings = some (⟨table, fields.entries⟩,
          ⟨leadingTokens (conditions.clauseText "WHERE").toList, conditions.predicate.bindings⟩))
    ∧ fields.keys.Pairwise (· < ·) := by
  refine ⟨?_, ⟨update table fields conditions, by rw [ofUpdate, hne]; rfl, ?_⟩, ?_⟩
  · have htokens : tokens (insert table fields).text.toList = some (insertTokens table fields) := by
      rw [text, Sql.text, String.toList_ofList]
      exact lexes_insert htable hne hcolumns
    -- there is nothing behind an insert
    have hrule : Rule.insertion ⟨insertTokens table fields ++ [], boundValues fields ++ []⟩ =
        some (⟨table, fields.entries⟩, ⟨[], []⟩) := takes_insertion hne [] [] trivial
    rw [List.append_nil, List.append_nil] at hrule
    rw [Writing.ofInsert, htokens, Option.bind_some, bindings_insert hne, hrule]
  · rw [Writing.ofUpdate, leadingTokens_update conditions htable hcolumns, bindings_update]
    exact takes_update hne _ _ (endsList_clause rfl conditions)
  · exact List.pairwise_map.mpr fields.ascending

/-- A null before two values. -/
def orphan : Fields :=
  Dict.ofList [("title", .text "Orphan"), ("author_id", .null), ("views", .int32 3)]

/-- Ready-made SQL that leaves a quote open, with a question mark and a comma behind it. -/
def openQuote : Condition := .all [.raw "note = '?, x" [.text "draft"], .equals "id" (.int32 9)]

/-- The null takes no value, so the first value goes to the title. The open quote in the condition
is behind the assignments, and does no harm to them. -/
theorem writes_read_back_orphan :
    Writing.ofInsert "INSERT INTO posts (author_id, title, views) VALUES (NULL, ?, ?)".toList
        [.text "Orphan", .int32 3]
      = some ⟨"posts", [("author_id", .null), ("title", .text "Orphan"), ("views", .int32 3)]⟩
    ∧ ∃ rest, Writing.ofUpdate
        "UPDATE posts SET author_id = NULL, title = ?, views = ? WHERE (note = '?, x) AND id = ?".toList
        [.text "Orphan", .int32 3, .text "draft", .int32 9]
      = some (⟨"posts", [("author_id", .null), ("title", .text "Orphan"), ("views", .int32 3)]⟩,
          ⟨rest, [.text "draft", .int32 9]⟩) := by
  have hcolumns : ∀ column ∈ orphan.keys, FieldToken.isReference column.toList = true := by decide
  have htable : FieldToken.isReference "posts".toList = true := by decide
  obtain ⟨hinsert, ⟨s, hs, hupdate⟩, -⟩ := writes_read_back openQuote htable (by decide) hcolumns
  obtain rfl := Except.ok.inj hs
  exact ⟨hinsert, _, hupdate⟩

end Statement

end EntityMapper
