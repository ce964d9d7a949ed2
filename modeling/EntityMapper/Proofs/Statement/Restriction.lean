import EntityMapper.Proofs.Condition.Conjunction
import EntityMapper.Statement

/-!
# Clauses of conditions

Whether a statement has a `WHERE` or a `HAVING` is decided by what is written for its condition, and
whether a change of all rows is refused is decided by the condition itself. The main statement is
that the two decide alike (`clauses_show_restrictions`): the clause is there, with a predicate that
is not blank, just when the condition restricts something. All else in the text of the statement is
there whatever the condition is.

## Structure

* `clauseText` — what a condition adds to a text. It is empty just if the condition is.
* `text_select`, `text_count`, `text_update`, `text_delete` — the four texts, with their clauses set
  apart.
-/

namespace EntityMapper

namespace Condition

/-- An empty condition has no fragment, so it binds nothing. -/
theorem bindings_predicate_of_isEmpty {c : Condition} (h : c.isEmpty = true) :
    c.predicate.bindings = [] := by
  rw [predicate, (fragment?_eq_none_iff c).mpr h]
  rfl

/-- What a condition adds to the text of a statement: a clause with its predicate, or nothing. -/
def clauseText (keyword : String) (c : Condition) : String :=
  if c.isEmpty then "" else s!" {keyword} {c.predicate.text}"

theorem clauseText_eq_empty_iff {keyword : String} {c : Condition} :
    c.clauseText keyword = "" ↔ c.isEmpty = true := by
  rw [clauseText]
  split
  next hempty => simp [hempty]
  next hempty => simp [hempty, toString]

/-- `clauseText` is the text of the clause. -/
theorem text_clause (keyword : String) (c : Condition) :
    (c.clause keyword).text = c.clauseText keyword := by
  unfold clauseText
  split
  next hempty =>
    rw [clause_eq_nil_iff.mpr hempty]
    rfl
  next hempty =>
    -- the predicate is not empty, so it is there behind its keyword
    have hne : c.isEmpty = false := by simpa using hempty
    rw [clause_of_ne hne, Sql.text, Sql.text, ← String.toList_inj]
    simp [Sql.chars, Sql.Piece.chars, toString]

end Condition

namespace Statement

/-! ## What stands around the conditions

All clauses but two say nothing of the conditions. For each statement the text is divided into what
comes before a clause, the clause, and what comes behind it, where all parts but the clause are
functions of the rest of the query. -/

/-- The text of a read up to its conditions. -/
def readHead (q : Query) (table : String) : String :=
  Sql.text (.text (if q.isDistinct then "SELECT DISTINCT " else "SELECT ") :: selectList q
    ++ .text s!" FROM {table}" :: q.joins.flatMap joinClause)

/-- The text of a count up to its conditions. -/
def countHead (q : Query) (table : String) : String :=
  Sql.text (.text s!"SELECT COUNT(*) AS count FROM {table}" :: q.joins.flatMap joinClause)

/-- A statement is made of the table, so its text is as well. -/
theorem map_bind_pure (table? : Except Error String) (make : String → Statement) :
    Except.map text (do return make (← table?)) = table?.map fun table => (make table).text := by
  cases table? <;> rfl

variable (q : Query) (conditions having : Condition)

/-- A read, with its two clauses set apart from the rest. The text of pieces is put together like
the pieces, so it is enough that the pieces of both sides are the same. -/
theorem text_select (table : String) :
    (select table { q with conditions, having }).text =
      readHead q table ++ conditions.clauseText "WHERE" ++ (listClause "GROUP BY" q.groups).text
        ++ having.clauseText "HAVING" ++ (windowClauses q).text := by
  unfold readHead
  rw [← Condition.text_clause, ← Condition.text_clause, ← Sql.text_append, ← Sql.text_append,
    ← Sql.text_append, ← Sql.text_append]
  show Sql.text _ = _
  simp only [sql, sourceClauses, List.cons_append, List.append_assoc]
  rfl

theorem text_count (table : String) :
    (count table { q with conditions, having }).text =
      countHead q table ++ conditions.clauseText "WHERE" ++ (listClause "GROUP BY" q.groups).text
        ++ having.clauseText "HAVING" := by
  unfold countHead
  rw [← Condition.text_clause, ← Condition.text_clause, ← Sql.text_append, ← Sql.text_append,
    ← Sql.text_append]
  show Sql.text _ = _
  simp only [sql, sourceClauses, List.cons_append, List.append_assoc]

/-- The assignments of an update. -/
def setList (fields : Fields) : Sql :=
  Sql.joined ", " (fields.entries.map fun entry => .text s!"{entry.1} = " :: valueSlot entry.2)

theorem sql_update (table : String) (fields : Fields) :
    (update table fields conditions).sql =
      .text s!"UPDATE {table} SET " :: setList fields ++ conditions.clause "WHERE" := rfl

/-- The text of an update is that of the update of all rows, with the clause behind it. -/
theorem text_update (table : String) (fields : Fields) :
    (update table fields conditions).text =
      (update table fields .empty).text ++ conditions.clauseText "WHERE" := by
  have hempty :
      (update table fields .empty).sql = .text s!"UPDATE {table} SET " :: setList fields :=
    List.append_nil _
  rw [text, text, hempty, sql_update, ← Condition.text_clause, ← Sql.text_append]

theorem text_delete (table : String) :
    (delete table conditions).text = s!"DELETE FROM {table}" ++ conditions.clauseText "WHERE" := by
  have hhead : Sql.text [.text s!"DELETE FROM {table}"] = s!"DELETE FROM {table}" := by
    rw [Sql.text, ← String.toList_inj]
    simp [Sql.chars, Sql.Piece.chars]
  rw [text, ← Condition.text_clause, ← hhead, ← Sql.text_append]
  rfl

/-- **Clauses show restrictions.** A condition is empty just when its predicate has no text, and
then binds nothing. A read, a count, an update and a delete have a clause in its place just when it
is not empty, and besides this the same text whatever the condition is. -/
theorem clauses_show_restrictions :
    (∀ c : Condition, (c.isEmpty = true ↔ c.predicate.text = "") ∧
      (c.isEmpty = true → c.predicate.bindings = []))
    ∧ (∀ q : Query, ∃ (head : String → String) (between tail : String),
      ∀ conditions having : Condition,
        (ofSelect { q with conditions, having }).map text = (tableOf q).map fun table =>
          head table ++ conditions.clauseText "WHERE" ++ between
            ++ having.clauseText "HAVING" ++ tail)
    ∧ (∀ q : Query, ∃ (head : String → String) (between : String), ∀ conditions having : Condition,
        (ofCount { q with conditions, having }).map text = (tableOf q).map fun table =>
          head table ++ conditions.clauseText "WHERE" ++ between ++ having.clauseText "HAVING")
    ∧ (∀ (table : String) (fields : Fields) (conditions : Condition),
        (ofUpdate table fields conditions).map text =
          (ofUpdate table fields .empty).map fun s => s.text ++ conditions.clauseText "WHERE")
    ∧ ∀ (table : String) (conditions : Condition),
        (delete table conditions).text = s!"DELETE FROM {table}"
            ++ conditions.clauseText "WHERE" := by
  refine ⟨fun c =>
    ⟨(Condition.text_predicate_eq_empty_iff c).symm, Condition.bindings_predicate_of_isEmpty⟩,
    fun q => ?_, fun q => ?_, fun table fields conditions => ?_, fun table conditions =>
      text_delete conditions table⟩
  · refine ⟨readHead q, (listClause "GROUP BY" q.groups).text, (windowClauses q).text,
      fun conditions having => ?_⟩
    -- what stands around the clauses was read off before any condition was given
    rw [← funext (text_select q conditions having), ofSelect]
    exact map_bind_pure (tableOf q) _
  · refine ⟨countHead q, (listClause "GROUP BY" q.groups).text, fun conditions having => ?_⟩
    rw [← funext (text_count q conditions having), ofCount]
    exact map_bind_pure (tableOf q) _
  · rw [ofUpdate, ofUpdate]
    split
    · rfl
    · exact congrArg Except.ok (text_update conditions table fields)

/-- A negation of parts that say nothing, one of which brings a value. -/
def hollowNegation : Condition := .group .not [.raw "  " [.int32 5], .all [.group .or []]]

theorem clauses_show_restrictions_hollowNegation :
    hollowNegation.isEmpty = true ∧ hollowNegation.predicate.text = ""
    ∧ hollowNegation.predicate.bindings = []
    ∧ (delete "posts" hollowNegation).text = "DELETE FROM posts" := by
  have hempty : hollowNegation.isEmpty = true := by decide
  obtain ⟨hpredicate, -, -, -, hdelete⟩ := clauses_show_restrictions
  refine ⟨hempty, (hpredicate hollowNegation).1.mp hempty, (hpredicate hollowNegation).2 hempty, ?_⟩
  rw [hdelete "posts" hollowNegation, Condition.clauseText, if_pos hempty]
  rfl

end Statement

end EntityMapper
