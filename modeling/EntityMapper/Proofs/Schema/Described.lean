import EntityMapper.Proofs.Driver.Mirror
import EntityMapper.Proofs.Driver.Trace
import EntityMapper.Schema.Cache

/-!
# Descriptions of tables

What a driver is asked for a schema that is not known: the tables, and if one of them is the one
that is meant, the columns of that one. `Described` says all that may come of it, whatever the
driver answers; everything else that is said of the lookup of schemas follows from it.

## Structure

* `tableNamed_eq_ok`, `tableNamed_eq_error` — what the search for a table finds.
* `Described` — the outcomes of asking, with the calls that lead to them.
* `ensures_introspect` — the calls of the action, step by step.
* `mirrors_introspect` — the action does not depend on the kind of driver.
-/

namespace EntityMapper

/-! ## The table that is meant

Of the tables that a driver lists, one is taken by its name. An exact match and a match that ignores
case are tested together, for one table after the other. -/

namespace Schema

variable {entity expected table : String} {tables : List String} {columns : List Column}

/-- The table that is meant is one of those listed, and is called as expected but for ASCII case. -/
theorem tableNamed_eq_ok (h : tableNamed entity expected tables = .ok table) :
    table ∈ tables ∧ Text.sameIgnoringAsciiCase table expected = true := by
  rw [tableNamed] at h
  split at h
  next found hfind =>
    obtain rfl := Except.ok.inj h
    refine ⟨List.mem_of_find?_eq_some hfind, ?_⟩
    have hmatch := List.find?_some hfind
    -- the exact name is one of the spellings
    rcases Bool.or_eq_true_iff.mp hmatch with heq | hsame
    · rw [beq_iff_eq.mp heq, Text.sameIgnoringAsciiCase, beq_self_eq_true]
    · exact hsame
  next => exact absurd h (by simp)

/-- No table is meant just when none is called so in any ASCII case. -/
theorem tableNamed_eq_error {e : Error} (h : tableNamed entity expected tables = .error e) :
    (∀ t ∈ tables, Text.sameIgnoringAsciiCase t expected = false)
      ∧ e = .missingTable entity expected := by
  rw [tableNamed] at h
  split at h
  next => exact absurd h (by simp)
  next hfind =>
    refine ⟨fun t ht => ?_, (Except.error.inj h).symm⟩
    have hne := List.find?_eq_none.mp hfind t ht
    simp only [Bool.or_eq_true, not_or] at hne
    exact Bool.eq_false_iff.mpr hne.2

/-- The converse: without a table of the name, the error says which name was looked for. -/
theorem tableNamed_of_absent (h : ∀ t ∈ tables, Text.sameIgnoringAsciiCase t expected = false) :
    tableNamed entity expected tables = .error (.missingTable entity expected) := by
  cases hnamed : tableNamed entity expected tables with
  | error e => rw [(tableNamed_eq_error hnamed).2]
  | ok table =>
    obtain ⟨hmem, hsame⟩ := tableNamed_eq_ok hnamed
    exact absurd hsame (by simp [h table hmem])

/-- The key of a schema is the first of its columns that is flagged as one. -/
def KeyIsFirst (s : Schema) : Prop := (s.columns.find? Column.isKey).map Column.name = some s.key

/-- A schema has the columns as they were listed, and one of them is its key. -/
theorem ofColumns_eq_ok {schema : Schema} (h : ofColumns entity table columns = .ok schema) :
    schema.entity = entity ∧ schema.table = table ∧ schema.columns = columns
      ∧ schema.KeyIsFirst := by
  rw [ofColumns] at h
  split at h
  next c hfind =>
    obtain rfl := Except.ok.inj h
    exact ⟨rfl, rfl, rfl, by rw [KeyIsFirst, hfind, Option.map_some]⟩
  next => exact absurd h (by simp)

end Schema

/-! ## Asking for a table

The calls that are made and the result belong together: columns are asked for only after the tables
were listed and one of them is meant, and what is answered then decides the result. `Described`
lists the four ways in which that can go, and `ensures_introspect` says that there are no others. -/

/-- A call by which a schema is obtained: for the connection, the tables or the columns of one. -/
def Call.Prepares : Call → Prop
  | .connect _ => True
  | .listTables _ => True
  | .listColumns _ _ => True
  | _ => False

theorem Call.Prepares.statement {c : Call} (h : c.Prepares) : c.statement? = none := by
  cases c <;> first | rfl | exact False.elim h

/-- What is asked for the schema of an entity type and for the table of this name, with what comes
of it. -/
inductive Described (entity expected : String) : List Call → Except Error Schema → Prop
  | unlisted (e : Error) : Described entity expected [.listTables (.error e)] (.error e)
  /-- Without the table nothing is asked about columns. -/
  | missing {tables : List String}
      (habsent : ∀ t ∈ tables, Text.sameIgnoringAsciiCase t expected = false) :
      Described entity expected [.listTables (.ok tables)] (.error (.missingTable entity expected))
  | unread {tables : List String} {table : String} (hmem : table ∈ tables)
      (hsame : Text.sameIgnoringAsciiCase table expected = true) (e : Error) :
      Described entity expected [.listTables (.ok tables), .listColumns table (.error e)] (.error e)
  | read {tables : List String} {table : String} {columns : List Column} (hmem : table ∈ tables)
      (hsame : Text.sameIgnoringAsciiCase table expected = true) :
      Described entity expected [.listTables (.ok tables), .listColumns table (.ok columns)]
        (Schema.ofColumns entity table columns)

namespace Described

variable {entity expected : String} {made : List Call} {result : Except Error Schema}

/-- The driver is asked at least for its tables. -/
theorem ne_nil (h : Described entity expected made result) : made ≠ [] := by
  cases h <;> simp

theorem prepares (h : Described entity expected made result) : ∀ c ∈ made, c.Prepares := by
  cases h <;> simp [Call.Prepares]

/-- A schema that was described is that of the type, and of a table of the name that was asked for.
-/
theorem ok {schema : Schema} (h : Described entity expected made (.ok schema)) :
    schema.entity = entity ∧ Text.sameIgnoringAsciiCase schema.table expected = true
      ∧ schema.KeyIsFirst := by
  -- the result has to be a variable for the cases, and then tells which of them apply
  generalize hresult : (Except.ok schema : Except Error Schema) = result at h
  cases h with
  | unlisted e => cases hresult
  | missing habsent => cases hresult
  | unread hmem hsame e => cases hresult
  | read hmem hsame =>
    obtain ⟨hentity, htable, -, hkey⟩ := Schema.ofColumns_eq_ok hresult.symm
    exact ⟨hentity, by rwa [htable], hkey⟩

end Described

namespace Schema

variable {δ : Type} [Driver δ]

/-- **What is asked for a schema.** Whatever the driver answers, the tables are listed once, and
columns at most once and only of the table that is meant. -/
theorem ensures_introspect (entity expected : String) (w : Watched δ) :
    (introspect entity expected).Ensures w fun made result _ =>
      Described entity expected made result := by
  refine (Watched.ensures_watch .listTables Driver.listTables w).bind ?_ ?_
  · rintro made tables left ⟨rfl, -⟩
    refine .bindExcept (fun table htable => ?_) fun e he => ?_
    · obtain ⟨hmem, hsame⟩ := tableNamed_eq_ok htable
      refine (Watched.ensures_watch (.listColumns table) (Driver.listColumns table) left).bind ?_ ?_
      · rintro made columns last ⟨rfl, -⟩
        exact .still rfl (.read hmem hsame)
      · rintro made e last ⟨rfl, -⟩
        exact .unread hmem hsame e
    · -- without the table, no columns are asked for
      obtain ⟨habsent, rfl⟩ := tableNamed_eq_error he
      exact .missing habsent
  · rintro made e left ⟨rfl, -⟩
    exact .unlisted e

/-- If the tables are listed and none of them is meant, that is all that happens. -/
theorem perform_introspect_of_absent (entity : String) {expected : String} {tables : List String}
    {d left : δ} (htables : Driver.listTables.perform d = (.ok tables, left))
    (habsent : ∀ t ∈ tables, Text.sameIgnoringAsciiCase t expected = false) :
    (introspect entity expected).perform d = (.error (.missingTable entity expected), left) := by
  rw [introspect, Action.perform_bind, htables]
  simp only [Action.perform_bind, Action.perform_ofExcept, tableNamed_of_absent habsent]

/-- Drivers that answer alike describe a table alike. -/
theorem mirrors_introspect {ε : Type} [Driver ε] {f : δ → ε} (hf : Driver.Mirrored f)
    (entity expected : String) :
    Action.Mirrors f (introspect entity expected) (introspect entity expected) := by
  refine .bind hf.listTables fun tables => ?_
  refine .bind (.ofExcept _) fun table => ?_
  refine .bind (hf.listColumns _) fun columns => ?_
  exact .ofExcept _

end Schema

end EntityMapper
