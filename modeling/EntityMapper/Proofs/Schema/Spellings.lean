import EntityMapper.Proofs.Schema.Memo

/-!
# Spellings of a table

Tables of one name in different ASCII case are different tables to a driver, which describes each of
them under its own spelling. A request is about the first of them in the order in which the driver
lists its tables, and the spelling that was asked for has no precedence over the others
(`first_spelling_is_asked`). So the order of the list decides wherever there is more than one.

## Structure

* `FirstSpelling` — the first table of a name in some order of the tables. There is at most one, and
  `tableNamed_eq_ok_iff` says that it is the one that is meant.
* `AsksFirst` — the outcomes of asking, once the list of tables is known.
* `exists_perm_firstSpelling_iff` — any spelling may be the first one.
-/

namespace EntityMapper

namespace Schema

/-- The first of some tables that is called so in any ASCII case. -/
def FirstSpelling (expected : String) (tables : List String) (table : String) : Prop :=
  Text.sameIgnoringAsciiCase table expected = true
    ∧ ∃ before after, tables = before ++ table :: after
      ∧ ∀ t ∈ before, Text.sameIgnoringAsciiCase t expected = false

variable {entity expected table : String} {tables : List String}

/-- The table that is meant is the first one of the name, however it is spelled. -/
theorem tableNamed_eq_ok_iff :
    tableNamed entity expected tables = .ok table ↔ FirstSpelling expected tables table := by
  -- a table that is spelled as expected is one of the name, so it is not looked for apart
  have hsearch : (fun t => t == expected || Text.sameIgnoringAsciiCase t expected) =
      (Text.sameIgnoringAsciiCase · expected) := by
    funext t
    by_cases ht : t = expected
    · rw [ht, Text.sameIgnoringAsciiCase, beq_self_eq_true, beq_self_eq_true, Bool.or_self]
    · rw [beq_false_of_ne ht, Bool.false_or]
  have hfound : tableNamed entity expected tables = .ok table ↔
      tables.find? (Text.sameIgnoringAsciiCase · expected) = some table := by
    rw [tableNamed, hsearch]
    cases tables.find? (Text.sameIgnoringAsciiCase · expected) <;> simp
  rw [hfound, List.find?_eq_some_iff_append, FirstSpelling]
  simp only [Bool.not_eq_true']

/-- There is no more than one first spelling, because a search finds no more than one table. -/
theorem FirstSpelling.unique {other : String} (h : FirstSpelling expected tables table)
    (hother : FirstSpelling expected tables other) : other = table := by
  have hnamed : tableNamed "" expected tables = .ok table := tableNamed_eq_ok_iff.mpr h
  rw [tableNamed_eq_ok_iff.mpr hother] at hnamed
  exact Except.ok.inj hnamed

/-- Each table of the name comes first in some order of the tables. -/
theorem exists_perm_firstSpelling_iff :
    (∃ order, order.Perm tables ∧ FirstSpelling expected order table) ↔
      table ∈ tables ∧ Text.sameIgnoringAsciiCase table expected = true := by
  constructor
  · rintro ⟨order, hperm, hsame, before, after, rfl, -⟩
    exact ⟨hperm.mem_iff.mp (by simp), hsame⟩
  · -- the order that puts the table before all others
    rintro ⟨hmem, hsame⟩
    exact ⟨table :: tables.erase table, (List.perm_cons_erase hmem).symm, hsame, [], _,
      rfl, by simp⟩

/-! ## Asking for it

Once the list is known, what is asked and answered has only two forms. `AsksFirst` tells them, and
the parts of the main statement are read off it by cases. -/

/-- What is asked for a schema once these tables are listed, with what comes of it: without a table
of the name nothing more, and otherwise the columns of the first one. -/
inductive AsksFirst (entity expected : String) (tables : List String) :
    List Call → Except Error Schema → Prop
  | missing (habsent : ∀ t ∈ tables, Text.sameIgnoringAsciiCase t expected = false) :
      AsksFirst entity expected tables [.listTables (.ok tables)]
        (.error (.missingTable entity expected))
  | asked {table : String} (hfirst : FirstSpelling expected tables table)
      (columns : Except Error (List Column)) :
      AsksFirst entity expected tables [.listTables (.ok tables), .listColumns table columns]
        (columns.bind (ofColumns entity table))

variable {δ : Type} [Driver δ]

/-- The driver is asked once more, and now its list is known beforehand. -/
theorem ensures_introspect_listed (entity expected : String) {w : Watched δ} {left : δ}
    (htables : Driver.listTables.perform w.driver = (.ok tables, left)) :
    (introspect entity expected).Ensures w fun made result _ =>
      AsksFirst entity expected tables made result := by
  refine (Watched.ensures_watch .listTables Driver.listTables w).bind ?_ ?_
  · rintro made listed after ⟨rfl, hlisted⟩
    obtain rfl := Except.ok.inj (Prod.mk.inj (hlisted.trans htables)).1
    refine .bindExcept (fun table hnamed => ?_) fun e hnamed => ?_
    · have hfirst := tableNamed_eq_ok_iff.mp hnamed
      refine (Watched.ensures_watch (.listColumns table) (Driver.listColumns table) after).bind ?_
        ?_
      · rintro made columns last ⟨rfl, -⟩
        exact .still rfl (.asked hfirst (.ok columns))
      · rintro made e last ⟨rfl, -⟩
        exact .asked hfirst (.error e)
    · obtain ⟨habsent, rfl⟩ := tableNamed_eq_error hnamed
      exact .missing habsent
  · rintro made e after ⟨rfl, hlisted⟩
    -- the tables are listed, as was assumed
    cases (Prod.mk.inj (hlisted.trans htables)).1

namespace AsksFirst

variable {made : List Call} {result : Except Error Schema}

/-- What is answered for want of a table: there is none, or the driver itself says so of the
columns. -/
theorem eq_missingTable_iff (h : AsksFirst entity expected tables made result) :
    result = .error (.missingTable entity expected) ↔
      (∀ t ∈ tables, Text.sameIgnoringAsciiCase t expected = false)
        ∨ ∃ table, .listColumns table (.error (.missingTable entity expected)) ∈ made := by
  cases h with
  | missing habsent => exact iff_of_true rfl (.inl habsent)
  | @asked table hfirst columns =>
    obtain ⟨hsame, before, after, rfl, -⟩ := hfirst
    have hpresent : ¬ ∀ t ∈ before ++ table :: after,
        Text.sameIgnoringAsciiCase t expected = false :=
      fun habsent => absurd (habsent table (by simp)) (by simp [hsame])
    rw [or_iff_right hpresent]
    cases columns with
    | error e => simp [Except.bind, eq_comm]
    | ok columns =>
      -- a table without a key is not taken for a missing one
      refine iff_of_false (fun hmissing => ?_) (by simp)
      have hmissing :
        ofColumns entity table columns = .error (.missingTable entity expected) := hmissing
      rw [ofColumns] at hmissing
      split at hmissing <;> cases hmissing

/-- The only columns that are asked for are those of the first spelling. -/
theorem asks_iff (h : AsksFirst entity expected tables made result) (other : String) :
    (∃ columns, .listColumns other columns ∈ made) ↔ FirstSpelling expected tables other := by
  cases h with
  | missing habsent =>
    refine iff_of_false (by simp) ?_
    -- a first spelling would be a table of the name
    rintro ⟨hsame, before, after, rfl, -⟩
    exact absurd (habsent other (by simp)) (by simp [hsame])
  | @asked table hfirst columns =>
    constructor
    · rintro ⟨columns', hmem⟩
      obtain ⟨rfl, -⟩ : other = table ∧ columns' = columns := by simpa using hmem
      exact hfirst
    · intro hother
      obtain rfl := hfirst.unique hother
      exact ⟨columns, by simp⟩

/-- A schema is about the table whose columns were asked for. -/
theorem firstSpelling_of_ok {schema : Schema}
    (h : AsksFirst entity expected tables made (.ok schema)) :
    FirstSpelling expected tables schema.table := by
  generalize hresult : (Except.ok schema : Except Error Schema) = result at h
  cases h with
  | missing habsent => cases hresult
  | asked hfirst columns =>
    cases columns with
    | error e => cases hresult
    | ok columns => rwa [(ofColumns_eq_ok hresult.symm).2.1]

end AsksFirst

end Schema

namespace SchemaRequest

variable {σ : Type} [Driver σ] {tables : List String} {left : σ}

/-- What is said of `introspect` holds of a request for which nothing is known, and of a driver that
is not watched. -/
theorem asksFirst {r : SchemaRequest} {s : SchemaCache × σ} (hunknown : s.1.cached? r.entity = none)
    (htables : Driver.listTables.perform s.2 = (.ok tables, left)) :
    Schema.AsksFirst r.entity r.table tables (r.calls s) (r.answer s) := by
  obtain ⟨cache, driver⟩ := s
  obtain ⟨made, hcalls, hasks⟩ :=
    Schema.ensures_introspect_listed r.entity r.table (w := { driver }) htables
  -- the result is the same without watching
  have hanswer : r.answer (cache, driver) =
      ((Schema.introspect r.entity r.table).perform ({ driver } : Watched σ)).1 := by
    have hmirrors :=
      Schema.mirrors_introspect Driver.mirrored_watched r.entity r.table ({ driver } : Watched σ)
    rw [answer, get, SchemaCache.perform_get_of_unknown hunknown, ← table, hmirrors]
    rcases (Schema.introspect r.entity r.table).perform ({ driver } : Watched σ) with ⟨result, w⟩
    cases result <;> rfl
  -- and the calls are those that were watched
  have hmade : r.calls (cache, driver) = made := by
    rw [calls, after, get, SchemaCache.perform_get_of_unknown hunknown, ← table]
    rcases hperform : (Schema.introspect r.entity r.table).perform ({ driver } : Watched σ)
      with ⟨result, w⟩
    rw [hperform] at hcalls
    cases result <;> exact hcalls
  rw [hanswer, hmade]
  exact hasks

/-- **The first spelling is asked for.** A request for an unknown schema, once the driver has listed
its tables, fails for want of a table just when no table is called so in any ASCII case, unless the
driver itself answers so when it is asked for the columns. The table whose columns are asked for is
the first one of the name, and so it is the one that is spelled as it was asked for just if no other
spelling is listed before it; the schema is that of this table. Each table of the name is the first
one in some order of the tables. -/
theorem first_spelling_is_asked (r : SchemaRequest) (s : SchemaCache × σ)
    (hunknown : s.1.cached? r.entity = none)
    (htables : Driver.listTables.perform s.2 = (.ok tables, left)) :
    (r.answer s = .error (.missingTable r.entity r.table) ↔
      (∀ t ∈ tables, Text.sameIgnoringAsciiCase t r.table = false)
        ∨ ∃ table, .listColumns table (.error (.missingTable r.entity r.table)) ∈ r.calls s)
    ∧ (∀ table, (∃ columns, .listColumns table columns ∈ r.calls s)
      ↔ Schema.FirstSpelling r.table tables table)
    ∧ (∀ schema, r.answer s = .ok schema → Schema.FirstSpelling r.table tables schema.table)
    ∧ ∀ table, (∃ order, order.Perm tables ∧ Schema.FirstSpelling r.table order table) ↔
        table ∈ tables ∧ Text.sameIgnoringAsciiCase table r.table = true := by
  have hasks := asksFirst hunknown htables
  refine ⟨hasks.eq_missingTable_iff, hasks.asks_iff, fun schema hschema => ?_, fun table => ?_⟩
  · rw [hschema] at hasks
    exact hasks.firstSpelling_of_ok
  · exact Schema.exists_perm_firstSpelling_iff

/-- Posts, with posts of another spelling before them. -/
def twoSpellings : Scripted :=
  { tables := [{ SchemaEvent.posts with name := "Posts" }, ⟨"tags", []⟩, SchemaEvent.posts] }

/-- Posts in the expected spelling are listed last, so the others are asked for. -/
theorem first_spelling_is_asked_twoSpellings :
    let r : SchemaRequest := { entity := "Post" }
    let s : SchemaCache × Scripted := ({}, twoSpellings)
    s.1.cached? r.entity = none
    ∧ Driver.listTables.perform s.2 =
      (.ok ["Posts", "tags", "posts"], { twoSpellings with tableListings := 1 })
    ∧ Schema.FirstSpelling r.table ["Posts", "tags", "posts"] "Posts"
    ∧ ∃ columns, .listColumns "Posts" columns ∈ r.calls s := by
  intro r s
  have htables : Driver.listTables.perform s.2 =
      (.ok ["Posts", "tags", "posts"], { twoSpellings with tableListings := 1 }) := rfl
  have hfirst : Schema.FirstSpelling r.table ["Posts", "tags", "posts"] "Posts" :=
    ⟨by decide, [], ["tags", "posts"], rfl, by simp⟩
  exact ⟨rfl, htables, hfirst, ((first_spelling_is_asked r s rfl htables).2.1 "Posts").mpr hfirst⟩

/-- A database with posts of another spelling before them answers a request for its posts with
those, although with its tables in the other order it answers with the posts. -/
theorem other_spelling_is_answered :
    let r : SchemaRequest := { entity := "Post" }
    r.table = "posts" ∧ "posts" ∈ twoSpellings.tables.map Table.name
    ∧ r.answer ({}, twoSpellings) = .ok ⟨"Post", "Posts", SchemaEvent.posts.columns, "id"⟩
    ∧ r.answer ({}, { twoSpellings with tables := twoSpellings.tables.reverse }) =
        .ok ⟨"Post", "posts", SchemaEvent.posts.columns, "id"⟩ :=
  ⟨by decide, by decide, rfl, rfl⟩

end SchemaRequest

end EntityMapper
