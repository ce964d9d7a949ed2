import EntityMapper.Proofs.Condition.Meaning
import EntityMapper.Proofs.Reading.Select
import EntityMapper.Statement

/-!
# Selects as sentences

The parts of a query are set independently of each other, and each leaves a clause in its select or
leaves none. Whichever of them are there, the select is a sentence by the grammar that the dialects
share, and asks for what the query does (`select_reads`).

The clauses are written one behind the other, so what is shown of each is how it continues a text
(`Sql.Continues`), and what is read of it before anything that may come later (`Stage`). A predicate
stays together in its clause, as no clause begins inside of it.

The one thing that depends on the dialect is an offset without a limit. It is written as it is for
either one, and SQLite does not take it.

## Structure

* `Stage` — a part of the select with the clauses that it is read from, whatever later clauses come
  behind.
* `Stage.before` — stages in the order of the grammar are put together to the whole (`Sql.Tail`).
* `Complete.exists_stage`, `exists_stage_names`, `exists_stage_order`, `exists_stage_bound`,
  `exists_stage_joins` — the parts of a query as stages.
* `exists_selection` — all of them, from the last to the first.
-/

namespace EntityMapper

open Reading

/-! ## Clauses behind a text

A text is read as elements, and a clause that begins with a blank adds its elements to those of the
text before it. So clauses can be looked at one by one. -/

namespace Sql

/-- SQL that goes on with these elements, whatever stands before it. -/
def Continues (sql : Sql) (es : List Element) : Prop :=
  ∀ text values fs, Reads text values fs →
    Reads (text ++ sql.chars) (values ++ sql.holders) (fs ++ es)

namespace Continues

theorem nil : Continues [] [] := by
  intro text values fs h
  simpa [chars, holders] using h

theorem append {a b : Sql} {es fs : List Element} (ha : Continues a es) (hb : Continues b fs) :
    Continues (a ++ b) (es ++ fs) := by
  intro text values gs h
  rw [chars_append, holders_append, ← List.append_assoc, ← List.append_assoc, ← List.append_assoc]
  exact hb _ _ _ (ha _ _ _ h)

end Continues

end Sql

/-- A clause is set off from what stands before it by a blank. -/
theorem Sql.Continues.clause (c : Clause) {sql : Sql} {text : List Char} {body : List Element}
    (hchars : sql.chars = ' ' :: (c.keyword.toList ++ ' ' :: text))
    (h : Reads text sql.holders body) :
    sql.Continues (c.elements ++ body) := by
  intro before values fs hbefore
  -- the keyword is set off by blanks on both sides
  rw [hchars]
  exact hbefore.append_space (c.reads_keyword.append_space h)

/-! ## Stages

A select is read clause by clause, in the order of the grammar. Each of its parts is read whatever
comes behind, provided that this has a later place in the grammar. -/

/-- SQL that goes on with phrases from this place of the grammar on. -/
structure Sql.Tail (sql : Sql) (rank : Nat) (phrases : List Phrase) : Prop where
  continues : sql.Continues (phrases.flatMap Phrase.elements)
  rank_le : ∀ p ∈ phrases, rank ≤ p.clause.rank
  quiet : ∀ p ∈ phrases, quiet p.body = true

/-- SQL with one place in the grammar, from which `take` reads `x`. -/
structure Stage {α : Type} (sql : Sql) (rank : Nat)
    (take : List (List Element) → Option (α × List (List Element))) (x : α)
    (phrases : List Phrase) : Prop where
  continues : sql.Continues (phrases.flatMap Phrase.elements)
  rank_eq : ∀ p ∈ phrases, p.clause.rank = rank
  quiet : ∀ p ∈ phrases, quiet p.body = true
  taken : ∀ rest : List Phrase, (∀ p ∈ rest, rank < p.clause.rank) →
    take ((phrases ++ rest).map Phrase.elements) = some (x, rest.map Phrase.elements)

namespace Stage

variable {α : Type} {sql rest : Sql} {rank : Nat} {x : α} {phrases later : List Phrase}
  {take : List (List Element) → Option (α × List (List Element))}

/-- The last stage is all that comes from its place on. -/
theorem last (h : Stage sql rank take x phrases) : sql.Tail rank phrases :=
  ⟨h.continues, fun p hp => Nat.le_of_eq (h.rank_eq p hp).symm, h.quiet⟩

/-- With nothing behind it, a stage is read to the end. -/
theorem take_last (h : Stage sql rank take x phrases) :
    take (phrases.map Phrase.elements) = some (x, []) := by
  have htaken := h.taken [] (by simp)
  rw [List.append_nil] at htaken
  exact htaken

/-- A stage before all that comes later. Its own phrases have its place and the others a later one,
so the order of the grammar is kept. -/
theorem before (h : Stage sql rank take x phrases) (hrest : rest.Tail (rank + 1) later) :
    Sql.Tail (sql ++ rest) rank (phrases ++ later) where
  continues := by
    rw [List.flatMap_append]
    exact h.continues.append hrest.continues
  rank_le p hp := by
    rcases List.mem_append.mp hp with hp | hp
    · exact h.last.rank_le p hp
    · exact Nat.le_of_succ_le (hrest.rank_le p hp)
  quiet p hp := (List.mem_append.mp hp).elim (h.quiet p) (hrest.quiet p)

/-- What comes later is left over for the stages behind it. -/
theorem take_eq (h : Stage sql rank take x phrases) (hrest : rest.Tail (rank + 1) later) :
    take ((phrases ++ later).map Phrase.elements) = some (x, later.map Phrase.elements) :=
  h.taken later fun p hp => hrest.rank_le p hp

/-- A clause that is left out is read as nothing. -/
theorem absent (c : Clause) (body? : List Element → Option α) :
    Stage [] c.rank (take? c body?) none [] :=
  ⟨.nil, by simp, by simp, fun _ hrest => take?_absent body? hrest⟩

/-- A clause that is there is read as what its body is read as. -/
theorem present {c : Clause} {body? : List Element → Option α} {body : List Element}
    (hcontinues : sql.Continues (c.elements ++ body)) (hquiet : Reading.quiet body = true)
    (hread : body? body = some x) : Stage sql c.rank (take? c body?) (some x) [⟨c, body⟩] where
  continues := by
    rw [List.flatMap_singleton]
    exact hcontinues
  rank_eq p hp := by rw [List.mem_singleton.mp hp]
  quiet p hp := by
    rw [List.mem_singleton.mp hp]
    exact hquiet
  taken rest _ := take?_present hread _

end Stage

/-! ## Conditions

Ready-made SQL could contain a clause of its own, and then the grammar would read it as one. `Quiet`
excludes that: in a complete condition every piece is one expression, and no keyword of a clause
stands outside of its parentheses. -/

namespace Sql

/-- SQL inside of which no clause begins. -/
def Quiet (sql : Sql) : Prop := ∃ es, sql.ReadsAs es ∧ quiet es = true

/-- SQL is read in one way only, so it is enough to know one reading of it. -/
theorem Quiet.of_readsAs {sql : Sql} {es : List Element} (h : sql.Quiet) (hreads : sql.ReadsAs es) :
    quiet es = true := by
  obtain ⟨fs, hfs, hquiet⟩ := h
  rw [Reads.unique hreads hfs]
  exact hquiet

end Sql

/-- Neither parentheses nor connectives have a clause begin in what they put together. -/
theorem Fragment.closed_quiet : Fragment.Closed Sql.Quiet where
  parenthesised _ h := by
    obtain ⟨es, hes, -⟩ := h
    exact ⟨_, hes.parenthesised, quiet_cons rfl rfl⟩
  joined k _ parts hne h := by
    -- each part has a reading, and so there is a list of readings
    have hseqs : ∃ seqs, List.Forall₂ Sql.ReadsAs parts seqs ∧ ∀ es ∈ seqs, quiet es = true := by
      clear hne
      induction parts with
      | nil => exact ⟨[], .nil, by simp⟩
      | cons part parts ih =>
        obtain ⟨⟨es, hes, hquiet⟩, hparts⟩ := List.forall_mem_cons.mp h
        obtain ⟨seqs, hseqs, hquiets⟩ := ih hparts
        exact ⟨es :: seqs, .cons hes hseqs, List.forall_mem_cons.mpr ⟨hquiet, hquiets⟩⟩
    obtain ⟨seqs, hseqs, hquiet⟩ := hseqs
    refine ⟨_, Sql.ReadsAs.joined hseqs, quiet_joined ?_ ?_ ?_ hquiet⟩
    · cases k <;> decide
    · cases k <;> decide
    · cases k <;> decide
  negated _ h := by
    obtain ⟨es, hes, -⟩ := h
    exact ⟨_, Fragment.readsAs_not hes, quiet_cons (by decide) (quiet_cons rfl rfl)⟩

namespace Condition

/-- Every comparison is that of a name, and every ready-made piece that is not blank is one
expression. -/
structure Complete (c : Condition) : Prop where
  columns : ∀ field comparison operand, .compare field comparison operand ∈ c.leaves →
    isName field = true
  raws : ∀ sql values, .raw sql values ∈ c.leaves → Text.isBlankText sql = false →
    isExpression sql.toList (Reading.holders sql.toList values) = true

/-- A complete condition is readable, and more: its names are no keywords, and no clause begins in
its ready-made SQL. -/
theorem Complete.readable {c : Condition} (h : c.Complete) : c.Readable where
  columns field comparison operand hleaf :=
    isColumn_of_isName (h.columns field comparison operand hleaf)
  raws sql values hleaf hblank := by
    obtain ⟨es, hreads, hread, -⟩ := exists_reads_of_isExpression (h.raws sql values hleaf hblank)
    rw [rawFormula?, hreads.ofText_eq]
    exact hread

theorem complete_empty : Complete .empty :=
  ⟨fun _ _ _ hleaf => absurd hleaf List.not_mem_nil, fun _ _ hleaf => absurd hleaf List.not_mem_nil⟩

/-- An element of a comparison is a name or one of the words of comparisons, and none of these
begins a clause. -/
theorem opens_of_compares {field : String} (hfield : isName field = true) {e : Element}
    (h : e.Compares field) : e.opens = false := by
  refine opens_eq_false fun word hword => ?_
  match e, h with
  | .token (.word s), .inl hs =>
    rw [hs]
    exact is_of_isName hfield word hword
  | .token (.word s), .inr hs =>
    -- the words of comparisons are few enough to be tried
    obtain ⟨w, hw, rfl⟩ := hs
    revert word w
    decide
  | .token (.symbol _), _ => rfl
  | .token (.quoted _ _), _ => rfl
  | .token .comma, _ => rfl
  | .token .opening, _ => rfl
  | .token .closing, _ => rfl
  | .token (.slot _), _ => rfl
  | .held _, _ => rfl
  | .group _ _, _ => rfl

/-- Leaf by leaf, since connectives begin no clause (`Fragment.closed_quiet`). -/
theorem Complete.quiet {c : Condition} (h : c.Complete) :
    ∀ f, c.fragment? = some f → f.sql.Quiet := by
  refine fragment_of_leaves Fragment.closed_quiet c fun leaf hleaf f hf => ?_
  rcases leaf_cases hleaf with ⟨field, comparison, operand, rfl⟩ | ⟨sql, values, rfl⟩
  · have hfield := h.columns field comparison operand hleaf
    obtain ⟨es, hmeans, hes⟩ :=
      Fragment.exists_means_comparison (isColumn_of_isName hfield) comparison operand
    obtain rfl := Option.some.inj hf
    exact ⟨es, hmeans.reads, quiet_of_forall fun e he => opens_of_compares hfield (hes e he)⟩
  · obtain ⟨hblank, rfl⟩ := fragment?_raw_eq_some hf
    obtain ⟨es, hreads, -, hquiet⟩ := exists_reads_of_isExpression (h.raws sql values hleaf hblank)
    exact ⟨es, Fragment.readsAs_raw hreads, hquiet⟩

/-- What a clause says for a condition: nothing if the condition is empty. -/
def IsSaidBy (c : Condition) : Option Formula → Prop
  | none => c.isEmpty = true
  | some f => c.isEmpty = false ∧ ∀ row, f.truth row = c.truth row

/-- A condition is a stage of its clause. If it is empty, there is no clause; otherwise the
predicate is read as a formula that is true of the same rows. -/
theorem Complete.exists_stage (place : Clause) {c : Condition} (hc : c.Complete) :
    ∃ phrases f?, Stage (c.clause place.keyword) place.rank (take? place read) f? phrases
      ∧ c.IsSaidBy f? := by
  cases hempty : c.isEmpty with
  | true =>
    rw [clause_eq_nil_iff.mpr hempty]
    exact ⟨_, none, .absent place _, hempty⟩
  | false =>
    obtain ⟨f, es, g, hf, hmeans, htruth⟩ := exists_means c hempty hc.readable
    -- no clause begins in the predicate, so it is not read beyond its end
    have hquiet : Reading.quiet es = true := (hc.quiet f hf).of_readsAs hmeans.reads
    have hclause : c.clause place.keyword = .text s!" {place.keyword} " :: f.sql := by
      rw [clause, hf]
    rw [hclause]
    refine ⟨_, some g, .present (Sql.Continues.clause place ?_ hmeans.reads) hquiet hmeans.read,
      hempty, htruth⟩
    simp [Sql.chars, Sql.Piece.chars, toString]

end Condition

/-! ## Lists and bounds

The clauses that hold names or numbers. A list is left out if it has no items, and a list that is
left out is read as no items. -/

namespace Sql

theorem readsAs_plain {s : String} {es : List Element} (h : Reads s.toList [] es) :
    (plain s).ReadsAs es := by
  have hchars : (plain s).chars = s.toList := by simp [plain, chars, Piece.chars]
  rw [ReadsAs, hchars]
  exact h

/-- Texts that are read one by one are read as a list. -/
theorem readsAs_list {α : Type} (print : α → String) (write : α → List Element) {xs : List α}
    (h : ∀ x ∈ xs, Reads (print x).toList [] (write x)) :
    (joined ", " ((xs.map print).map plain)).ReadsAs
      ([.token .comma].intercalate (xs.map write)) := by
  refine .listed ?_
  rw [List.map_map]
  refine List.forall₂_map_left_iff.mpr (List.forall₂_map_right_iff.mpr ?_)
  exact List.forall₂_same.mpr fun x hx => readsAs_plain (h x hx)

end Sql

namespace Statement

/-- A list is a stage of its clause, if its items are read one by one and contain neither a comma
nor the beginning of a clause. -/
theorem exists_stage_list (c : Clause) {α : Type} (item? : List Element → Option α)
    (print : α → String) (write : α → List Element) {xs : List α}
    (hreads : ∀ x ∈ xs, Reads (print x).toList [] (write x))
    (hitem : ∀ x ∈ xs, item? (write x) = some x)
    (hcalm : ∀ x ∈ xs, ∀ e ∈ write x, e.isComma = false ∧ e.opens = false) :
    ∃ phrases xs?,
      Stage (listClause c.keyword (xs.map print)) c.rank (take? c (listed? item?)) xs? phrases
      ∧ xs?.getD [] = xs := by
  cases xs with
  | nil => exact ⟨_, none, .absent c _, rfl⟩
  | cons x xs =>
    have hlist := Sql.readsAs_list print write hreads
    refine ⟨_, some (x :: xs), .present (Sql.Continues.clause c ?_ hlist) ?_ ?_, rfl⟩
    · simp [listClause, Sql.chars, Sql.Piece.chars, toString]
    · refine quiet_of_forall fun e he => ?_
      -- an element of an item, or a comma
      rcases mem_intercalate he with ⟨part, hpart, he⟩ | rfl
      · obtain ⟨y, hy, rfl⟩ := List.mem_map.mp hpart
        exact (hcalm y hy e he).2
      · rfl
    · exact listed?_intercalate (by simp) hitem fun y hy e he => (hcalm y hy e he).1

theorem exists_stage_names (c : Clause) {names : List String}
    (h : ∀ name ∈ names, isName name = true) :
    ∃ phrases names?,
      Stage (listClause c.keyword names) c.rank (take? c (listed? name?)) names? phrases
      ∧ names?.getD [] = names := by
  have hreads : ∀ name ∈ names, Reads (id name).toList [] [wordElement name] := fun name hname =>
    Reads.name (h name hname)
  have hcalm : ∀ name ∈ names, ∀ e ∈ [wordElement name], e.isComma = false ∧ e.opens = false := by
    intro name hname e he
    obtain rfl := List.mem_singleton.mp he
    exact ⟨rfl, opens_wordElement (h name hname)⟩
  have hstage := exists_stage_list c name? id (fun name => [wordElement name]) hreads
    (fun name hname => name?_wordElement (h name hname)) hcalm
  rw [List.map_id] at hstage
  exact hstage

/-- A list of columns, each with its direction. -/
theorem exists_stage_order (c : Clause) {order : List (String × Direction)}
    (h : ∀ o ∈ order, isName o.1 = true) :
    ∃ phrases order?,
      Stage
        (listClause c.keyword (order.map fun (column, direction) => s!"{column} {direction.token}"))
        c.rank (take? c (listed? ordering?)) order? phrases
      ∧ order?.getD [] = order := by
  have hreads : ∀ o ∈ order, Reads s!"{o.1} {o.2.token}".toList [] (orderElements o) := by
    intro o ho
    have hdirection : Reads o.2.token.toList [] [directionElement o.2] :=
      .keyword o.2.token (by cases o.2 <;> rfl)
    have hchars : s!"{o.1} {o.2.token}".toList = o.1.toList ++ ' ' :: o.2.token.toList := by
      simp [toString]
    rw [hchars]
    exact (Reads.name (h o ho)).append_space hdirection
  -- neither a name nor a direction is a comma or begins a clause
  have hcalm : ∀ o ∈ order, ∀ e ∈ orderElements o, e.isComma = false ∧ e.opens = false := by
    intro o ho e he
    have hdirection : (directionElement o.2).opens = false := by cases o.2 <;> decide
    simp only [orderElements, List.mem_cons, List.not_mem_nil, or_false] at he
    rcases he with rfl | rfl
    · exact ⟨rfl, opens_wordElement (h o ho)⟩
    · exact ⟨rfl, hdirection⟩
  exact exists_stage_list c ordering? _ orderElements hreads
    (fun o ho => ordering?_orderElements (h o ho)) hcalm

theorem exists_stage_bound (c : Clause) (bound? : Option Nat) :
    ∃ phrases, Stage (boundClause c.keyword bound?) c.rank (take? c number?) bound? phrases := by
  cases bound? with
  | none => exact ⟨_, .absent c _⟩
  | some n =>
    refine ⟨_, .present (Sql.Continues.clause c ?_ (reads_number n)) ?_ (number?_numberElement n)⟩
    · simp [boundClause, Sql.chars, Sql.Piece.chars, toString]
    · exact quiet_cons (opens_numberElement n) rfl

end Statement

/-! ## Joins

A join is a clause that may be repeated. It names a table and pairs of columns, which are read as a
formula. -/

namespace Reading

/-- What is read of a join asks for it. -/
structure Joined.Represents (x : Joined) (j : Join) : Prop where
  kind : x.kind = j.kind
  table : x.table = j.table
  on : ∀ row, x.on.truth row = Truth.all (j.on.map fun pair => row (.equates pair.1 pair.2))

end Reading

/-- A join of a named table under a condition on named columns. -/
structure Join.Complete (j : Join) : Prop where
  table : isName j.table = true
  conditional : j.on ≠ []
  columns : ∀ pair ∈ j.on, isName pair.1 = true ∧ isName pair.2 = true

namespace Statement

/-- The condition under which rows are joined, as SQL and as what it says. -/
theorem exists_on {on : List (String × String)} (hne : on ≠ [])
    (h : ∀ pair ∈ on, isName pair.1 = true ∧ isName pair.2 = true) :
    ∃ es f,
      (Sql.joined " AND " (on.map fun (left, right) => Sql.plain s!"{left} = {right}")).ReadsAs es
      ∧ quiet es = true ∧ read es = some f
      ∧ ∀ row, f.truth row = Truth.all (on.map fun pair => row (.equates pair.1 pair.2)) := by
  have hcolumns : ∀ pair ∈ on, isColumn pair.1 = true ∧ isColumn pair.2 = true := fun pair hpair =>
    ⟨isColumn_of_isName (h pair hpair).1, isColumn_of_isName (h pair hpair).2⟩
  have hreads :
    List.Forall₂ Sql.ReadsAs (on.map fun (left, right) => Sql.plain s!"{left} = {right}")
      (on.map pairElements) := by
    refine List.forall₂_map_left_iff.mpr (List.forall₂_map_right_iff.mpr (List.forall₂_same.mpr ?_))
    exact fun pair hpair =>
      Sql.readsAs_plain (reads_pair (hcolumns pair hpair).1 (hcolumns pair hpair).2)
  have hquiet : ∀ es ∈ on.map pairElements, quiet es = true := by
    refine List.forall_mem_map.mpr fun pair hpair => ?_
    have hright := quiet_cons (opens_wordElement (h pair hpair).2) (rfl : quiet [] = true)
    exact quiet_cons (opens_wordElement (h pair hpair).1) (quiet_cons rfl hright)
  have hplain :
    ∀ part ∈ on.map fun pair => (pairElements pair, Formula.atom (.equates pair.1 pair.2)),
      Plain part.1 part.2 :=
    List.forall_mem_map.mpr fun pair hpair =>
      plain_pairElements (hcolumns pair hpair).1 (hcolumns pair hpair).2
  -- the pairs are joined by `AND`, like the parts of a conjunction
  obtain ⟨f, hf, htruth⟩ := read_joined (k := .and) (by simp) (by simpa using hne) hplain
  rw [List.map_map] at hf
  refine ⟨joined "AND" (on.map pairElements), f, ?_, ?_, hf, fun row => ?_⟩
  · exact Sql.ReadsAs.joined (k := .and) hreads
  · exact quiet_joined (by decide) (by decide) (by decide) hquiet
  · rw [htruth row, List.map_map]
    rfl

/-- A join is read as its table and a formula for the pairs of columns. -/
theorem exists_join {j : Join} (h : j.Complete) :
    ∃ body x, (joinClause j).Continues ((Clause.join j.kind).elements ++ body) ∧ quiet body = true
      ∧ join? j.kind body = some x ∧ x.Represents j := by
  obtain ⟨es, f, hreads, hquiet, hread, htruth⟩ := exists_on h.conditional h.columns
  have hon : (wordElement "ON").is "ON" = true := by decide
  have hclause : joinClause j = .text s!" {j.kind.token} {j.table}" :: .text " ON "
      :: Sql.joined " AND " (j.on.map fun (left, right) => Sql.plain s!"{left} = {right}") := by
    simp [joinClause, h.conditional]
  -- table, keyword and condition, each set off by a blank
  have hbody := (Reads.name h.table).append_space ((Reads.keyword "ON" rfl).append_space hreads)
  refine ⟨wordElement j.table :: wordElement "ON" :: es, ⟨j.kind, j.table, f⟩, ?_, ?_, ?_,
    ⟨rfl, rfl, htruth⟩⟩
  · rw [hclause]
    refine Sql.Continues.clause (.join j.kind) ?_ hbody
    simp [Sql.chars, Sql.Piece.chars, toString, Clause.keyword]
  · exact quiet_cons (opens_wordElement h.table) (quiet_cons (by decide) hquiet)
  · rw [join?, if_pos hon, name?_wordElement h.table, hread]
    rfl

/-- Joins are read one after the other. Induction on the joins, which are all in the first place of
the grammar. -/
theorem exists_stage_joins {joins : List Join} (h : ∀ j ∈ joins, j.Complete) :
    ∃ phrases joined, Stage (joins.flatMap joinClause) 0 takeJoins joined phrases
      ∧ List.Forall₂ Joined.Represents joined joins := by
  induction joins with
  | nil =>
    refine ⟨[], [], ⟨.nil, by simp, by simp, fun rest hrest => takeJoins_nil hrest⟩, .nil⟩
  | cons j joins ih =>
    obtain ⟨hj, hjoins⟩ := List.forall_mem_cons.mp h
    obtain ⟨body, x, hcontinues, hquiet, hread, hx⟩ := exists_join hj
    obtain ⟨phrases, joined, hstage, hrepresents⟩ := ih hjoins
    refine ⟨⟨.join j.kind, body⟩ :: phrases, x :: joined, ⟨?_, ?_, ?_, fun rest hrest => ?_⟩,
      .cons hx hrepresents⟩
    · rw [List.flatMap_cons, List.flatMap_cons]
      exact hcontinues.append hstage.continues
    · exact List.forall_mem_cons.mpr ⟨rfl, hstage.rank_eq⟩
    · exact List.forall_mem_cons.mpr ⟨hquiet, hstage.quiet⟩
    · exact takeJoins_cons hread (hstage.taken rest hrest)

end Statement

/-! ## Selects

A query is complete if each of its parts is fit for its clause. The clauses are put together from
the last one to the first, because what a stage leaves to be read is what comes behind it. -/

/-- A read from a named table, with names wherever it mentions a column. -/
structure Query.Complete (q : Query) (table : String) : Prop where
  table_eq : q.table? = some table
  table : isName table = true
  columns : ∀ column ∈ q.columns, isName column = true
  joins : ∀ j ∈ q.joins, j.Complete
  conditions : q.conditions.Complete
  groups : ∀ column ∈ q.groups, isName column = true
  having : q.having.Complete
  order : ∀ order ∈ q.order, isName order.1 = true

/-- What is read of a select asks for just what the query does. -/
structure Reading.Selection.Represents (s : Selection) (q : Query) : Prop where
  isDistinct : s.isDistinct = q.isDistinct
  columns : s.columns = q.columns
  table : q.table? = some s.table
  joins : List.Forall₂ Joined.Represents s.joins q.joins
  conditions : q.conditions.IsSaidBy s.where?
  groups : s.groups = q.groups
  having : q.having.IsSaidBy s.having?
  order : s.order = q.order
  limit : s.limit? = q.limit?
  offset : s.offset? = q.offset?

namespace Statement

theorem reads_selectList {q : Query} (hcolumns : ∀ column ∈ q.columns, isName column = true) :
    (selectList q).ReadsAs (listElements q.columns) := by
  unfold selectList listElements
  split
  · exact Sql.readsAs_plain ⟨_, _, rfl, rfl, .token (by simp) (by simp)⟩
  · have hlist := Sql.readsAs_list id (fun column => [wordElement column]) fun column hcolumn =>
      Reads.name (hcolumns column hcolumn)
    rw [List.map_id] at hlist
    exact hlist

theorem reads_head {q : Query} {table : String}
    (hcolumns : ∀ column ∈ q.columns, isName column = true)
    (htable : isName table = true) :
    Sql.ReadsAs (.text (if q.isDistinct then "SELECT DISTINCT " else "SELECT ") :: selectList q
        ++ [.text s!" FROM {table}"])
      (wordElement "SELECT" :: (if q.isDistinct then [wordElement "DISTINCT"] else [])
        ++ Selection.sourceElements q.columns table) := by
  have hsource := (reads_selectList hcolumns).append_space
    ((Reads.keyword "FROM" rfl).append_space (Reads.name htable))
  have hselect : Reads "SELECT".toList [] [wordElement "SELECT"] := .keyword "SELECT" rfl
  cases hdistinct : q.isDistinct with
  -- the flag is a word of its own between the first word and the columns
  | true =>
    have hflag := hselect.append_space ((Reads.keyword "DISTINCT" rfl).append_space hsource)
    refine Fragment.readsAs_of_chars hflag ?_ ?_
    · simp [Sql.chars, Sql.Piece.chars, toString]
    · simp [Sql.holders, Sql.Piece.holders]
  | false =>
    refine Fragment.readsAs_of_chars (hselect.append_space hsource) ?_ ?_
    · simp [Sql.chars, Sql.Piece.chars, toString]
    · simp [Sql.holders, Sql.Piece.holders]

/-- The clauses of a query, one behind the other, and what is read of them. -/
theorem exists_selection {q : Query} {table : String} (hq : q.Complete table) :
    ∃ (phrases : List Phrase) (s : Selection),
      Sql.Tail (sourceClauses q ++ windowClauses q) 0 phrases
        ∧ Selection.ofClauses q.isDistinct q.columns table (phrases.map Phrase.elements) = some s
        ∧ s.Represents q := by
  -- each clause by itself
  obtain ⟨joins, joined, hjoins, hjoined⟩ := exists_stage_joins hq.joins
  obtain ⟨wheres, where?, hwheres, hwhere⟩ := hq.conditions.exists_stage .where_
  obtain ⟨groups, groups?, hgroups, hgroup⟩ := exists_stage_names .group hq.groups
  obtain ⟨havings, having?, hhavings, hhaving⟩ := hq.having.exists_stage .having
  obtain ⟨orders, order?, horders, horder⟩ := exists_stage_order .order hq.order
  obtain ⟨limits, hlimits⟩ := exists_stage_bound .limit q.limit?
  obtain ⟨offsets, hoffsets⟩ := exists_stage_bound .offset q.offset?
  -- each clause with all that comes behind it, from the last one to the first
  have hoffset := hoffsets.last
  have hlimit := hlimits.before hoffset
  have horder' := horders.before hlimit
  have hhaving' := hhavings.before horder'
  have hgroup' := hgroups.before hhaving'
  have hwhere' := hwheres.before hgroup'
  refine ⟨joins ++ (wheres ++ (groups ++ (havings ++ (orders ++ (limits ++ offsets))))),
    ⟨q.isDistinct, q.columns, table, joined, where?, groups?.getD [], having?, order?.getD [],
      q.limit?, q.offset?⟩,
    ?_, ?_, ?_⟩
  · simp only [sourceClauses, windowClauses, List.append_assoc]
    exact hjoins.before hwhere'
  · simp only [Selection.ofClauses, hjoins.take_eq hwhere', hwheres.take_eq hgroup',
      hgroups.take_eq hhaving', hhavings.take_eq horder', horders.take_eq hlimit,
      hlimits.take_eq hoffset, hoffsets.take_last, Option.bind_eq_bind, Option.bind_some]
    rfl
  · exact ⟨rfl, rfl, hq.table_eq, hjoined, hwhere, hgroup, hhaving, horder, rfl, rfl⟩

/-- **Selects are sentences.** The text of a select is read as what its query asks for: in
PostgreSQL always, and in SQLite unless there is an offset without a limit. -/
theorem select_reads {q : Query} {table : String} (hq : q.Complete table) :
    ∃ s asked, ofSelect q = .ok s ∧ Selection.Represents asked q
      ∧ ∀ d, Selection.ofText d s.text.toList s.sql.holders =
        if Selection.isBounded q.limit? q.offset? d then some asked else none := by
  obtain ⟨phrases, asked, htail, hclauses, hasked⟩ := exists_selection hq
  have hmade : ofSelect q = .ok (.select table q) := by
    rw [ofSelect, tableOf, hq.table_eq]
    rfl
  have hreads := htail.continues _ _ _ (reads_head hq.columns hq.table)
  refine ⟨_, asked, hmade, hasked, fun d => ?_⟩
  -- the head and the clauses make up the whole statement
  have hsql : (Statement.select table q).sql.ReadsAs (wordElement "SELECT"
      :: (if q.isDistinct then [wordElement "DISTINCT"] else [])
      ++ Selection.sourceElements q.columns table ++ phrases.flatMap Phrase.elements) := by
    refine Fragment.readsAs_of_chars hreads ?_ ?_
    · simp [sql, sourceClauses, windowClauses, Sql.chars]
    · simp [sql, sourceClauses, windowClauses, Sql.holders]
  rw [text, Sql.text, String.toList_ofList, hsql.ofText_select,
    Selection.ofElements_select d _ hq.columns, Selection.ofList_source d _ hq.columns hq.table,
    Phrase.clauses_flatMap htail.quiet, hclauses]
  show (if Selection.isBounded asked.limit? asked.offset? d then some asked else none) = _
  rw [hasked.limit, hasked.offset]

/-- A query with each of its parts: `SELECT DISTINCT posts.id, title FROM posts LEFT JOIN users ON
posts.author_id = users.id AND posts.site = users.site WHERE status = ? AND (approved = 1 OR pinned
= ?) GROUP BY title HAVING views > ? ORDER BY title DESC LIMIT 10 OFFSET 5`. -/
def digest : Query where
  table? := some "posts"
  columns := ["posts.id", "title"]
  isDistinct := true
  conditions := .all [.equals "status" (.text "published"),
    .raw "approved = 1 OR pinned = ? " [.bool true], .raw " " []]
  joins := [⟨.left, "users", [("posts.author_id", "users.id"), ("posts.site", "users.site")]⟩]
  groups := ["title"]
  having := .compare "views" .greater (.scalar (.int32 100))
  order := [("title", .descending)]
  limit? := some 10
  offset? := some 5

/-- All parts of a query at once, with a raw piece that has an `OR` in it and a blank one that is
left out. -/
theorem select_reads_digest :
    digest.Complete "posts"
    ∧ ∃ s asked, ofSelect digest = .ok s ∧ Selection.Represents asked digest
      ∧ ∀ d, Selection.ofText d s.text.toList s.sql.holders =
        if Selection.isBounded digest.limit? digest.offset? d then some asked else none := by
  have hjoins : ∀ j ∈ digest.joins, j.Complete := by
    intro j hj
    obtain rfl := List.mem_singleton.mp hj
    exact ⟨by decide, by simp, by decide⟩
  -- a comparison of a name, and two pieces of which the second one is blank
  have hconditions : digest.conditions.Complete := by
    constructor
    · intro field comparison operand hleaf
      simp [digest, Condition.leaves, Condition.leavesOf, Condition.equals] at hleaf
      rw [hleaf.1]
      decide
    · intro sql values hleaf hblank
      simp [digest, Condition.leaves, Condition.leavesOf, Condition.equals] at hleaf
      rcases hleaf with ⟨rfl, rfl⟩ | ⟨rfl, rfl⟩
      · rfl
      · exact absurd hblank (by decide)
  have hhaving : digest.having.Complete := by
    constructor
    · intro field comparison operand hleaf
      simp [digest, Condition.leaves] at hleaf
      rw [hleaf.1]
      decide
    · intro sql values hleaf
      simp [digest, Condition.leaves] at hleaf
  have hdigest : digest.Complete "posts" :=
    ⟨rfl, by decide, by decide, hjoins, hconditions, by decide, hhaving, by decide⟩
  exact ⟨hdigest, select_reads hdigest⟩

/-- An offset without a limit is one for PostgreSQL only. -/
theorem offset_without_limit :
    ((Query.ofTable "posts").withOffset 5).Complete "posts"
    ∧ ∃ s, ofSelect ((Query.ofTable "posts").withOffset 5) = .ok s
      ∧ s.text = "SELECT * FROM posts OFFSET 5"
      ∧ (Selection.ofText .postgres s.text.toList s.sql.holders).isSome = true
      ∧ (Selection.ofText .sqlite s.text.toList s.sql.holders).isNone = true := by
  have hcomplete : ((Query.ofTable "posts").withOffset 5).Complete "posts" :=
    ⟨rfl, by decide, by decide, fun _ hj => absurd hj List.not_mem_nil,
      Condition.complete_empty, by decide, Condition.complete_empty, by decide⟩
  exact ⟨hcomplete, _, rfl, rfl, rfl, rfl⟩

end Statement

end EntityMapper
