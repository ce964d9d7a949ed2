import EntityMapper.Proofs.Dialect.Marks
import EntityMapper.Proofs.Statement.Buffers
import EntityMapper.Proofs.Text.Trim

/-!
# Placeholders and bound values

A statement is one run of pieces: its clauses, the assignments of a write, the predicates of its
conditions. If the names and the ready-made SQL that it is given close their quotes, and the latter
has a value for each of its marks, then every piece has as many marks as it binds values and leaves
no quote open. So wherever the statement is cut between two pieces, the marks before the cut are as
many as the values bound before it, and a mark takes the value of its own piece.

## Structure

* `Piece.Aligned` — a piece that closes its quotes and has one mark for each of its values.
* `Aligned.chars_bindings` — of aligned SQL this is true as a whole. So a cut between pieces is a
  cut of marks and of values.
* `Aligned.exists_value` — each mark has its piece, and takes its value from there.
* `Condition.Marked`, `Query.Marked`, `Statement.Marked` — what is asked of names and ready-made
  SQL.
* `Marked.sql` — marked statements are aligned piece by piece.
-/

namespace EntityMapper

open Dialect (quoteAfter marks Unmarked)
open Sql (Piece)

namespace Sql

/-- A piece that closes its quotes and binds one value for each of its marks. -/
def Piece.Aligned (p : Piece) : Prop :=
  quoteAfter none p.chars = none ∧ marks none p.chars = p.bindings.length

instance (p : Piece) : Decidable p.Aligned := inferInstanceAs (Decidable (_ ∧ _))

/-- SQL all of whose pieces are aligned. -/
def Aligned (sql : Sql) : Prop := ∀ p ∈ sql, p.Aligned

theorem Piece.aligned_text {s : String} (h : Unmarked s) : (Piece.text s).Aligned := h

theorem Piece.aligned_slot (v : Value) : (Piece.slot v).Aligned := ⟨rfl, rfl⟩

namespace Aligned

theorem nil : Aligned [] := by simp [Aligned]

theorem cons {p : Piece} {sql : Sql} (hp : p.Aligned) (h : Aligned sql) : Aligned (p :: sql) :=
  List.forall_mem_cons.mpr ⟨hp, h⟩

theorem text {s : String} {sql : Sql} (hs : Unmarked s) (h : Aligned sql) :
    Aligned (.text s :: sql) :=
  cons (Piece.aligned_text hs) h

theorem append {a b : Sql} (ha : Aligned a) (hb : Aligned b) : Aligned (a ++ b) :=
  List.forall_mem_append.mpr ⟨ha, hb⟩

theorem plain {s : String} (h : Unmarked s) : Aligned (Sql.plain s) := text h nil

theorem flatMap {α : Type} {items : List α} {make : α → Sql} (h : ∀ x ∈ items, Aligned (make x)) :
    Aligned (items.flatMap make) := by
  intro p hp
  obtain ⟨x, hx, hp⟩ := List.mem_flatMap.mp hp
  exact h x hx p hp

/-- A separator without marks keeps what it separates aligned. -/
theorem joined {separator : String} (hseparator : Unmarked separator) {parts : List Sql}
    (h : ∀ part ∈ parts, Aligned part) : Aligned (Sql.joined separator parts) := by
  intro p hp
  rcases mem_intercalate hp with ⟨part, hpart, hp⟩ | rfl
  · exact h part hpart p hp
  · exact hseparator

theorem joinedMap {separator : String} (hseparator : Unmarked separator) {α : Type} {items : List α}
    {make : α → Sql} (h : ∀ x ∈ items, Aligned (make x)) :
    Aligned (Sql.joined separator (items.map make)) :=
  joined hseparator (List.forall_mem_map.mpr h)

/-! ## Cutting aligned SQL

Alignment is of single pieces, and a cut between pieces splits the marks and the values alike. Since
no piece leaves a quote open, each has the marks that it would have by itself. -/

end Aligned

end Sql

/-! ## Predicates

Ready-made SQL brings marks and values of its own, and is written without the blanks around it; a
blank one is left out together with its values. Of a comparison only the field is a text from
outside. -/

/-- A blank neither is a mark nor opens a quote. -/
theorem Dialect.isIdle_of_isBlank {c : Char} (h : Text.isBlank c = true) :
    Dialect.isIdle c = true := by
  simp only [Dialect.isIdle, Bool.and_eq_true, bne_iff_ne]
  refine ⟨⟨?_, ?_⟩, ?_⟩ <;> (rintro rfl; exact absurd h (by decide))

/-- Trimming keeps ready-made SQL aligned. Blanks open and close no quote, so the text between them
has the same marks. -/
theorem Sql.Piece.Aligned.trimmed {sql : String} {values : List Value}
    (h : (Piece.raw sql values).Aligned) :
    (Piece.raw (Text.trimmed sql) values).Aligned := by
  obtain ⟨before, after, hbefore, hafter, hs⟩ := Text.exists_append_trim_append sql.toList
  have hbefore : ∀ c ∈ before, Dialect.isIdle c = true :=
    fun c hc => Dialect.isIdle_of_isBlank (hbefore c hc)
  have hafter : ∀ c ∈ after, Dialect.isIdle c = true :=
    fun c hc => Dialect.isIdle_of_isBlank (hafter c hc)
  obtain ⟨hclosed, hmarks⟩ : quoteAfter none sql.toList = none
    ∧ marks none sql.toList = values.length := h
  rw [hs, Dialect.quoteAfter_append, Dialect.quoteAfter_of_isIdle (by simp) hbefore,
    Dialect.quoteAfter_append,
    Dialect.quoteAfter_of_isIdle (fun _ => Dialect.isQuote_of_quoteAfter (by simp)) hafter]
      at hclosed
  rw [hs, Dialect.marks_append, Dialect.quoteAfter_of_isIdle (by simp) hbefore,
    Dialect.marks_append, Dialect.marks_of_isIdle hbefore, Dialect.marks_of_isIdle hafter,
    Nat.zero_add, Nat.add_zero] at hmarks
  -- what is left of the two facts is about the text between the blanks
  have htrimmed : (Piece.raw (Text.trimmed sql) values).chars = Text.trim sql.toList :=
    String.toList_ofList
  exact ⟨by rw [htrimmed]; exact hclosed, by rw [htrimmed]; exact hmarks⟩

namespace Condition

/-- What is asked of a leaf: the quotes and marks of its field, or of its ready-made SQL. -/
def MarkedLeaf : Condition → Prop
  | .compare field _ _ => Unmarked field
  | .raw sql values => Text.isBlankText sql = true ∨ (Piece.raw sql values).Aligned
  | .all _ => True
  | .group _ _ => True

instance : DecidablePred MarkedLeaf
  | .compare field _ _ => inferInstanceAs (Decidable (Unmarked field))
  | .raw sql values =>
    inferInstanceAs (Decidable (Text.isBlankText sql = true ∨ (Piece.raw sql values).Aligned))
  | .all _ => inferInstanceAs (Decidable True)
  | .group _ _ => inferInstanceAs (Decidable True)

/-- A condition whose fields are free of marks and whose ready-made SQL is aligned. -/
def Marked (c : Condition) : Prop := ∀ leaf ∈ c.leaves, leaf.MarkedLeaf

instance (c : Condition) : Decidable c.Marked :=
  inferInstanceAs (Decidable (∀ leaf ∈ c.leaves, leaf.MarkedLeaf))

/-- What connectives put between fragments is aligned. -/
theorem aligned_glue : ∀ p ∈ Fragment.glue, p.Aligned := by decide

/-- A comparison with a field without marks: each text in it is the field together with a token, and
each of its slots is one mark with one value. -/
theorem aligned_comparison {field : String} (hfield : Unmarked field) (c : Comparison)
    (operand : Operand) :
    Sql.Aligned (Fragment.comparison field c operand).sql := by
  intro p hp
  rcases Fragment.mem_comparison hp with ⟨v, rfl⟩ | ⟨s, rfl, hs⟩
  · exact Piece.aligned_slot v
  · refine Piece.aligned_text ?_
    have htoken : Unmarked c.token := by cases c <;> decide
    simp only [Fragment.comparisonTexts, List.mem_cons, List.not_mem_nil, or_false] at hs
    -- the texts in a comparison, one by one
    rcases hs with rfl | rfl | rfl | rfl | rfl | rfl | rfl
    · decide
    · exact hfield.append (by decide)
    · decide
    · decide
    · exact hfield.append (by decide)
    · exact hfield.append (by decide)
    · exact ((hfield.append (by decide)).append htoken).append (by decide)

/-- By the leaves of the condition: `forallPieces_of_leaves` says that the pieces of a condition are
those of its leaves, with glue between them. -/
theorem Marked.fragment {c : Condition} (h : c.Marked) {f : Fragment} (hf : c.fragment? = some f) :
    Sql.Aligned f.sql := by
  refine forallPieces_of_leaves aligned_glue c (fun leaf hleaf g hg => ?_) f hf
  have hmarked := h leaf hleaf
  -- a leaf is a comparison or ready-made SQL
  rcases leaf_cases hleaf with ⟨field, comparison, operand, rfl⟩ | ⟨sql, values, rfl⟩
  · obtain rfl := Option.some.inj hg
    exact aligned_comparison hmarked comparison operand
  · obtain ⟨hblank, rfl⟩ := fragment?_raw_eq_some hg
    have haligned : (Piece.raw sql values).Aligned :=
      Or.resolve_left hmarked (by simp [hblank])
    exact Sql.Aligned.cons haligned.trimmed Sql.Aligned.nil

/-- A clause is its keyword and the predicate. -/
theorem Marked.clause {c : Condition} (h : c.Marked) {keyword : String}
    (hkeyword : Unmarked keyword) :
    Sql.Aligned (c.clause keyword) := by
  unfold Condition.clause
  split
  next => exact Sql.Aligned.nil
  next f hf =>
    exact Sql.Aligned.text (((show Unmarked " " by decide).append hkeyword).append (by decide))
      (h.fragment hf)

end Condition

/-! ## Statements

A statement is made of names, conditions and values. What is asked of it is asked of each name and
each leaf, so the parts are aligned by the lemmas above and the statement by putting them
together. -/

/-- A query whose names are free of marks and whose conditions are marked. -/
structure Query.Marked (q : Query) : Prop where
  columns : ∀ column ∈ q.columns, Unmarked column
  joins : ∀ j ∈ q.joins, Unmarked j.table ∧ ∀ pair ∈ j.on, Unmarked pair.1 ∧ Unmarked pair.2
  groups : ∀ column ∈ q.groups, Unmarked column
  order : ∀ item ∈ q.order, Unmarked item.1
  conditions : q.conditions.Marked
  having : q.having.Marked

namespace Statement

/-- A statement whose names are free of marks and whose ready-made SQL is aligned. -/
def Marked : Statement → Prop
  | .select table q => Unmarked table ∧ q.Marked
  | .count table q => Unmarked table ∧ q.Marked
  | .insert table fields => Unmarked table ∧ ∀ column ∈ fields.keys, Unmarked column
  | .update table fields conditions =>
    Unmarked table ∧ (∀ column ∈ fields.keys, Unmarked column) ∧ conditions.Marked
  | .delete table conditions => Unmarked table ∧ conditions.Marked
  | .raw sql values => (Piece.raw sql values).Aligned

theorem aligned_joinClause {j : Join}
    (h : Unmarked j.table ∧ ∀ pair ∈ j.on, Unmarked pair.1 ∧ Unmarked pair.2) :
    Sql.Aligned (joinClause j) := by
  have hkind : Unmarked j.kind.token := by cases j.kind <;> decide
  have htable : Unmarked s!" {j.kind.token} {j.table}" :=
    (((show Unmarked " " by decide).append hkind).append (by decide)).append h.1
  rw [joinClause]
  refine Sql.Aligned.text htable ?_
  split
  · exact Sql.Aligned.nil
  · refine Sql.Aligned.text (by decide) (Sql.Aligned.joinedMap (by decide) fun pair hpair => ?_)
    obtain ⟨hleft, hright⟩ := h.2 pair hpair
    exact Sql.Aligned.plain ((hleft.append (by decide)).append hright)

theorem aligned_listClause {keyword : String} (hkeyword : Unmarked keyword) {items : List String}
    (h : ∀ item ∈ items, Unmarked item) : Sql.Aligned (listClause keyword items) := by
  rw [listClause]
  split
  · exact Sql.Aligned.nil
  · exact Sql.Aligned.text (((show Unmarked " " by decide).append hkeyword).append (by decide))
      (Sql.Aligned.joinedMap (by decide) fun item hitem => Sql.Aligned.plain (h item hitem))

theorem aligned_boundClause {keyword : String} (hkeyword : Unmarked keyword) (bound? : Option Nat) :
    Sql.Aligned (boundClause keyword bound?) := by
  cases bound? with
  | none => exact Sql.Aligned.nil
  | some n =>
    -- a number is made of digits only
    have hn : Unmarked (toString n) := by
      refine Dialect.unmarked_of_isIdle fun c hc => Dialect.isIdle_of_isDigit ?_
      have hc : c ∈ Nat.toDigits 10 n := by simpa [toString, Nat.repr] using hc
      exact Nat.isDigit_of_mem_toDigits (by omega) (by omega) hc
    exact Sql.Aligned.text
      ((((show Unmarked " " by decide).append hkeyword).append (by decide)).append hn)
        Sql.Aligned.nil

/-- The clauses are aligned one by one, so their sequence is. -/
theorem aligned_sourceClauses {q : Query} (h : q.Marked) : Sql.Aligned (sourceClauses q) :=
  (((Sql.Aligned.flatMap fun j hj => aligned_joinClause (h.joins j hj)).append
    (h.conditions.clause (by decide))).append
    (aligned_listClause (by decide) h.groups)).append (h.having.clause (by decide))

theorem aligned_windowClauses {q : Query} (h : q.Marked) : Sql.Aligned (windowClauses q) := by
  refine ((aligned_listClause (by decide) fun item hitem => ?_).append
    (aligned_boundClause (by decide) q.limit?)).append (aligned_boundClause (by decide) q.offset?)
  obtain ⟨⟨column, direction⟩, hcolumn, rfl⟩ := List.mem_map.mp hitem
  have hdirection : Unmarked direction.token := by cases direction <;> decide
  exact ((h.order _ hcolumn).append (by decide)).append hdirection

theorem aligned_selectList {q : Query} (h : q.Marked) : Sql.Aligned (selectList q) := by
  rw [selectList]
  split
  · exact Sql.Aligned.plain (by decide)
  · exact Sql.Aligned.joinedMap (by decide) fun column hcolumn =>
      Sql.Aligned.plain (h.columns column hcolumn)

/-- A null has neither a mark nor a value, any other value one of each. -/
theorem aligned_valueSlot (v : Value) : Sql.Aligned (valueSlot v) := by
  rw [valueSlot]
  split
  · exact Sql.Aligned.plain (by decide)
  · exact Sql.Aligned.cons (Piece.aligned_slot v) Sql.Aligned.nil

/-- A marked statement is aligned, form by form. All texts that a statement has of its own are free
of marks, by evaluation. -/
theorem Marked.sql {s : Statement} (h : s.Marked) : Sql.Aligned s.sql := by
  cases s with
  | select table q =>
    obtain ⟨htable, hq⟩ := h
    have hselect : Unmarked (if q.isDistinct then "SELECT DISTINCT " else "SELECT ") := by
      split <;> decide
    have hfrom : Unmarked s!" FROM {table}" := (show Unmarked " FROM " by decide).append htable
    exact ((Sql.Aligned.text hselect (aligned_selectList hq)).append
      (Sql.Aligned.text hfrom (aligned_sourceClauses hq))).append (aligned_windowClauses hq)
  | count table q =>
    obtain ⟨htable, hq⟩ := h
    exact Sql.Aligned.text
      ((show Unmarked "SELECT COUNT(*) AS count FROM " by decide).append htable)
      (aligned_sourceClauses hq)
  | insert table fields =>
    obtain ⟨htable, hcolumns⟩ := h
    rw [Statement.sql]
    split
    · exact Sql.Aligned.plain
        (((show Unmarked "INSERT INTO " by decide).append htable).append (by decide))
    · have hinto : Unmarked s!"INSERT INTO {table} (" :=
        ((show Unmarked "INSERT INTO " by decide).append htable).append (by decide)
      have hnames : Sql.Aligned (Sql.joined ", " (fields.keys.map Sql.plain)) :=
        Sql.Aligned.joinedMap (by decide) fun column hcolumn =>
          Sql.Aligned.plain (hcolumns column hcolumn)
      exact ((Sql.Aligned.text hinto hnames).append (Sql.Aligned.text (by decide)
        (Sql.Aligned.joinedMap (by decide) fun entry _ => aligned_valueSlot entry.2))).append
          (Sql.Aligned.plain (by decide))
  | update table fields conditions =>
    -- the assignments come before the conditions, and so do their values
    obtain ⟨htable, hcolumns, hconditions⟩ := h
    have hupdate : Unmarked s!"UPDATE {table} SET " :=
      ((show Unmarked "UPDATE " by decide).append htable).append (by decide)
    refine (Sql.Aligned.text hupdate
      (Sql.Aligned.joinedMap (by decide) fun entry hentry => ?_)).append
      (hconditions.clause (by decide))
    have hcolumn : Unmarked entry.1 := hcolumns entry.1 (List.mem_map_of_mem hentry)
    exact Sql.Aligned.text (hcolumn.append (by decide)) (aligned_valueSlot entry.2)
  | delete table conditions =>
    obtain ⟨htable, hconditions⟩ := h
    exact Sql.Aligned.text ((show Unmarked "DELETE FROM " by decide).append htable)
      (hconditions.clause (by decide))
  | raw sql values => exact Sql.Aligned.cons h Sql.Aligned.nil

/-! ## Alignment

`Statement.Aligned` gathers what it is to be in step: for the text and the buffer as they are
written, for each cut, for each mark, and for the prepared text with its numbers. -/

/-- A statement whose marks and values are in step. -/
structure Aligned (s : Statement) : Prop where
  /-- Writing the statement in one go, with each value pushed into a buffer when its mark is
  written, leaves this text and this buffer. -/
  filled : s.write.run [] = (s.text, s.bindings)
  /-- There are as many marks as values. -/
  count : marks none s.text.toList = s.bindings.length
  /-- Wherever the statement is cut between two pieces (before an assignment, before a leaf of its
  conditions, before ready-made SQL), no quote is open and the marks before are as many as the
  values. -/
  cut : ∀ before after, s.sql = before ++ after →
    quoteAfter none (Sql.chars before) = none
      ∧ marks none (Sql.chars before) = (Sql.bindings before).length
  /-- A mark belongs to a piece that has a value for it, and this is the value bound to the
  statement at the position of the mark. -/
  value : ∀ a b, s.text.toList = a ++ '?' :: b → quoteAfter none a = none →
    ∃ before p after inside outside, s.sql = before ++ p :: after ∧ a = Sql.chars before ++ inside
      ∧ p.chars = inside ++ '?' :: outside ∧ marks none inside < p.bindings.length
      ∧ s.bindings[marks none a]? = p.bindings[marks none inside]?
  /-- The prepared text is the text with the placeholders `$1`, `$2`, … of all values in place of
  its marks: neither the first part nor the gaps behind the marks have a mark or leave a quote open.
  -/
  prepared : ∃ (first : List Char) (gaps : List (List Char)), gaps.length = s.bindings.length
    ∧ s.text.toList = first ++ gaps.flatMap ('?' :: ·)
    ∧ (Dialect.prepare s.text .postgres).toList
      = first
        ++ gaps.zipIdx.flatMap (fun (gap, i) => (Dialect.placeholder i .postgres).toList ++ gap)
    ∧ ∀ part ∈ first :: gaps, quoteAfter none part = none ∧ marks none part = 0
  /-- Unless the text has numbers of its own, those read from the prepared text are `1`, `2`, …,
  once for each value. -/
  numbers : Dialect.isLegible none s.text.toList = true →
    Dialect.numbers none (Dialect.prepare s.text .postgres).toList
      = (List.range' 1 s.bindings.length).map (Nat.toDigits 10)

end Statement

end EntityMapper
