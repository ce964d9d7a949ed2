import EntityMapper.Condition.OfJson
import EntityMapper.Condition.Predicate
import Mathlib.Data.List.Basic

/-!
# Outlines

What of a piece of SQL or of a condition may show in the text of a statement. An outline keeps every
name and every ready-made text; of the values it keeps only how many there are, and which of them
are null where null is tested for.

Each step from a condition to its predicate goes as well from outline to outline. So values have no
way into the text: conditions of one outline have the same predicate, but for the values that are
bound (`outline_predicate`).

## Structure

* `Sql.outline` — SQL without its values. `eq_of_outline` says what an outline determines: the text,
  and how many values there are.
* `Fragment.outline` — fragments of SQL in outline; all the ways of putting fragments together
  commute with it.
* `Condition.outline` — a condition with each value replaced by one that is null just if the value
  is.
* `fragment?_outline` — the fragment of an outline is the outline of the fragment, by induction.
-/

namespace EntityMapper

/-! ## SQL

Outlines of texts. Everything that SQL is put together by, appending, parentheses and separators,
can be done to the outlines. -/

/-- Values that are only counted. -/
def counted (values : List Value) : List Value := values.map fun _ => .null

namespace Sql

/-- Text as it is, and values that are only counted. -/
def Piece.outline : Piece → Piece
  | .text s => .text s
  | .slot _ => .slot .null
  | .raw s values => .raw s (counted values)

/-- The outline of a text, piece by piece. -/
def outline (sql : Sql) : Sql := sql.map Piece.outline

/-- No character comes from a value, so an outline has the text of what it outlines. -/
theorem text_outline (sql : Sql) : sql.outline.text = sql.text := by
  have hchars : ∀ p : Piece, p.outline.chars = p.chars := fun p => by cases p <;> rfl
  rw [text, text, chars, chars, outline, List.flatMap_map]
  exact congrArg String.ofList (List.flatMap_congr fun p _ => hchars p)

theorem length_bindings_outline (sql : Sql) :
    sql.outline.bindings.length = sql.bindings.length := by
  have hlength : ∀ p : Piece, p.outline.bindings.length = p.bindings.length := fun p => by
    cases p <;> simp [Piece.outline, Piece.bindings, counted]
  rw [bindings, bindings, outline, List.flatMap_map, List.length_flatMap, List.length_flatMap]
  exact congrArg List.sum (List.map_congr_left fun p _ => hlength p)

/-- Pieces of one outline make up the same text, and bind as many values. -/
theorem eq_of_outline {a b : Sql} (h : a.outline = b.outline) :
    a.text = b.text ∧ a.bindings.length = b.bindings.length :=
  ⟨by rw [← text_outline, h,
    text_outline], by rw [← length_bindings_outline, h, length_bindings_outline]⟩

@[simp] theorem outline_nil : outline [] = [] := rfl

/-- The outline of a first piece, and of the rest. -/
@[simp] theorem outline_cons (p : Piece) (sql : Sql) :
    outline (p :: sql) = p.outline :: outline sql := rfl

/-- Outlines are made piece by piece, so they are appended where texts are. -/
@[simp] theorem outline_append (a b : Sql) : outline (a ++ b) = outline a ++ outline b :=
  List.map_append

theorem outline_parenthesised (sql : Sql) :
    sql.parenthesised.outline = sql.outline.parenthesised := by
  simp [parenthesised, Piece.outline]

/-- Separators are kept in an outline. Induction on the parts, with one and with more parts left. -/
theorem outline_joined (separator : String) (parts : List Sql) :
    (joined separator parts).outline = joined separator (parts.map outline) := by
  induction parts with
  | nil => rfl
  | cons part rest ih =>
    cases rest with
    | nil => simp
    | cons next rest =>
      rw [joined_cons_cons, outline_append, outline_cons, ih]
      simp [Piece.outline]

end Sql

/-! ## Fragments

The same of what fragments are put together by. Parentheses go by the flag of a fragment and by the
number of fragments, and both can be told from the outlines. -/

namespace Fragment

/-- The outline of a fragment keeps its flag. -/
def outline (f : Fragment) : Fragment := ⟨f.sql.outline, f.compound⟩

/-- A guard goes by the flag, which an outline has as well. -/
theorem outline_guarded (f : Fragment) : f.guarded.outline = f.outline.guarded := by
  rw [guarded, guarded]
  show _ = if f.compound then f.sql.outline.parenthesised else f.sql.outline
  split
  · exact Sql.outline_parenthesised f.sql
  · rfl

/-- Each part is put in parentheses, and the connective is text. -/
theorem outline_between (connective : Connective) (fragments : List Fragment) :
    (between connective fragments).outline = between connective (fragments.map outline) := by
  rw [between, between, Sql.outline_joined, List.map_map, List.map_map]
  congr 1
  exact List.map_congr_left fun f _ => Sql.outline_parenthesised f.sql

/-- The cases are those of `conjunction?`: no fragment, one, and more of them. -/
theorem outline_conjunction? (fragments : List Fragment) :
    (conjunction? fragments).map outline = conjunction? (fragments.map outline) := by
  match fragments with
  | [] => rfl
  | [f] => rfl
  | f :: g :: rest =>
    have hparts : ((f :: g :: rest).map guarded).map Sql.outline =
        ((f :: g :: rest).map outline).map guarded := by
      rw [List.map_map, List.map_map]
      exact List.map_congr_left fun f _ => outline_guarded f
    show some (outline ⟨Sql.joined " AND " ((f :: g :: rest).map guarded), true⟩) = _
    rw [outline, Sql.outline_joined, hparts]
    rfl

/-- The cases of `negation`. A single fragment stands in the parentheses of `NOT`, several are put
together by `between` first. -/
theorem outline_negation (fragments : List Fragment) :
    (negation fragments).outline = negation (fragments.map outline) := by
  match fragments with
  | [] => rfl
  | [f] => simp [negation, outline, Sql.Piece.outline]
  | f :: g :: rest =>
    show outline ⟨.text "NOT (" :: between .and (f :: g :: rest) ++ [.text ")"], false⟩ = _
    rw [outline, Sql.outline_append, Sql.outline_cons, outline_between]
    rfl

/-- The cases of `group?`. All connectives but `NOT` are written by `between`. -/
theorem outline_group? (connective : Connective) (fragments : List Fragment) :
    (group? connective fragments).map outline = group? connective (fragments.map outline) := by
  have hbetween : ∀ k : Connective, some (outline ⟨between k fragments, true⟩) =
      some ⟨between k (fragments.map outline), true⟩ := fun k => by rw [outline, outline_between]
  unfold group?
  rw [List.isEmpty_map]
  split
  · rfl
  · cases connective with
    | not => exact congrArg some (outline_negation fragments)
    | and => exact hbetween .and
    | xor => exact hbetween .xor
    | or => exact hbetween .or

end Fragment

/-! ## Conditions

What of a condition decides on its text. The only thing that a value decides is whether a comparison
becomes a test for null. -/

/-- A value of which only counts whether it is null. -/
def Value.outline (v : Value) : Value := if v.isNull then .null else .bool true

/-- The values of a list are only counted; of a single value it matters whether it is null. -/
def Operand.outline : Operand → Operand
  | .scalar value => .scalar value.outline
  | .oneOf values => .oneOf (counted values)

/-- A test for null has the same result on the outline. -/
theorem Value.isNull_outline (v : Value) : v.outline.isNull = v.isNull := by
  rw [outline]
  cases v.isNull <;> rfl

/-- A list of placeholders shows how many values there are. -/
theorem Sql.outline_slots (values : List Value) :
    (Sql.joined ", " ((counted values).map fun v => [.slot v])).outline =
      (Sql.joined ", " (values.map fun v => [.slot v])).outline := by
  -- every placeholder has the same outline, so only their number is left
  rw [outline_joined, outline_joined, counted, List.map_map, List.map_map, List.map_map]
  congr 1

/-- A comparison with the outline of an operand has the outline of the comparison with the operand.
-/
theorem Fragment.outline_comparison (field : String) (c : Comparison) (operand : Operand) :
    (comparison field c operand.outline).outline = (comparison field c operand).outline := by
  match operand with
  | .oneOf [] => rfl
  | .oneOf (v :: rest) =>
    show outline
      ⟨.text s!"{field} IN (" :: Sql.joined ", " ((counted (v :: rest)).map fun v => [.slot v])
        ++ [.text ")"], false⟩ =
      outline ⟨.text s!"{field} IN (" :: Sql.joined ", " ((v :: rest).map fun v => [.slot v])
        ++ [.text ")"], false⟩
    simp only [outline, Sql.outline_append, Sql.outline_cons, Sql.outline_slots]
  | .scalar value =>
    -- the forms are chosen by whether the value is null, and no further by the value
    rw [Operand.outline, comparison, comparison, Value.isNull_outline]
    split
    · rfl
    · split <;> rfl

namespace Condition

mutual

/-- The outline of a condition: connectives, fields, comparisons and ready-made SQL stay as they
are. -/
def outline : Condition → Condition
  | .all children => .all (outlines children)
  | .group connective children => .group connective (outlines children)
  | .compare field c operand => .compare field c operand.outline
  | .raw sql values => .raw sql (counted values)

def outlines : List Condition → List Condition
  | [] => []
  | c :: rest => outline c :: outlines rest

end

mutual

/-- The fragment of an outline, in outline, is the outline of the fragment. Induction on the
condition, with one lemma above for each constructor. -/
theorem fragment?_outline : ∀ c : Condition,
    c.outline.fragment?.map Fragment.outline = c.fragment?.map Fragment.outline
  | .all children => by
    rw [outline, fragment?, fragment?, Fragment.outline_conjunction?, Fragment.outline_conjunction?,
      fragments_outlines children]
  | .group connective children => by
    rw [outline, fragment?, fragment?, Fragment.outline_group?, Fragment.outline_group?,
      fragments_outlines children]
  | .compare field c operand => congrArg some (Fragment.outline_comparison field c operand)
  | .raw sql values => by
    -- the values of a piece are counted already
    have hcounted : counted (counted values) = counted values := by simp [counted]
    rw [outline, fragment?, fragment?]
    split
    · rfl
    · show some (Fragment.mk [.raw _ (counted (counted values))] true) = _
      rw [hcounted]
      rfl

/-- The same of children. Which of them have a fragment is not changed by an outline. -/
theorem fragments_outlines : ∀ children : List Condition,
    (fragments (outlines children)).map Fragment.outline = (fragments children).map Fragment.outline
  | [] => rfl
  | c :: rest => by
    -- a fragment is outlined whether or not it is there
    have htoList : ∀ f? : Option Fragment,
        f?.toList.map Fragment.outline = (f?.map Fragment.outline).toList := fun f? => by
      cases f? <;> rfl
    rw [outlines, fragments, fragments, List.map_append, List.map_append, htoList, htoList,
      fragment?_outline c, fragments_outlines rest]

end

/-- Conditions of one outline have fragments of one outline. -/
theorem fragment?_congr {c d : Condition} (h : c.outline = d.outline) :
    c.fragment?.map Fragment.outline = d.fragment?.map Fragment.outline := by
  rw [← fragment?_outline c, h, fragment?_outline d]

/-- Conditions of one outline have the same clauses, but for the bound values. -/
theorem outline_clause {c d : Condition} (h : c.outline = d.outline) (keyword : String) :
    (c.clause keyword).outline = (d.clause keyword).outline := by
  -- a clause is made of the outline of the fragment
  have hclause : ∀ c : Condition, (c.clause keyword).outline =
      ((c.fragment?.map Fragment.outline).map fun f => .text s!" {keyword} " :: f.sql).getD [] := by
    intro c
    rw [clause]
    cases c.fragment? <;> rfl
  rw [hclause c, hclause d, fragment?_congr h]

/-- Conditions of one outline have predicates of one outline: the predicate is the SQL of the
fragment, if there is one. -/
theorem outline_predicate {c d : Condition} (h : c.outline = d.outline) :
    c.predicate.outline = d.predicate.outline := by
  have hpredicate : ∀ c : Condition,
      c.predicate.outline = ((c.fragment?.map Fragment.outline).map Fragment.sql).getD [] := by
    intro c
    rw [predicate]
    cases c.fragment? <;> rfl
  rw [hpredicate c, hpredicate d, fragment?_congr h]

end Condition

end EntityMapper
