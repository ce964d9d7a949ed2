import EntityMapper.Proofs.Statement.Writes

/-!
# Writing into buffers

A statement can be written without pieces: a text grows at its end, and whenever a mark is written,
its value is pushed into a buffer that is handed from one part of the statement to the next.
`Statement.write` does so. It goes through a query clause by clause and through a condition leaf by
leaf, and a clause is there if the predicate for it has any text.

What a writer does to the buffer is told by `Pushes`: it adds values behind those that are there,
and looks at none of them. There is one lemma of this kind for each writer, and from them follows
the main statement (`Statement.run_write`): after a run from an empty buffer, the text is
`Statement.text`, and the buffer holds `Statement.bindings`.

## Structure

* `Buffered.Pushes` — what a writer gives and what it pushes.
* `TextFragment` — fragments without values, put together in the same ways (`written_conjunction?`,
  `written_group?`).
* `Condition.pushes_write` — conditions, by induction.
* `Statement.pushes_write` — statements, clause by clause.

Every clause has its text in `Statement.sql` as well; what is shown of a writer is that it gives
this text and pushes these values. So all that is said of pieces elsewhere is said of the two
buffers.
-/

namespace EntityMapper

/-! ## Buffers

`Pushes` is put together as programs are: there is a lemma for a writer that does nothing, for one
that pushes, for two in sequence and for a list of them. The proofs below follow the definitions of
the writers with these four. -/

/-- Something that is worked out while values are pushed into a buffer. -/
abbrev Buffered (α : Type) := StateM (List Value) α

namespace Buffered

variable {α β : Type}

/-- Values are pushed behind those that are there. -/
def push (values : List Value) : Buffered Unit := modify (· ++ values)

/-- The writer gives `a`, and pushes these values behind whatever the buffer holds. -/
def Pushes (w : Buffered α) (a : α) (values : List Value) : Prop :=
  ∀ buffer, w.run buffer = (a, buffer ++ values)

namespace Pushes

theorem pure (a : α) : Pushes (Pure.pure a) a [] := fun buffer => by rw [List.append_nil]; rfl

theorem push (values : List Value) : Pushes (Buffered.push values) () values := fun _ => rfl

/-- Writers one after the other push their values one after the other. -/
theorem bind {w : Buffered α} {next : α → Buffered β} {a : α} {b : β} {values more : List Value}
    (h : w.Pushes a values) (hnext : (next a).Pushes b more) :
    (w >>= next).Pushes b (values ++ more) := by
  -- the buffer that the second one finds is the one that the first one leaves
  intro buffer
  rw [StateT.run_bind, h buffer]
  exact (hnext (buffer ++ values)).trans (by rw [List.append_assoc])

/-- What is worked out at last is worked out of the result, and pushes nothing. -/
theorem map {w : Buffered α} {f : α → β} {a : α} {values : List Value} (h : w.Pushes a values) :
    (do return f (← w)).Pushes (f a) values :=
  List.append_nil values ▸ h.bind (pure (f a))

/-- A list of writers, one for each item. Induction on the items, by `bind` at each of them. -/
theorem mapM {γ : Type} {write : γ → Buffered α} {f : γ → α} {values : γ → List Value}
    (h : ∀ x, (write x).Pushes (f x) (values x)) (xs : List γ) :
    (xs.mapM write).Pushes (xs.map f) (xs.flatMap values) := by
  induction xs with
  | nil => exact pure []
  | cons x rest ih =>
    rw [List.mapM_cons]
    exact (h x).bind ih.map

end Pushes

end Buffered

open Buffered (push Pushes)

/-! ## Conditions

A condition is written in two steps that do not depend on each other. The leaves push their values,
in the order in which they stand; and the texts of the leaves are put together, which pushes
nothing. So there are first the texts of fragments (`TextFragment`), with the lemmas that they are
those of the pieces, and then the writers. -/

/-- A fragment as text. Its values are in the buffer. -/
structure TextFragment where
  text : String
  compound : Bool

namespace TextFragment

/-- The text of a fragment as part of a conjunction. -/
def guarded (f : TextFragment) : String := if f.compound then s!"({f.text})" else f.text

/-- A conjunction of texts, as `Fragment.conjunction?` makes one of pieces. -/
def conjunction? : List TextFragment → Option TextFragment
  | [] => none
  | [f] => some f
  | fragments => some ⟨" AND ".intercalate (fragments.map guarded), true⟩

/-- Texts in parentheses, with a connective between them. -/
def between (connective : Connective) (fragments : List TextFragment) : String :=
  s!" {connective.token} ".intercalate (fragments.map fun f => s!"({f.text})")

def negation (fragments : List TextFragment) : TextFragment :=
  let inner :=
    match fragments with
    | [f] => f.text
    | fragments => between .and fragments
  ⟨s!"NOT ({inner})", false⟩

def group? (connective : Connective) (fragments : List TextFragment) : Option TextFragment :=
  if fragments.isEmpty then none
  else
    match connective with
    | .not => some (negation fragments)
    | connective => some ⟨between connective fragments, true⟩

end TextFragment

namespace Fragment

/-- The fragment without the values that its pieces carry. -/
def written (f : Fragment) : TextFragment := ⟨f.sql.text, f.compound⟩

theorem text_parenthesised (sql : Sql) : sql.parenthesised.text = s!"({sql.text})" := by
  simp [Sql.parenthesised, Sql.text_append, toString, String.append_assoc]

/-- Parentheses are put around the same fragments, whether the fragment is pieces or text. -/
theorem text_guarded (f : Fragment) : f.guarded.text = f.written.guarded := by
  rw [guarded, TextFragment.guarded, written]
  split
  · exact text_parenthesised f.sql
  · rfl

theorem text_between (connective : Connective) (fragments : List Fragment) :
    (between connective fragments).text =
      TextFragment.between connective (fragments.map written) := by
  rw [between, TextFragment.between, Sql.text_joined, List.map_map, List.map_map]
  exact congrArg _ (List.map_congr_left fun f _ => text_parenthesised f.sql)

/-- The text of a conjunction is the conjunction of the texts. The cases are those of the
definition: with no part there is nothing, one part stands alone, and more are guarded and joined.
-/
theorem written_conjunction? (fragments : List Fragment) :
    (conjunction? fragments).map written = TextFragment.conjunction? (fragments.map written) := by
  match fragments with
  | [] => rfl
  | [f] => rfl
  | f :: g :: rest =>
    have htext : (Sql.joined " AND " ((f :: g :: rest).map guarded)).text =
        " AND ".intercalate (((f :: g :: rest).map written).map TextFragment.guarded) := by
      rw [Sql.text_joined, List.map_map, List.map_map]
      exact congrArg _ (List.map_congr_left fun f _ => text_guarded f)
    exact congrArg (fun text => some (TextFragment.mk text true)) htext

theorem written_negation (fragments : List Fragment) :
    (negation fragments).written = TextFragment.negation (fragments.map written) := by
  -- whatever is negated, it is put in the same parentheses
  have hinner : ∀ inner : Sql, Sql.text (.text "NOT (" :: inner ++ [.text ")"]) =
      s!"NOT ({inner.text})" := by
    intro inner
    simp [Sql.text_append, toString, String.append_assoc]
  match fragments with
  | [] => rfl
  | [f] => exact congrArg (TextFragment.mk · false) (hinner f.sql)
  | f :: g :: rest =>
    refine congrArg (TextFragment.mk · false) ((hinner _).trans ?_)
    rw [text_between]
    rfl

theorem written_group? (connective : Connective) (fragments : List Fragment) :
    (group? connective fragments).map written =
      TextFragment.group? connective (fragments.map written) := by
  cases fragments with
  | nil => rfl
  | cons f rest =>
    cases connective with
    | not => exact congrArg some (written_negation (f :: rest))
    | _ =>
      exact congrArg (fun text => some (TextFragment.mk text true)) (text_between _ (f :: rest))

/-! ### One comparison -/

/-- A comparison, with the values of its operand pushed. It takes the cases in the order in which
`Fragment.comparison` takes them. -/
def writeComparison (field : String) (c : Comparison) : Operand → Buffered TextFragment
  | .oneOf [] => return ⟨"1 = 0", false⟩
  | .oneOf values => do
    push values
    let marks := ", ".intercalate (List.replicate values.length "?")
    return ⟨s!"{field} IN ({marks})", false⟩
  | .scalar value =>
    if value.isNull && c == .equal then return ⟨s!"{field} IS NULL", false⟩
    else if value.isNull && c.isInequality then return ⟨s!"{field} IS NOT NULL", false⟩
    else do
      push [value]
      return ⟨s!"{field} {c.token} ?", false⟩

/-- The values of a list stand between its parentheses, each as a mark. -/
theorem text_marks (values : List Value) :
    (Sql.joined ", " (values.map fun v => [.slot v])).text =
      ", ".intercalate (List.replicate values.length "?") := by
  rw [Sql.text_joined, List.map_map, ← List.map_const']
  exact congrArg _ (List.map_congr_left fun v _ => rfl)

theorem bindings_marks (values : List Value) :
    (Sql.joined ", " (values.map fun v => [.slot v])).bindings = values := by
  rw [bindings_joined, List.flatMap_map]
  exact List.flatMap_singleton' values

/-- A comparison is written as its pieces say, and pushes what they bind. -/
theorem pushes_writeComparison (field : String) (c : Comparison) (operand : Operand) :
    (writeComparison field c operand).Pushes (comparison field c operand).written
      (comparison field c operand).sql.bindings := by
  match operand with
  | .oneOf [] => exact .pure _
  | .oneOf (v :: values) =>
    have hwritten : (comparison field c (.oneOf (v :: values))).written =
        let marks := ", ".intercalate (List.replicate (v :: values).length "?")
        ⟨s!"{field} IN ({marks})", false⟩ := by
      dsimp only
      rw [← text_marks]
      simp [written, comparison, Sql.text_append, toString, String.append_assoc]
    -- the parentheses bind nothing
    have hbindings : (comparison field c (.oneOf (v :: values))).sql.bindings =
        (v :: values) ++ [] := by
      have hmarks := bindings_marks (v :: values)
      simp only [comparison, Sql.bindings_append]
      exact congrArg (· ++ []) hmarks
    rw [hwritten, hbindings]
    exact (Pushes.push (v :: values)).bind (.pure _)
  | .scalar value =>
    rw [writeComparison, comparison]
    split
    · rw [written, Sql.text_plain]
      exact .pure _
    · split
      · rw [written, Sql.text_plain]
        exact .pure _
      · have hwritten : (Fragment.mk [.text s!"{field} {c.token} ", .slot value] false).written =
            ⟨s!"{field} {c.token} ?", false⟩ := by
          simp [written, toString, String.append_assoc]
        rw [hwritten]
        exact (Pushes.push [value]).bind (.pure _)

end Fragment

/-! ### All conditions -/

namespace Condition

mutual

/-- The fragment of a condition, its leaves being written from left to right. -/
def write : Condition → Buffered (Option TextFragment)
  | .all children => return TextFragment.conjunction? (← writeAll children)
  | .group connective children => return TextFragment.group? connective (← writeAll children)
  | .compare field c operand => return some (← Fragment.writeComparison field c operand)
  | .raw sql values =>
    if Text.isBlankText sql then return none
    else do
      push values
      return some ⟨Text.trimmed sql, true⟩

/-- The fragments of conditions, one after the other. One that says nothing leaves no fragment. -/
def writeAll : List Condition → Buffered (List TextFragment)
  | [] => return []
  | c :: rest => do
    let fragment? ← write c
    return fragment?.toList ++ (← writeAll rest)

end

mutual

/-- Induction on the condition. A list of children is written before what is made of it, and pushes
all that is bound in it, so the connective has no part in the buffer. -/
theorem pushes_write : ∀ c : Condition,
    c.write.Pushes (c.fragment?.map Fragment.written) c.predicate.bindings
  | .all children => by
    rw [write, fragment?, Fragment.written_conjunction?, bindings_all, ← bindings_fragments]
    exact (pushes_writeAll children).map
  | .group connective children => by
    rw [write, fragment?, Fragment.written_group?, bindings_group, ← bindings_fragments]
    exact (pushes_writeAll children).map
  | .compare field c operand => by
    rw [write]
    exact (Fragment.pushes_writeComparison field c operand).map
  | .raw sql values => by
    rw [write, predicate, fragment?]
    split
    · exact .pure none
    · have hwritten : (Fragment.mk [.raw (Text.trimmed sql) values] true).written =
          ⟨Text.trimmed sql, true⟩ := by
        simp [Fragment.written]
      rw [Option.map_some, hwritten]
      exact (Pushes.push values).bind (.pure _)

/-- A child leaves one fragment or none, and binds what its predicate binds in either case. -/
theorem pushes_writeAll : ∀ children : List Condition,
    (writeAll children).Pushes ((fragments children).map Fragment.written)
      ((fragments children).flatMap fun f => f.sql.bindings)
  | [] => by
    rw [writeAll]
    exact .pure []
  | c :: rest => by
    -- one fragment or none, in a list
    have hwritten :
        c.fragment?.toList.map Fragment.written = (c.fragment?.map Fragment.written).toList := by
      cases c.fragment? <;> rfl
    have hbindings :
        (c.fragment?.toList.flatMap fun f => f.sql.bindings) = c.predicate.bindings := by
      rw [predicate]
      cases c.fragment? with
      | none => rfl
      | some f => exact List.append_nil _
    rw [writeAll, fragments, List.map_append, List.flatMap_append, hwritten, hbindings]
    exact (pushes_write c).bind (pushes_writeAll rest).map

end

/-- The text of the predicate; there is none for an empty condition. -/
def writePredicate (c : Condition) : Buffered String := do
  return ((← c.write).map TextFragment.text).getD ""

/-- A predicate is the text of the fragment, or no text. -/
theorem pushes_writePredicate (c : Condition) :
    c.writePredicate.Pushes c.predicate.text c.predicate.bindings := by
  have htext : ((c.fragment?.map Fragment.written).map TextFragment.text).getD "" =
      c.predicate.text := by
    rw [predicate]
    cases c.fragment? <;> rfl
  exact htext ▸ c.pushes_write.map

/-- The text so far with a clause for the condition, if there is any text of its predicate. -/
def writeClause (keyword : String) (c : Condition) (text : String) : Buffered String := do
  let predicate ← c.writePredicate
  return if predicate.isEmpty then text else text ++ s!" {keyword} {predicate}"

/-- The clause is left out if its predicate has no text. By `text_predicate_eq_empty_iff` this is so
just if the condition is empty, as `Condition.clause` has it. -/
theorem pushes_writeClause (keyword : String) (c : Condition) (text : String) :
    (c.writeClause keyword text).Pushes (text ++ (c.clause keyword).text)
    (c.clause keyword).bindings := by
  have hbindings : (c.clause keyword).bindings = c.predicate.bindings := by
    rw [clause, predicate]
    cases c.fragment? <;> rfl
  -- the predicate has no text just when the condition is empty, and then the clause is left out
  have htext :
    (if c.predicate.text.isEmpty then text else text ++ s!" {keyword} {c.predicate.text}") =
      text ++ (c.clause keyword).text := by
    rw [text_clause, clauseText]
    cases hempty : c.isEmpty with
    | true => simp [(text_predicate_eq_empty_iff c).mpr hempty]
    | false =>
      have hne : c.predicate.text ≠ "" := fun h => by
        simp [(text_predicate_eq_empty_iff c).mp h] at hempty
      simp [hne]
  rw [hbindings, ← htext]
  exact c.pushes_writePredicate.map

end Condition

/-! ## Statements

The clauses of a statement, with what stands between them. -/

namespace Statement

/-! ### Names and bounds

All parts of a statement that bind nothing. Each has one lemma for its text, and one that it binds
nothing. -/

def joinText (j : Join) : String :=
  let pairs := " AND ".intercalate (j.on.map fun (left, right) => s!"{left} = {right}")
  s!" {j.kind.token} {j.table}" ++ if j.on.isEmpty then "" else s!" ON {pairs}"

/-- A list of names behind its keyword; there is none if nothing is listed. -/
def listText (keyword : String) (items : List String) : String :=
  let listed := ", ".intercalate items
  if items.isEmpty then "" else s!" {keyword} {listed}"

/-- A number behind its keyword, if there is a number. -/
def boundText (keyword : String) (bound? : Option Nat) : String :=
  (bound?.map fun n => s!" {keyword} {n}").getD ""

/-- What comes behind the groups: the order, and which part of the rows is wanted. -/
def windowText (q : Query) : String :=
  listText "ORDER BY" (q.order.map fun (column, direction) => s!"{column} {direction.token}")
    ++ boundText "LIMIT" q.limit? ++ boundText "OFFSET" q.offset?

section Names

variable {α : Type}

theorem text_names (separator : String) (make : α → String) (items : List α) :
    (Sql.joined separator (items.map fun item => Sql.plain (make item))).text =
      separator.intercalate (items.map make) := by
  rw [Sql.text_joined, List.map_map]
  exact congrArg _ (List.map_congr_left fun item _ => Sql.text_plain (make item))

theorem bindings_names (separator : String) (make : α → String) (items : List α) :
    (Sql.joined separator (items.map fun item => Sql.plain (make item))).bindings = [] := by
  rw [Fragment.bindings_joined, List.flatMap_map]
  exact List.flatMap_eq_nil_iff.mpr fun _ _ => rfl

end Names

theorem text_plains (separator : String) (items : List String) :
    (Sql.joined separator (items.map Sql.plain)).text = separator.intercalate items :=
  (text_names separator id items).trans (by rw [List.map_id])

theorem bindings_plains (separator : String) (items : List String) :
    (Sql.joined separator (items.map Sql.plain)).bindings = [] :=
  bindings_names separator id items

/-- Joins, lists and bounds are made of names and numbers, so each of them has its text and binds
nothing. -/
theorem text_joinClause (j : Join) : (joinClause j).text = joinText j := by
  rw [joinClause, joinText, Sql.text_cons_text, List.isEmpty_map]
  split
  · rfl
  · rw [Sql.text_cons_text, text_names]
    rfl

theorem bindings_joinClause (j : Join) : (joinClause j).bindings = [] := by
  rw [joinClause, List.isEmpty_map]
  split
  · rfl
  · exact bindings_names _ _ _

theorem text_listClause (keyword : String) (items : List String) :
    (listClause keyword items).text = listText keyword items := by
  rw [listClause, listText]
  split
  · rfl
  · rw [Sql.text_cons_text, text_plains]
    simp [toString, String.append_assoc]

theorem bindings_listClause (keyword : String) (items : List String) :
    (listClause keyword items).bindings = [] := by
  rw [listClause]
  split
  · rfl
  · exact bindings_plains ", " items

theorem text_boundClause (keyword : String) (bound? : Option Nat) :
    (boundClause keyword bound?).text = boundText keyword bound? := by
  cases bound? with
  | none => rfl
  | some n => exact Sql.text_plain _

theorem bindings_boundClause (keyword : String) (bound? : Option Nat) :
    (boundClause keyword bound?).bindings = [] := by
  cases bound? <;> rfl

theorem text_windowClauses (q : Query) : (windowClauses q).text = windowText q := by
  rw [windowClauses, windowText, Sql.text_append, Sql.text_append, text_listClause,
    text_boundClause, text_boundClause]

theorem bindings_windowClauses (q : Query) : (windowClauses q).bindings = [] := by
  rw [windowClauses, Sql.bindings_append, Sql.bindings_append, bindings_listClause,
    bindings_boundClause, bindings_boundClause, List.append_nil, List.append_nil]

/-! ### Writing

Each form of a statement has its writer. What one of them pushes is what its clauses push, in the
order of the clauses. -/

/-- The mark of a value, which is pushed; a null is written out and not pushed. -/
def writeValue (v : Value) : Buffered String :=
  if v.isNull then return "NULL"
  else do
    push [v]
    return "?"

/-- The mark of a value, with the value behind it in the buffer. -/
theorem pushes_writeValue (v : Value) :
    (writeValue v).Pushes (valueSlot v).text (valueSlot v).bindings := by
  rw [writeValue, valueSlot]
  split
  · exact .pure "NULL"
  · exact (Pushes.push [v]).bind (.pure "?")

/-- A read from behind its table on. The conditions push their values before the groups are written,
and what is asked of the groups pushes its values after that. -/
def writeSource (q : Query) (text : String) : Buffered String := do
  let text := q.joins.foldl (fun text j => text ++ joinText j) text
  let text ← q.conditions.writeClause "WHERE" text
  q.having.writeClause "HAVING" (text ++ listText "GROUP BY" q.groups)

/-- A statement, written from its first word to the last. -/
def write : Statement → Buffered String
  | .select table q => do
    let columns := if q.columns.isEmpty then "*" else ", ".intercalate q.columns
    let select := if q.isDistinct then "SELECT DISTINCT " else "SELECT "
    return (← writeSource q s!"{select}{columns} FROM {table}") ++ windowText q
  | .count table q => writeSource q s!"SELECT COUNT(*) AS count FROM {table}"
  | .insert table fields =>
    if fields.isEmpty then return s!"INSERT INTO {table} DEFAULT VALUES"
    else do
      let columns := ", ".intercalate fields.keys
      let slots := ", ".intercalate (← fields.entries.mapM fun (_, v) => writeValue v)
      return s!"INSERT INTO {table} ({columns}) VALUES ({slots})"
  | .update table fields conditions => do
    -- the assignments push their values before the conditions do
    let assignments ← fields.entries.mapM fun (column, v) => do
      let slot ← writeValue v
      return s!"{column} = {slot}"
    let assignments := ", ".intercalate assignments
    conditions.writeClause "WHERE" s!"UPDATE {table} SET {assignments}"
  | .delete table conditions => conditions.writeClause "WHERE" s!"DELETE FROM {table}"
  | .raw sql values => do
    push values
    return sql

/-- Joins are appended to a text one after the other. -/
theorem text_joins (joins : List Join) (text : String) :
    joins.foldl (fun text j => text ++ joinText j) text =
      text ++ Sql.text (joins.flatMap joinClause) := by
  induction joins generalizing text with
  | nil => exact String.append_empty.symm
  | cons j rest ih =>
    rw [List.foldl_cons, ih, List.flatMap_cons, Sql.text_append, text_joinClause,
      String.append_assoc]

theorem bindings_joins (joins : List Join) : Sql.bindings (joins.flatMap joinClause) = [] := by
  rw [Sql.bindings, List.flatMap_assoc]
  exact List.flatMap_eq_nil_iff.mpr fun j _ => bindings_joinClause j

/-- Two conditions push values here, and between them only names are written. -/
theorem pushes_writeSource (q : Query) (text : String) :
    (writeSource q text).Pushes (text ++ (sourceClauses q).text) (sourceClauses q).bindings := by
  have hbindings : (sourceClauses q).bindings =
      (q.conditions.clause "WHERE").bindings ++ (q.having.clause "HAVING").bindings := by
    simp only [sourceClauses, Sql.bindings_append, bindings_joins, bindings_listClause,
      List.nil_append, List.append_nil]
  have htext : text ++ (sourceClauses q).text =
      text ++ Sql.text (q.joins.flatMap joinClause) ++ (q.conditions.clause "WHERE").text
        ++ listText "GROUP BY" q.groups ++ (q.having.clause "HAVING").text := by
    simp only [sourceClauses, Sql.text_append, text_listClause, String.append_assoc]
  -- what is written between the two clauses is the head of the second one
  rw [hbindings, htext, writeSource, text_joins]
  exact (q.conditions.pushes_writeClause "WHERE" _).bind (q.having.pushes_writeClause "HAVING" _)

/-- The columns come before the rest and the window behind it, and neither of them binds anything.
-/
theorem pushes_select (table : String) (q : Query) :
    (select table q).write.Pushes (select table q).text (select table q).bindings := by
  have hcolumns : (selectList q).text = if q.columns.isEmpty then "*"
      else ", ".intercalate q.columns := by
    rw [selectList]
    split
    · rfl
    · exact text_plains ", " q.columns
  have hselected : (selectList q).bindings = [] := by
    rw [selectList]
    split
    · rfl
    · exact bindings_plains ", " q.columns
  -- the head is written before its columns are known to bind nothing
  have htext : ∀ head : String, Sql.text (.text head :: selectList q ++ .text s!" FROM {table}" ::
      sourceClauses q ++ windowClauses q) =
        s!"{head}{(selectList q).text} FROM {table}" ++ (sourceClauses q).text ++ windowText q := by
    intro head
    simp [Sql.text_append, text_windowClauses, toString, String.append_assoc]
  have hbindings : (select table q).bindings = (sourceClauses q).bindings := by
    rw [bindings, sql, Sql.bindings_append, bindings_windowClauses, List.append_nil,
      Sql.bindings_append]
    exact congrArg (· ++ (sourceClauses q).bindings) hselected
  rw [hbindings, text, sql, htext, hcolumns]
  exact (pushes_writeSource q _).map

/-- The columns of an insert are written as they are, and its values slot by slot. -/
theorem text_insert {table : String} {fields : Fields} (hne : fields.isEmpty = false) :
    (insert table fields).text =
      let columns := ", ".intercalate fields.keys
      let slots := ", ".intercalate (fields.entries.map fun (_, v) => (valueSlot v).text)
      s!"INSERT INTO {table} ({columns}) VALUES ({slots})" := by
  have hnames : (nameList fields).text = ", ".intercalate fields.keys :=
    text_plains ", " fields.keys
  have hslots : (slotList fields).text =
      ", ".intercalate (fields.entries.map fun (_, v) => (valueSlot v).text) := by
    rw [slotList, Sql.text_joined, List.map_map]
    rfl
  rw [text, sql_insert hne]
  simp [Sql.text_append, hnames, hslots, toString, String.append_assoc]

/-- Only the slots push anything, and each of them what it stands for. -/
theorem pushes_insert (table : String) (fields : Fields) :
    (insert table fields).write.Pushes (insert table fields).text
      (insert table fields).bindings := by
  rw [write]
  split
  next hempty =>
    have hplain : (insert table fields).sql = Sql.plain s!"INSERT INTO {table} DEFAULT VALUES" :=
      if_pos hempty
    rw [text, bindings, hplain, Sql.text_plain]
    exact .pure _
  next hempty =>
    have hne : fields.isEmpty = false := by simpa using hempty
    rw [text_insert hne, bindings_insert hne]
    exact (Pushes.mapM (fun entry => pushes_writeValue entry.2) fields.entries).map

/-- The assignments are written entry by entry and push their values, and the clause pushes its own
behind them. -/
theorem pushes_update (table : String) (fields : Fields) (conditions : Condition) :
    (update table fields conditions).write.Pushes (update table fields conditions).text
      (update table fields conditions).bindings := by
  -- a single assignment, as text and as pieces
  have hassign : ∀ entry : String × Value, (do
      let slot ← writeValue entry.2
      return s!"{entry.1} = {slot}" : Buffered String).Pushes
        (Sql.text (.text s!"{entry.1} = " :: valueSlot entry.2)) (valueSlot entry.2).bindings := by
    intro entry
    rw [Sql.text_cons_text]
    exact (pushes_writeValue entry.2).map
  have hset := Pushes.mapM hassign fields.entries
  have htext : (setList fields).text = ", ".intercalate (fields.entries.map fun entry =>
      Sql.text (.text s!"{entry.1} = " :: valueSlot entry.2)) := by
    rw [setList, Sql.text_joined, List.map_map]
    rfl
  have hbindings : (setList fields).bindings = fields.entries.flatMap fun entry =>
      (valueSlot entry.2).bindings := by
    rw [setList, Fragment.bindings_joined, List.flatMap_map]
    rfl
  have hhead : ∀ assignments : String, s!"UPDATE {table} SET {assignments}" =
      s!"UPDATE {table} SET " ++ assignments := by
    intro assignments
    simp [toString, String.append_assoc]
  rw [text, bindings, sql_update, Sql.bindings_append, Sql.text_append, Sql.text_cons_text,
    htext, ← hhead]
  rw [← hbindings] at hset
  exact hset.bind (conditions.pushes_writeClause "WHERE" _)

/-- Each statement, by the lemma for its form. -/
theorem pushes_write (s : Statement) : s.write.Pushes s.text s.bindings := by
  cases s with
  | select table q => exact pushes_select table q
  | count table q =>
    have h := pushes_writeSource q s!"SELECT COUNT(*) AS count FROM {table}"
    rwa [← Sql.text_cons_text] at h
  | insert table fields => exact pushes_insert table fields
  | update table fields conditions => exact pushes_update table fields conditions
  | delete table conditions =>
    have h := conditions.pushes_writeClause "WHERE" s!"DELETE FROM {table}"
    rwa [← Sql.text_cons_text] at h
  | raw sql values =>
    have hsql : (raw sql values).text = sql := (Sql.text_cons_raw sql values []).trans (by simp)
    rw [hsql]
    exact (Pushes.push values).bind (.pure sql)

end Statement

end EntityMapper
