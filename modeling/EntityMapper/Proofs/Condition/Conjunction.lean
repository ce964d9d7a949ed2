import EntityMapper.Proofs.Condition.Meaning

/-!
# Two conditions at once

What `andAlso` makes of two conditions, each of which may restrict nothing. An unwritten conjunction
that takes part in one is taken apart, so the fragments of the parts change places with the
fragments of their parts; neither the meaning nor the bound values notice.

## Structure

* `restriction` — whether a row passes a condition, with the empty one passed by every row. This is
  the meaning in which `andAlso` is a conjunction without exception (`restriction_andAlso`).
* `fragments_andAlso` — what is written for two conditions: the fragments of the conjuncts of both.
  From it follow the bindings (`bindings_andAlso`).
* `Readable.andAlso`, `RawsBound.andAlso` — what is asked of leaves is kept, since the leaves of two
  conditions are those of the one and of the other.
* `exists_ofText_andAlso` — the same meaning, read off the text.
-/

namespace EntityMapper

namespace Truth

/-- `yes` is neutral for `Truth.and` on the left, as it is on the right. -/
theorem yes_and (a : Truth) : yes.and a = a := by cases a <;> rfl

/-- A conjunction is true just when both parts are; an unknown part makes it unknown or false. -/
theorem and_eq_yes {a b : Truth} : a.and b = yes ↔ a = yes ∧ b = yes := by
  cases a <;> cases b <;> decide

/-- By cases: three values in three places. -/
theorem and_assoc (a b c : Truth) : (a.and b).and c = a.and (b.and c) := by
  cases a <;> cases b <;> cases c <;> rfl

/-- The conjunction of two lists at once. Induction on the first one. -/
theorem all_append (l m : List Truth) : all (l ++ m) = (all l).and (all m) := by
  induction l with
  | nil => exact (yes_and (all m)).symm
  | cons a l ih =>
    show a.and (all (l ++ m)) = (a.and (all l)).and (all m)
    rw [ih, and_assoc]

end Truth

namespace Condition

open Reading

/-! ## Meaning

`restriction` extends `truth` to conditions that restrict nothing, which `andAlso` leaves out. -/

/-- Whether a row passes a condition. Every row passes one that restricts nothing. -/
def restriction (row : Atom → Truth) (c : Condition) : Truth :=
  if c.isEmpty then .yes else c.truth row

/-- A condition that restricts something is passed by its `truth`. -/
theorem restriction_of_ne {c : Condition} (hne : c.isEmpty = false) (row : Atom → Truth) :
    c.restriction row = c.truth row := by
  rw [restriction, if_neg (by simp [hne])]

/-- An empty condition is passed by every row. -/
theorem restriction_of_isEmpty {c : Condition} (h : c.isEmpty = true) (row : Atom → Truth) :
    c.restriction row = .yes := by
  rw [restriction, if_pos h]

/-- The truths of children, of which the empty ones are skipped. Induction on the first list. -/
theorem truths_append (row : Atom → Truth) (a b : List Condition) :
    truths row (a ++ b) = truths row a ++ truths row b := by
  induction a with
  | nil => rfl
  | cons c a ih =>
    rw [List.cons_append, truths, truths]
    split
    · exact ih
    · rw [ih, List.cons_append]

/-- Children that are all empty contribute no truth. -/
theorem truths_eq_nil {children : List Condition} (h : areEmpty children = true)
    (row : Atom → Truth) :
    truths row children = [] := by
  induction children with
  | nil => rfl
  | cons c rest ih =>
    rw [areEmpty, Bool.and_eq_true] at h
    rw [truths, if_pos h.1, ih h.2]

/-- Taken apart into its conjuncts, a condition says the same as before. Only an unwritten
conjunction is really taken apart; any other condition is its own conjunct, and then `truths` has
one entry at most. -/
theorem all_truths_conjuncts (row : Atom → Truth) (c : Condition) :
    Truth.all (truths row c.conjuncts) = c.restriction row := by
  -- all but an unwritten conjunction are their own conjuncts
  have hsingle : ∀ d : Condition, Truth.all (truths row [d]) = d.restriction row := by
    intro d
    rw [truths, truths, restriction]
    split
    · rfl
    · exact Truth.and_yes _
  cases c with
  | all children =>
    rw [restriction]
    split
    next hempty => rw [conjuncts, truths_eq_nil hempty]; rfl
    next => rfl
  | group k children => exact hsingle _
  | compare field comparison operand => exact hsingle _
  | raw sql values => exact hsingle _

/-- A row passes both conditions at once just when it passes each of them. The three cases are those
of `andAlso`: one of the conditions disappears, or the conjuncts of both are put side by side. -/
theorem restriction_andAlso (row : Atom → Truth) (a b : Condition) :
    (a.andAlso b).restriction row = (a.restriction row).and (b.restriction row) := by
  unfold andAlso
  split
  next hb => rw [restriction_of_isEmpty hb, Truth.and_yes]
  next hb =>
    split
    next ha => rw [restriction_of_isEmpty ha, Truth.yes_and]
    next ha =>
      rw [← all_truths_conjuncts row (.all (a.conjuncts ++ b.conjuncts)), conjuncts, truths_append,
        Truth.all_append, all_truths_conjuncts, all_truths_conjuncts]

/-- With something on the left, there is something in both. -/
theorem isEmpty_andAlso_left {a : Condition} (ha : a.isEmpty = false) (b : Condition) :
    (a.andAlso b).isEmpty = false := by
  -- `isEmpty_andAlso` says when both are empty
  rw [isEmpty_andAlso, ha, Bool.false_and]

/-! ## Fragments of conjuncts

What is written for a condition depends on `fragments c.conjuncts` alone
(`fragment?_eq_conjunction?`), and of these `andAlso` makes one list (`fragments_andAlso`). -/

/-- Lists of conditions are written one after the other. Induction on the first one. -/
theorem fragments_append (a b : List Condition) :
    fragments (a ++ b) = fragments a ++ fragments b := by
  induction a with
  | nil => rfl
  | cons c a ih => rw [List.cons_append, fragments, fragments, ih, List.append_assoc]

/-- A conjunction of one condition is written as the condition. -/
theorem fragment?_all_singleton (c : Condition) : fragment? (.all [c]) = c.fragment? := by
  rw [fragment?, fragments, fragments, List.append_nil]
  cases c.fragment? <;> rfl

/-- Every condition is written as the conjunction of its conjuncts, so `andAlso` can be followed
through `fragments` alone. -/
theorem fragment?_eq_conjunction? (c : Condition) :
    c.fragment? = Fragment.conjunction? (fragments c.conjuncts) := by
  cases c with
  | all children => rfl
  | group k children => exact (fragment?_all_singleton _).symm
  | compare field comparison operand => exact (fragment?_all_singleton _).symm
  | raw sql values => exact (fragment?_all_singleton _).symm

/-- Nothing is written for the conjuncts of an empty condition (`fragment?_eq_none_iff`). -/
theorem fragments_conjuncts_of_isEmpty {c : Condition} (h : c.isEmpty = true) :
    fragments c.conjuncts = [] := by
  rw [← Fragment.conjunction?_eq_none_iff, ← fragment?_eq_conjunction?]
  exact (fragment?_eq_none_iff c).mpr h

/-- Whatever is left out or taken apart, the conjuncts of both conditions are written one after the
other. -/
theorem fragments_andAlso (a b : Condition) :
    fragments (a.andAlso b).conjuncts = fragments a.conjuncts ++ fragments b.conjuncts := by
  unfold andAlso
  split
  next hb => rw [fragments_conjuncts_of_isEmpty hb, List.append_nil]
  next =>
    split
    next ha => rw [fragments_conjuncts_of_isEmpty ha, List.nil_append]
    next => exact fragments_append a.conjuncts b.conjuncts

end Condition

/-! ## Bound values

Text that is put around or between fragments binds nothing, so at each step the values are those of
the parts in their order. -/

namespace Fragment

theorem bindings_guarded (f : Fragment) : f.guarded.bindings = f.sql.bindings := by
  rw [guarded]
  split
  · simp [Sql.parenthesised, Sql.bindings, Sql.Piece.bindings]
  · rfl

/-- A separator binds nothing: joined parts bind what the parts bind, in their order. Induction on
the parts, as in `joined_cons_cons`. -/
theorem bindings_joined (separator : String) (parts : List Sql) :
    (Sql.joined separator parts).bindings = parts.flatMap Sql.bindings := by
  induction parts with
  | nil => rfl
  | cons part rest ih =>
    cases rest with
    | nil => simp
    | cons next rest =>
      rw [Sql.joined_cons_cons, Sql.bindings_append, List.flatMap_cons, ← ih]
      rfl

/-- An unwritten conjunction binds what its parts bind. -/
theorem bindings_conjunction? (fragments : List Fragment) :
    Sql.bindings (((conjunction? fragments).map sql).getD []) =
      fragments.flatMap fun f => f.sql.bindings := by
  match fragments with
  | [] => rfl
  | [f] => simp [conjunction?]
  | f :: g :: rest =>
    show (Sql.joined " AND " ((f :: g :: rest).map guarded)).bindings = _
    rw [bindings_joined, List.flatMap_map]
    exact List.flatMap_congr fun h _ => bindings_guarded h

/-- Parts with a connective between them bind what the parts bind. -/
theorem bindings_between (connective : Connective) (fragments : List Fragment) :
    (between connective fragments).bindings = fragments.flatMap fun f => f.sql.bindings := by
  rw [between, bindings_joined, List.flatMap_map]
  apply List.flatMap_congr
  intro f _
  simp [Sql.parenthesised, Sql.bindings, Sql.Piece.bindings]

/-- A group binds what its parts bind, whether it is a negation, which has at most one more pair of
parentheses, or not. -/
theorem bindings_group? (connective : Connective) (fragments : List Fragment) :
    Sql.bindings (((group? connective fragments).map sql).getD []) =
      fragments.flatMap fun f => f.sql.bindings := by
  have hnegation : (negation fragments).sql.bindings = fragments.flatMap fun f =>
      f.sql.bindings := by
    -- the words around a negation bind nothing
    have hinner : ∀ inner : Sql, Sql.bindings (.text "NOT (" :: inner ++ [.text ")"]) =
        inner.bindings := by
      intro inner
      simp [Sql.bindings, Sql.Piece.bindings]
    -- without parts there are no values, and a single part stands as it is
    match fragments with
    | [] => rfl
    | [f] => exact (hinner f.sql).trans (by simp)
    | f :: g :: rest => exact (hinner _).trans (bindings_between .and _)
  unfold group?
  cases fragments with
  | nil => rfl
  | cons f rest =>
    cases connective with
    | not => exact hnegation
    | _ => exact bindings_between _ (f :: rest)

end Fragment

namespace Condition

/-- The values of a predicate, told by the fragments of its conjuncts. -/
theorem bindings_predicate (c : Condition) :
    c.predicate.bindings = (fragments c.conjuncts).flatMap fun f => f.sql.bindings := by
  rw [predicate, fragment?_eq_conjunction?, Fragment.bindings_conjunction?]

/-- The values of children, told by their fragments or by their predicates. -/
theorem bindings_fragments (children : List Condition) :
    ((fragments children).flatMap fun f => f.sql.bindings) = children.flatMap fun c =>
      c.predicate.bindings := by
  induction children with
  | nil => rfl
  | cons c rest ih =>
    rw [fragments, List.flatMap_append, ih, List.flatMap_cons, predicate]
    cases c.fragment? with
    | none => rfl
    | some f => simp

/-- The values of a group are those of its parts, in their order. -/
theorem bindings_group (connective : Connective) (children : List Condition) :
    (group connective children).predicate.bindings = children.flatMap fun c =>
      c.predicate.bindings := by
  rw [← bindings_fragments, ← Fragment.bindings_group? connective]
  rfl

/-- The values of an unwritten conjunction are those of its parts, in their order. -/
theorem bindings_all (children : List Condition) :
    (all children).predicate.bindings = children.flatMap fun c => c.predicate.bindings := by
  rw [bindings_predicate, conjuncts, bindings_fragments]

/-- The values of two conditions at once are those of the first and then those of the second. -/
theorem bindings_andAlso (a b : Condition) :
    (a.andAlso b).predicate.bindings = a.predicate.bindings ++ b.predicate.bindings := by
  rw [bindings_predicate, fragments_andAlso, List.flatMap_append, ← bindings_predicate,
    ← bindings_predicate]

/-! ## Reading

The leaves of both conditions are the leaves of the two. What makes a condition readable is asked of
its leaves, so both conditions at once are read like any other condition (`exists_means`). -/

open Reading

theorem leavesOf_append (a b : List Condition) : leavesOf (a ++ b) = leavesOf a ++ leavesOf b := by
  induction a with
  | nil => rfl
  | cons c a ih => rw [List.cons_append, leavesOf, leavesOf, ih, List.append_assoc]

/-- A condition and its conjuncts have the same leaves. -/
theorem leavesOf_conjuncts (c : Condition) : leavesOf c.conjuncts = c.leaves := by
  cases c <;> simp [conjuncts, leavesOf, leaves]

/-- Each leaf of both conditions at once belongs to one of them. -/
theorem mem_leaves_andAlso {a b leaf : Condition} (h : leaf ∈ (a.andAlso b).leaves) :
    leaf ∈ a.leaves ∨ leaf ∈ b.leaves := by
  unfold andAlso at h
  split at h
  next => exact .inl h
  next =>
    split at h
    next => exact .inr h
    next =>
      rw [leaves, leavesOf_append, leavesOf_conjuncts, leavesOf_conjuncts] at h
      exact List.mem_append.mp h

/-- What `Readable` asks of the leaves, it asks of the leaves of the parts. -/
theorem Readable.andAlso {a b : Condition} (ha : a.Readable) (hb : b.Readable) :
    (a.andAlso b).Readable where
  columns field comparison operand h :=
    (mem_leaves_andAlso h).elim (ha.columns field comparison operand)
      (hb.columns field comparison operand)
  raws sql values h := (mem_leaves_andAlso h).elim (ha.raws sql values) (hb.raws sql values)

theorem RawsBound.andAlso {a b : Condition} (ha : a.RawsBound) (hb : b.RawsBound) :
    (a.andAlso b).RawsBound :=
  fun sql values h => (mem_leaves_andAlso h).elim (ha sql values) (hb sql values)

/-- Comparing a column with a value is readable. There is one leaf, and it is no ready-made SQL. -/
theorem readable_equals {column : String} (h : isColumn column = true) (value : Value) :
    (equals column value).Readable where
  columns field comparison operand hleaf := by
    cases List.mem_singleton.mp hleaf
    exact h
  raws sql values hleaf := by cases List.mem_singleton.mp hleaf

/-- Such a comparison has no ready-made SQL that would have to bring values. -/
theorem rawsBound_equals (column : String) (value : Value) : (equals column value).RawsBound := by
  intro sql values hleaf
  cases List.mem_singleton.mp hleaf

/-- The clause of a condition that restricts something: the keyword and the predicate. -/
theorem clause_of_ne {c : Condition} (hne : c.isEmpty = false) (keyword : String) :
    c.clause keyword = .text s!" {keyword} " :: c.predicate := by
  cases hf : c.fragment? with
  | none => rw [(fragment?_eq_none_iff c).mp hf] at hne; exact Bool.noConfusion hne
  | some f => rw [clause, predicate, hf]; rfl

/-- The predicate of two conditions at once, of which the first restricts something, is read as
their conjunction: no connective of the second reaches into the first, however its SQL was made
ready. -/
theorem exists_ofText_andAlso {a b : Condition} (hne : a.isEmpty = false) (ha : a.Readable)
    (hb : b.Readable) :
    ∃ g, Formula.ofText (a.andAlso b).predicate.text.toList (a.andAlso b).predicate.holders = some g
      ∧ ∀ row, g.truth row = (a.truth row).and (b.restriction row) := by
  have hboth : (a.andAlso b).isEmpty = false := isEmpty_andAlso_left hne b
  obtain ⟨f, es, g, hf, hmeans, htruth⟩ := exists_means (a.andAlso b) hboth (ha.andAlso hb)
  refine ⟨g, ofText_predicate hf hmeans, fun row => ?_⟩
  rw [htruth row, ← restriction_of_ne hboth, restriction_andAlso, restriction_of_ne hne]

end Condition

end EntityMapper
