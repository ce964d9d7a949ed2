import EntityMapper.Proofs.Condition.Conjunction

/-!
# Conjunction as a monoid

Conditions are joined one after the other while a query is built, so it must not matter how the
joins are bracketed, nor whether some of what is joined restricts nothing. Both are read off the
conjuncts: joined conditions have the fragments of the first conjuncts and then those of the second
(`fragments_andAlso`), and an empty condition has none.

The main statement is `andAlso_monoid`. What conditions mean is taken there from the text alone: the
text of two joined conditions says that what their texts say by themselves holds at once. This needs
every comparison to stand on its own in a text, and names are written as they are given, so a name
that brings an `OR` along breaks it (`loose_columns_reach_out`).

## Structure

* `andAlso_assoc` — the brackets do not matter, not even for the tree.
* `predicate_congr` — conditions with the same fragments of conjuncts have the same predicate, so a
  part that has none may be left out.
* `Legible` — each fragment of a condition can be read by itself. It is what the law of meaning
  needs, and less than `Readable`.
* `said?_andAlso` — the law of meaning: what two texts say is said by the text of both.
-/

namespace EntityMapper

open Reading

namespace Fragment

/-- Fragments that mean something one by one, with what each of them means in a list. -/
theorem exists_allMean {fragments : List Fragment} (h : ∀ f ∈ fragments, ∃ es g, f.Means es g) :
    ∃ parts, AllMean fragments parts := by
  induction fragments with
  | nil => exact ⟨[], .nil⟩
  | cons f rest ih =>
    obtain ⟨⟨es, g, hmeans⟩, hrest⟩ := List.forall_mem_cons.mp h
    obtain ⟨parts, hparts⟩ := ih hrest
    exact ⟨(es, g) :: parts, .cons hmeans hparts⟩

/-- If something was made of fragments by `make`, which makes nothing of nothing, there are
fragments. -/
theorem ne_nil_of_allMean (make : List Fragment → Option Fragment) (hnil : make [] = none)
    {f : Fragment} {fragments : List Fragment} {parts : List (List Element × Formula)}
    (hf : make fragments = some f)
    (h : AllMean fragments parts) : parts ≠ [] := by
  rintro rfl
  rw [List.forall₂_nil_right_iff.mp h, hnil] at hf
  exact nomatch hf

/-- Whatever is put together of fragments that can be read can be read. -/
theorem stable_means : Stable fun f => ∃ es g, f.Means es g where
  conjunction h hf := by
    obtain ⟨parts, hparts⟩ := exists_allMean h
    have hne := ne_nil_of_allMean conjunction? rfl hf hparts
    obtain ⟨f', es, g, hf', hmeans, -⟩ := exists_means_conjunction hne hparts
    obtain rfl := Option.some.inj (hf'.symm.trans hf)
    exact ⟨es, g, hmeans⟩
  group {k} _ _ h hf := by
    obtain ⟨parts, hparts⟩ := exists_allMean h
    have hne := ne_nil_of_allMean (group? k) rfl hf hparts
    obtain ⟨f', es, g, hf', hmeans, -⟩ := exists_means_group hne hparts
    obtain rfl := Option.some.inj (hf'.symm.trans hf)
    exact ⟨es, g, hmeans⟩

end Fragment

namespace Condition

/-- A predicate depends on the fragments of the conjuncts alone. -/
theorem predicate_congr {c d : Condition} (h : fragments c.conjuncts = fragments d.conjuncts) :
    c.predicate = d.predicate := by
  rw [predicate, predicate, fragment?_eq_conjunction?, fragment?_eq_conjunction?, h]

/-! ## Brackets

The monoid itself, on the side of conditions. `andAlso` puts the conjuncts of two conditions side by
side unless one of them is empty. -/

/-- Where both conditions restrict something, their conjuncts are put side by side. -/
theorem andAlso_of_ne {a b : Condition} (ha : a.isEmpty = false) (hb : b.isEmpty = false) :
    a.andAlso b = .all (a.conjuncts ++ b.conjuncts) := by
  rw [andAlso, if_neg (by simp [hb]), if_neg (by simp [ha])]

/-- An empty condition on the right disappears. -/
theorem andAlso_of_isEmpty {a b : Condition} (hb : b.isEmpty = true) : a.andAlso b = a := if_pos hb

theorem of_isEmpty_andAlso {a b : Condition} (ha : a.isEmpty = true) (hb : b.isEmpty = false) :
    a.andAlso b = b := by
  rw [andAlso, if_neg (by simp [hb]), if_pos ha]

/-- Brackets do not matter. By cases on which of the three are empty; if none is, both sides are the
conjuncts of all three in their order. -/
theorem andAlso_assoc (a b c : Condition) : (a.andAlso b).andAlso c = a.andAlso (b.andAlso c) := by
  cases hc : c.isEmpty with
  | true => rw [andAlso_of_isEmpty hc, andAlso_of_isEmpty hc]
  | false =>
    have hbc : (b.andAlso c).isEmpty = false := by rw [isEmpty_andAlso, hc, Bool.and_false]
    cases hb : b.isEmpty with
    | true => rw [andAlso_of_isEmpty hb, of_isEmpty_andAlso hb hc]
    | false =>
      cases ha : a.isEmpty with
      | true => rw [of_isEmpty_andAlso ha hb, of_isEmpty_andAlso ha hbc]
      | false =>
        -- nothing disappears, and the conjuncts are appended either way
        have hab : (a.andAlso b).isEmpty = false := isEmpty_andAlso_left ha b
        rw [andAlso_of_ne hab hc, andAlso_of_ne ha hbc, andAlso_of_ne ha hb, andAlso_of_ne hb hc]
        simp only [conjuncts, List.append_assoc]

/-! ## What predicates say

The truth of a condition is taken from its text here. `said?` is what a reader makes of the
predicate, and `Legible` says of the leaves that they have a meaning by themselves, which `Readable`
provides. -/

/-- Each leaf can be read by itself, and no connective reaches into a comparison. -/
def Legible (c : Condition) : Prop :=
  ∀ leaf ∈ c.leaves, ∀ f, leaf.fragment? = some f → ∃ es g, f.Means es g

/-- The comparisons of columns, and ready-made predicates, can be read by themselves. -/
theorem Readable.legible {c : Condition} (h : c.Readable) : c.Legible := by
  intro leaf hleaf f hf
  rcases leaf_cases hleaf with ⟨field, comparison, operand, rfl⟩ | ⟨sql, values, rfl⟩
  · obtain rfl := Option.some.inj hf
    have hcolumn := h.columns field comparison operand hleaf
    obtain ⟨es, hmeans, -⟩ := Fragment.exists_means_comparison hcolumn comparison operand
    exact ⟨es, _, hmeans⟩
  · obtain ⟨hblank, rfl⟩ := fragment?_raw_eq_some hf
    obtain ⟨g, hg⟩ := Option.isSome_iff_exists.mp (h.raws sql values hleaf hblank)
    obtain ⟨es, hmeans⟩ := Fragment.exists_means_raw hg
    exact ⟨es, g, hmeans⟩

/-- The fragments of conjuncts can be read one by one. -/
theorem exists_allMean_of_legible {c : Condition} (hc : c.Legible) :
    ∃ parts, Fragment.AllMean (fragments c.conjuncts) parts := by
  apply Fragment.exists_allMean
  apply fragments_of_stable Fragment.stable_means
  rwa [leavesOf_conjuncts]

/-- What the predicate of a condition says of a row, if its text can be read. Where there is no
predicate, every row passes. -/
def said? (row : Atom → Truth) (c : Condition) : Option Truth :=
  if c.predicate.text = "" then some .yes
  else (Formula.ofText c.predicate.text.toList c.predicate.holders).map fun g => g.truth row

/-- What a predicate says is the conjunction of what the fragments of its conjuncts say. An empty
condition has none of them, and the empty conjunction is true. -/
theorem said?_eq {c : Condition} {parts : List (List Element × Formula)}
    (h : Fragment.AllMean (fragments c.conjuncts) parts) (row : Atom → Truth) :
    c.said? row = some (Truth.all (parts.map fun part => part.2.truth row)) := by
  unfold said?
  cases hf : c.fragment? with
  | none =>
    -- nothing is written just if nothing is said
    have hempty : c.isEmpty = true := (fragment?_eq_none_iff c).mp hf
    rw [fragments_conjuncts_of_isEmpty hempty] at h
    rw [if_pos ((text_predicate_eq_empty_iff c).mpr hempty), List.forall₂_nil_left_iff.mp h]
    rfl
  | some f =>
    have htext : ¬ c.predicate.text = "" := by
      rw [text_predicate_eq_empty_iff, ← fragment?_eq_none_iff, hf]
      exact nofun
    -- otherwise the text is that of the conjunction of all conjuncts
    have hmade : Fragment.conjunction? (fragments c.conjuncts) = some f := by
      rw [← fragment?_eq_conjunction?, hf]
    have hne := Fragment.ne_nil_of_allMean Fragment.conjunction? rfl hmade h
    obtain ⟨f', es, g, hf', hmeans, htruth⟩ := Fragment.exists_means_conjunction hne h
    obtain rfl := Option.some.inj (hf'.symm.trans hmade)
    rw [if_neg htext, ofText_predicate hf hmeans, Option.map_some, htruth row]

/-- The text of two joined conditions says at once what their texts say by themselves. -/
theorem said?_andAlso {a b : Condition} (ha : a.Legible) (hb : b.Legible) (row : Atom → Truth) :
    ∃ s t, a.said? row = some s ∧ b.said? row = some t
      ∧ (a.andAlso b).said? row = some (s.and t) := by
  obtain ⟨parts, hparts⟩ := exists_allMean_of_legible ha
  obtain ⟨others, hothers⟩ := exists_allMean_of_legible hb
  -- the conjuncts of both are read one by one, as they were before
  have hboth : Fragment.AllMean (fragments (a.andAlso b).conjuncts) (parts ++ others) := by
    rw [fragments_andAlso]
    exact List.rel_append hparts hothers
  refine ⟨_, _, said?_eq hparts row, said?_eq hothers row, ?_⟩
  rw [said?_eq hboth, List.map_append, Truth.all_append]

/-! ## The laws

All of it together. The first three laws and the bindings need nothing of the conditions; that
joining is conjunction needs legible leaves. -/

/-- **Conditions are a monoid, and joining them is conjunction.** -/
theorem andAlso_monoid (a b c : Condition) :
    (a.andAlso b).andAlso c = a.andAlso (b.andAlso c)
    ∧ ((a.andAlso b).isEmpty = true ↔ a.isEmpty = true ∧ b.isEmpty = true)
    ∧ (b.isEmpty = true → (a.andAlso b).predicate = a.predicate
      ∧ (b.andAlso a).predicate = a.predicate)
    ∧ (a.andAlso b).predicate.bindings = a.predicate.bindings ++ b.predicate.bindings
    ∧ (a.Legible → b.Legible → ∀ row, ∃ s t,
        a.said? row = some s ∧ b.said? row = some t ∧ (a.andAlso b).said? row = some (s.and t))
    ∧ (a.RawsBound → b.RawsBound →
        (a.andAlso b).predicate.holders =
          (a.predicate.bindings ++ b.predicate.bindings).map some) := by
  refine ⟨andAlso_assoc a b c, ?_, fun hb => ⟨?_, ?_⟩, bindings_andAlso a b, said?_andAlso,
    fun ha hb => ?_⟩
  · rw [isEmpty_andAlso, Bool.and_eq_true]
  · rw [andAlso_of_isEmpty hb]
  · -- on the left, an empty condition stays in the tree, but has no fragment
    apply predicate_congr
    rw [fragments_andAlso, fragments_conjuncts_of_isEmpty hb, List.nil_append]
  · rw [holders_predicate (ha.andAlso hb), bindings_andAlso]

/-- A condition on the owner. -/
def ofPost : Condition := .equals "post_id" (.int32 5)

/-- One that brings an `OR`. -/
def shownOrPinned : Condition := .raw " approved = 1 OR pinned = ?" [.bool true]

/-- A piece that says nothing. -/
def blankPiece : Condition := .raw "  " [.bool false]

/-- Each premise of the laws holds of conditions like those that relations put together: `ofPost`
and `shownOrPinned` are legible and bring their values, and `blankPiece` is empty. -/
theorem andAlso_monoid_ofPost :
    blankPiece.isEmpty = true
    ∧ (shownOrPinned.andAlso blankPiece).predicate = shownOrPinned.predicate
    ∧ (blankPiece.andAlso shownOrPinned).predicate = shownOrPinned.predicate
    ∧ ofPost.Legible ∧ shownOrPinned.Legible ∧ ofPost.RawsBound ∧ shownOrPinned.RawsBound
    ∧ (∀ row, ∃ s t, ofPost.said? row = some s ∧ shownOrPinned.said? row = some t
        ∧ (ofPost.andAlso shownOrPinned).said? row = some (s.and t))
    ∧ (ofPost.andAlso shownOrPinned).predicate.holders = [some (.int32 5), some (.bool true)] := by
  have hblank : blankPiece.isEmpty = true := by decide
  have hpost : ofPost.Legible := (readable_equals rfl _).legible
  have hshown : shownOrPinned.Legible := by
    apply Readable.legible
    constructor
    · intro field comparison operand hleaf
      cases List.mem_singleton.mp hleaf
    · intro sql values hleaf _
      cases List.mem_singleton.mp hleaf
      rfl
  -- there is one mark in the piece, and one value
  have hbound : shownOrPinned.RawsBound := by
    intro sql values hleaf _
    cases List.mem_singleton.mp hleaf
    rfl
  obtain ⟨-, -, hneutral, -⟩ := andAlso_monoid shownOrPinned blankPiece .empty
  obtain ⟨-, -, -, -, hsays, hholders⟩ := andAlso_monoid ofPost shownOrPinned .empty
  exact ⟨hblank, (hneutral hblank).1, (hneutral hblank).2, hpost, hshown,
    rawsBound_equals _ _, hbound,
    hsays hpost hshown, hholders (rawsBound_equals _ _) hbound⟩

/-- A name that is more than that of a column. -/
def openOrPinned : Condition := .equals "open OR pinned" (.bool true)

/-- Beside the `AND` of `post_id = ? AND open OR pinned = ?` the name is taken apart, so that the
joined text lets a pinned row of any other post pass. -/
theorem loose_columns_reach_out : ¬ ∀ row : Atom → Truth, ∃ s t,
    ofPost.said? row = some s ∧ openOrPinned.said? row = some t
    ∧ (ofPost.andAlso openOrPinned).said? row = some (s.and t) := by
  intro hsays
  let pinned : Atom → Truth := fun
    | .compares column _ _ => if column = "pinned" then .yes else .no
    | _ => .no
  -- by itself each text says what its condition says; joined they do not
  have hpost : ofPost.said? pinned = some .no := rfl
  have hpinned : openOrPinned.said? pinned = some .yes := rfl
  have hboth : (ofPost.andAlso openOrPinned).said? pinned = some .yes := rfl
  obtain ⟨s, t, hs, ht, hst⟩ := hsays pinned
  obtain rfl := Option.some.inj (hpost.symm.trans hs)
  obtain rfl := Option.some.inj (hpinned.symm.trans ht)
  exact absurd (hboth.symm.trans hst) (by decide)

end Condition

end EntityMapper
