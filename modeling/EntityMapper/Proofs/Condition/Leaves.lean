import EntityMapper.Proofs.Condition.Emptiness
import EntityMapper.Proofs.Lists

/-!
# Leaves of conditions

The comparisons and ready-made pieces that a condition is made of. Their fragments are put together
to conjunctions and groups; so a property of fragments that goes over to these needs to be shown for
leaves only (`fragment_of_stable`). The SQL of both is put together in three ways, by parentheses,
by a connective and by a negation; so for a property of SQL these are what it has to go over to
(`fragment_of_leaves`).

## Structure

* `leaves` — comparisons and ready-made pieces, in the order of the text.
* `Stable`, `Closed` — what a property of fragments, or of SQL, has to be kept by: two ways of
  putting fragments together, or the three ways of putting SQL together. The second implies the
  first (`Closed.stable`).
* `fragment_of_stable` — the induction over conditions, done once. The emptiness of a text
  (`text_predicate_eq_empty_iff`), the marks of a statement and the meaning of a predicate all go by
  it.
* `forallPieces_of_leaves` — the case of a property of single pieces, which holds of the glue
  between fragments.
-/

namespace EntityMapper

open Sql (Piece)

namespace Condition

mutual

/-- The comparisons and ready-made pieces of a condition, in their order. -/
def leaves : Condition → List Condition
  | .all children => leavesOf children
  | .group _ children => leavesOf children
  | .compare field c operand => [.compare field c operand]
  | .raw sql values => [.raw sql values]

def leavesOf : List Condition → List Condition
  | [] => []
  | c :: rest => leaves c ++ leavesOf rest

end

mutual

/-- A leaf is a comparison or ready-made SQL. Mutual induction, as for `leaves`. -/
theorem leaf_cases : ∀ {c leaf : Condition}, leaf ∈ c.leaves →
    (∃ field comparison operand, leaf = .compare field comparison operand) ∨
      ∃ sql values, leaf = .raw sql values
  | .all _, _, h => leafOf_cases h
  | .group _ _, _, h => leafOf_cases h
  | .compare field comparison operand, _, h =>
    .inl ⟨field, comparison, operand, List.mem_singleton.mp h⟩
  | .raw sql values, _, h => .inr ⟨sql, values, List.mem_singleton.mp h⟩

theorem leafOf_cases : ∀ {children : List Condition} {leaf : Condition}, leaf ∈ leavesOf children →
    (∃ field comparison operand, leaf = .compare field comparison operand) ∨
      ∃ sql values, leaf = .raw sql values
  | _ :: _, _, h => (List.mem_append.mp h).elim leaf_cases leafOf_cases

end

/-- The property `P` of each piece of a condition's predicate. -/
def ForallPieces (P : Piece → Prop) (c : Condition) : Prop :=
  ∀ f, c.fragment? = some f → ∀ p ∈ f.sql, P p

end Condition

/-! ## Pieces of what is put together

Everything that is written between and around leaves comes from a short list of texts
(`Fragment.glue`). `Fragment.Closed` lists the ways in which SQL is put together, `Fragment.Stable`
those in which fragments are. -/

def Fragment.glue : List Piece :=
  [.text "(", .text ")", .text "NOT (", .text " AND ", .text " OR ", .text " XOR "]

/-- All of `glue` is text, so it binds nothing. -/
theorem Fragment.glue_text {p : Piece} (h : p ∈ Fragment.glue) : ∃ s, p = .text s := by
  simp only [glue, List.mem_cons, List.not_mem_nil, or_false] at h
  rcases h with rfl | rfl | rfl | rfl | rfl | rfl <;> exact ⟨_, rfl⟩

/-- The connectives that stand between fragments, with a blank on either side; a negation never
does. -/
theorem Fragment.token_mem_glue {k : Connective} (hk : k ≠ .not) :
    Piece.text s!" {k.token} " ∈ Fragment.glue := by
  cases k with
  | and => rw [show s!" {Connective.and.token} " = " AND " by rfl]; simp [glue]
  | or => rw [show s!" {Connective.or.token} " = " OR " by rfl]; simp [glue]
  | xor => rw [show s!" {Connective.xor.token} " = " XOR " by rfl]; simp [glue]
  | not => exact absurd rfl hk

namespace Fragment

/-- The texts that a comparison may be made of. -/
def comparisonTexts (field : String) (c : Comparison) : List String :=
  ["1 = 0", s!"{field} IN (", ", ", ")", s!"{field} IS NULL", s!"{field} IS NOT NULL",
    s!"{field} {c.token} "]

/-- A comparison is made of placeholders and of `comparisonTexts`. The cases are those of
`Fragment.comparison`. -/
theorem mem_comparison {field : String} {c : Comparison} {operand : Operand} {p : Piece}
    (h : p ∈ (comparison field c operand).sql) :
    (∃ v, p = .slot v) ∨ ∃ s, p = .text s ∧ s ∈ comparisonTexts field c := by
  match operand with
  | .oneOf [] => exact .inr ⟨_, List.mem_singleton.mp h, by simp [comparisonTexts]⟩
  -- a list: the field with its opening parenthesis, the values with commas between them, and the
  -- closing one
  | .oneOf (v :: rest) =>
    rcases List.mem_cons.mp h with h | h
    · exact .inr ⟨_, h, by simp [comparisonTexts]⟩
    · rcases List.mem_append.mp h with h | h
      · rcases mem_intercalate h with ⟨part, hpart, h⟩ | h
        · obtain ⟨w, -, rfl⟩ := List.mem_map.mp hpart
          exact .inl ⟨w, List.mem_singleton.mp h⟩
        · exact .inr ⟨_, h, by simp [comparisonTexts]⟩
      · exact .inr ⟨_, List.mem_singleton.mp h, by simp [comparisonTexts]⟩
  | .scalar value =>
    rw [comparison] at h
    split at h
    · exact .inr ⟨_, List.mem_singleton.mp h, by simp [comparisonTexts]⟩
    · split at h
      · exact .inr ⟨_, List.mem_singleton.mp h, by simp [comparisonTexts]⟩
      · rcases List.mem_cons.mp h with h | h
        · exact .inr ⟨_, h, by simp [comparisonTexts]⟩
        · exact .inl ⟨_, List.mem_singleton.mp h⟩

/-- A property of fragments that goes over from parts to what is put together of them. -/
structure Stable (Q : Fragment → Prop) : Prop where
  conjunction : ∀ {fragments : List Fragment} {f : Fragment}, (∀ g ∈ fragments, Q g) →
    conjunction? fragments = some f → Q f
  group : ∀ {k : Connective} {fragments : List Fragment} {f : Fragment}, (∀ g ∈ fragments, Q g) →
    group? k fragments = some f → Q f

/-- A property of SQL that goes over from parts to what is put together of them, by parentheses, by
a connective and by a negation. -/
structure Closed (Q : Sql → Prop) : Prop where
  parenthesised : ∀ sql : Sql, Q sql → Q sql.parenthesised
  joined : ∀ k : Connective, k ≠ .not → ∀ parts : List Sql, parts ≠ [] → (∀ part ∈ parts, Q part) →
    Q (Sql.joined s!" {k.token} " parts)
  negated : ∀ sql : Sql, Q sql → Q (.text "NOT (" :: sql ++ [.text ")"])

namespace Closed

variable {Q : Sql → Prop} {fragments : List Fragment} {f : Fragment}

theorem guarded (hQ : Closed Q) (h : Q f.sql) : Q f.guarded := by
  unfold Fragment.guarded
  split
  · exact hQ.parenthesised _ h
  · exact h

/-- A single part stands as it is; several are guarded and joined by `AND`. -/
theorem conjunction (hQ : Closed Q) (h : ∀ f ∈ fragments, Q f.sql)
    (hf : conjunction? fragments = some f) :
    Q f.sql := by
  match fragments, hf with
  | [g], hf =>
    obtain rfl := Option.some.inj hf
    exact h g (by simp)
  | g :: g' :: rest, hf =>
    obtain rfl := Option.some.inj hf
    refine hQ.joined .and (by simp) _ (by simp) ?_
    exact List.forall_mem_map.mpr fun f hf => hQ.guarded (h f hf)

/-- Parts in parentheses, with a connective between them. -/
theorem between (hQ : Closed Q) {k : Connective} (hk : k ≠ .not) (hne : fragments ≠ [])
    (h : ∀ f ∈ fragments, Q f.sql) : Q (Fragment.between k fragments) := by
  refine hQ.joined k hk _ (by simpa using hne) ?_
  exact List.forall_mem_map.mpr fun f hf => hQ.parenthesised _ (h f hf)

/-- The one part of a negation stands as it is, several are joined first. -/
theorem negation (hQ : Closed Q) (hne : fragments ≠ []) (h : ∀ f ∈ fragments, Q f.sql) :
    Q (Fragment.negation fragments).sql := by
  have hinner : ∃ inner : Sql, (Fragment.negation fragments).sql = .text "NOT (" :: inner
    ++ [.text ")"]
      ∧ Q inner := by
    -- without parts there would be no negation
    match fragments with
    | [g] => exact ⟨g.sql, rfl, h g (by simp)⟩
    | g :: g' :: rest => exact ⟨_, rfl, hQ.between (by simp) hne h⟩
  obtain ⟨inner, hsql, hinner⟩ := hinner
  rw [hsql]
  exact hQ.negated inner hinner

/-- A group is a negation, or has its connective between its parts. -/
theorem group (hQ : Closed Q) {k : Connective} (h : ∀ f ∈ fragments, Q f.sql)
    (hf : group? k fragments = some f) : Q f.sql := by
  unfold group? at hf
  split at hf
  next => simp at hf
  next hne =>
    have hne : fragments ≠ [] := by simpa using hne
    cases k with
    | not =>
      obtain rfl := Option.some.inj hf
      exact hQ.negation hne h
    | _ =>
      obtain rfl := Option.some.inj hf
      exact hQ.between (by simp) hne h

/-- So what SQL hands over in these three ways, fragments hand over in theirs. -/
theorem stable (hQ : Closed Q) : Stable fun f => Q f.sql where
  -- each of the two constructions has been followed above
  conjunction := hQ.conjunction
  group := hQ.group

/-- What holds of the texts that put fragments together may be asked of every piece. -/
theorem forall_mem {P : Piece → Prop} (hglue : ∀ p ∈ glue, P p) :
    Closed fun sql => ∀ p ∈ sql, P p where
  parenthesised sql h p hp := by
    simp only [Sql.parenthesised, List.cons_append, List.mem_cons, List.mem_append,
      List.not_mem_nil, or_false] at hp
    rcases hp with rfl | hp | rfl
    · exact hglue _ (by simp [glue])
    · exact h p hp
    · exact hglue _ (by simp [glue])
  joined k hk parts _ h p hp := by
    -- a piece of one of the parts, or the connective itself
    rcases mem_intercalate hp with ⟨part, hpart, hp⟩ | rfl
    · exact h part hpart p hp
    · exact hglue _ (token_mem_glue hk)
  negated sql h p hp := by
    simp only [List.cons_append, List.mem_cons, List.mem_append, List.not_mem_nil, or_false] at hp
    rcases hp with rfl | hp | rfl
    · exact hglue _ (by simp [glue])
    · exact h p hp
    · exact hglue _ (by simp [glue])

end Closed

end Fragment

namespace Condition

/-- A ready-made piece has a fragment unless it is blank: itself without the blanks around it,
marked as compound. -/
theorem fragment?_raw_eq_some {sql : String} {values : List Value} {f : Fragment}
    (h : fragment? (.raw sql values) = some f) :
    Text.isBlankText sql = false ∧ f = ⟨[.raw (Text.trimmed sql) values], true⟩ := by
  rw [fragment?] at h
  split at h
  next => simp at h
  next hblank => exact ⟨by simpa using hblank, (Option.some.inj h).symm⟩

mutual

/-- **Parts of a fragment.** What goes over from parts to what is put together of them, and holds of
the fragments of all leaves, holds of the fragment of the condition. -/
theorem fragment_of_stable {Q : Fragment → Prop} (hQ : Fragment.Stable Q) :
    ∀ c : Condition, (∀ leaf ∈ c.leaves, ∀ f, leaf.fragment? = some f → Q f) →
      ∀ f, c.fragment? = some f → Q f
  -- both constructions take the fragments of the children; a leaf is its own only leaf
  | .all children, h => fun _ hf => hQ.conjunction (fragments_of_stable hQ children h) hf
  | .group _ children, h => fun _ hf => hQ.group (fragments_of_stable hQ children h) hf
  | .compare _ _ _, h => h _ (by simp [leaves])
  | .raw _ _, h => h _ (by simp [leaves])

/-- The same for lists: each fragment of a list is the fragment of one of its members. -/
theorem fragments_of_stable {Q : Fragment → Prop} (hQ : Fragment.Stable Q) :
    ∀ children : List Condition,
      (∀ leaf ∈ leavesOf children, ∀ f, leaf.fragment? = some f → Q f) →
      ∀ f ∈ fragments children, Q f
  | [], _ => by simp [fragments]
  | c :: rest, h => by
    intro f hf
    rw [fragments, List.mem_append, Option.mem_toList] at hf
    -- the fragment of the first condition, or one of the others
    rcases hf with hf | hf
    · exact fragment_of_stable hQ c (fun leaf hleaf => h leaf (List.mem_append_left _ hleaf)) f hf
    · exact fragments_of_stable hQ rest
        (fun leaf hleaf => h leaf (List.mem_append_right _ hleaf)) f hf

end

/-- The same for a property of SQL that is `Closed`. -/
theorem fragment_of_leaves {Q : Sql → Prop} (hQ : Fragment.Closed Q) (c : Condition)
    (h : ∀ leaf ∈ c.leaves, ∀ f, leaf.fragment? = some f → Q f.sql) (f : Fragment)
    (hf : c.fragment? = some f) : Q f.sql :=
  fragment_of_stable hQ.stable c h f hf

/-- What holds of the texts that put fragments together, and of the pieces of all leaves, holds of
all pieces. -/
theorem forallPieces_of_leaves {P : Piece → Prop} (hglue : ∀ p ∈ Fragment.glue, P p) (c : Condition)
    (h : ∀ leaf ∈ c.leaves, leaf.ForallPieces P) : c.ForallPieces P :=
  fragment_of_leaves (Fragment.Closed.forall_mem hglue) c h

end Condition

/-! ## Predicates show

What is put together of SQL that shows in the text shows as well, and so does every leaf that is not
blank. So a condition that restricts something never goes without a text. -/

/-- SQL of which something shows in the text. -/
def Sql.Shows (sql : Sql) : Prop := sql.chars ≠ []

theorem Sql.Shows.cons {p : Piece} (h : p.chars ≠ []) (sql : Sql) : Sql.Shows (p :: sql) := by
  unfold Sql.Shows Sql.chars
  rw [List.flatMap_cons]
  exact List.append_ne_nil_of_left_ne_nil h _

/-- What is put together of SQL that shows has text of its own around it, or at least the first
part. -/
theorem Fragment.closed_shows : Fragment.Closed Sql.Shows where
  parenthesised sql _ := Sql.Shows.cons (by decide) _
  joined k _ parts hne h := by
    cases parts with
    | nil => exact absurd rfl hne
    | cons part rest =>
      have hpart : part.Shows := h part List.mem_cons_self
      cases rest with
      | nil => rwa [Sql.joined_singleton]
      | cons next rest =>
        unfold Sql.Shows
        rw [Sql.joined_cons_cons, Sql.chars_append]
        exact List.append_ne_nil_of_left_ne_nil hpart _
  negated sql _ := Sql.Shows.cons (by decide) _

/-- Each of the forms of `comparison` has a text of its own, if only its blanks: the field may be
the empty text. -/
theorem Fragment.shows_comparison (field : String) (c : Comparison) (operand : Operand) :
    (comparison field c operand).sql.Shows := by
  match operand with
  | .oneOf [] => exact Sql.Shows.cons (by decide) _
  | .oneOf (v :: rest) => exact Sql.Shows.cons (by simp [Piece.chars, toString]) _
  | .scalar value =>
    rw [comparison]
    split
    · exact Sql.Shows.cons (by simp [Piece.chars, toString]) _
    · split
      · exact Sql.Shows.cons (by simp [Piece.chars, toString]) _
      · exact Sql.Shows.cons (by simp [Piece.chars, toString]) _

namespace Condition

/-- No fragment of a condition is without a text. A comparison has one by its form, and ready-made
SQL because a blank one has no fragment. -/
theorem shows_fragment {c : Condition} {f : Fragment} (hf : c.fragment? = some f) :
    f.sql.Shows := by
  refine fragment_of_leaves Fragment.closed_shows c (fun leaf hleaf g hg => ?_) f hf
  rcases leaf_cases hleaf with ⟨field, comparison, operand, rfl⟩ | ⟨sql, values, rfl⟩
  · obtain rfl := Option.some.inj hg
    exact Fragment.shows_comparison field comparison operand
  · obtain ⟨hblank, rfl⟩ := fragment?_raw_eq_some hg
    have htrimmed : Text.trim sql.toList ≠ [] := by
      rw [Ne, Text.trim_eq_nil_iff]
      exact fun hall => Bool.noConfusion (hblank.symm.trans hall)
    exact Sql.Shows.cons (by rwa [Piece.chars, Text.trimmed, String.toList_ofList]) _

/-- **Restrictions show.** The text of a predicate is empty just when its condition is. -/
theorem text_predicate_eq_empty_iff (c : Condition) : c.predicate.text = "" ↔ c.isEmpty = true := by
  rw [← fragment?_eq_none_iff, Sql.text, String.ofList_eq_empty_iff, predicate]
  -- what has a fragment shows, and what has none has no predicate
  cases hf : c.fragment? with
  | none => exact iff_of_true rfl rfl
  | some f => exact iff_of_false (shows_fragment hf) (by simp)

end Condition

end EntityMapper
