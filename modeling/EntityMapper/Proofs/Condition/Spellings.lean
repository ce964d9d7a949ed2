import EntityMapper.Proofs.Condition.Conjunction
import EntityMapper.Proofs.Statement.Values
import Mathlib.Logic.Relation

/-!
# Spellings of a condition

The same condition may be spelled in several ways. A tree may have parts that say nothing and
unwritten conjunctions of a single part, and a document may list its entries one by one where
another has them in one map. The main statement is that no spelling shows in what is written
(`spellings_alike`).

A tree is compared with another by its fragment, whose flag decides on parentheses further up, and a
document by the fragments of the parts it is read as; in both a part counts only by its own
fragment.

## Structure

* `Simplifies` — one step of simplification, anywhere in a tree: a conjunction of one part is
  replaced by that part, or a part that says nothing goes.
* `Respells` — one map of a document, anywhere in it, is spelled as the list of its entries.
* `Simplifies.fragment?_eq`, `map_predicate_ofJson` — neither shows in what is written. Both are
  inductions over the derivation.
-/

namespace EntityMapper

/-- What becomes of the fragments below a node of a tree. -/
def Fragment.together? : Option Connective → List Fragment → Option Fragment
  | none => Fragment.conjunction?
  | some k => Fragment.group? k

namespace Condition

/-! ## Trees

Simplifications of a tree. The children of a node count only by their fragments, and an empty child
has none. -/

/-- A node above its children, with its connective if it has one. -/
def node : Option Connective → List Condition → Condition
  | none => .all
  | some k => .group k

/-- One simplification of a tree, at any depth: a conjunction of a single part becomes that part, or
a part that says nothing disappears. -/
inductive Simplifies : Condition → Condition → Prop where
  | unwrap (c : Condition) : Simplifies (.all [c]) c
  | drop (k? : Option Connective) (before after : List Condition) {c : Condition}
      (h : c.isEmpty = true) :
      Simplifies (node k? (before ++ c :: after)) (node k? (before ++ after))
  | within (k? : Option Connective) (before after : List Condition) {c d : Condition}
      (h : Simplifies c d) : Simplifies (node k? (before ++ c :: after))
        (node k? (before ++ d :: after))

/-- Both kinds of node make their fragment of those of the children. -/
theorem fragment?_node (k? : Option Connective) (children : List Condition) :
    (node k? children).fragment? = Fragment.together? k? (fragments children) := by
  cases k? <;> rfl

/-- A simplification leaves the fragment as it is, with the flag that decides on parentheses around
it. -/
theorem Simplifies.fragment?_eq {c d : Condition} (h : Simplifies c d) :
    c.fragment? = d.fragment? := by
  induction h with
  | unwrap c => exact fragment?_all_singleton c
  | @drop k? before after c hempty =>
    have hnone : c.fragment? = none := (fragment?_eq_none_iff c).mpr hempty
    -- what says nothing has no fragment, so the list of fragments stays the same
    rw [fragment?_node, fragment?_node, fragments_append, fragments_append, fragments, hnone]
    rfl
  | within k? before after _ ih =>
    rw [fragment?_node, fragment?_node, fragments_append, fragments_append, fragments,
      fragments, ih]

end Condition

/-! ## Documents

Respellings of a document. Only maps that hold conditions are respelled; one that is an operand is a
fault in either spelling. -/

namespace Json

/-- The entries of a map one by one, each in a map of its own. -/
def entryByEntry (members : List (String × Json)) : Json :=
  .arr (members.map fun member => .obj [member])

/-- One map, anywhere in a document where conditions stand, has its entries listed one by one. -/
inductive Respells : Json → Json → Prop where
  | here (members : List (String × Json)) : Respells (.obj members) (entryByEntry members)
  | item (before after : List Json) {a b : Json} (h : Respells a b) :
      Respells (.arr (before ++ a :: after)) (.arr (before ++ b :: after))
  | under {key : String} (hkey : opensGroup key = true) (before after : List (String × Json))
      {a b : Json}
      (h : Respells a b) :
      Respells (.obj (before ++ (key, a) :: after)) (.obj (before ++ (key, b) :: after))

/-- Lists and maps, which hold conditions where conditions stand. -/
def holds : Json → Bool
  | .arr _ => true
  | .obj _ => true
  | _ => false

/-- Both spellings are lists or maps, whichever step was taken. -/
theorem Respells.holds_both {a b : Json} (h : Respells a b) : a.holds = true ∧ b.holds = true := by
  cases h <;> exact ⟨rfl, rfl⟩

end Json

namespace Condition

open Json (opensGroup Respells)

/-- The conditions that a list or a map holds. -/
def held : Json → Except Fault (List Condition)
  | .arr items => ofItems items
  | .obj members => ofEntries members
  | _ => .ok []

/-- As a document, a list or a map is an unwritten conjunction of what it holds. -/
theorem ofDocument_of_holds {a : Json} (h : a.holds = true) :
    ofDocument a = (held a).map (node none) := by
  cases a with
  | arr items =>
    rw [ofDocument, held]
    cases ofItems items <;> rfl
  | obj members =>
    rw [ofDocument, held]
    cases ofEntries members <;> rfl
  | _ => exact nomatch h

/-- Below a key that opens a group, what is held becomes a node: with a connective if the key is
one, and without if it is a position. -/
theorem grouped_of_opensGroup {key : String} (hkey : opensGroup key = true)
    (children : Except Fault (List Condition)) (compared : Except Fault Condition) :
    grouped key children compared = children.map (node (Connective.ofKey? key)) := by
  unfold grouped
  cases hconnective : Connective.ofKey? key with
  | some connective => cases children <;> rfl
  | none =>
    have hposition : isPosition key = true := by simpa [opensGroup, hconnective] using hkey
    show (if isPosition key then _ else compared) = _
    rw [if_pos hposition]
    cases children <;> rfl

/-- As an entry below such a key, a list or a map becomes that node. -/
theorem ofEntry_of_holds {key : String} (hkey : opensGroup key = true) {a : Json}
    (h : a.holds = true) :
    ofEntry key a = (held a).map (node (Connective.ofKey? key)) := by
  cases a with
  | arr items => rw [ofEntry_arr, grouped_of_opensGroup hkey, held]
  | obj members => rw [ofEntry_obj, grouped_of_opensGroup hkey, held]
  | _ => exact nomatch h

/-! ### What of a document is written

The fragments of the parts decide on what is written for the whole (`map_fragments_ofItems`,
`map_fragments_ofEntries`). Reading may fail at any part, and then the whole fails with the first
error in either spelling. -/

/-- A first condition and the rest, of which the first failure counts. By cases on both. -/
theorem map_fragments_cons (first : Except Fault Condition) (rest : Except Fault (List Condition)) :
    Except.map fragments (do return (← first) :: (← rest)) =
      (do return (← first.map fragment?).toList ++ (← rest.map fragments)) := by
  cases first <;> cases rest <;> rfl

/-- Of the items of a list only the fragment of each is written. -/
theorem map_fragments_ofItems (items : List Json) :
    (ofItems items).map fragments =
      (items.mapM fun item => (ofDocument item).map fragment?).map
        (List.flatMap Option.toList) := by
  induction items with
  | nil => rfl
  | cons item rest ih =>
    rw [ofItems, map_fragments_cons, ih, List.mapM_cons]
    -- the first failure ends the reading; without one, both sides go on
    cases (ofDocument item).map fragment? with
    | error fault => rfl
    | ok f? => cases List.mapM (fun item => (ofDocument item).map fragment?) rest <;> rfl

theorem map_fragments_ofEntries (members : List (String × Json)) :
    (ofEntries members).map fragments =
      (members.mapM fun member => (ofEntry member.1 member.2).map fragment?).map
        (List.flatMap Option.toList) := by
  induction members with
  | nil => rfl
  | cons member rest ih =>
    rw [ofEntries, map_fragments_cons, ih, List.mapM_cons]
    cases (ofEntry member.1 member.2).map fragment? with
    | error fault => rfl
    | ok f? =>
      cases List.mapM (fun member : String × Json => (ofEntry member.1 member.2).map fragment?)
        rest <;> rfl

/-- A map of a single entry is written as that entry. -/
theorem map_fragment?_singleton (member : String × Json) :
    (ofDocument (.obj [member])).map fragment? = (ofEntry member.1 member.2).map fragment? := by
  rw [ofDocument, ofEntries, ofEntries]
  cases ofEntry member.1 member.2 with
  | error fault => rfl
  | ok c => exact congrArg Except.ok (fragment?_all_singleton c)

/-- What is written for a node, given what is written for its children. -/
theorem map_fragment?_node (k? : Option Connective) (children : Except Fault (List Condition)) :
    (children.map (node k?)).map fragment? =
      (children.map fragments).map (Fragment.together? k?) := by
  cases children with
  | error fault => rfl
  | ok children => exact congrArg Except.ok (fragment?_node k? children)

/-- Respelled documents hold conditions that are written alike, or fail alike. -/
theorem map_fragments_held {a b : Json} (h : Respells a b) :
    (held a).map fragments = (held b).map fragments := by
  induction h with
  | here members =>
    show (ofEntries members).map fragments =
      (ofItems (members.map fun member => .obj [member])).map fragments
    rw [map_fragments_ofEntries, map_fragments_ofItems, List.mapM_map]
    simp only [Function.comp_def, map_fragment?_singleton]
  | @item before after a b h ih =>
    obtain ⟨ha, hb⟩ := h.holds_both
    -- the part that was respelled is a node of what it holds, which is written alike by induction
    have halike : (ofDocument a).map fragment? = (ofDocument b).map fragment? := by
      rw [ofDocument_of_holds ha, ofDocument_of_holds hb, map_fragment?_node,
        map_fragment?_node, ih]
    rw [held, held, map_fragments_ofItems, map_fragments_ofItems]
    simp only [List.mapM_append, List.mapM_cons, halike]
  | @under key hkey before after a b h ih =>
    obtain ⟨ha, hb⟩ := h.holds_both
    have halike : (ofEntry key a).map fragment? = (ofEntry key b).map fragment? := by
      rw [ofEntry_of_holds hkey ha, ofEntry_of_holds hkey hb, map_fragment?_node,
        map_fragment?_node, ih]
    rw [held, held, map_fragments_ofEntries, map_fragments_ofEntries]
    simp only [List.mapM_append, List.mapM_cons, halike]

/-- So the conditions of respelled documents have the same predicate, or the same error: both are
told by `fragment?`, and documents are nodes. -/
theorem map_predicate_ofJson {a b : Json} (h : Respells a b) :
    (ofJson a).map predicate = (ofJson b).map predicate := by
  obtain ⟨ha, hb⟩ := h.holds_both
  have hfragment : (ofDocument a).map fragment? = (ofDocument b).map fragment? := by
    rw [ofDocument_of_holds ha, ofDocument_of_holds hb, map_fragment?_node, map_fragment?_node,
      map_fragments_held h]
  have hpredicate : ∀ json : Json, (ofJson json).map predicate =
      (((ofDocument json).map fragment?).map fun f? => (f?.map Fragment.sql).getD []).mapError
          Fault.error := by
    intro json
    rw [ofJson]
    cases ofDocument json <;> rfl
  rw [hpredicate, hpredicate, hfragment]

/-! ## Spellings

Both laws for any number of steps, in either direction. -/

/-- **Spellings are alike.** Trees that differ by parts that say nothing and by conjunctions of a
single part have the same predicate, text and values. Documents that differ by whether the entries
of a map are listed one by one, in any number of maps where conditions stand, fail with the same
error or have the same predicate. -/
theorem spellings_alike :
    (∀ c d : Condition, Relation.EqvGen Simplifies c d → c.predicate = d.predicate)
    ∧ ∀ a b : Json, Relation.EqvGen Respells a b →
      (ofJson a).map predicate = (ofJson b).map predicate := by
  refine ⟨fun c d h => ?_, fun a b h => ?_⟩
  · have hsame : ∀ c d : Condition, Simplifies c d → c.predicate = d.predicate := by
      intro c d h
      rw [predicate, predicate, h.fragment?_eq]
    -- what single steps leave alone is left alone by the equivalence they generate
    exact congrArg (Quot.lift predicate hsame) (Quot.eqvGen_sound h)
  · have hsame : ∀ a b : Json, Respells a b → (ofJson a).map predicate = (ofJson b).map predicate :=
      fun a b h => map_predicate_ofJson h
    exact congrArg (Quot.lift (fun json => (ofJson json).map predicate) hsame) (Quot.eqvGen_sound h)

/-- The negation of a condition, among parts that say nothing, in a conjunction of its own. -/
def paddedNegation : Condition :=
  .group .not [.raw "  " [.bool false], .all [.equals "post_id" (.int32 5)]]

/-- The same negation with nothing around it. -/
def plainNegation : Condition := .group .not [.equals "post_id" (.int32 5)]

/-- Alternatives in one map, the second a map of its own below a position. -/
def mappedAlternatives : Json :=
  .obj
    [("or", .obj
      [("pinned", .bool true), ("0", .obj [("approved", .bool true), ("title ~", .str "%a%")])])]

/-- The same alternatives with the entries of both inner maps listed one by one. -/
def listedAlternatives : Json :=
  .obj [("or", .arr [.obj [("pinned", .bool true)],
    .obj [("0", .arr [.obj [("approved", .bool true)], .obj [("title ~", .str "%a%")]])]])]

/-- Two steps take each spelling to the other: one for each part to be left out, and one for each
map. -/
theorem spellings_alike_alternatives :
    Relation.EqvGen Simplifies paddedNegation plainNegation
    ∧ paddedNegation.predicate = plainNegation.predicate
    ∧ Relation.EqvGen Respells mappedAlternatives listedAlternatives
    ∧ (ofJson mappedAlternatives).map predicate = (ofJson listedAlternatives).map predicate := by
  obtain ⟨htrees, hdocuments⟩ := spellings_alike
  have hdrop : Simplifies paddedNegation (.group .not [.all [.equals "post_id" (.int32 5)]]) :=
    .drop (some .not) [] _ (by decide)
  have hunwrap : Simplifies (.group .not [.all [.equals "post_id" (.int32 5)]]) plainNegation :=
    .within (some .not) [] [] (.unwrap _)
  have hnegation : Relation.EqvGen Simplifies paddedNegation plainNegation :=
    .trans _ _ _ (.rel _ _ hdrop) (.rel _ _ hunwrap)
  -- first the map below the position, then the one below the connective
  have hinner : Respells mappedAlternatives (.obj [("or", .obj [("pinned", .bool true),
      ("0", .arr [.obj [("approved", .bool true)], .obj [("title ~", .str "%a%")]])])]) :=
    .under (by decide) [] [] (.under (by decide) [("pinned", .bool true)] [] (.here _))
  have houter : Respells (.obj [("or", .obj [("pinned", .bool true),
      ("0", .arr [.obj [("approved", .bool true)], .obj [("title ~", .str "%a%")]])])])
          listedAlternatives :=
    .under (by decide) [] [] (.here _)
  have halternatives : Relation.EqvGen Respells mappedAlternatives listedAlternatives :=
    .trans _ _ _ (.rel _ _ hinner) (.rel _ _ houter)
  exact ⟨hnegation, htrees _ _ hnegation, halternatives, hdocuments _ _ halternatives⟩

end Condition

end EntityMapper
