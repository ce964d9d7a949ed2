import EntityMapper.Proofs.Naming.Words
import EntityMapper.Proofs.Reading.Column
import EntityMapper.Proofs.Relation.Scope

/-!
# Foreign keys that a declaration leaves open

A foreign key that nobody named is called after the entity that it refers to and the key of that
entity. The name of the entity is taken apart into words, and so is that of the key column, because
the convention is given both as one name (`open_foreignKey`). So the column is called after the key
column as the database spells it just if that one has no capitals.

## Structure

* `referredSide` — the entity that the foreign key refers to, which depends on the kind of the
  relation.
* `open_foreignKey` — the name in full, by `underscore_join`. Whether it ends with the key column is
  a question about the words of that column, which `underscore_eq_self_iff` answers.
-/

namespace EntityMapper

/-- What a name begins and goes on with, if it is one that needs no quotes. -/
theorem FieldToken.chars_of_isIdentifier {s : List Char} (h : isIdentifier s = true) :
    ∀ c ∈ s, c.toNat < 128 ∧ Naming.isBreak c = false := by
  intro c hc
  rcases Bool.or_eq_true_iff.mp ((Reading.isIdentifier_chars h).2 c hc) with halnum | hunderscore
  · -- letters and digits are neither hyphens nor spaces, by their code points
    have hbounds := Ascii.toNat_bounds_of_isAlphanum halnum
    have hhyphen : c ≠ '-' := by rintro rfl; exact absurd hbounds.1 (by decide)
    have hspace : c ≠ ' ' := by rintro rfl; exact absurd hbounds.1 (by decide)
    exact ⟨by omega, by simp [Naming.isBreak, hhyphen, hspace]⟩
  · obtain rfl := eq_of_beq hunderscore
    decide

namespace Relation

variable (r : Relation) (owner target : Schema)

/-- The side that the foreign key refers to. -/
def referredSide : Schema := if r.kind = .manyToOne then target else owner

/-- The naming convention is given the names of one side, the target's where the owner holds the key
and the owner's otherwise. -/
theorem foreignKey_of_open (naming : Naming) (hopen : r.foreignKey? = none) :
    (r.keys naming owner target).foreignKey =
      naming.foreignKey (r.referredSide owner target).entity (r.referredSide owner target).key := by
  show r.foreignKey naming owner target = _
  rw [foreignKey, hopen, Option.getD_none, referredSide]
  by_cases hkind : r.kind = .manyToOne
  · rw [if_pos hkind, if_pos (by simp [RelationKind.keyOnOwner, hkind])]
  · rw [if_neg hkind, if_neg (by simp [RelationKind.keyOnOwner, hkind])]

/-- **A foreign key that was left open** is made up of the words of the entity that it refers to and
the words of that entity's key column. The key column itself is what it ends with just if the column
has no capitals. -/
theorem open_foreignKey (hopen : r.foreignKey? = none)
    (hkey : FieldToken.isIdentifier (r.referredSide owner target).key.toList = true) :
    let side := r.referredSide owner target
    let words := Naming.english.underscore
    (r.keys .english owner target).foreignKey = words side.entity ++ "_" ++ words side.key
    ∧ ((r.keys .english owner target).foreignKey = words side.entity ++ "_" ++ side.key ↔
        ∀ c ∈ side.key.toList, c.isUpper = false) := by
  intro side words
  have hchars := FieldToken.chars_of_isIdentifier hkey
  have hname : (r.keys .english owner target).foreignKey = words side.entity ++ "_"
      ++ words side.key := by
    rw [foreignKey_of_open r owner target .english hopen]
    exact Naming.underscore_join side.entity fun c hc => (hchars c (List.mem_of_mem_head? hc)).2
  -- both names begin in the same way, so all hangs on whether the words of the key are the key
  refine ⟨hname, ?_⟩
  rw [hname, String.append_right_inj, Naming.underscore_eq_self_iff fun c hc => (hchars c hc).1]
  refine forall₂_congr fun c hc => ?_
  rw [Naming.isKept, Ascii.isUpper_eq (hchars c hc).1, (hchars c hc).2, Bool.not_false,
    Bool.and_true, Bool.not_eq_true']

/-- The server from which an article was sent, where its key has capitals. -/
def origin : Relation where
  name := "origin"
  kind := .manyToOne
  target := { entity := "HTTPServer", typeName := "HTTPServer" }

def servers : Schema := ⟨"HTTPServer", "servers", [], "serverID"⟩

/-- The owner holds the key here, so the side that is referred to is the server's. Its key has
capitals, and the foreign key does not end with it. -/
theorem open_foreignKey_origin :
    origin.foreignKey? = none
      ∧ FieldToken.isIdentifier (origin.referredSide articles servers).key.toList = true
    ∧ (origin.keys .english articles servers).foreignKey = "http_server" ++ "_" ++ "server_id"
    ∧ (origin.keys .english articles servers).foreignKey ≠ "http_server" ++ "_" ++ "serverID" := by
  have hkey : FieldToken.isIdentifier (origin.referredSide articles servers).key.toList =
    true := by decide
  have hentity : Naming.english.underscore "HTTPServer" = "http_server" := by decide
  have hwords : Naming.english.underscore "serverID" = "server_id" := by decide
  obtain ⟨hname, hrule⟩ := open_foreignKey origin articles servers rfl hkey
  refine ⟨rfl, hkey, ?_, ?_⟩
  · rw [← hentity, ← hwords]
    exact hname
  · rw [← hentity]
    -- were it so, then the key would have no capital, but its I is one
    intro hreported
    have hcapitals := hrule.mp hreported
    exact absurd (hcapitals 'I' (by decide)) (by decide)

/-- The labels of a post refer to it by a column that is spelled otherwise than the key of the post.
-/
def labels : Relation where
  name := "labels"
  kind := .oneToMany
  target := { entity := "Tag", typeName := "Tag" }

/-- Posts whose key is spelled with a capital. -/
def numberedPosts : Schema :=
  ⟨"Post", "posts", [{ name := "postId", type := "INTEGER", isKey := true }], "postId"⟩

theorem key_column_is_respelled :
    labels.validate "Post" = .ok () ∧ labels.foreignKey? = none
    ∧ Naming.english.underscore numberedPosts.entity ++ "_" ++ numberedPosts.key = "post_postId"
    ∧ (labels.keys .english numberedPosts tags).foreignKey = "post_post_id"
    ∧ ∃ q, labels.plan .english numberedPosts tags (.obj [("postId", .ofInt 5)]) = .ok (some q)
      ∧ (Statement.select "tags" q).text = "SELECT * FROM tags WHERE post_post_id = ?" :=
  ⟨rfl, rfl, by decide, by decide, _, rfl, rfl⟩

end Relation

end EntityMapper
