import EntityMapper.Entity.Basic

/-!
# A blog

The entity types of a blog: an example of every kind of relation, and material for tests. Two of
them are not as they should be: one declares a relation twice, and the instances of another are bare
texts, which no row is read as.

The qualified names of the types begin with whatever qualifier the types are wanted under.
-/

namespace EntityMapper.Blog

/-! ## Attributes -/

def integer (name : String) : Attribute := ⟨name, .integer, false⟩

def integer? (name : String) : Attribute := ⟨name, .integer, true⟩

def text (name : String) : Attribute := ⟨name, .text, false⟩

/-! ## Types without their relations -/

def plain (qualifier name : String) (attributes : List Attribute) : EntityType where
  name
  typeName := qualifier ++ name
  shape := .attributes attributes

def author (q : String) : EntityType := plain q "Author" [integer "id", text "name"]

def post (q : String) : EntityType :=
  plain q "Post" [integer "id", integer? "author_id", text "title"]

def comment (q : String) : EntityType :=
  plain q "Comment" [integer "id", integer "post_id", text "body"]

def tag (q : String) : EntityType := plain q "Tag" [integer "id", text "name"]

/-- Profiles, which have a table of another name. -/
def profile (q : String) : EntityType :=
  { plain q "Profile" [integer? "id", integer "author_id", ⟨"bio", .text, true⟩,
      ⟨"score", .real, false⟩, ⟨"active", .boolean, false⟩] with
    table? := some "user_profiles" }

def blogPost (q : String) : EntityType :=
  plain q "BlogPost" [text "uuid", integer? "editor", text "title"]

def node (q : String) : EntityType :=
  plain q "Node" [integer? "id", integer? "parent_id", text "label"]

def draft (q : String) : EntityType := plain q "Draft" [integer "id"]

def broken (q : String) : EntityType := plain q "Broken" [integer "id"]

/-- Labels, which are bare texts. -/
def label (q : String) : EntityType where
  name := "Label"
  typeName := q ++ "Label"
  shape := .bare .text

/-! ## Relations -/

/-- A column compared with a value, as the only entry of a map. -/
def entry (field : String) (c : Comparison) (value : Value) : Condition :=
  .all [.compare field c (.scalar value)]

/-- A relation without any names of its own. -/
def leadsTo (kind : RelationKind) (name : String) (type : EntityType) : Relation where
  name
  kind
  target := type.target

/-- The relation with the targets or links going with their owners. -/
def dependent (r : Relation) : Relation := { r with isDependent := true }

def types (q : String) : List EntityType :=
  [{ author q with relations := [
      leadsTo .oneToMany "posts" (post q),
      dependent (leadsTo .oneToOne "profile" (profile q))] },
   { post q with relations := [
      leadsTo .manyToOne "author" (author q),
      dependent (leadsTo .oneToMany "comments" (comment q)),
      dependent (leadsTo .manyToMany "tags" (tag q))] },
   comment q,
   tag q,
   { profile q with relations := [
      dependent { leadsTo .manyToOne "author" (author q) with
        conditions := entry "active" .bangEqual (.bool false) }] },
   { blogPost q with relations := [
      { leadsTo .manyToOne "editor" (author q) with foreignKey? := some "editor" },
      leadsTo .manyToOne "reviewer" (author q),
      dependent { leadsTo .oneToMany "comments" (comment q) with
        foreignKey? := some "post_uuid"
        conditions := .raw "approved = 1 OR pinned = ?" [.bool true] },
      { leadsTo .oneToOne "featured" (comment q) with
        conditions := .all [.group .or
          [entry "pinned" .equal (.bool true), entry "rank" .atLeast (.int32 10)]] },
      dependent { leadsTo .manyToMany "tags" (tag q) with
        joinTable? := some "post_labels"
        foreignKey? := some "article"
        associationKey? := some "label_id"
        conditions := entry "tags.name" .like (.text "r%") },
      leadsTo .oneToMany "drafts" (draft q)] },
   { node q with relations := [
      { leadsTo .manyToOne "parent" (node q) with foreignKey? := some "parent_id" },
      dependent { leadsTo .oneToMany "children" (node q) with foreignKey? := some "parent_id" },
      dependent { leadsTo .oneToOne "twin" (node q) with foreignKey? := some "twin_id" },
      leadsTo .manyToMany "peers" (node q)] },
   draft q,
   { broken q with relations := [
      leadsTo .oneToMany "tags" (tag q),
      leadsTo .oneToOne "tags" (tag q)] },
   { label q with relations := [
      dependent (leadsTo .oneToMany "tags" (tag q))] }]

def typeNamed? (q name : String) : Option EntityType := (types q).find? (·.name == name)

end EntityMapper.Blog
