import EntityMapper.Text.Case

/-!
# Naming conventions

Tables, foreign keys and join tables that nobody named get their names from those of the entities. A
convention says how a name is broken into words and how a word is made plural; every default name is
derived from these two, unless the convention has another way to form it.

The English convention writes words in lower case with underscores between them. A word begins at a
capital that follows a lower-case letter or a digit, and at the last capital of a row of capitals if
a lower-case letter follows it.
-/

namespace EntityMapper

/-- How default names are formed. -/
structure Naming where
  /-- Breaks a name into words: `BlogPost` gives `blog_post`. -/
  underscore : String → String
  /-- The plural of a word: `post` gives `posts`. -/
  pluralize : String → String
  /-- The default table of an entity type: `BlogPost` gives `blog_posts`. -/
  tableName (entity : String) : String := pluralize (underscore entity)
  /-- The default column that refers to an entity by its key: `Post` and `id` give `post_id`. -/
  foreignKey (entity key : String) : String := underscore (entity ++ "_" ++ key)
  /-- The default table that joins two entity types: `Post` and `Tag` give `post_tag`. -/
  joinTable (owner target : String) : String := underscore (owner ++ "_" ++ target)

namespace Naming

/-! ## The English convention -/

/-- Whether a capital begins a word, given the characters on either side of it. -/
def beginsWord (before after : Option Char) : Bool :=
  match before with
  | none => false
  | some p =>
    -- `postTag` parts before the `T`, and `HTTPServer` before the `S`
    if Text.isLower p || p.isDigit then true
    else if Text.isUpper p then (after.map Text.isLower).getD false
    else false

/-- The words of what follows the character `before`; `separated` says that the last character
written is an underscore, so that no second one is called for. -/
def underscoreFrom (before : Option Char) (separated : Bool) : List Char → List Char
  | [] => []
  | c :: rest =>
    if Text.isUpper c then
      (if beginsWord before rest.head? && !separated then ['_'] else [])
        ++ Text.lowerChar c ++ underscoreFrom (some c) false rest
    else if c == '-' || c == ' ' then
      (if separated then [] else ['_']) ++ underscoreFrom (some c) true rest
    else c :: underscoreFrom (some c) (c == '_') rest

/-- The English plural: `category` gives `categories`, `box` gives `boxes`, `day` gives `days`. The
word is given and taken apart in reverse. -/
def pluralReversed : List Char → List Char
  | 'y' :: before =>
    match before with
    | [] => ['s', 'e', 'i']
    | v :: _ =>
      if v ∈ ['a', 'e', 'i', 'o', 'u'] then 's' :: 'y' :: before else 's' :: 'e' :: 'i' :: before
  | 'h' :: before =>
    match before with
    | 's' :: _ => 's' :: 'e' :: 'h' :: before
    | 'c' :: _ => 's' :: 'e' :: 'h' :: before
    | _ => 's' :: 'h' :: before
  | 's' :: before => 's' :: 'e' :: 's' :: before
  | 'x' :: before => 's' :: 'e' :: 'x' :: before
  | 'z' :: before => 's' :: 'e' :: 'z' :: before
  | word => 's' :: word

/-- Lower-case words with underscores between them, and English plurals. -/
def english : Naming where
  underscore name := String.ofList (underscoreFrom none false name.toList)
  pluralize word := String.ofList (pluralReversed word.toList.reverse).reverse

/-- The words of the English convention without plurals: a table is named like one of its rows. -/
def singular : Naming where
  underscore := english.underscore
  pluralize := id

end Naming

end EntityMapper
