import EntityMapper.Condition.Operator
import EntityMapper.Proofs.Reading.Token

/-!
# Reading predicates

What the text of a predicate says, by the grammar that the dialects of SQL share: parentheses bind
tightest, then `NOT`, then `AND`, then `XOR`, and `OR` weakest. A text is taken apart the other way
round. What stands between two parentheses is read first and becomes a single element of what stands
around it; a sequence of elements is cut at every `OR`, each part at every `XOR`, each part of these
at every `AND`, and what is left is a comparison with any number of `NOT` in front, or a pair of
parentheses.

A predicate has one of three truth values, as a comparison with null is neither true nor false.

## Structure

* `Truth` — the three values with their connectives.
* `Atom`, `Formula` — what a predicate can say. Atoms are comparisons as they are written; their
  truth is given by a row.
* `nest`, `elements` — tokens become elements, with parentheses as trees.
* `readOne`, `readAll`, `readOdd`, `read` — the levels of the grammar, from the tightest to the
  weakest. Each cuts at its own connective and leaves the parts to the level below.
* `Formula.ofText` — all of it, for a text and what stands for its placeholders.

There is nothing about conditions in this module, nor about how they are written. It is what a text
says to someone who knows the language and nothing of the program.
-/

namespace EntityMapper

/-! ## Three truth values -/

/-- What a predicate may say about a row. -/
inductive Truth where
  | no
  | unknown
  | yes
deriving DecidableEq, Repr

namespace Truth

/-- The negation; what is not known stays so. -/
def not : Truth → Truth
  | no => yes
  | unknown => unknown
  | yes => no

/-- The conjunction, which is known as soon as one part is false. -/
def and : Truth → Truth → Truth
  | no, _ => no
  | _, no => no
  | yes, yes => yes
  | _, _ => unknown

/-- The disjunction, which is known as soon as one part is true. -/
def or : Truth → Truth → Truth
  | yes, _ => yes
  | _, yes => yes
  | no, no => no
  | _, _ => unknown

/-- The exclusive disjunction, for which both parts have to be known. -/
def xor : Truth → Truth → Truth
  | unknown, _ => unknown
  | _, unknown => unknown
  | yes, b => b.not
  | no, b => b

/-- Whether all of some hold. -/
def all (l : List Truth) : Truth := l.foldr and yes

/-- Whether any of some holds. -/
def any (l : List Truth) : Truth := l.foldr or no

/-- Whether an odd number of some holds. -/
def odd (l : List Truth) : Truth := l.foldr xor no

end Truth

/-- What a connective makes of the truth values of its parts. A negation denies that all of them
hold. -/
def Connective.combine : Connective → List Truth → Truth
  | .and, l => Truth.all l
  | .or, l => Truth.any l
  | .xor, l => Truth.odd l
  | .not, l => (Truth.all l).not

namespace Truth

/-- Truth is neutral for `and`, which `all` ends in. -/
theorem and_yes (a : Truth) : a.and yes = a := by cases a <;> rfl

/-- Falsehood is neutral for `or`, which `any` ends in. -/
theorem or_no (a : Truth) : a.or no = a := by cases a <;> rfl

/-- Falsehood is neutral for `xor`, which `odd` ends in. -/
theorem xor_no (a : Truth) : a.xor no = a := by cases a <;> rfl

end Truth

namespace Reading

/-! ## Formulas -/

/-- A comparison that may hold of a row. -/
inductive Atom where
  | compares (column : String) (c : Comparison) (value? : Option Value)
  | among (column : String) (values : List (Option Value))
  | isNull (column : String)
  | isNotNull (column : String)
  /-- A comparison of a form that is not looked into. -/
  | other (tokens : List Token)

/-- What a predicate says. -/
inductive Formula where
  | atom (a : Atom)
  /-- Holds of no row. -/
  | never
  | not (f : Formula)
  | and (f g : Formula)
  | xor (f g : Formula)
  | or (f g : Formula)

/-- Whether a formula holds of a row of which it is known which comparisons hold. -/
def Formula.truth (row : Atom → Truth) : Formula → Truth
  | .atom a => row a
  | .never => .no
  | .not f => (f.truth row).not
  | .and f g => (f.truth row).and (g.truth row)
  | .xor f g => (f.truth row).xor (g.truth row)
  | .or f g => (f.truth row).or (g.truth row)

/-! ## Comparisons

What a sequence of tokens without connectives stands for. Forms that are not known are kept as they
are, since a predicate with such a form still has its shape. -/

/-- Whether a token is a keyword, in any case. -/
def Token.is (keyword : String) : Token → Bool
  | .word s => s.map Char.toUpper == keyword.toList
  | _ => false

/-- The comparison that a token stands for, be it written as a word or as a symbol. -/
def Token.comparison? : Token → Option Comparison
  | .word s => Comparison.ofToken? (String.ofList s)
  | .symbol s => Comparison.ofToken? (String.ofList s)
  | _ => none

/-- The values of the placeholders in a list that a parenthesis closes. -/
def slotList? : List Token → Option (List (Option Value))
  | [.slot value?, .closing] => some [value?]
  | .slot value? :: .comma :: rest => (slotList? rest).map (value? :: ·)
  | _ => none

/-- The comparison of a column that the tokens behind it make up. -/
def Atom.ofColumn? (column : String) : List Token → Option Atom
  | [t, .slot value?] => t.comparison?.map fun c => .compares column c value?
  | [t, u] => if t.is "IS" && u.is "NULL" then some (.isNull column) else none
  | [t, u, v] =>
    if t.is "IS" && u.is "NOT" && v.is "NULL" then some (.isNotNull column) else none
  | t :: .opening :: rest =>
    if t.is "IN" then (slotList? rest).map (.among column) else none
  | _ => none

/-- What the tokens of a single comparison say. -/
def Formula.ofTokens (ts : List Token) : Formula :=
  match ts with
  | [.word ['1'], .symbol ['='], .word ['0']] => .never
  | .word s :: rest =>
    match Atom.ofColumn? (String.ofList s) rest with
    | some a => .atom a
    | none => .atom (.other ts)
  | _ => .atom (.other ts)

/-! ## Elements

The parts of a sequence at one depth of parentheses. -/

/-- A token, or what stands between two parentheses. -/
inductive Element where
  | token (t : Token)
  /-- A token that belongs to a comparison, whatever word it is. -/
  | held (t : Token)
  /-- What a pair of parentheses says, if it says something by itself, and the tokens between them.
  -/
  | group (read? : Option Formula) (inner : List Token)

namespace Element

/-- The tokens of an element. -/
def tokens : Element → List Token
  | token t => [t]
  | held t => [t]
  | group _ inner => .opening :: inner ++ [.closing]

/-- Whether an element is a keyword that has not been taken for part of a comparison. -/
def is (keyword : String) : Element → Bool
  | token t => t.is keyword
  | _ => false

/-- An element that belongs to a comparison is not taken for a keyword any more. -/
def hold : Element → Element
  | token t => held t
  | e => e

end Element

/-- Finds the words that belong to comparisons: the `AND` of a `BETWEEN`, and all that stands in a
`CASE`. `awaited` are the words that have to come before the words themselves count again. -/
def settle (awaited : List String) : List Element → Option (List Element)
  | [] => if awaited.isEmpty then some [] else none
  | e :: rest =>
    if e.is "BETWEEN" then (settle ("AND" :: awaited) rest).map (e.hold :: ·)
    else if e.is "CASE" then (settle ("END" :: awaited) rest).map (e.hold :: ·)
    else
      match awaited with
      | [] => (settle [] rest).map (e :: ·)
      | k :: outer => (settle (if e.is k then outer else awaited) rest).map (e.hold :: ·)

/-! ## Sequences

The levels of the grammar, from the strongest to the weakest. -/

/-- The sequences between the places of a keyword. -/
def cut (keyword : String) (es : List Element) : List (List Element) := es.splitOnP (·.is keyword)

/-- Parts that are read one by one, with a connective between each two. -/
def chained (join : Formula → Formula → Formula) (read : List Element → Option Formula) :
    List (List Element) → Option Formula
  | [] => none
  | [part] => read part
  | part :: rest => (read part).bind fun f => (chained join read rest).map (join f)

/-- What a sequence without connectives says. -/
def readOne : List Element → Option Formula
  | [] => none
  | [.group read? _] => read?
  | e :: rest =>
    if e.is "NOT" then (readOne rest).map .not
    else some (.ofTokens ((e :: rest).flatMap Element.tokens))

/-- What a sequence without `OR` and `XOR` says. -/
def readAll (es : List Element) : Option Formula := chained .and readOne (cut "AND" es)

/-- What a sequence without `OR` says. -/
def readOdd (es : List Element) : Option Formula := chained .xor readAll (cut "XOR" es)

/-- What a sequence says. -/
def read (es : List Element) : Option Formula :=
  (settle [] es).bind fun es => chained .or readOdd (cut "OR" es)

/-! ## Nesting

Parentheses are matched by a stack of open sequences. What is closed is read at once and becomes one
element of the sequence around it. -/

/-- One token, met with these sequences open, the innermost first. -/
def nestToken : List (List Element) → Token → Option (List (List Element))
  | es :: outer, .opening => some ([] :: es :: outer)
  | es :: around :: outer, .closing =>
    some ((around ++ [.group (read es) (es.flatMap Element.tokens)]) :: outer)
  | [_], .closing => none
  | es :: outer, t => some ((es ++ [.token t]) :: outer)
  | [], _ => none

/-- All tokens, one after the other. -/
def nest (open_ : List (List Element)) : List Token → Option (List (List Element))
  | [] => some open_
  | t :: rest => (nestToken open_ t).bind fun open_ => nest open_ rest

/-- The elements of tokens whose parentheses match. -/
def elements (ts : List Token) : Option (List Element) :=
  match nest [[]] ts with
  | some [es] => some es
  | _ => none

/-! ## Reading

All of it: tokens, values, parentheses and connectives. -/

/-- Puts values into the placeholders, as many as there are. -/
def fill : List (Option Value) → List Token → Option (List Token)
  | [], [] => some []
  | _ :: _, [] => none
  | [], .slot _ :: _ => none
  | v :: values, .slot _ :: rest => (fill values rest).map (.slot v :: ·)
  | values, t :: rest => (fill values rest).map (t :: ·)

/-- What a text says with these values in its placeholders. -/
def Formula.ofText (text : List Char) (values : List (Option Value)) : Option Formula :=
  (tokens text).bind fun ts => (fill values ts).bind fun ts => (elements ts).bind read

end Reading

end EntityMapper
