import EntityMapper.Proofs.Reading.Column

/-!
# Reading writes

What the text of an insert or of an update sets, by the grammar that the dialects of SQL share.
Columns and the places of values are read one after the other: a null that is written out stands for
itself, and a placeholder for the next of the values that are bound.

An update is read up to the end of its assignments. What comes behind is a condition, in which there
may be anything at all, so that the text as a whole need not have tokens. It is scanned as far as it
has some (`leadingTokens`), and up to a character that stands alone this does not depend on what
comes behind.

## Structure

* `leadingTokens` — the tokens of a text as far as it has any.
* `Rule` — a rule of the grammar. It takes tokens and values from the front of what there is
  (`Source`), or fails.
* `Rule.insertion`, `Rule.update` — the two sentences.
* `Takes` — a rule takes just these tokens and values, with this result, whatever of a kind comes
  behind. `EndsList` is the kind that lists need: anything but a comma.
* `Writing.ofInsert`, `Writing.ofUpdate` — the readings of texts.
-/

namespace EntityMapper.Reading

/-! ## Texts with an open end

A scan that stops where a text has no token goes over the front of an update in the same way as a
scan of the front alone. -/

namespace Pending

/-- The tokens of a text as far as it has any, from inside of a pending token on. -/
def lead (p : Pending) : List Char → List Token
  | [] => p.close.getD []
  | c :: rest =>
    match step c p (kind c) with
    | some (ts, p) => ts ++ p.lead rest
    | none => []

/-- A text that is scanned to its end, and what comes behind it. -/
theorem lead_append {p q : Pending} {a : List Char} {ts : List Token} (h : p.scan a = some (ts, q))
    (b : List Char) : p.lead (a ++ b) = ts ++ q.lead b := by
  induction a generalizing p ts with
  | nil =>
    obtain ⟨rfl, rfl⟩ := Prod.mk.inj (Option.some.inj h)
    rfl
  | cons c rest ih =>
    obtain ⟨⟨us, next⟩, hstep, h⟩ := Option.bind_eq_some_iff.mp h
    obtain ⟨⟨vs, last⟩, hscan, h⟩ := Option.map_eq_some_iff.mp h
    obtain ⟨rfl, rfl⟩ := Prod.mk.inj h
    have hrest : next.lead (rest ++ b) = vs ++ last.lead b := ih hscan
    rw [List.cons_append, lead, hstep]
    show us ++ next.lead (rest ++ b) = us ++ vs ++ last.lead b
    rw [hrest, List.append_assoc]

end Pending

/-- The tokens that a text begins with, up to what has no place in one. -/
def leadingTokens (s : List Char) : List Token := Pending.gap.lead s

/-- Up to a character that stands alone, a text is scanned as if nothing came behind it. -/
theorem leadingTokens_append {a b : List Char} {ts : List Token} (ha : tokens a = some ts)
    (hb : ∀ c ∈ b.head?, ∃ self, kind c = .alone self) :
    leadingTokens (a ++ b) = ts ++ leadingTokens b := by
  obtain ⟨us, p, vs, hscan, hclose, rfl⟩ := tokens_eq_some_iff.mp ha
  have hlead : leadingTokens (a ++ b) = us ++ p.lead b := Pending.lead_append hscan b
  -- what is pending at the seam is closed by the character that comes there
  have hrest : p.lead b = vs ++ leadingTokens b := by
    cases b with
    | nil =>
      have hnothing : leadingTokens [] = [] := rfl
      rw [Pending.lead, hclose, hnothing, List.append_nil, Option.getD_some]
    | cons c b =>
      -- the same character ends the pending token on the one side, and begins a text on the other
      obtain ⟨self, hself⟩ := hb c rfl
      have hgap : Pending.gap.close = some [] := rfl
      unfold leadingTokens
      rw [Pending.lead, Pending.lead, hself, step_alone c self hclose, step_alone c self hgap]
      show vs ++ self ++ Pending.gap.lead b = vs ++ ([] ++ self ++ Pending.gap.lead b)
      rw [List.nil_append, List.append_assoc]
  rw [hlead, hrest, List.append_assoc]

/-! ## Rules

A grammar as a state monad over what is left to read. Each rule takes tokens from the front, and a
value for each placeholder. -/

/-- What of a text is still to be read. -/
structure Source where
  tokens : List Token
  /-- The values for the placeholders among them. -/
  values : List Value

/-- A rule of the grammar: what the next tokens stand for, and what is left behind them. -/
abbrev Rule (α : Type) := StateT Source Option α

/-- What a statement sets in a table. -/
structure Writing where
  table : String
  /-- Columns with their values, in the order of the text. -/
  entries : List (String × Value)

namespace Rule

variable {α β : Type}

/-- The next token, if it is accepted. -/
def next (accept? : Token → Option α) : Rule α := fun
  | ⟨t :: tokens, values⟩ => (accept? t).map fun x => (x, ⟨tokens, values⟩)
  | ⟨[], _⟩ => none

/-- A token that has to be there and stands for nothing. -/
def mark (is : Token → Bool) : Rule Unit := next fun t => if is t then some () else none

/-- A keyword, in any case. -/
def keyword (word : String) : Rule Unit := mark fun t => t.is word

/-- A word, taken for the name of a table or column. -/
def name : Rule String := next fun
  | .word s => some (String.ofList s)
  | _ => none

/-- A bound value is taken in its turn. -/
def bound : Rule Value := fun
  | ⟨tokens, v :: values⟩ => some (v, ⟨tokens, values⟩)
  | ⟨_, []⟩ => none

/-- The place of a value: a null, or a placeholder for a bound value. -/
def slot : Rule Value := do
  let isBound ← next fun
    | .slot _ => some true
    | t => if t.is "NULL" then some false else none
  if isBound then bound else return .null

/-- A column, an equals sign and the place of a value. -/
def assignment : Rule (String × Value) := do
  let column ← name
  mark fun t => t matches .symbol ['=']
  return (column, ← slot)

/-- A comma goes on with a list. -/
def comma : Rule Bool := fun
  | ⟨.comma :: tokens, values⟩ => some (true, ⟨tokens, values⟩)
  | s => some (false, s)

/-- Items with commas between them, of which there are no more than this many. -/
def listUpTo (item : Rule α) : Nat → Rule (List α)
  | 0 => failure
  | n + 1 => do
    let x ← item
    if ← comma then return x :: (← listUpTo item n) else return [x]

/-- A list is taken up to its end, for which the number of tokens is bound enough. -/
def listOf (item : Rule α) : Rule (List α) := fun s => listUpTo item (s.tokens.length + 1) s

/-- Something in parentheses. -/
def parenthesised (body : Rule α) : Rule α := do
  mark fun t => t matches .opening
  let x ← body
  mark fun t => t matches .closing
  return x

/-- An insert: as many values as columns, which belong together in their order. -/
def insertion : Rule Writing := do
  keyword "INSERT"
  keyword "INTO"
  let table ← name
  let columns ← parenthesised (listOf name)
  keyword "VALUES"
  let values ← parenthesised (listOf slot)
  if columns.length = values.length then return ⟨table, columns.zip values⟩ else failure

/-- An update up to the end of its assignments. -/
def update : Rule Writing := do
  keyword "UPDATE"
  let table ← name
  keyword "SET"
  return ⟨table, ← listOf assignment⟩

end Rule

namespace Writing

/-- What an insert sets, if it has a placeholder for each of the values, and ends behind the last
one. -/
def ofInsert (text : List Char) (values : List Value) : Option Writing :=
  (tokens text).bind fun ts =>
    match Rule.insertion ⟨ts, values⟩ with
    | some (w, ⟨[], []⟩) => some w
    | _ => none

/-- What an update sets, and what is left behind the assignments. -/
def ofUpdate (text : List Char) (values : List Value) : Option (Writing × Source) :=
  Rule.update ⟨leadingTokens text, values⟩

end Writing

/-! ## What rules take

`Takes` says what a rule does on tokens that stand in front of others. Rules are put together by
`bind`, and so are the facts about them. -/

namespace Rule

variable {α β : Type}

/-- A rule reads these tokens with these values as `x`, provided that what comes behind them is as
it should be, and leaves that as it is. -/
def Takes (rule : Rule α) (ts : List Token) (values : List Value) (x : α)
    (follow : List Token → Prop := fun _ => True) : Prop :=
  ∀ rest left, follow rest → rule ⟨ts ++ rest, values ++ left⟩ = some (x, ⟨rest, left⟩)

/-- Tokens by which no list goes on. -/
def EndsList (rest : List Token) : Prop := ∀ ts, rest ≠ .comma :: ts

namespace Takes

variable {rule : Rule α} {ts us : List Token} {values more : List Value} {x : α} {y : β}
  {follow follow' : List Token → Prop}

theorem pure (x : α) : Takes (Pure.pure x) [] [] x follow := fun _ _ _ => rfl

/-- One rule after the other. What is to follow the first one has to follow behind the tokens of the
second. -/
theorem bindBefore {after : α → Rule β} (h : Takes rule ts values x follow)
    (hafter : Takes (after x) us more y follow')
    (hfollow : ∀ rest, follow' rest → follow (us ++ rest)) :
    Takes (rule >>= after) (ts ++ us) (values ++ more) y follow' := by
  intro rest left hrest
  have hrule :
      rule ⟨ts ++ us ++ rest, values ++ more ++ left⟩ = some (x, ⟨us ++ rest, more ++ left⟩) := by
    rw [List.append_assoc, List.append_assoc]
    exact h (us ++ rest) (more ++ left) (hfollow rest hrest)
  show (rule _ >>= fun (x, s) => after x s) = _
  rw [hrule]
  exact hafter rest left hrest

theorem bind {after : α → Rule β} (h : Takes rule ts values x)
    (hafter : Takes (after x) us more y follow) :
    Takes (rule >>= after) (ts ++ us) (values ++ more) y follow :=
  h.bindBefore hafter fun _ _ => trivial

theorem next {accept? : Token → Option α} {t : Token} (h : accept? t = some x) :
    Takes (Rule.next accept?) [t] [] x := by
  intro rest left _
  show (accept? t).map _ = _
  rw [h]
  rfl

theorem mark {is : Token → Bool} {t : Token} (h : is t = true) : Takes (Rule.mark is) [t] [] () :=
  next (if_pos h)

theorem keyword {word : String} (h : Token.is word (.word word.toList) = true) :
    Takes (Rule.keyword word) [.word word.toList] [] () :=
  mark h

theorem name (s : String) : Takes Rule.name [.word s.toList] [] s :=
  next (congrArg some String.ofList_toList)

theorem bound (v : Value) : Takes Rule.bound [] [v] v := fun _ _ _ => rfl

/-- A null that is written out takes no value. -/
theorem slot_null : Takes Rule.slot [.word "NULL".toList] [] .null :=
  (next (t := .word "NULL".toList) (x := false) rfl).bind (pure Value.null)

theorem slot_bound (v : Value) : Takes Rule.slot [.slot none] [v] v :=
  (next (t := .slot none) (x := true) rfl).bind (bound v)

/-- An assignment takes what the place of its value takes. -/
theorem assignment (column : String) {v : Value} (h : Takes Rule.slot ts values v) :
    Takes Rule.assignment (.word column.toList :: .symbol ['='] :: ts) values (column, v) := by
  have hequals :
    Takes (Rule.mark fun t => t matches .symbol ['=']) [.symbol ['=']] [] () := mark rfl
  have hset : Takes Rule.assignment ([.word column.toList] ++ ([.symbol ['=']] ++ (ts ++ [])))
      ([] ++ ([] ++ (values ++ []))) (column, v) :=
    (name column).bind (hequals.bind (h.bind (pure (column, v))))
  simp only [List.append_nil] at hset
  exact hset

/-! ### Lists

A list goes on as long as there are commas. -/

theorem comma : Takes Rule.comma [.comma] [] true := fun _ _ _ => rfl

theorem no_comma : Takes Rule.comma [] [] false EndsList := by
  intro rest left hrest
  show Rule.comma ⟨rest, left⟩ = some (false, ⟨rest, left⟩)
  unfold Rule.comma
  split
  next heq => exact absurd (congrArg Source.tokens heq) (hrest _)
  next => rfl

variable {item : Rule α} {write : α → List Token} {held : α → List Value} {xs : List α}

/-- Items that are taken one by one are taken as a list. -/
theorem listUpTo (hne : xs ≠ []) (hitem : ∀ x ∈ xs, Takes item (write x) (held x) x) {n : Nat}
    (hn : xs.length ≤ n) :
    Takes (Rule.listUpTo item n) ([.comma].intercalate (xs.map write))
      (xs.flatMap held) xs EndsList := by
  induction xs generalizing n with
  | nil => exact absurd rfl hne
  | cons x xs ih =>
    obtain ⟨hx, hxs⟩ := List.forall_mem_cons.mp hitem
    obtain ⟨n, rfl⟩ : ∃ m, n = m + 1 := Nat.exists_eq_add_one.mpr (Nat.lt_of_lt_of_le (by simp) hn)
    cases xs with
    | nil =>
      have hlast :
        Takes (Rule.listUpTo item (n + 1)) (write x ++ ([] ++ [])) (held x ++ ([] ++ [])) [x]
          EndsList := hx.bind (no_comma.bindBefore (pure [x]) fun _ hrest => hrest)
      rw [List.map_singleton, List.intercalate_singleton, List.flatMap_singleton]
      simp only [List.append_nil] at hlast
      exact hlast
    | cons y ys =>
      -- an item, a comma, and a list that is shorter by one
      have hrest := ih (by simp) hxs (Nat.le_of_succ_le_succ hn)
      have hlist : Takes (Rule.listUpTo item (n + 1))
          (write x ++ ([.comma] ++ ([.comma].intercalate ((y :: ys).map write) ++ [])))
          (held x ++ ([] ++ ((y :: ys).flatMap held ++ []))) (x :: y :: ys) EndsList :=
        hx.bind (comma.bind (hrest.bindBefore (pure (x :: y :: ys)) fun _ hrest => hrest))
      rw [List.map_cons, List.map_cons, List.intercalate_cons_cons, List.flatMap_cons,
        List.append_assoc, ← List.map_cons]
      simp only [List.append_nil, List.nil_append] at hlist
      exact hlist

/-- Between two items there is a comma, so there are not many more items than tokens. -/
theorem length_le_intercalate (parts : List (List Token)) :
    parts.length ≤ ([.comma].intercalate parts).length + 1 := by
  induction parts with
  | nil => exact Nat.zero_le _
  | cons part parts ih =>
    cases parts with
    | nil => simp
    | cons other parts =>
      rw [List.intercalate_cons_cons]
      simp only [List.length_cons, List.length_append, List.length_nil] at ih ⊢
      omega

theorem listOf (hne : xs ≠ []) (hitem : ∀ x ∈ xs, Takes item (write x) (held x) x) :
    Takes (Rule.listOf item) ([.comma].intercalate (xs.map write))
      (xs.flatMap held) xs EndsList := by
  intro rest left hrest
  have hparts := length_le_intercalate (xs.map write)
  rw [List.length_map] at hparts
  refine listUpTo hne hitem ?_ rest left hrest
  rw [List.length_append]
  omega

/-- Between parentheses, a list ends at the closing one. -/
theorem parenthesised (hne : xs ≠ []) (hitem : ∀ x ∈ xs, Takes item (write x) (held x) x) :
    Takes (Rule.parenthesised (Rule.listOf item))
      (.opening :: [.comma].intercalate (xs.map write) ++ [.closing]) (xs.flatMap held) xs := by
  have hopening : Takes (Rule.mark fun t => t matches .opening) [.opening] [] () := mark rfl
  have hclosing : Takes (Rule.mark fun t => t matches .closing) [.closing] [] () := mark rfl
  have hends : ∀ rest, EndsList ([.closing] ++ [] ++ rest) := fun rest ts h => by simp at h
  have hgroup : Takes (Rule.parenthesised (Rule.listOf item))
      ([.opening] ++ ([.comma].intercalate (xs.map write) ++ ([.closing] ++ [])))
      ([] ++ (xs.flatMap held ++ ([] ++ []))) xs :=
    hopening.bind ((listOf hne hitem).bindBefore (hclosing.bind (pure xs)) fun rest _ => hends rest)
  simp only [List.append_nil, List.nil_append] at hgroup
  exact hgroup

end Takes

end Rule

end EntityMapper.Reading
