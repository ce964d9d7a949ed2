import EntityMapper.Proofs.Condition.Leaves
import EntityMapper.Proofs.Reading.Column
import Mathlib.Data.List.Forall2

/-!
# What conditions mean

A condition says by its shape of which rows it holds. Its predicate says so as well, as a text that
is read by the grammar of SQL, with no knowledge of the condition that it was written for. The main
statement, `predicate_means`, is that both say the same of every row.

The connection is a fragment's flag. A fragment that is not compound is a plain sequence: no
connective reaches into it from outside. A compound one is put in parentheses wherever it has a
neighbour, and is a plain sequence then.

## Structure

* `truth` — what a condition says by its shape, in three values.
* `ReadsAs` — what a piece of SQL is taken apart into, wherever it stands. Parentheses, separators
  and lists are read by their parts.
* `Fragment.Means` — a fragment is read as elements that say something, and if it is not compound
  these elements are plain. `Means.guarded` is the step by which a fragment becomes part of a
  conjunction.
* `exists_means_comparison`, `exists_means_raw` — the leaves.
* `exists_means_conjunction`, `exists_means_group` — the two ways of putting fragments together.
* `exists_means` — the induction over conditions. `predicate_means` is what it says of the text
  alone.

Values have their part in the reading: each placeholder is read together with the value that is
bound in its place, if the text has a value for it (`holders`). `RawsBound` is the condition under
which every placeholder has one.
-/

namespace EntityMapper

open Reading

/-! ## Values for placeholders

A statement is sent as a text with placeholders and a list of values. To read it means to put the
values back in their places. -/

/-- What the placeholders of a text stand for, given the values that it brings; those that no value
is left for stand for nothing. -/
def Reading.holders (text : List Char) (values : List Value) : List (Option Value) :=
  match tokens text with
  | some ts => (List.range (ts.countP fun t => t matches .slot _)).map (values[·]?)
  | none => []

namespace Reading

/-- Blanks at either end of a text are between tokens, so `Text.trimmed` leaves the tokens alone. -/
theorem tokens_trimmed (sql : String) : tokens (Text.trimmed sql).toList = tokens sql.toList := by
  rw [Text.trimmed, String.toList_ofList, tokens_trim]

/-- `holders` counts the placeholders among the tokens, which are the same. -/
theorem holders_trimmed (sql : String) (values : List Value) :
    Reading.holders (Text.trimmed sql).toList values = Reading.holders sql.toList values := by
  rw [Reading.holders, tokens_trimmed, Reading.holders]

end Reading

namespace Sql

/-- What the placeholders of a piece stand for. A placeholder that was written for a value stands
for it; those of ready-made SQL take the values that it brings, as far as these go. -/
def Piece.holders : Piece → List (Option Value)
  | .text _ => []
  | .slot value => [some value]
  | .raw s values => Reading.holders s.toList values

/-- What the placeholders of a text stand for, in their order. -/
def holders (sql : Sql) : List (Option Value) := sql.flatMap Piece.holders

end Sql

namespace Condition

/-! ## Meaning by shape

The first account of what a condition says, by recursion on its shape alone. It does not look at any
text but that of ready-made SQL. -/

/-- What a comparison says. -/
def comparisonFormula (field : String) (c : Comparison) : Operand → Formula
  | .oneOf [] => .never
  | .oneOf values => .atom (.among field (values.map some))
  | .scalar value =>
    if value.isNull && c == .equal then .atom (.isNull field)
    else if value.isNull && c.isInequality then .atom (.isNotNull field)
    else .atom (.compares field c (some value))

/-- What ready-made SQL says when it is read by itself. -/
def rawFormula? (sql : String) (values : List Value) : Option Formula :=
  Formula.ofText sql.toList (Reading.holders sql.toList values)

mutual

/-- Whether a condition holds of a row of which it is known which comparisons hold. -/
def truth (row : Atom → Truth) : Condition → Truth
  | .all children => Truth.all (truths row children)
  | .group connective children => connective.combine (truths row children)
  | .compare field c operand => (comparisonFormula field c operand).truth row
  | .raw sql values => ((rawFormula? sql values).map fun f => f.truth row).getD .unknown

/-- The truths of those children that are not empty. -/
def truths (row : Atom → Truth) : List Condition → List Truth
  | [] => []
  | c :: rest => if c.isEmpty then truths row rest else truth row c :: truths row rest

end

/-- Every comparison is that of a column, and every ready-made piece that is not blank is a
predicate by itself. -/
structure Readable (c : Condition) : Prop where
  columns : ∀ field comparison operand, .compare field comparison operand ∈ c.leaves →
    isColumn field = true
  raws : ∀ sql values, .raw sql values ∈ c.leaves → Text.isBlankText sql = false →
    (rawFormula? sql values).isSome = true

end Condition

/-! ## Fragments

The second account is what `Formula.ofText` makes of the text. `ReadsAs` says how a piece of SQL is
taken apart into elements wherever it stands, and `Fragment.Means` what these elements say
together. -/

namespace Sql

/-- A piece of SQL that is a sequence of elements, wherever it stands. -/
def ReadsAs (sql : Sql) (es : List Element) : Prop := Reads sql.chars sql.holders es

/-- Between parentheses a sequence is one element, a group. What it holds is kept twice: as what it
is read as, if it is a predicate, and as its tokens. -/
theorem ReadsAs.parenthesised {sql : Sql} {es : List Element} (h : sql.ReadsAs es) :
    sql.parenthesised.ReadsAs [.group (read es) (es.flatMap Element.tokens)] := by
  have hchars : sql.parenthesised.chars = '(' :: sql.chars ++ [')'] := by
    simp [Sql.parenthesised, Sql.chars, Piece.chars]
  have hholders : sql.parenthesised.holders = sql.holders := by
    simp [Sql.parenthesised, Sql.holders, Piece.holders]
  rw [ReadsAs, hchars, hholders]
  exact Reads.group h

/-- Placeholders are met in the order of the text. -/
theorem holders_append (a b : Sql) : holders (a ++ b) = holders a ++ holders b :=
  List.flatMap_append

/-- Parts with a separator between each two, where the separator is one element. -/
theorem ReadsAs.separated (separator : String) (e : Element)
    (hseparator : ∀ {a b : List Char} {vs ws : List (Option Value)} {es gs : List Element},
      Reads a vs es → Reads b ws gs → Reads (a ++ (separator.toList ++ b)) (vs ++ ws)
        (es ++ e :: gs))
    {parts : List Sql} {seqs : List (List Element)} (h : List.Forall₂ ReadsAs parts seqs) :
    (Sql.joined separator parts).ReadsAs ([e].intercalate seqs) := by
  induction h with
  | nil => exact .nil
  | @cons part es parts seqs hpart hparts ih =>
    cases hparts with
    | nil =>
      rw [Sql.joined_singleton, List.intercalate_singleton]
      exact hpart
    | @cons next fs rest seqs hnext hrest =>
      -- the first part is set off from the others by one separator
      have hchars : (Sql.joined separator (part :: next :: rest)).chars =
          part.chars ++ (separator.toList ++ (Sql.joined separator (next :: rest)).chars) := by
        simp [Sql.chars, Piece.chars]
      have hholders : (Sql.joined separator (part :: next :: rest)).holders =
          part.holders ++ (Sql.joined separator (next :: rest)).holders := by
        simp [Sql.holders, Piece.holders]
      rw [ReadsAs, hchars, hholders, List.intercalate_cons_cons, List.append_assoc]
      exact hseparator hpart ih

/-- Parts with a connective between them: `ReadsAs.separated`, where the separator is a word between
blanks. -/
theorem ReadsAs.joined {k : Connective} {parts : List Sql} {seqs : List (List Element)}
    (h : List.Forall₂ ReadsAs parts seqs) :
    (Sql.joined s!" {k.token} " parts).ReadsAs (Reading.joined k.token seqs) := by
  have hword : Reads k.token.toList [] [.token (.word k.token.toList)] :=
    .keyword k.token (by cases k <;> rfl)
  refine ReadsAs.separated _ _ (fun ha hb => ?_) h
  simpa [toString] using ha.append_space (hword.append_space hb)

theorem ReadsAs.listed {parts : List Sql} {seqs : List (List Element)}
    (h : List.Forall₂ ReadsAs parts seqs) :
    (Sql.joined ", " parts).ReadsAs ([.token .comma].intercalate seqs) :=
  ReadsAs.separated ", " (.token .comma)
    (fun ha hb => ha.append_comma (Reads.nil.append_space hb)) h

end Sql

/-- A fragment that says `g`. Unless it is compound, no connective can reach into it. -/
structure Fragment.Means (f : Fragment) (es : List Element) (g : Formula) : Prop where
  reads : f.sql.ReadsAs es
  read : Reading.read es = some g
  plain : f.compound = false → Plain es g

namespace Fragment

/-- What is plain can be read by itself (`read_plain`), whatever its flag. -/
theorem Means.of_plain {sql : Sql} {es : List Element} {g : Formula} (hreads : sql.ReadsAs es)
    (h : Plain es g) (compound : Bool) : Means ⟨sql, compound⟩ es g :=
  ⟨hreads, read_plain h, fun _ => h⟩

/-- In parentheses every fragment is plain, since a group is one element and no word. -/
theorem Means.parenthesised {f : Fragment} {es : List Element} {g : Formula} (h : f.Means es g) :
    ∃ fs, f.sql.parenthesised.ReadsAs fs ∧ Plain fs g := by
  refine ⟨_, h.reads.parenthesised, ?_, h.read⟩
  intro e he
  rw [List.mem_singleton.mp he]
  rfl

/-- `guarded` adds parentheses just where the flag asks for them, and what has no flag is plain as
it is. -/
theorem Means.guarded {f : Fragment} {es : List Element} {g : Formula} (h : f.Means es g) :
    ∃ fs, f.guarded.ReadsAs fs ∧ Plain fs g := by
  rw [Fragment.guarded]
  split
  next => exact h.parenthesised
  next hcompound => exact ⟨es, h.reads, h.plain (by simpa using hcompound)⟩

/-! ### Comparisons and ready-made SQL

The leaves of a condition. A comparison has its formula by the grammar's own account of comparisons
(`exists_reads_compares` and its kind). -/

/-- The placeholders of a list stand for the values it was made of. Induction, with one and with
more values left. -/
theorem holders_joined_slots (values : List Value) :
    (Sql.joined ", " (values.map fun v => [.slot v])).holders = values.map some := by
  induction values with
  | nil => rfl
  | cons v rest ih =>
    cases rest with
    | nil => rfl
    | cons w rest =>
      rw [List.map_cons (f := some), ← ih]
      rfl

/-- Such a list is read as placeholders with commas between them, by `ReadsAs.listed`. -/
theorem readsAs_slots (values : List Value) :
    (Sql.joined ", " (values.map fun v => [.slot v])).ReadsAs (slotElements (values.map some)) := by
  rw [slotElements_eq_intercalate]
  refine .listed (List.forall₂_map_left_iff.mpr ?_)
  rw [List.map_map]
  exact List.forall₂_map_right_iff.mpr (List.forall₂_same.mpr fun v _ => Reads.slot (some v))

/-- `ReadsAs` is about a text and what its placeholders stand for, both of which are worked out
first. -/
theorem readsAs_of_chars {sql : Sql} {text : List Char} {values : List (Option Value)}
    {es : List Element} (h : Reads text values es) (hchars : sql.chars = text)
    (hholders : sql.holders = values) : sql.ReadsAs es := by
  rw [Sql.ReadsAs, hchars, hholders]
  exact h

/-- A comparison is plain, and says what `comparisonFormula` says. The cases are those of
`comparison`: no values, some values, and for a single value the two tests for null and the rest. -/
theorem exists_means_comparison {field : String} (h : isColumn field = true) (c : Comparison)
    (operand : Operand) :
    ∃ es, (comparison field c operand).Means es (Condition.comparisonFormula field c operand)
      ∧ ∀ e ∈ es, e.Compares field := by
  match operand with
  | .oneOf [] =>
    -- `1 = 0`, which no row fulfils
    obtain ⟨es, hreads, hplain, hes⟩ := exists_reads_never field
    exact ⟨es, .of_plain (readsAs_of_chars hreads (by rfl) rfl) hplain _, hes⟩
  | .oneOf (v :: rest) =>
    have hslots := readsAs_slots (v :: rest)
    rw [Sql.ReadsAs, holders_joined_slots] at hslots
    obtain ⟨es, hreads, hplain, hes⟩ := exists_reads_among h (by simp) hslots
    refine ⟨es, .of_plain (readsAs_of_chars hreads ?_ ?_) hplain _, hes⟩
    · simp [Sql.chars, Sql.Piece.chars, toString]
    · rw [← holders_joined_slots]
      simp [Sql.holders, Sql.Piece.holders]
  | .scalar value =>
    -- the two tests for null come first, and bind nothing
    rw [comparison, Condition.comparisonFormula]
    split
    · obtain ⟨es, hreads, hplain, hes⟩ := exists_reads_isNull h
      refine ⟨es, .of_plain (readsAs_of_chars hreads ?_ rfl) hplain _, hes⟩
      simp [Sql.plain, Sql.chars, Sql.Piece.chars, toString]
    · split
      · obtain ⟨es, hreads, hplain, hes⟩ := exists_reads_isNotNull h
        refine ⟨es, .of_plain (readsAs_of_chars hreads ?_ rfl) hplain _, hes⟩
        simp [Sql.plain, Sql.chars, Sql.Piece.chars, toString]
      · obtain ⟨es, hreads, hplain, hes⟩ := exists_reads_compares h c (some value)
        refine ⟨es, .of_plain (readsAs_of_chars hreads ?_ rfl) hplain _, hes⟩
        simp [Sql.chars, Sql.Piece.chars, toString]

/-- Ready-made SQL is read as it was before it was trimmed. -/
theorem readsAs_raw {sql : String} {values : List Value} {es : List Element}
    (h : Reads sql.toList (Reading.holders sql.toList values) es) :
    Sql.ReadsAs [.raw (Text.trimmed sql) values] es := by
  obtain ⟨ts, filled, hts, hfilled, hnests⟩ := h
  have htrimmed :
      Reads (Text.trimmed sql).toList (Reading.holders (Text.trimmed sql).toList values) es := by
    rw [holders_trimmed]
    exact ⟨ts, filled, (tokens_trimmed sql).trans hts, hfilled, hnests⟩
  exact readsAs_of_chars htrimmed (by simp [Sql.chars, Sql.Piece.chars])
    (by simp [Sql.holders, Sql.Piece.holders])

/-- Ready-made SQL that is a predicate means what it is read as by itself. It is compound whatever
it says, so nothing has to be plain. -/
theorem exists_means_raw {sql : String} {values : List Value} {g : Formula}
    (h : Condition.rawFormula? sql values = some g) :
    ∃ es, (⟨[.raw (Text.trimmed sql) values], true⟩ : Fragment).Means es g := by
  obtain ⟨es, hreads, hread⟩ := Reads.of_ofText h
  exact ⟨es, readsAs_raw hreads, hread, by simp⟩

/-! ### Groups

The inner nodes. Both ways to put fragments together, with guards and with parentheses, come down to
`exists_reads_joined`: what was made plain is joined, and the grammar splits the text at the same
connectives again. -/

/-- Fragments that say something, each with the elements that it is read as. -/
def AllMean (fragments : List Fragment) (parts : List (List Element × Formula)) : Prop :=
  List.Forall₂ (fun f part => f.Means part.1 part.2) fragments parts

/-- Fragments that are made plain, by parentheses or by a guard, with a connective between them. -/
theorem exists_reads_joined {k : Connective} (hk : k ≠ .not) {make : Fragment → Sql}
    (hmake : ∀ f es g, f.Means es g → ∃ fs, (make f).ReadsAs fs ∧ Plain fs g)
    {fragments : List Fragment}
    {parts : List (List Element × Formula)} (hne : parts ≠ []) (h : AllMean fragments parts) :
    ∃ es g, (Sql.joined s!" {k.token} " (fragments.map make)).ReadsAs es ∧ read es = some g
      ∧ ∀ row, g.truth row = k.combine (parts.map fun part => part.2.truth row) := by
  -- the same formulas, each with the elements that it is read as once it is made plain
  have hplain : ∃ plain : List (List Element × Formula),
      List.Forall₂ Sql.ReadsAs (fragments.map make) (plain.map Prod.fst)
        ∧ (∀ part ∈ plain, Plain part.1 part.2) ∧ plain.map Prod.snd = parts.map Prod.snd := by
    clear hne
    induction h with
    | nil => exact ⟨[], .nil, by simp, rfl⟩
    | @cons f part _ _ hf _ ih =>
      obtain ⟨plain, hreads, hplain, hsnd⟩ := ih
      obtain ⟨fs, hfs, hg⟩ := hmake f part.1 part.2 hf
      exact ⟨(fs, part.2) :: plain, .cons hfs hreads, List.forall_mem_cons.mpr ⟨hg, hplain⟩,
        by simp [hsnd]⟩
  obtain ⟨plain, hreads, hplain, hsnd⟩ := hplain
  have hne' : plain ≠ [] := by
    rintro rfl
    exact hne (List.map_eq_nil_iff.mp hsnd.symm)
  -- plain parts may stand between connectives; the grammar puts them together again
  obtain ⟨g, hg, htruth⟩ := read_joined hk hne' hplain
  refine ⟨_, g, Sql.ReadsAs.joined hreads, hg, fun row => ?_⟩
  rw [htruth row]
  have := congrArg (List.map fun g : Formula => g.truth row) hsnd
  simpa [Function.comp_def] using congrArg k.combine this

/-- An unwritten conjunction: nothing is added to a single fragment, and several are guarded and
have `AND` between them. -/
theorem exists_means_conjunction {fragments : List Fragment} {parts : List (List Element × Formula)}
    (hne : parts ≠ []) (h : AllMean fragments parts) :
    ∃ f es g, conjunction? fragments = some f ∧ f.Means es g
      ∧ ∀ row, g.truth row = Truth.all (parts.map fun part => part.2.truth row) := by
  match fragments, parts, h with
  | [], [], _ => exact absurd rfl hne
  | [f], [part], .cons hf .nil =>
    exact ⟨f, part.1, part.2, rfl, hf, fun row => (Truth.and_yes _).symm⟩
  | f :: f' :: rest, parts, h =>
    obtain ⟨es, g, hreads, hread, htruth⟩ :=
      exists_reads_joined (k := .and) (by simp) (fun _ _ _ h => h.guarded) hne h
    exact ⟨_, es, g, rfl, ⟨hreads, hread, by simp⟩, htruth⟩

/-- `NOT` and a group behind it. -/
theorem readsAs_not {inner : Sql} {es : List Element} (h : inner.ReadsAs es) :
    Sql.ReadsAs (.text "NOT (" :: inner ++ [.text ")"])
      [.token (.word "NOT".toList), .group (read es) (es.flatMap Element.tokens)] := by
  have hnot : Reads "NOT".toList [] [.token (.word "NOT".toList)] := .keyword "NOT" rfl
  refine readsAs_of_chars (hnot.append_space (Reads.group h)) ?_ ?_
  · simp [Sql.chars, Sql.Piece.chars]
  · simp [Sql.holders, Sql.Piece.holders]

/-- The negation of what can be read. Nothing is asked of what is negated, since it stands in
parentheses. -/
theorem exists_means_not {inner : Sql} {es : List Element} {g : Formula} (hreads : inner.ReadsAs es)
    (hread : read es = some g) :
    ∃ fs, (⟨.text "NOT (" :: inner ++ [.text ")"], false⟩ : Fragment).Means fs (.not g) := by
  -- neither `NOT` nor a group is a word between comparisons, so the whole is plain
  refine ⟨_, .of_plain (readsAs_not hreads) ⟨?_, ?_⟩ _⟩
  · intro e he
    rcases List.mem_cons.mp he with rfl | he
    · decide
    · rw [List.mem_singleton.mp he]; rfl
  · show (readOne [.group (read es) _]).map Formula.not = _
    rw [readOne, hread]
    rfl

/-- Fragments in parentheses, with a connective between each two. -/
theorem exists_means_between {k : Connective} (hk : k ≠ .not) {fragments : List Fragment}
    {parts : List (List Element × Formula)} (hne : parts ≠ []) (h : AllMean fragments parts) :
    ∃ es g, Means ⟨between k fragments, true⟩ es g
      ∧ ∀ row, g.truth row = k.combine (parts.map fun part => part.2.truth row) := by
  obtain ⟨es, g, hreads, hread, htruth⟩ :=
    exists_reads_joined hk (fun _ _ _ h => h.parenthesised) hne h
  exact ⟨es, g, ⟨hreads, hread, by simp⟩, htruth⟩

/-- A group says what its connective makes of what its parts say. By cases on the connective; `NOT`
is for one part or for the conjunction of several. -/
theorem exists_means_group {k : Connective} {fragments : List Fragment}
    {parts : List (List Element × Formula)} (hne : parts ≠ []) (h : AllMean fragments parts) :
    ∃ f es g, group? k fragments = some f ∧ f.Means es g
      ∧ ∀ row, g.truth row = k.combine (parts.map fun part => part.2.truth row) := by
  have hfragments : fragments ≠ [] := by
    rintro rfl
    cases h
    exact hne rfl
  unfold group?
  rw [if_neg (by simpa using hfragments)]
  cases k with
  | not =>
    -- what is negated is the only part as it is, or the conjunction of the parts
    have hinner : ∃ inner es g, negation fragments = ⟨.text "NOT (" :: inner ++ [.text ")"], false⟩
        ∧ Sql.ReadsAs inner es ∧ read es = some g
        ∧ ∀ row, g.truth row = Truth.all (parts.map fun part => part.2.truth row) := by
      match fragments, parts, h with
      | [f], [part], .cons hf .nil =>
        exact ⟨f.sql, part.1, part.2, rfl, hf.reads, hf.read, fun row => (Truth.and_yes _).symm⟩
      | f :: f' :: rest, parts, h =>
        obtain ⟨es, g, hmeans, htruth⟩ := exists_means_between (k := .and) (by simp) hne h
        exact ⟨_, es, g, rfl, hmeans.reads, hmeans.read, htruth⟩
    obtain ⟨inner, es, g, hnegation, hreads, hread, htruth⟩ := hinner
    obtain ⟨fs, hmeans⟩ := exists_means_not hreads hread
    rw [← hnegation] at hmeans
    refine ⟨negation fragments, fs, .not g, rfl, hmeans, fun row => ?_⟩
    rw [Formula.truth, htruth row]
    rfl
  | and =>
    obtain ⟨es, g, hmeans, htruth⟩ := exists_means_between (k := .and) (by simp) hne h
    exact ⟨_, es, g, rfl, hmeans, htruth⟩
  | xor =>
    obtain ⟨es, g, hmeans, htruth⟩ := exists_means_between (k := .xor) (by simp) hne h
    exact ⟨_, es, g, rfl, hmeans, htruth⟩
  | or =>
    obtain ⟨es, g, hmeans, htruth⟩ := exists_means_between (k := .or) (by simp) hne h
    exact ⟨_, es, g, rfl, hmeans, htruth⟩

end Fragment

/-! ## Conditions

The induction on the condition, over both accounts at once. -/

namespace Condition

/-- What is asked of every leaf of a list is asked of the leaves of its first condition. -/
theorem Readable.head {c : Condition} {rest : List Condition} (h : Readable (.all (c :: rest))) :
    c.Readable :=
  ⟨fun field comparison operand hleaf =>
    h.columns field comparison operand (List.mem_append_left _ hleaf),
    fun sql values hleaf => h.raws sql values (List.mem_append_left _ hleaf)⟩

theorem Readable.tail {c : Condition} {rest : List Condition} (h : Readable (.all (c :: rest))) :
    Readable (.all rest) :=
  ⟨fun field comparison operand hleaf =>
    h.columns field comparison operand (List.mem_append_right _ hleaf),
    fun sql values hleaf => h.raws sql values (List.mem_append_right _ hleaf)⟩

/-- Children that are not all empty have a fragment, so there is something to connect. -/
theorem ne_nil_of_allMean {children : List Condition} {parts : List (List Element × Formula)}
    (hne : areEmpty children = false) (h : Fragment.AllMean (fragments children) parts) :
    parts ≠ [] := by
  rintro rfl
  have hnil : fragments children = [] := List.forall₂_nil_right_iff.mp h
  rw [(fragments_eq_nil_iff children).mp hnil] at hne
  exact Bool.noConfusion hne

mutual

-- Both by induction on the condition; the flag of each fragment is carried along in `Means`.
/-- A condition that restricts something has a fragment that means what the condition means. Each
constructor has its lemma above: `exists_means_conjunction`, `exists_means_group`,
`exists_means_comparison` and `exists_means_raw`. -/
theorem exists_means : ∀ c : Condition, c.isEmpty = false → c.Readable →
    ∃ f es g, c.fragment? = some f ∧ f.Means es g ∧ ∀ row, g.truth row = c.truth row
  | .all children, hne, hc => by
    obtain ⟨parts, hmean, htruths⟩ := exists_allMean children hc
    obtain ⟨f, es, g, hf, hmeans, htruth⟩ :=
      Fragment.exists_means_conjunction (ne_nil_of_allMean hne hmean) hmean
    -- what the parts say together is what the children say
    refine ⟨f, es, g, hf, hmeans, fun row => ?_⟩
    rw [htruth row, ← htruths row, truth]
  | .group k children, hne, hc => by
    obtain ⟨parts, hmean, htruths⟩ := exists_allMean children ⟨hc.columns, hc.raws⟩
    obtain ⟨f, es, g, hf, hmeans, htruth⟩ :=
      Fragment.exists_means_group (ne_nil_of_allMean hne hmean) hmean
    refine ⟨f, es, g, hf, hmeans, fun row => ?_⟩
    rw [htruth row, ← htruths row, truth]
  | .compare field c operand, _, hc => by
    have hcolumn : isColumn field = true := hc.columns field c operand (by simp [leaves])
    obtain ⟨es, hmeans, -⟩ := Fragment.exists_means_comparison hcolumn c operand
    exact ⟨_, es, _, rfl, hmeans, fun row => rfl⟩
  | .raw sql values, hne, hc => by
    -- a blank piece would be empty
    have hblank : Text.isBlankText sql = false := hne
    obtain ⟨g, hg⟩ := Option.isSome_iff_exists.mp (hc.raws sql values (by simp [leaves]) hblank)
    obtain ⟨es, hmeans⟩ := Fragment.exists_means_raw hg
    refine ⟨_, es, g, by simp [fragment?, hblank], hmeans, fun row => ?_⟩
    simp [truth, hg]

/-- The fragments of children mean what the children mean that are not empty, in their order. -/
theorem exists_allMean : ∀ children : List Condition, Readable (.all children) →
    ∃ parts, Fragment.AllMean (fragments children) parts
      ∧ ∀ row, truths row children = parts.map fun part => part.2.truth row
  | [], _ => ⟨[], .nil, fun row => rfl⟩
  | c :: rest, h => by
    obtain ⟨parts, hmean, htruths⟩ := exists_allMean rest h.tail
    cases hempty : c.isEmpty with
    | true =>
      -- what is empty leaves no fragment, and no truth value
      refine ⟨parts, ?_, fun row => ?_⟩
      · rw [fragments, (fragment?_eq_none_iff c).mpr hempty]
        exact hmean
      · rw [truths, if_pos hempty, htruths row]
    | false =>
      obtain ⟨f, es, g, hf, hmeans, htruth⟩ := exists_means c hempty h.head
      refine ⟨(es, g) :: parts, ?_, fun row => ?_⟩
      · rw [fragments, hf]
        exact .cons hmeans hmean
      · rw [truths, if_neg (by simp [hempty]), htruths row, List.map_cons, htruth row]

end

/-! ## Bound values

The values in the formula are the values that are bound, unless some ready-made SQL brings more or
fewer than it has placeholders for. -/

/-- Every ready-made piece brings a value for each of its placeholders. -/
def RawsBound (c : Condition) : Prop :=
  ∀ sql values, .raw sql values ∈ c.leaves → Text.isBlankText sql = false →
    (Reading.holders sql.toList values).length = values.length

/-- If there is a value for each placeholder, each stands for its own. -/
theorem holders_eq_map_some {text : List Char} {values : List Value}
    (h : (Reading.holders text values).length = values.length) :
    Reading.holders text values = values.map some := by
  unfold Reading.holders at h ⊢
  split at h
  next ts _ =>
    -- the positions that are looked up are just those of the values
    rw [List.length_map, List.length_range] at h
    rw [h]
    apply List.ext_getElem
    · simp
    · intro i h₁ h₂
      simp at h₂
      simp [h₂]
  next =>
    have hnil : values = [] := List.length_eq_zero_iff.mp h.symm
    rw [hnil]
    rfl

/-- The placeholders of a piece stand for the values that are bound with it. -/
def HoldsBindings (p : Sql.Piece) : Prop := p.holders = p.bindings.map some

/-- If every ready-made piece brings as many values as it has placeholders, each placeholder of a
predicate stands for the value that is bound in its place. -/
theorem holders_predicate {c : Condition} (h : c.RawsBound) :
    c.predicate.holders = c.predicate.bindings.map some := by
  -- what a leaf binds is what its placeholders stand for; ready-made SQL needs `RawsBound`
  have hleaf : ∀ leaf ∈ c.leaves, leaf.ForallPieces HoldsBindings := by
    intro leaf hleaf f hf p hp
    rcases leaf_cases hleaf with ⟨field, comparison, operand, rfl⟩ | ⟨sql, values, rfl⟩
    · obtain rfl := Option.some.inj hf
      rcases Fragment.mem_comparison hp with ⟨v, rfl⟩ | ⟨s, rfl, -⟩ <;> rfl
    · obtain ⟨hblank, rfl⟩ := fragment?_raw_eq_some hf
      obtain rfl := List.mem_singleton.mp hp
      show Reading.holders (Text.trimmed sql).toList values = values.map some
      rw [Reading.holders_trimmed]
      exact holders_eq_map_some (h sql values hleaf hblank)
  -- parentheses and connectives have no placeholders
  have hglue : ∀ p ∈ Fragment.glue, HoldsBindings p := by
    intro p hp
    obtain ⟨s, rfl⟩ := Fragment.glue_text hp
    rfl
  have hpieces : c.ForallPieces HoldsBindings := forallPieces_of_leaves hglue c hleaf
  rw [predicate]
  cases hf : c.fragment? with
  | none => rfl
  | some f =>
    show f.sql.flatMap Sql.Piece.holders = (f.sql.flatMap Sql.Piece.bindings).map some
    rw [List.map_flatMap]
    exact List.flatMap_congr fun p hp => hpieces f hf p hp

/-! ## The predicate

The predicate of a condition is the SQL of its fragment, so what was said of fragments is said of
it. -/

/-- The predicate of a condition is read as what its fragment says. -/
theorem ofText_predicate {c : Condition} {f : Fragment} {es : List Element} {g : Formula}
    (hf : c.fragment? = some f) (h : f.Means es g) :
    Formula.ofText c.predicate.text.toList c.predicate.holders = some g := by
  have hpredicate : c.predicate = f.sql := by
    rw [predicate, hf]
    rfl
  rw [hpredicate, Sql.text, String.toList_ofList, ← h.read]
  exact Reads.ofText_eq h.reads

/-- **Predicates mean what their conditions mean.** The text of a condition that restricts something
is read as a formula that holds of a row just when the condition does. If every ready-made piece
brings its values, the values in the formula are those that are bound with the text. -/
theorem predicate_means (c : Condition) (hne : c.isEmpty = false) (hc : c.Readable) :
    (∃ g, Formula.ofText c.predicate.text.toList c.predicate.holders = some g
      ∧ ∀ row, g.truth row = c.truth row)
    ∧ (c.RawsBound → c.predicate.holders = c.predicate.bindings.map some) := by
  obtain ⟨f, es, g, hf, hmeans, htruth⟩ := exists_means c hne hc
  have hpredicate : c.predicate = f.sql := by rw [predicate, hf]; rfl
  have hread : Formula.ofText c.predicate.text.toList c.predicate.holders = some g := by
    rw [hpredicate, Sql.text, String.toList_ofList, ← hmeans.read]
    exact Reads.ofText_eq hmeans.reads
  exact ⟨⟨g, hread, htruth⟩, holders_predicate⟩

/-- A condition with parts of each form: `status = ? AND (approved = 1 OR pinned = ?) AND
((views > ?) OR (NOT ((deleted_at IS NULL) AND (id IN (?, ?)))))`. -/
def mixed : Condition :=
  .all [equals "status" (.text "published"), .raw " approved = 1 OR pinned = ? " [.bool true],
    .group .or [.compare "views" .greater (.scalar (.int32 100)), .group .and [],
      .group .not [equals "deleted_at" .null, among "id" [.int32 5, .int32 6]]],
    .raw "  " []]

/-- Every premise holds of `mixed`, whose comparisons are of columns and whose only predicate that
is not blank can be read. -/
theorem predicate_means_mixed :
    mixed.isEmpty = false ∧ mixed.Readable
    ∧ (∃ g, Formula.ofText mixed.predicate.text.toList mixed.predicate.holders = some g
      ∧ ∀ row, g.truth row = mixed.truth row)
    ∧ (mixed.RawsBound → mixed.predicate.holders = mixed.predicate.bindings.map some) := by
  have hne : mixed.isEmpty = false := by decide
  -- the leaves are listed, and each of them is tried
  have hc : mixed.Readable := by
    constructor
    · intro field comparison operand hleaf
      simp [mixed, leaves, leavesOf, equals, among] at hleaf
      rcases hleaf with ⟨rfl, -⟩ | ⟨rfl, -⟩ | ⟨rfl, -⟩ | ⟨rfl, -⟩ <;> decide
    · intro sql values hleaf hblank
      simp [mixed, leaves, leavesOf, equals, among] at hleaf
      rcases hleaf with ⟨rfl, rfl⟩ | ⟨rfl, rfl⟩
      · rfl
      · exact absurd hblank (by decide)
  exact ⟨hne, hc, predicate_means mixed hne hc⟩

end Condition

end EntityMapper
