import EntityMapper.Condition.FieldToken
import EntityMapper.Proofs.Reading.Compose
import EntityMapper.Proofs.Text.Ascii

/-!
# Reading comparisons

How the comparisons of a column are read: each of the forms in which one is written is a plain
sequence of elements, and is recognised as the comparison it stands for. A column has to be told
from the words by which predicates are put together, so a column that goes by such a word would have
to be quoted.

## Structure

* `isColumn` — a text that is one word and none of the words that a predicate is put together by.
* `Plain.column` — a comparison of a column is plain: its elements connect nothing, and
  `Formula.ofTokens` recognises it by its first word.
* `exists_reads_compares`, `exists_reads_isNull`, `exists_reads_isNotNull`, `exists_reads_among`,
  `exists_reads_never` — the five forms of a comparison, each as a text with the elements that it is
  read as.
-/

namespace EntityMapper.Reading

/-! ## Columns

A reference to a column is one word to the scanner (`Reads.column`). Whether the grammar takes it
for a column depends on the words it knows (`isColumn`). -/

/-- Whether a text refers to a column, and is none of the words by which predicates are put
together. -/
def isColumn (field : String) : Bool :=
  let e := Element.token (.word field.toList)
  FieldToken.isReference field.toList && !e.connects && !e.is "NOT"

/-- The characters of references are characters of words. None of them is a blank or a mark of
punctuation. -/
theorem kind_of_continues {c : Char} (h : FieldToken.continuesIdentifier c = true ∨ c = '.') :
    kind c = .word := by
  have hcases : c.isAlphanum = true ∨ c = '_' ∨ c = '.' := by
    simpa [FieldToken.continuesIdentifier, or_assoc] using h
  have hword : isWordChar c = true := by
    rcases hcases with h | rfl | rfl
    · simp [isWordChar, h]
    · decide
    · decide
  have hblank : Text.isBlank c = false := by
    rcases hcases with h | rfl | rfl
    · exact Ascii.not_isBlank_of_isAlphanum h
    · decide
    · decide
  -- none of the characters that end a token is one of a reference
  have hne : ∀ d ∈ [',', '(', ')', '?', '\'', '"'], c ≠ d := by
    rintro d hd rfl
    revert hcases
    simp only [List.mem_cons, List.not_mem_nil, or_false] at hd
    rcases hd with rfl | rfl | rfl | rfl | rfl | rfl <;> decide
  simp [kind, hblank, hword, hne]

/-- An identifier is not empty, and its first character might stand anywhere in it. -/
theorem isIdentifier_chars {s : List Char} (h : FieldToken.isIdentifier s = true) :
    s ≠ [] ∧ ∀ c ∈ s, FieldToken.continuesIdentifier c = true := by
  cases s with
  | nil => simp [FieldToken.isIdentifier] at h
  | cons c rest =>
    obtain ⟨hc, hrest⟩ := Bool.and_eq_true_iff.mp h
    refine ⟨by simp, List.forall_mem_cons.mpr ⟨?_, List.all_eq_true.mp hrest⟩⟩
    simp only [FieldToken.beginsIdentifier, FieldToken.continuesIdentifier, Char.isAlphanum,
      Bool.or_eq_true] at hc ⊢
    exact hc.imp_left .inl

/-- A reference is one identifier, or two with a dot between them. -/
theorem isReference_chars {s : List Char} (h : FieldToken.isReference s = true) :
    s ≠ [] ∧ ∀ c ∈ s, FieldToken.continuesIdentifier c = true ∨ c = '.' := by
  unfold FieldToken.isReference at h
  split at h
  next hdot =>
    obtain ⟨hne, hs⟩ := isIdentifier_chars h
    exact ⟨hne, fun c hc => .inl (hs c hc)⟩
  next dot column hdot =>
    obtain ⟨htable, hcolumn⟩ := Bool.and_eq_true_iff.mp h
    have hs : s = s.takeWhile (· != '.') ++ dot :: column := by
      rw [← hdot, List.takeWhile_append_dropWhile]
    -- the first part ends at the first dot
    have hdot : dot = '.' := by
      have hhead := List.head_dropWhile_not (p := fun c => c != '.') (l := s) (by simp [hdot])
      simpa [hdot] using hhead
    refine ⟨by rw [hs]; simp, fun c hc => ?_⟩
    rw [hs] at hc
    rcases List.mem_append.mp hc with hc | hc
    · exact .inl ((isIdentifier_chars htable).2 c hc)
    · rcases List.mem_cons.mp hc with hc | hc
      · exact .inr (hc.trans hdot)
      · exact .inl ((isIdentifier_chars hcolumn).2 c hc)

/-- A text that is one word reads as that word. -/
theorem Reads.word {s : List Char} (hs : tokens s = some [.word s]) :
    Reads s [] [.token (.word s)] :=
  ⟨_, _, hs, rfl, .token (by simp) (by simp)⟩

/-- A column reads as one word, wherever it stands. -/
theorem Reads.column {field : String} (h : isColumn field = true) :
    Reads field.toList [] [.token (.word field.toList)] := by
  have href : FieldToken.isReference field.toList = true := by
    simp only [isColumn, Bool.and_eq_true] at h
    exact h.1.1
  obtain ⟨hne, hchars⟩ := isReference_chars href
  exact .word (tokens_word hne fun c hc => kind_of_continues (hchars c hc))

/-! ## Comparisons

One lemma for each form in which a comparison is written, all of them assembled in the same way: the
elements, that they are plain, and which words are among them.

A column with what is compared with it is plain, whichever comparison it is: the column is none of
the connecting words, and what stands behind it has none of them either. -/

/-- The words that a comparison may have beside its column. -/
def comparisonWords : List String := ["IS", "NOT", "NULL", "IN", "LIKE", "REGEXP", "1", "0"]

/-- An element that may belong to a comparison of this column: a word is the column or one of the
above. -/
def Element.Compares (field : String) : Element → Prop
  | .token (.word s) => s = field.toList ∨ ∃ word ∈ comparisonWords, s = word.toList
  | _ => True

theorem compares_column (field : String) :
    (Element.token (.word field.toList)).Compares field := .inl rfl

theorem compares_word (field : String) {word : String} (h : word ∈ comparisonWords) :
    (Element.token (.word word.toList)).Compares field := .inr ⟨word, h, rfl⟩

/-- Tokens that begin with a column are a comparison of that column. The one form that begins with a
number has no column. -/
theorem ofTokens_column {field : String} (h : isColumn field = true) (ts : List Token) :
    Formula.ofTokens (.word field.toList :: ts) =
      .atom ((Atom.ofColumn? field ts).getD (.other (.word field.toList :: ts))) := by
  unfold Formula.ofTokens
  split
  next heq =>
    -- a number is no column
    obtain ⟨hfield, -⟩ := List.cons.inj heq
    rw [isColumn, Token.word.inj hfield] at h
    exact absurd h (by decide)
  next s rest _ heq =>
    obtain ⟨hs, rfl⟩ := List.cons.inj heq
    rw [← Token.word.inj hs, String.ofList_toList]
    cases Atom.ofColumn? field ts <;> rfl
  next hword => exact absurd rfl (hword _ _)

/-- A column with anything behind it that connects nothing. -/
theorem Plain.of_column {field : String} (h : isColumn field = true) {rest : List Element}
    (hrest : ∀ e ∈ rest, e.connects = false) :
    Plain (.token (.word field.toList) :: rest)
      (.atom ((Atom.ofColumn? field (rest.flatMap Element.tokens)).getD
        (.other (.word field.toList :: rest.flatMap Element.tokens)))) := by
  have hparts := h
  simp only [isColumn, Bool.and_eq_true, Bool.not_eq_true'] at hparts
  obtain ⟨⟨-, hconnects⟩, hnot⟩ := hparts
  -- nothing connects, so what is left is one comparison, which is not negated
  refine ⟨List.forall_mem_cons.mpr ⟨hconnects, hrest⟩, ?_⟩
  rw [readOne, if_neg (by simp [hnot])]
  · rw [List.flatMap_cons]
    exact congrArg some (ofTokens_column h _)
  · simp

/-- A column with a comparison behind it, of a form that is known. -/
theorem Plain.column {field : String} (h : isColumn field = true) {rest : List Element} {a : Atom}
    (hrest : ∀ e ∈ rest, e.connects = false)
    (ha : Atom.ofColumn? field (rest.flatMap Element.tokens) = some a) :
    Plain (.token (.word field.toList) :: rest) (.atom a) := by
  have hplain := Plain.of_column h hrest
  rw [ha] at hplain
  exact hplain

/-- An operator as a token: two of them are words, the others symbols. -/
def operatorToken : Comparison → Token
  | .like => .word "LIKE".toList
  | .regexp => .word "REGEXP".toList
  | c => .symbol c.token.toList

/-- Every operator is read as its token. By cases on the operator. -/
theorem Reads.operator (c : Comparison) : Reads c.token.toList [] [.token (operatorToken c)] := by
  refine ⟨[operatorToken c], [operatorToken c], ?_, ?_, .token ?_ ?_⟩
  · cases c <;> rfl
  · cases c <;> rfl
  · cases c <;> simp [operatorToken]
  · cases c <;> simp [operatorToken]

theorem compares_operatorToken (field : String) (c : Comparison) :
    (Element.token (operatorToken c)).Compares field := by
  cases c <;> first | exact compares_word field (by decide) | exact trivial

theorem comparison?_operatorToken (c : Comparison) : (operatorToken c).comparison? = some c := by
  cases c <;> decide

theorem exists_reads_compares {field : String} (h : isColumn field = true) (c : Comparison)
    (v : Option Value) :
    ∃ es, Reads (field.toList ++ ' ' :: (c.token.toList ++ ' ' :: ['?'])) [v] es
      ∧ Plain es (.atom (.compares field c v)) ∧ ∀ e ∈ es, e.Compares field := by
  refine ⟨_, (Reads.column h).append_space ((Reads.operator c).append_space (.slot v)), ?_, ?_⟩
  · refine .column h ?_ ?_
    · intro e he
      rcases List.mem_cons.mp he with rfl | he
      · cases c <;> decide
      · rw [List.mem_singleton.mp he]; rfl
    · show (operatorToken c).comparison?.map _ = _
      rw [comparison?_operatorToken]
      rfl
  · simp only [List.cons_append, List.nil_append, List.forall_mem_cons]
    exact ⟨compares_column field, compares_operatorToken field c, trivial, by simp⟩

theorem Reads.keyword (s : String) (hs : tokens s.toList = some [.word s.toList]) :
    Reads s.toList [] [.token (.word s.toList)] :=
  .word hs

theorem exists_reads_isNull {field : String} (h : isColumn field = true) :
    ∃ es, Reads (field.toList ++ ' ' :: ("IS".toList ++ ' ' :: "NULL".toList)) [] es
      ∧ Plain es (.atom (.isNull field)) ∧ ∀ e ∈ es, e.Compares field := by
  refine ⟨_,
    (Reads.column h).append_space ((Reads.keyword "IS" rfl).append_space (.keyword "NULL" rfl)),
    .column h (by decide) rfl, ?_⟩
  simp only [List.cons_append, List.nil_append, List.forall_mem_cons]
  exact ⟨compares_column field, compares_word field (by decide),
    compares_word field (by decide), by simp⟩

theorem exists_reads_isNotNull {field : String} (h : isColumn field = true) :
    ∃ es, Reads
      (field.toList ++ ' ' :: ("IS".toList ++ ' ' :: ("NOT".toList ++ ' ' :: "NULL".toList))) [] es
      ∧ Plain es (.atom (.isNotNull field)) ∧ ∀ e ∈ es, e.Compares field := by
  refine ⟨_, (Reads.column h).append_space ((Reads.keyword "IS" rfl).append_space
    ((Reads.keyword "NOT" rfl).append_space (.keyword "NULL" rfl))), .column h (by decide) rfl, ?_⟩
  simp only [List.cons_append, List.nil_append, List.forall_mem_cons]
  exact ⟨compares_column field, compares_word field (by decide), compares_word field (by decide),
    compares_word field (by decide), by simp⟩

/-- The comparison that no row fulfils has no column at all. -/
theorem exists_reads_never (field : String) :
    ∃ es, Reads ("1".toList ++ ' ' :: ("=".toList ++ ' ' :: "0".toList)) [] es
      ∧ Plain es .never ∧ ∀ e ∈ es, e.Compares field := by
  refine ⟨_,
    (Reads.keyword "1" rfl).append_space ((Reads.operator .equal).append_space (.keyword "0" rfl)),
    ⟨by decide, rfl⟩, ?_⟩
  simp only [List.cons_append, List.nil_append, List.forall_mem_cons]
  exact ⟨compares_word field (by decide), trivial, compares_word field (by decide), by simp⟩

/-- Placeholders with commas between them. -/
def slotElements : List (Option Value) → List Element
  | [] => []
  | [v] => [.token (.slot v)]
  | v :: rest => .token (.slot v) :: .token .comma :: slotElements rest

/-- The elements of placeholders are intercalated, as other lists are. Induction, with one and with
more values left. -/
theorem slotElements_eq_intercalate (values : List (Option Value)) :
    slotElements values = [.token .comma].intercalate (values.map fun v => [.token (.slot v)]) := by
  induction values with
  | nil => rfl
  | cons v rest ih =>
    cases rest with
    | nil => rfl
    | cons w rest =>
      rw [slotElements, ih]
      · simp [List.intercalate_cons_cons]
      · simp

theorem slotList?_slotElements {values : List (Option Value)} (hne : values ≠ []) :
    slotList? ((slotElements values).flatMap Element.tokens ++ [.closing]) = some values := by
  induction values with
  | nil => exact absurd rfl hne
  | cons v rest ih =>
    cases rest with
    | nil => rfl
    | cons w rest =>
      show (slotList? ((slotElements (w :: rest)).flatMap Element.tokens ++ [.closing])).map
        (v :: ·) = _
      rw [ih (by simp)]
      rfl

/-- A list in parentheses behind `IN` is a comparison with its values. -/
theorem ofColumn?_among (column : String) {values : List (Option Value)} (hne : values ≠ []) :
    Atom.ofColumn? column
        (.word "IN".toList :: .opening :: (slotElements values).flatMap Element.tokens
          ++ [.closing])
      = some (.among column values) := by
  match values, hne with
  | [v], _ => rfl
  | v :: w :: rest, _ =>
    show (slotList? ((slotElements (v :: w :: rest)).flatMap Element.tokens ++ [.closing])).map _ =
      _
    rw [slotList?_slotElements (by simp)]
    rfl

/-- A column and a list of values, which must not be empty. -/
theorem exists_reads_among {field : String} (h : isColumn field = true) {list : List Char}
    {values : List (Option Value)} (hne : values ≠ [])
    (hlist : Reads list values (slotElements values)) :
    ∃ es, Reads (field.toList ++ ' ' :: ("IN".toList ++ ' ' :: ('(' :: list ++ [')']))) values es
      ∧ Plain es (.atom (.among field values)) ∧ ∀ e ∈ es, e.Compares field := by
  refine ⟨_,
    (Reads.column h).append_space ((Reads.keyword "IN" rfl).append_space hlist.group), ?_, ?_⟩
  · refine .column h ?_ ?_
    · intro e he
      rcases List.mem_cons.mp he with rfl | he
      · decide
      · rw [List.mem_singleton.mp he]; rfl
    · simpa [Element.tokens] using ofColumn?_among field hne
  · simp only [List.cons_append, List.nil_append, List.forall_mem_cons]
    exact ⟨compares_column field, compares_word field (by decide), trivial, by simp⟩

end EntityMapper.Reading
