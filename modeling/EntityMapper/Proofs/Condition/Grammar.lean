import Mathlib.Data.Bool.AllAny
import EntityMapper.Proofs.Reading.Column
import EntityMapper.Proofs.Text.Trim

/-!
# The grammar of field tokens

What a field token may look like, said without the search for its operator: blanks, a reference, an
operator, blanks. The main statement is that reading accepts just what the grammar spells. It comes
down to the last character of whatever stands before an operator: that is a blank or belongs to the
reference, so no longer operator ends in the same place.

## Structure

* `Spells` — the grammar, as a relation between a text and a field token. An operator is either a
  symbol, which may stand at once behind the reference, or a word, which is set off by blanks
  (`Ends`).
* `part_cases` — what reading finds at the end of a text: a symbol, a word or nothing. Longer
  operators are tried first, and `symbolOf?_append_eq_none` says when a longer one is not there.
* `exists_last_before` — the character before an operator. It is a blank or belongs to the
  reference, hence no sign of a comparison; that is the reason why the operator that was written is
  the one that is found.
* `part_of_ends`, `ends_of_part` — the two directions, for the end of a token.
* `ofText_spells` — the main statement, with the longest operator and the errors.
-/

namespace EntityMapper

/-- The comparisons that are written as a word. -/
def Comparison.isWord : Comparison → Bool
  | .like => true
  | .regexp => true
  | _ => false

namespace FieldToken

/-! ## Grammar -/

/-- What an identifier begins with. -/
def IsInitial (c : Char) : Prop := ('A' ≤ c ∧ c ≤ 'Z') ∨ ('a' ≤ c ∧ c ≤ 'z') ∨ c = '_'

inductive Identifier : List Char → Prop
  | mk {c : Char} {rest : List Char} (hc : IsInitial c)
      (hrest : ∀ d ∈ rest, IsInitial d ∨ ('0' ≤ d ∧ d ≤ '9')) : Identifier (c :: rest)

inductive Reference : List Char → Prop
  | column {s : List Char} (h : Identifier s) : Reference s
  | qualified {table column : List Char} (htable : Identifier table) (hcolumn : Identifier column) :
      Reference (table ++ '.' :: column)

/-- What may stand behind a reference. A symbol may touch it, a word has to stand apart. -/
inductive Ends : List Char → Comparison → Prop
  | nothing : Ends [] .equal
  | symbol {blanks : List Char} {c : Comparison} (hblanks : ∀ d ∈ blanks, Text.isBlank d = true)
      (hc : c.isWord = false) : Ends (blanks ++ c.token.toList) c
  | word {blanks w : List Char} {c : Comparison} (hblanks : ∀ d ∈ blanks, Text.isBlank d = true)
      (hne : blanks ≠ []) (hc : c.isWord = true) (hw : w.map Char.toUpper = c.token.toList) :
      Ends (blanks ++ w) c

/-- The texts that spell a field token. -/
inductive Spells : List Char → FieldToken → Prop
  | mk {before reference ending after : List Char} {c : Comparison}
      (hbefore : ∀ d ∈ before, Text.isBlank d = true) (hreference : Reference reference)
      (hending : Ends ending c) (hafter : ∀ d ∈ after, Text.isBlank d = true) :
      Spells (before ++ (reference ++ ending ++ after)) ⟨String.ofList reference, c⟩

/-! ## References

Identifiers and references by their grammar, and the checks that read them (`isIdentifier_iff`,
`isReference_iff`). -/

/-- What an identifier may begin with, read off the ranges of code points. -/
theorem beginsIdentifier_iff {c : Char} : beginsIdentifier c = true ↔ IsInitial c := by
  rw [beginsIdentifier, Bool.or_eq_true, Ascii.isAlpha_iff, Ascii.isUpper_iff, Ascii.isLower_iff,
    beq_iff_eq, or_assoc, IsInitial]

/-- What may come after that: a digit as well. -/
theorem continuesIdentifier_iff {c : Char} :
    continuesIdentifier c = true ↔ IsInitial c ∨ ('0' ≤ c ∧ c ≤ '9') := by
  rw [← beginsIdentifier_iff, continuesIdentifier, beginsIdentifier, Bool.or_eq_true,
    Bool.or_eq_true, Ascii.isAlphanum_iff, Ascii.isDigit_iff]
  exact or_right_comm

/-- The check of an identifier is its grammar: a first character and others behind it. -/
theorem isIdentifier_iff {s : List Char} : isIdentifier s = true ↔ Identifier s := by
  cases s with
  | nil =>
    refine iff_of_false (by simp [isIdentifier]) fun h => ?_
    cases h
  | cons c rest =>
    rw [isIdentifier, Bool.and_eq_true, List.all_eq_true, beginsIdentifier_iff]
    simp only [continuesIdentifier_iff]
    constructor
    · rintro ⟨hc, hrest⟩
      exact .mk hc hrest
    · intro h
      cases h with
      | mk hc hrest => exact ⟨hc, hrest⟩

/-- A dot is no character of an identifier, so a qualified reference is taken apart at its only dot.
-/
theorem dot_not_mem {s : List Char} (h : Identifier s) : '.' ∉ s := fun hdot =>
  absurd ((Reading.isIdentifier_chars (isIdentifier_iff.mpr h)).2 _ hdot) (by decide)

/-- The check of a reference is its grammar. The check looks for the first dot; what comes before it
has none, so that the two parts of a qualified reference are found again. -/
theorem isReference_iff {s : List Char} : isReference s = true ↔ Reference s := by
  constructor
  · intro h
    unfold isReference at h
    split at h
    next => exact .column (isIdentifier_iff.mp h)
    next dot column hdot =>
      -- the dot is the first character that `dropWhile` stopped at
      have hs : s = s.takeWhile (· != '.') ++ dot :: column := by
        rw [← hdot, List.takeWhile_append_dropWhile]
      obtain rfl : dot = '.' := by
        have hhead := List.head_dropWhile_not (p := fun c => c != '.') (l := s) (by simp [hdot])
        simpa [hdot] using hhead
      obtain ⟨htable, hcolumn⟩ := Bool.and_eq_true_iff.mp h
      rw [hs]
      exact .qualified (isIdentifier_iff.mp htable) (isIdentifier_iff.mp hcolumn)
  · intro h
    -- so `takeWhile` passes over the whole of an identifier
    have hundotted {s : List Char} (h : Identifier s) : ∀ c ∈ s, (c != '.') = true := by
      rintro c hc
      simpa using fun heq : c = '.' => dot_not_mem h (heq ▸ hc)
    cases h with
    | column h =>
      have hnone : s.dropWhile (· != '.') = [] := List.dropWhile_eq_nil_iff.mpr (hundotted h)
      rw [isReference, hnone]
      exact isIdentifier_iff.mpr h
    | qualified htable hcolumn =>
      rw [isReference, List.dropWhile_append_of_pos (hundotted htable),
        List.takeWhile_append_of_pos (hundotted htable), List.dropWhile_cons_of_neg (by simp),
        List.takeWhile_cons_of_neg (by simp), List.append_nil]
      exact Bool.and_eq_true_iff.mpr ⟨isIdentifier_iff.mpr htable, isIdentifier_iff.mpr hcolumn⟩

/-! ## Symbols and words

The two kinds of operators. A symbol is made of eight characters and may touch what stands before
it. A word is made of letters, any case being accepted, and has to stand apart. Which kind it is
shows in its last character. -/

/-- The characters that symbols are made of. -/
def isComparisonSign (c : Char) : Bool := ['<', '=', '>', '!', '&', '|', '^', '~'].contains c

theorem isComparisonSign_of_mem {c : Comparison} (hc : c.isWord = false) {d : Char}
    (hd : d ∈ c.token.toList) :
    isComparisonSign d = true := by
  have hall : c.token.toList.all isComparisonSign = true := by
    cases c <;> first | exact absurd hc (by decide) | decide
  exact List.all_eq_true.mp hall d hd

/-- A character of another kind stands in no symbol. -/
theorem not_mem_token {c : Comparison} (hc : c.isWord = false) {d : Char}
    (hd : isComparisonSign d = false) :
    d ∉ c.token.toList := by
  intro hmem
  rw [isComparisonSign_of_mem hc hmem] at hd
  cases hd

theorem token_ne_nil (c : Comparison) : c.token.toList ≠ [] := by cases c <;> decide

/-- A symbol has three characters at most, and that is how far the search for one goes back. -/
theorem length_token_symbol {c : Comparison} (hc : c.isWord = false) :
    c.token.toList.length ≤ 3 := by
  cases c <;> first | exact absurd hc (by decide) | decide

/-- A text is taken for a symbol just if it is one. The words are not among the candidates of
`ofSymbol?`. -/
theorem ofSymbol?_eq_some_iff {s : List Char} {c : Comparison} :
    ofSymbol? s = some c ↔ c.isWord = false ∧ s = c.token.toList := by
  constructor
  · intro h
    have hmem := List.mem_of_find?_eq_some h
    rw [ofSymbol?] at h
    have htoken := List.find?_some h
    -- the words are not searched for, so what was found is a symbol
    refine ⟨?_, (beq_iff_eq.mp htoken).symm⟩
    cases c <;> first | rfl | exact absurd hmem (by decide)
  · rintro ⟨hc, rfl⟩
    cases c <;> first | exact absurd hc (by decide) | decide

/-- A property that no character of a symbol has rules these characters out. -/
theorem isComparisonSign_eq_false {p : Char → Bool}
    (hsymbols : ∀ e ∈ ['<', '=', '>', '!', '&', '|', '^', '~'], p e = false) {d : Char}
    (h : p d = true) :
    isComparisonSign d = false := by
  refine Bool.eq_false_iff.mpr fun hd => ?_
  have := hsymbols d (List.contains_iff_mem.mp hd)
  rw [h] at this
  cases this

/-- Letters and digits are no characters of symbols. -/
theorem isComparisonSign_of_isAlphanum {d : Char} (h : d.isAlphanum = true) :
    isComparisonSign d = false :=
  isComparisonSign_eq_false (List.all_iff_forall_prop.mp (by decide)) h

theorem isComparisonSign_of_isBlank {d : Char} (h : Text.isBlank d = true) :
    isComparisonSign d = false :=
  isComparisonSign_eq_false (List.all_iff_forall_prop.mp (by decide)) h

/-- An ASCII letter is no symbol and no blank, and it is compared as its capital. -/
theorem letter_cases {d : Char} (h : d.isAlpha = true) :
    Text.isBlank d = false ∧ isComparisonSign d = false ∧ Text.capitals d = [d.toUpper]
      ∧ wordLetter d = d.toUpper := by
  have halphanum := Ascii.isAlphanum_of_isAlpha h
  have hbounds := Ascii.toNat_bounds_of_isAlphanum halphanum
  refine ⟨Ascii.not_isBlank_of_isAlphanum halphanum,
    isComparisonSign_of_isAlphanum halphanum, ?_, ?_⟩
  · -- the letters with more than one capital are beyond ASCII
    unfold Text.capitals
    split <;> first | omega | rfl
  · have hne : (d.toNat == 0x212A) = false := by simp; omega
    rw [wordLetter, hne]
    rfl

/-- The kelvin sign passes for the letter of a word, but not for the letter of an operator. -/
theorem wordLetter_cases {d : Char} (h : (wordLetter d).isUpper = true) :
    Text.isBlank d = false ∧ isComparisonSign d = false ∧ Text.capitals d = [d.toUpper] := by
  -- all other characters pass for themselves, in capitals
  by_cases hkelvin : d.toNat = 0x212A
  · obtain rfl : d = Char.ofNat 0x212A := by rw [← hkelvin, Char.ofNat_toNat]
    decide
  · have hupper : wordLetter d = d.toUpper := by simp [wordLetter, hkelvin]
    obtain ⟨hblank, hsymbol, hcapitals, -⟩ := letter_cases (Ascii.isAlpha_of_toUpper (hupper ▸ h))
    exact ⟨hblank, hsymbol, hcapitals⟩

/-- A text that ends in a symbol does not end in a blank. -/
theorem not_isBlank_last_symbol {c : Comparison} (hc : c.isWord = false)
    (front : List Char) {d : Char}
    (hd : (front ++ c.token.toList).getLast? = some d) : Text.isBlank d = false := by
  rw [List.getLast?_append, List.getLast?_eq_some_getLast (token_ne_nil c), Option.some_or] at hd
  have hmem : d ∈ c.token.toList := Option.some.inj hd ▸ List.getLast_mem (token_ne_nil c)
  refine Bool.eq_false_iff.mpr fun hblank => ?_
  exact not_mem_token hc (isComparisonSign_of_isBlank hblank) hmem

theorem isUpper_of_mem {c : Comparison} (hc : c.isWord = true) {d : Char}
    (hd : d ∈ c.token.toList) :
    d.isUpper = true := by
  have hall : c.token.toList.all Char.isUpper = true := by
    cases c <;> first | exact absurd hc (by decide) | decide
  exact List.all_eq_true.mp hall d hd

/-- The kelvin sign included, these are the words that may end a token. -/
theorem isWord_iff {w : List Char} :
    isWord w = true ↔ ∃ c : Comparison, c.isWord = true ∧ w.map wordLetter = c.token.toList := by
  rw [isWord, Bool.or_eq_true, beq_iff_eq, beq_iff_eq]
  constructor
  · rintro (h | h)
    · exact ⟨.like, rfl, h⟩
    · exact ⟨.regexp, rfl, h⟩
  · rintro ⟨c, hc, h⟩
    cases c <;> first | exact absurd hc (by decide) | exact .inl h | exact .inr h

/-- A word has four or six letters: these are the two lengths that are searched for. -/
theorem length_word {w : List Char} (h : isWord w = true) : w.length = 4 ∨ w.length = 6 := by
  obtain ⟨c, hc, hw⟩ := isWord_iff.mp h
  rw [← List.length_map (f := wordLetter), hw]
  cases c <;> first | exact absurd hc (by decide) | decide

theorem isUpper_wordLetter {w : List Char} (h : isWord w = true) {d : Char} (hd : d ∈ w) :
    (wordLetter d).isUpper = true := by
  obtain ⟨c, hc, hw⟩ := isWord_iff.mp h
  exact isUpper_of_mem hc (hw ▸ List.mem_map_of_mem hd)

/-- A text that ends in a word ends in no blank, and in no character of a symbol. -/
theorem exists_last_word {w : List Char} (h : isWord w = true) (front : List Char) :
    ∃ d, (front ++ w).getLast? = some d ∧ Text.isBlank d = false ∧ isComparisonSign d = false := by
  have hne : w ≠ [] := List.length_pos_iff.mp (by have := length_word h; omega)
  have hlast := wordLetter_cases (isUpper_wordLetter h (List.getLast_mem hne))
  refine ⟨w.getLast hne, ?_, hlast.1, hlast.2.1⟩
  rw [List.getLast?_append, List.getLast?_eq_some_getLast hne, Option.some_or]

/-- As an operator, a word is looked up by its capitals. -/
theorem capitalised_word {w : List Char} (h : isWord w = true) :
    Text.capitalised (Text.trim w) = String.ofList (w.map Char.toUpper) := by
  have hcases : ∀ d ∈ w, Text.isBlank d = false ∧ Text.capitals d = [d.toUpper] := fun d hd =>
    have hd := wordLetter_cases (isUpper_wordLetter h hd)
    ⟨hd.1, hd.2.2⟩
  have htrim : Text.trim w = w := by
    rw [Text.trim, Text.trimStart_eq_self fun d hd => (hcases d (List.mem_of_mem_head? hd)).1,
      Text.trimEnd_eq_self fun d hd => (hcases d (List.mem_of_mem_getLast? hd)).1]
  have hcapitals : w.map Text.capitals = w.map fun d => [d.toUpper] :=
    List.map_congr_left fun d hd => (hcases d hd).2
  rw [htrim, Text.capitalised, List.flatMap_def, hcapitals, ← List.flatMap_def,
    ← List.map_eq_flatMap]

/-- A word stands for the operator whose letters it has, in whatever case. -/
theorem ofToken?_word {w : List Char} (h : isWord w = true) {c : Comparison} :
    Comparison.ofToken? (String.ofList w) = some c ↔ w.map Char.toUpper = c.token.toList := by
  rw [Comparison.ofToken?, String.toList_ofList, capitalised_word h]
  constructor
  · intro hfind
    have htoken := List.find?_some hfind
    rw [beq_iff_eq.mp htoken, String.toList_ofList]
  · intro hw
    rw [hw, String.ofList_toList]
    cases c <;> decide

/-- In ASCII, the letters of an operator word in any case are a word that may end a token. -/
theorem isWord_of_toUpper {w : List Char} {c : Comparison} (hc : c.isWord = true)
    (hw : w.map Char.toUpper = c.token.toList) : isWord w = true := by
  refine isWord_iff.mpr ⟨c, hc, hw ▸ List.map_congr_left fun d hd => ?_⟩
  exact (letter_cases
    (Ascii.isAlpha_of_toUpper (isUpper_of_mem hc (hw ▸ List.mem_map_of_mem hd)))).2.2.2

/-! ## The search for the operator

`part` tries the lengths of symbols from three to one, and then the two lengths of words. The lemmas
say what each of the attempts finds, and that a longer one finds nothing where a shorter one is
right. -/

/-- What it takes to find a symbol of `n` characters: a symbol of this length at the end, and
something before it. -/
theorem symbolOf?_eq_some_iff {n : Nat} {s : List Char} {found : List Char × Ending} :
    symbolOf? n s = some found ↔ ∃ front c, front ≠ [] ∧ c.isWord = false
      ∧ c.token.toList.length = n
      ∧ s = front ++ c.token.toList ∧ found = (Text.trimEnd front, .symbol c) := by
  rw [symbolOf?]
  constructor
  · intro h
    -- the text is cut `n` characters before its end, if there are more than `n`
    split at h
    next hn =>
      obtain ⟨c, hc, rfl⟩ := Option.map_eq_some_iff.mp h
      obtain ⟨hword, htoken⟩ := ofSymbol?_eq_some_iff.mp hc
      refine ⟨s.take (s.length - n), c, ?_, hword, ?_, ?_, rfl⟩
      · intro hnil
        have := congrArg List.length hnil
        simp at this
        omega
      · rw [← htoken, List.length_drop]
        omega
      · rw [← htoken, List.take_append_drop]
    next => cases h
  · rintro ⟨front, c, hne, hc, rfl, rfl, rfl⟩
    have hpos : 0 < front.length := List.length_pos_iff.mpr hne
    rw [if_pos (by rw [List.length_append]; omega), List.length_append, Nat.add_sub_cancel,
      List.drop_left,
      List.take_left, ofSymbol?_eq_some_iff.mpr ⟨hc, rfl⟩]
    rfl

/-- What has been found if a word was: the word at the end, and a blank before it. -/
theorem wordOf?_eq_some {n : Nat} {s : List Char} {found : List Char × Ending}
    (h : wordOf? n s = some found) :
    ∃ front w, (∃ d, front.getLast? = some d ∧ Text.isBlank d = true)
      ∧ isWord w = true ∧ w.length = min n s.length ∧ s = front ++ w
      ∧ found = (Text.trimEnd front, .word w) := by
  rw [wordOf?] at h
  split at h
  next hword =>
    obtain ⟨hword, hblank⟩ := Bool.and_eq_true_iff.mp hword
    -- the text is cut as many characters before its end as the word has
    refine ⟨s.take (s.length - n), s.drop (s.length - n), ?_, hword, ?_, ?_,
      (Option.some.inj h).symm⟩
    · cases hlast : (s.take (s.length - n)).getLast? with
      | none => simp [hlast] at hblank
      | some d => exact ⟨d, rfl, by simpa [hlast] using hblank⟩
    · rw [List.length_drop]
      omega
    · rw [List.take_append_drop]
  next => cases h

/-- The other way round, for a word of the length that is searched for. -/
theorem wordOf?_append {front w : List Char} {d : Char} (hlast : front.getLast? = some d)
    (hblank : Text.isBlank d = true) (hw : isWord w = true) :
    wordOf? w.length (front ++ w) = some (Text.trimEnd front, .word w) := by
  rw [wordOf?, List.length_append, Nat.add_sub_cancel, List.drop_left, List.take_left, hw, hlast]
  simp [hblank]

/-- What stands before the shorter of two endings of a text ends inside the longer one. This is what
decides between operators that end in the same place. -/
theorem getLast_mem_of_append {front back front' back' : List Char}
    (h : front ++ back = front' ++ back')
    (hlength : back.length < back'.length) {d : Char} (hd : front.getLast? = some d) :
    d ∈ back' := by
  rcases List.append_eq_append_iff.mp h with ⟨between, rfl, rfl⟩ | ⟨between, rfl, rfl⟩
  · rw [List.length_append] at hlength
    omega
  · have hne : between ≠ [] := by
      rintro rfl
      simp at hlength
    rw [List.getLast?_append, List.getLast?_eq_some_getLast hne, Option.some_or] at hd
    exact List.mem_append_left _ (Option.some.inj hd ▸ List.getLast_mem hne)

/-- A symbol at the end of a text does not reach over a character that symbols do not have. -/
theorem symbolOf?_append_eq_none {front back : List Char} {d : Char}
    (hlast : front.getLast? = some d)
    (hd : isComparisonSign d = false) {n : Nat} (hn : back.length < n) :
    symbolOf? n (front ++ back) = none := by
  refine Option.eq_none_iff_forall_ne_some.mpr fun found h => ?_
  obtain ⟨front', c, -, hc, rfl, happend, -⟩ := symbolOf?_eq_some_iff.mp h
  exact not_mem_token hc hd (getLast_mem_of_append happend hn hlast)

/-- `part` takes the first of five findings, or the whole text as a field. -/
theorem part_cases (s : List Char) : part s = (s, .nothing)
    ∨ (∃ n, symbolOf? n s = some (part s)) ∨ ∃ n, wordOf? n s = some (part s) := by
  rw [part]
  cases hfound : [symbolOf? 3 s, symbolOf? 2 s, symbolOf? 1 s, wordOf? 4 s,
    wordOf? 6 s].findSome? id with
  | none => exact .inl rfl
  | some found =>
    obtain ⟨result, hmem, hresult⟩ := List.exists_of_findSome?_eq_some hfound
    obtain rfl : result = some found := hresult
    simp only [List.mem_cons, List.not_mem_nil, or_false] at hmem
    -- the five places that are looked at, in their order
    rcases hmem with h | h | h | h | h
    · exact .inr (.inl ⟨3, h.symm⟩)
    · exact .inr (.inl ⟨2, h.symm⟩)
    · exact .inr (.inl ⟨1, h.symm⟩)
    · exact .inr (.inr ⟨4, h.symm⟩)
    · exact .inr (.inr ⟨6, h.symm⟩)

/-- A text that ends in a symbol, before which stands no character of a symbol. A longer symbol
would have to contain that character, so `symbolOf?` finds none of a greater length. -/
theorem part_symbol {front : List Char} {d : Char} (hlast : front.getLast? = some d)
    (hd : isComparisonSign d = false) {c : Comparison} (hc : c.isWord = false) :
    part (front ++ c.token.toList) = (Text.trimEnd front, .symbol c) := by
  have hne : front ≠ [] := by
    rintro rfl
    cases hlast
  -- the symbol is found when its own length is tried,
  have hfound : ∀ {n}, c.token.toList.length = n →
      symbolOf? n (front ++ c.token.toList) = some (Text.trimEnd front, .symbol c) := fun hn =>
    symbolOf?_eq_some_iff.mpr ⟨front, c, hne, hc, hn, rfl, rfl⟩
  -- and nothing is found before, when greater lengths are
  have hlonger : ∀ {n}, c.token.toList.length < n → symbolOf? n (front ++ c.token.toList) = none :=
    symbolOf?_append_eq_none hlast hd
  have hpos := List.length_pos_iff.mpr (token_ne_nil c)
  have hle := length_token_symbol hc
  obtain hn | hn | hn : c.token.toList.length = 3 ∨ c.token.toList.length = 2
      ∨ c.token.toList.length = 1 := by
    omega
  · simp [part, hfound hn]
  · simp [part, hfound hn, hlonger (n := 3) (by omega)]
  · simp [part, hfound hn, hlonger (n := 3) (by omega), hlonger (n := 2) (by omega)]

/-- A text that ends in a word behind a blank. No symbol ends there, and a word of six letters has
no blank in it, so that it does not end in a word of four. -/
theorem part_word {front w : List Char} {d : Char} (hlast : front.getLast? = some d)
    (hblank : Text.isBlank d = true) (hw : isWord w = true) :
    part (front ++ w) = (Text.trimEnd front, .word w) := by
  have hlength := length_word hw
  -- symbols are tried first, but a word does not end in a character of one
  have hsymbol : ∀ {n}, 0 < n → symbolOf? n (front ++ w) = none := by
    obtain ⟨e, hend, -, he⟩ := exists_last_word hw front
    intro n hn
    rw [← List.append_nil (front ++ w)]
    exact symbolOf?_append_eq_none hend he hn
  have hword := wordOf?_append hlast hblank hw
  rcases hlength with hfour | hsix
  · rw [hfour] at hword
    simp [part, hsymbol, hword]
  · -- a shorter word would have to stand behind a blank inside this one
    have hshorter : wordOf? 4 (front ++ w) = none := by
      refine Option.eq_none_iff_forall_ne_some.mpr fun found h => ?_
      obtain ⟨front', w', ⟨e, he, heblank⟩, -, hlength', happend, -⟩ := wordOf?_eq_some h
      have hmem : e ∈ w := getLast_mem_of_append happend.symm (by rw [hlength', hsix]; omega) he
      rw [(wordLetter_cases (isUpper_wordLetter hw hmem)).1] at heblank
      cases heblank
    rw [hsix] at hword
    simp [part, hsymbol, hshorter, hword]

/-- A text without blanks and characters of symbols. -/
theorem part_nothing {s : List Char}
    (h : ∀ d ∈ s, Text.isBlank d = false ∧ isComparisonSign d = false) :
    part s = (s, .nothing) := by
  rcases part_cases s with hpart | ⟨n, hpart⟩ | ⟨n, hpart⟩
  · exact hpart
  · obtain ⟨front, c, -, hc, -, rfl, -⟩ := symbolOf?_eq_some_iff.mp hpart
    obtain ⟨d, hd⟩ := List.exists_mem_of_ne_nil _ (token_ne_nil c)
    exact absurd hd (not_mem_token hc (h d (List.mem_append_right _ hd)).2)
  · obtain ⟨front, w, ⟨d, hlast, hblank⟩, -, -, rfl, -⟩ := wordOf?_eq_some hpart
    have := (h d (List.mem_append_left _ (List.mem_of_mem_getLast? (hlast ▸ rfl)))).1
    rw [hblank] at this
    cases this

/-! ## Reading -/

/-- A reference is not empty, and has neither blanks nor characters of symbols. -/
theorem reference_chars {s : List Char} (h : Reference s) :
    s ≠ [] ∧ ∀ d ∈ s, Text.isBlank d = false ∧ isComparisonSign d = false := by
  obtain ⟨hne, hchars⟩ := Reading.isReference_chars (isReference_iff.mpr h)
  refine ⟨hne, fun d hd => ?_⟩
  have hcases : d.isAlphanum = true ∨ d = '_' ∨ d = '.' := by
    simpa [continuesIdentifier, or_assoc] using hchars d hd
  rcases hcases with h | rfl | rfl
  · exact ⟨Ascii.not_isBlank_of_isAlphanum h, isComparisonSign_of_isAlphanum h⟩
  · decide
  · decide

/-- Blanks behind a reference are trimmed away, and nothing of the reference. -/
theorem trimEnd_reference {s blanks : List Char} (h : Reference s)
    (hblanks : ∀ d ∈ blanks, Text.isBlank d = true) : Text.trimEnd (s ++ blanks) = s := by
  rw [Text.trimEnd_append hblanks]
  exact Text.trimEnd_eq_self fun d hd => ((reference_chars h).2 d (List.mem_of_mem_getLast? hd)).1

/-- Before an operator stands the end of the reference or a blank, which are no part of a symbol. -/
theorem exists_last_before {reference blanks : List Char} (h : Reference reference)
    (hblanks : ∀ d ∈ blanks, Text.isBlank d = true) :
    ∃ d, (reference ++ blanks).getLast? = some d ∧ isComparisonSign d = false := by
  obtain ⟨hne, hchars⟩ := reference_chars h
  have happend : reference ++ blanks ≠ [] := by simp [hne]
  refine ⟨_, List.getLast?_eq_some_getLast happend, ?_⟩
  rcases List.mem_append.mp (List.getLast_mem happend) with hd | hd
  · exact (hchars _ hd).2
  · exact isComparisonSign_of_isBlank (hblanks _ hd)

/-- The comparison that an ending stands for, if it is one. -/
def Ending.comparison? : Ending → Option Comparison
  | .nothing => some .equal
  | .symbol c => some c
  | .word w => Comparison.ofToken? (String.ofList w)

/-- A token is read if what stands before its ending is a reference and the ending is a comparison.
A line feed is a blank, and so no part of a reference: a malformed token has no reference either. -/
theorem read_eq_ok_iff {token : String} {t : FieldToken} : read token = .ok t ↔
    Reference (part (Text.trim token.toList)).1
      ∧ (part (Text.trim token.toList)).2.comparison? = some t.comparison
      ∧ t.field = String.ofList (part (Text.trim token.toList)).1 := by
  -- a line feed is looked for as well, which a reference does not have
  have hwell : Reference (part (Text.trim token.toList)).1 →
      (token.toList.all (· == '\n') || (part (Text.trim token.toList)).1.contains '\n')
          = false := by
    intro href
    obtain ⟨hne, hchars⟩ := reference_chars href
    refine Bool.or_eq_false_iff.mpr
      ⟨Bool.eq_false_iff.mpr fun hall => hne ?_, Bool.eq_false_iff.mpr fun hmem => ?_⟩
    · have hblank : token.toList.all Text.isBlank = true := by
        refine List.all_eq_true.mpr fun d hd => ?_
        rw [beq_iff_eq.mp (List.all_eq_true.mp hall d hd)]
        decide
      rw [Text.trim_eq_nil_iff.mpr hblank]
      decide
    · exact absurd (hchars _ (List.contains_iff_mem.mp hmem)).1 (by decide)
  rcases hpart : part (Text.trim token.toList) with ⟨field, ending⟩
  rw [hpart] at hwell
  obtain ⟨name, comparison⟩ := t
  simp only [read, hpart]
  by_cases href : Reference field
  · rw [hwell href, isReference_iff.mpr href]
    cases ending with
    | nothing => simp [href, Ending.comparison?, eq_comm, and_comm]
    | symbol c => simp [href, Ending.comparison?, eq_comm, and_comm]
    | word w =>
      cases hc : Comparison.ofToken? (String.ofList w) with
      | none => simp [Ending.comparison?, hc]
      | some c => simp [href, Ending.comparison?, hc, eq_comm, and_comm]
  · have hfalse : isReference field = false :=
      Bool.eq_false_iff.mpr fun h => href (isReference_iff.mp h)
    simp only [href, false_and, iff_false, hfalse]
    split <;> simp

/-- How a token without blanks around it is parted, if it is spelt. -/
theorem part_of_ends {reference ending : List Char} {c : Comparison} (h : Reference reference)
    (hending : Ends ending c) : (part (reference ++ ending)).1 = reference
      ∧ (part (reference ++ ending)).2.comparison? = some c := by
  cases hending with
  | nothing =>
    rw [List.append_nil, part_nothing (reference_chars h).2]
    exact ⟨rfl, rfl⟩
  | @symbol blanks _ hblanks hc =>
    -- no sign of a comparison stands in front of the symbol, so no longer one ends here
    obtain ⟨d, hlast, hd⟩ := exists_last_before h hblanks
    rw [← List.append_assoc, part_symbol hlast hd hc, trimEnd_reference h hblanks]
    exact ⟨rfl, rfl⟩
  | @word blanks w _ hblanks hblanksNe hc hw =>
    have hword := isWord_of_toUpper hc hw
    have hlast : (reference ++ blanks).getLast? = some (blanks.getLast hblanksNe) := by
      rw [List.getLast?_append, List.getLast?_eq_some_getLast hblanksNe, Option.some_or]
    rw [← List.append_assoc, part_word hlast (hblanks _ (List.getLast_mem hblanksNe)) hword,
      trimEnd_reference h hblanks]
    exact ⟨rfl, (ofToken?_word hword).mpr hw⟩

/-- What is parted into a reference and a comparison is spelt like that. The blanks of the ending
are those that were trimmed off the text before the operator. -/
theorem ends_of_part {s : List Char} (href : Reference (part s).1) {c : Comparison}
    (hc : (part s).2.comparison? = some c) :
    ∃ ending, s = (part s).1 ++ ending ∧ Ends ending c := by
  rcases part_cases s with hpart | ⟨n, hpart⟩ | ⟨n, hpart⟩
  · rw [hpart] at hc ⊢
    obtain rfl : .equal = c := Option.some.inj hc
    exact ⟨[], (List.append_nil s).symm, .nothing⟩
  · obtain ⟨front, c', -, hc', -, hs, hfound⟩ := symbolOf?_eq_some_iff.mp hpart
    obtain ⟨blanks, hblanks, hfront⟩ := Text.exists_trimEnd_append front
    rw [hfound] at hc ⊢
    obtain rfl : c' = c := Option.some.inj hc
    exact ⟨blanks ++ c'.token.toList,
      by rw [← List.append_assoc, ← hfront, hs], .symbol hblanks hc'⟩
  · obtain ⟨front, w, ⟨d, hlast, hblank⟩, hw, -, hs, hfound⟩ := wordOf?_eq_some hpart
    obtain ⟨blanks, hblanks, hfront⟩ := Text.exists_trimEnd_append front
    rw [hfound] at hc href ⊢
    -- the blank before the word is no part of the reference
    have hne : blanks ≠ [] := by
      rintro rfl
      rw [List.append_nil] at hfront
      rw [hfront] at hlast
      have := ((reference_chars href).2 d (List.mem_of_mem_getLast? (hlast ▸ rfl))).1
      rw [hblank] at this
      cases this
    have hletters := (ofToken?_word hw).mp hc
    have hc : c.isWord = true := by
      -- no symbol is as long as a word
      refine Bool.not_eq_false _ ▸ fun hsymbol => ?_
      have hshort := length_token_symbol hsymbol
      rw [← hletters, List.length_map] at hshort
      have hlength := length_word hw
      omega
    exact ⟨blanks ++ w, by rw [← List.append_assoc, ← hfront, hs], .word hblanks hne hc hletters⟩

/-- A token does not end in a blank: its last character belongs to the reference, to a symbol or to
a word. -/
theorem not_isBlank_getLast {reference ending : List Char} {c : Comparison}
    (h : Reference reference) (hending : Ends ending c) (front : List Char) {d : Char}
    (hd : (front ++ (reference ++ ending)).getLast? = some d) : Text.isBlank d = false := by
  obtain ⟨hne, hchars⟩ := reference_chars h
  cases hending with
  | nothing =>
    rw [List.append_nil, List.getLast?_append, List.getLast?_eq_some_getLast hne, Option.some_or]
      at hd
    -- the last character is one of the reference
    exact (hchars d (Option.some.inj hd ▸ List.getLast_mem hne)).1
  | @symbol blanks _ hblanks hc =>
    rw [← List.append_assoc, ← List.append_assoc] at hd
    exact not_isBlank_last_symbol hc _ hd
  | @word blanks w _ hblanks _ hc hw =>
    obtain ⟨e, hlast, he, -⟩ :=
      exists_last_word (isWord_of_toUpper hc hw) (front ++ reference ++ blanks)
    rw [← List.append_assoc, ← List.append_assoc, hlast] at hd
    exact Option.some.inj hd ▸ he

/-- Reading accepts just what is spelt. Both ways go through `part` of the trimmed text: blanks
around the token are no part of it, since it neither begins nor ends in one. -/
theorem read_eq_ok_iff_spells {token : String} {t : FieldToken} :
    read token = .ok t ↔ Spells token.toList t := by
  rw [read_eq_ok_iff]
  constructor
  · rintro ⟨href, hcomparison, hfield⟩
    obtain ⟨before, after, hbefore, hafter, htoken⟩ := Text.exists_append_trim_append token.toList
    obtain ⟨ending, htrim, hending⟩ := ends_of_part href hcomparison
    have hspells := Spells.mk hbefore href hending hafter
    rwa [← htrim, ← htoken, ← hfield] at hspells
  · intro h
    generalize hs : token.toList = s at h
    obtain @⟨before, reference, ending, after, c, hbefore, href, hending, hafter⟩ := h
    obtain ⟨hne, hchars⟩ := reference_chars href
    -- trimming stops at the first character of the reference and at the last of the ending
    have htrim : Text.trim (before ++ (reference ++ ending ++ after)) = reference ++ ending := by
      refine Text.trim_append_append hbefore hafter (fun d hd => ?_) fun d hd => ?_
      · rw [List.head?_append, List.head?_eq_some_head hne, Option.some_or] at hd
        exact (hchars d (Option.some.inj hd ▸ List.head_mem hne)).1
      · exact not_isBlank_getLast href hending [] hd
    obtain ⟨hreference, hcomparison⟩ := part_of_ends href hending
    rw [htrim, hreference]
    exact ⟨href, hcomparison, rfl⟩

/-- What stands before the operator of a token, and before any shorter ending, ends in no part of a
symbol. -/
theorem exists_parts_of_ends {reference ending : List Char} {c : Comparison}
    (h : Reference reference)
    (hending : Ends ending c) : ∃ front back d, reference ++ ending = front ++ back
      ∧ front.getLast? = some d ∧ isComparisonSign d = false ∧ back.length ≤ c.token.length := by
  cases hending with
  | nothing =>
    have hnone : ∀ d ∈ ([] : List Char), Text.isBlank d = true := by simp
    obtain ⟨d, hlast, hd⟩ := exists_last_before h hnone
    exact ⟨reference ++ [], [], d, (List.append_nil _).symm, hlast, hd, Nat.zero_le _⟩
  | @symbol blanks _ hblanks hc =>
    obtain ⟨d, hlast, hd⟩ := exists_last_before h hblanks
    -- a symbol is no longer than itself
    exact ⟨reference ++ blanks, c.token.toList, d,
      by simp, hlast, hd, Nat.le_of_eq String.length_toList⟩
  | @word blanks w _ hblanks hne hc hw =>
    obtain ⟨d, hlast, -, hd⟩ := exists_last_word (isWord_of_toUpper hc hw) (reference ++ blanks)
    exact ⟨reference ++ blanks ++ w, [], d, by simp, hlast, hd, Nat.zero_le _⟩

/-- A symbol at the end of a token is no longer than the operator that the token is spelt with. If
it were longer, it would reach over the character that `exists_parts_of_ends` speaks of, which
stands in no symbol. -/
theorem longest_of_spells {s : List Char} {t : FieldToken} (h : Spells s t)
    {front after : List Char}
    {c : Comparison} (hc : c.isWord = false) (hafter : ∀ d ∈ after, Text.isBlank d = true)
    (hs : s = front ++ (c.token.toList ++ after)) : c.token.length ≤ t.comparison.token.length := by
  obtain @⟨before, reference, ending, after', c', hbefore, href, hending, hafter'⟩ := h
  obtain ⟨front', back, d, happend, hlast, hd, hlength⟩ := exists_parts_of_ends href hending
  -- without the blanks behind it, the token ends in both operators
  have hends : before ++ (reference ++ ending) = front ++ c.token.toList := by
    have hspelt : Text.trimEnd (before ++ (reference ++ ending) ++ after') =
        before ++ (reference ++ ending) := by
      rw [Text.trimEnd_append hafter']
      exact Text.trimEnd_eq_self fun e he => not_isBlank_getLast href hending before he
    have hsymbol : Text.trimEnd (front ++ c.token.toList ++ after) = front ++ c.token.toList := by
      rw [Text.trimEnd_append hafter]
      exact Text.trimEnd_eq_self fun e he => not_isBlank_last_symbol hc _ he
    rw [← hspelt, ← hsymbol, List.append_assoc before, hs, List.append_assoc]
  -- the character before the shorter ending would have to stand in the symbol
  refine Nat.le_of_not_lt fun hlonger => ?_
  have hsplit : before ++ front' ++ back = front ++ c.token.toList := by
    rw [List.append_assoc, ← happend, hends]
  have hlengths : back.length < c.token.toList.length := by
    rw [String.length_toList]
    exact Nat.lt_of_le_of_lt hlength hlonger
  have hmem : d ∈ c.token.toList :=
    getLast_mem_of_append hsplit hlengths (by rw [List.getLast?_append, hlast, Option.some_or])
  exact not_mem_token hc hd hmem

/-- The same for `ofText`, which differs from `read` in the errors only. -/
theorem ofText_eq_ok_iff {token : String} {t : FieldToken} :
    ofText token = .ok t ↔ Spells token.toList t := by
  rw [← read_eq_ok_iff_spells, ofText]
  cases read token <;> simp [Except.mapError]

/-- **Field tokens are read by their grammar.** What is read of a token is what the grammar spells
it as, a token that is not spelt is refused as a condition, and the operator is the longest one that
the token ends with. So a reference is read with any operator that is written behind it. -/
theorem ofText_spells (token : String) :
    (∀ t, ofText token = .ok t ↔ Spells token.toList t)
    ∧ ((∀ t, ¬ Spells token.toList t) → ∃ message, ofText token = .error (.condition message))
    ∧ (∀ t, Spells token.toList t → ∀ (c : Comparison) front after, c.isWord = false →
        (∀ d ∈ after, Text.isBlank d = true) → token.toList = front ++ (c.token.toList ++ after) →
        c.token.length ≤ t.comparison.token.length)
    ∧ ∀ field c, Reference field.toList → ofText (field ++ " " ++ c.token) = .ok ⟨field, c⟩ := by
  refine ⟨fun t => ofText_eq_ok_iff, fun hnone => ?_,
    fun t h c front after hc hafter hs => longest_of_spells h hc hafter hs, fun field c href => ?_⟩
  · rw [ofText]
    cases hread : read token with
    | ok t => exact absurd (read_eq_ok_iff_spells.mp hread) (hnone t)
    | error fault => cases fault <;> exact ⟨_, rfl⟩
  · -- a blank and the operator make an ending, be it a symbol or a word
    have hending : Ends (" ".toList ++ c.token.toList) c := by
      have hblank : ∀ d ∈ " ".toList, Text.isBlank d = true := List.all_eq_true.mp (by decide)
      cases hc : c.isWord with
      | false => exact .symbol hblank hc
      | true =>
        exact .word hblank (by decide) hc
          (by cases c <;> first | exact absurd hc (by decide) | decide)
    have hnone : ∀ d ∈ ([] : List Char), Text.isBlank d = true := by simp
    have hspells := Spells.mk hnone href hending hnone
    rw [ofText_eq_ok_iff]
    simpa using hspells

/-- The longest operator counts: the token is not read as a reference `posts.id <=` with a sign
behind it. Blanks inside an operator are not accepted. -/
theorem ofText_spells_nullSafe :
    ofText "posts.id <=>" = .ok ⟨"posts.id", .nullSafeEqual⟩
      ∧ Comparison.greater.token.length ≤ Comparison.nullSafeEqual.token.length
      ∧ ∃ message, ofText "posts.id <= >" = .error (.condition message) := by
  have href : Reference "posts.id".toList := isReference_iff.mp (by decide)
  have hread : ofText "posts.id <=>" = .ok ⟨"posts.id", .nullSafeEqual⟩ :=
    (ofText_spells "posts.id <=>").2.2.2 "posts.id" .nullSafeEqual href
  have hspells := ((ofText_spells "posts.id <=>").1 _).mp hread
  refine ⟨hread, ?_, ?_⟩
  · exact (ofText_spells "posts.id <=>").2.2.1 _ hspells .greater "posts.id <=".toList
      [] rfl (by simp)
      (by decide)
  · refine (ofText_spells "posts.id <= >").2.1 fun t ht => ?_
    -- with a blank inside, the symbol is in two parts, and the text in front of the last one is no
    -- reference
    have hrefused : (ofText "posts.id <= >").toBool = false := by decide
    rw [((ofText_spells "posts.id <= >").1 t).mpr ht] at hrefused
    cases hrefused

end FieldToken

end EntityMapper
