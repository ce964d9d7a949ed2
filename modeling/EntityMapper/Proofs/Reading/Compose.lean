import EntityMapper.Proofs.Lists
import EntityMapper.Proofs.Reading.Formula

/-!
# Reading in parts

How the reading of a text follows from the readings of its parts. `Reads` says of a text that it is
a sequence of elements wherever it may stand: its tokens are complete and its parentheses match.
Such texts may be set side by side or in parentheses. Of a sequence of elements, `Plain` says that
no connective can tear it apart; plain sequences with one connective between them say what the
connective makes of what they say (`read_joined`).

## Structure

* `Nests` — tokens whose parentheses match, with the elements that they nest to. Adding such tokens
  does not disturb what is pending around them (`nest_within`).
* `Reads` — a text, its values and its elements. `append_space`, `append_comma` and `group` are the
  ways of putting texts together, and `unique` says that there is nothing else to read.
* `Plain` — elements among which none connects. They pass every level of the grammar
  (`readOdd_plain`, `readAll_plain`, `read_plain`).
* `read_joined` — plain sequences with one connective between them: the text is cut at that
  connective, and nowhere else.
-/

namespace EntityMapper.Reading

/-! ## Filling

Placeholders take their values in the order of the text. -/

/-- Values are put into two sequences of tokens one after the other. Induction on the first
sequence; what is no placeholder takes no value. -/
theorem fill_append {a b a' b' : List Token} {vs ws : List (Option Value)}
    (ha : fill vs a = some a') (hb : fill ws b = some b') :
    fill (vs ++ ws) (a ++ b) = some (a' ++ b') := by
  induction a generalizing vs a' with
  | nil =>
    cases vs with
    | nil => simp_all [fill]
    | cons v vs => simp [fill] at ha
  | cons t rest ih =>
    cases t with
    -- a placeholder takes the first value
    | slot value? =>
      cases vs with
      | nil => simp [fill] at ha
      | cons v vs =>
        obtain ⟨filled, hfilled, rfl⟩ := Option.map_eq_some_iff.mp ha
        simp [fill, ih hfilled]
    | _ =>
      simp only [fill] at ha
      obtain ⟨filled, hfilled, rfl⟩ := Option.map_eq_some_iff.mp ha
      simp [fill, ih hfilled]

/-! ## Nesting

`Nests` says that tokens are some elements whatever is open around them, so that it holds of parts
of a text. For a text by itself it is the same as `elements` (`Nests.of_elements`,
`elements_of_nests`). -/

/-- Tokens one after the other, with what the first ones have left open. -/
theorem nest_append (a b : List Token) (open_ : List (List Element)) :
    nest open_ (a ++ b) = (nest open_ a).bind fun open_ => nest open_ b := by
  induction a generalizing open_ with
  | nil => rfl
  | cons t rest ih =>
    simp only [List.cons_append, nest]
    cases nestToken open_ t with
    | none => rfl
    | some next => simp [ih]

/-- Tokens are these elements, whatever is open around them. -/
def Nests (ts : List Token) (es : List Element) : Prop :=
  ∀ before outer, nest (before :: outer) ts = some ((before ++ es) :: outer)

theorem Nests.nil : Nests [] [] := fun before outer => by simp [nest]

theorem Nests.append {a b : List Token} {es fs : List Element} (ha : Nests a es) (hb : Nests b fs) :
    Nests (a ++ b) (es ++ fs) := by
  intro before outer
  rw [nest_append, ha before outer]
  simp [hb (before ++ es) outer]

/-- Any token but a parenthesis is an element by itself. -/
theorem Nests.token {t : Token} (h₁ : t ≠ .opening) (h₂ : t ≠ .closing) : Nests [t] [.token t] := by
  intro before outer
  cases t with
  | opening => exact absurd rfl h₁
  | closing => exact absurd rfl h₂
  | _ => rfl

/-- Between parentheses, elements are one element. -/
theorem Nests.group {ts : List Token} {es : List Element} (h : Nests ts es) :
    Nests (.opening :: ts ++ [.closing]) [.group (read es) (es.flatMap Element.tokens)] := by
  intro before outer
  show (nest ([] :: before :: outer) (ts ++ [.closing])) = _
  rw [nest_append, h [] (before :: outer)]
  rfl

/-- Open sequences, the outermost of which goes on behind `before` and stands inside of `outer`. -/
def within (before : List Element) (outer : List (List Element)) :
    List (List Element) → List (List Element)
  | [] => outer
  | [es] => (before ++ es) :: outer
  | es :: rest => es :: within before outer rest

/-- A token does the same within other sequences as by itself, unless it closes the outermost one,
which it cannot do by itself. -/
theorem nestToken_within {open_ next : List (List Element)} {t : Token} (before : List Element)
    (outer : List (List Element)) (h : nestToken open_ t = some next) :
    nestToken (within before outer open_) t = some (within before outer next) ∧ next ≠ [] := by
  cases open_ with
  | nil => cases t <;> simp [nestToken] at h
  | cons es around =>
    cases t with
    | closing =>
      -- what is closed goes to the sequence around it, which is one of the open ones
      match around, h with
      | [fs], h =>
        obtain rfl := Option.some.inj h
        exact ⟨by simp [within, nestToken], by simp⟩
      | fs :: gs :: rest, h =>
        obtain rfl := Option.some.inj h
        exact ⟨by simp [within, nestToken], by simp⟩
    | opening =>
      obtain rfl := Option.some.inj h
      cases around <;> exact ⟨by simp [within, nestToken], by simp⟩
    | _ =>
      obtain rfl := Option.some.inj h
      cases around <;> exact ⟨by simp [within, nestToken], by simp⟩

/-- What is pending around some tokens stays around them. Induction on the tokens. -/
theorem nest_within {ts : List Token} {open_ last : List (List Element)} (before : List Element)
    (outer : List (List Element)) (h : nest open_ ts = some last) :
    nest (within before outer open_) ts = some (within before outer last) := by
  induction ts generalizing open_ with
  | nil =>
    obtain rfl := Option.some.inj h
    rfl
  | cons t rest ih =>
    obtain ⟨next, hnext, hrest⟩ := Option.bind_eq_some_iff.mp h
    rw [nest, (nestToken_within before outer hnext).1]
    exact ih hrest

/-- What has elements by itself has them wherever it stands. -/
theorem Nests.of_elements {ts : List Token} {es : List Element} (h : elements ts = some es) :
    Nests ts es := by
  intro before outer
  have hnest : nest [[]] ts = some [es] := by
    unfold elements at h
    split at h
    · next es' heq => rw [heq, Option.some.inj h]
    · simp at h
  -- the one sequence that is open is the outermost
  simpa [within] using nest_within before outer hnest

theorem elements_of_nests {ts : List Token} {es : List Element} (h : Nests ts es) :
    elements ts = some es := by
  simp [elements, h [] []]

/-! ## Texts as elements

Tokens, values and elements together. There is one way to put texts together that does not depend on
what is in them: with a character between them at which every token ends (`append_cons`). -/

/-- A text with these values in its placeholders is these elements, wherever it stands. -/
def Reads (text : List Char) (values : List (Option Value)) (es : List Element) : Prop :=
  ∃ ts filled, tokens text = some ts ∧ fill values ts = some filled ∧ Nests filled es

namespace Reads

theorem nil : Reads [] [] [] := ⟨[], [], rfl, rfl, .nil⟩

theorem ofText_eq {text : List Char} {values : List (Option Value)} {es : List Element}
    (h : Reads text values es) : Formula.ofText text values = read es := by
  obtain ⟨ts, filled, hts, hfilled, hnests⟩ := h
  simp [Formula.ofText, hts, hfilled, elements_of_nests hnests]

/-- A text that says something is a sequence of elements. -/
theorem of_ofText {text : List Char} {values : List (Option Value)} {f : Formula}
    (h : Formula.ofText text values = some f) : ∃ es, Reads text values es ∧ read es = some f := by
  obtain ⟨ts, hts, h⟩ := Option.bind_eq_some_iff.mp h
  obtain ⟨filled, hfilled, h⟩ := Option.bind_eq_some_iff.mp h
  obtain ⟨es, hes, h⟩ := Option.bind_eq_some_iff.mp h
  -- the elements are those of the text by itself, so also in company
  exact ⟨es, ⟨ts, filled, hts, hfilled, .of_elements hes⟩, h⟩

theorem unique {text : List Char} {values : List (Option Value)} {es fs : List Element}
    (h : Reads text values es) (h' : Reads text values fs) : es = fs := by
  obtain ⟨ts, filled, hts, hfilled, hnests⟩ := h
  obtain ⟨ts', filled', hts', hfilled', hnests'⟩ := h'
  obtain rfl := Option.some.inj (hts.symm.trans hts')
  obtain rfl := Option.some.inj (hfilled.symm.trans hfilled')
  exact Option.some.inj ((elements_of_nests hnests).symm.trans (elements_of_nests hnests'))

/-- Two texts with a character between them that stands alone. -/
theorem append_cons {a b : List Char} {c : Char} {self filled : List Token}
    {vs us ws : List (Option Value)} {es fs gs : List Element} (ha : Reads a vs es)
    (hc : kind c = .alone self) (hself : fill us self = some filled) (hnests : Nests filled fs)
    (hb : Reads b ws gs) : Reads (a ++ c :: b) (vs ++ us ++ ws) (es ++ fs ++ gs) := by
  obtain ⟨ta, fa, hta, hfa, hna⟩ := ha
  obtain ⟨tb, fb, htb, hfb, hnb⟩ := hb
  exact ⟨ta ++ self ++ tb, fa ++ filled ++ fb, tokens_append_cons hta hc htb,
    fill_append (fill_append hfa hself) hfb, (hna.append hnests).append hnb⟩

theorem append_space {a b : List Char} {vs ws : List (Option Value)} {es gs : List Element}
    (ha : Reads a vs es) (hb : Reads b ws gs) : Reads (a ++ ' ' :: b) (vs ++ ws) (es ++ gs) := by
  have hself : fill [] [] = some [] := rfl
  simpa using ha.append_cons (by rfl : kind ' ' = .alone []) hself .nil hb

theorem append_comma {a b : List Char} {vs ws : List (Option Value)} {es gs : List Element}
    (ha : Reads a vs es) (hb : Reads b ws gs) :
    Reads (a ++ ',' :: b) (vs ++ ws) (es ++ .token .comma :: gs) := by
  have hself : fill [] [.comma] = some [.comma] := rfl
  simpa using ha.append_cons (by rfl) hself (.token (by simp) (by simp)) hb

theorem slot (v : Option Value) : Reads ['?'] [v] [.token (.slot v)] := by
  have hself : fill [v] [.slot none] = some [.slot v] := rfl
  exact nil.append_cons (by rfl) hself (.token (by simp) (by simp)) nil

theorem group {a : List Char} {vs : List (Option Value)} {es : List Element} (ha : Reads a vs es) :
    Reads ('(' :: a ++ [')']) vs [.group (read es) (es.flatMap Element.tokens)] := by
  obtain ⟨ts, filled, hts, hfilled, hnests⟩ := ha
  refine ⟨.opening :: ts ++ [.closing], .opening :: filled ++ [.closing], ?_, ?_, hnests.group⟩
  · have hclose : tokens (a ++ [')']) = some (ts ++ [.closing] ++ []) :=
      tokens_append_cons hts (by rfl) (by rfl)
    have hopen : kind '(' = .alone [.opening] := by rfl
    simpa using tokens_cons hopen hclose
  · have hclose : fill (vs ++ []) (ts ++ [.closing]) = some (filled ++ [.closing]) :=
      fill_append hfilled rfl
    simpa [fill] using hclose

end Reads

/-! ## Plain sequences

What keeps a connective from tearing a sequence apart, or from joining it with its neighbours, is
that none of the words that do so is among its elements. -/

/-- Whether an element is a word that connects comparisons, or that holds such words. -/
def Element.connects (e : Element) : Bool :=
  e.is "AND" || e.is "XOR" || e.is "OR" || e.is "BETWEEN"
    || e.is "CASE"

/-- A sequence that says something, and says it in any company. -/
structure Plain (es : List Element) (f : Formula) : Prop where
  apart : ∀ e ∈ es, e.connects = false
  read : readOne es = some f

/-- Without words that hold others a sequence is settled as it is. -/
theorem settle_eq_self {es : List Element}
    (h : ∀ e ∈ es, e.is "BETWEEN" = false ∧ e.is "CASE" = false) :
    settle [] es = some es := by
  induction es with
  | nil => rfl
  | cons e rest ih =>
    obtain ⟨he, hrest⟩ := List.forall_mem_cons.mp h
    simp [settle, he.1, he.2, ih hrest]

/-- Sequences with a word between them. -/
def joined (word : String) (parts : List (List Element)) : List Element :=
  [.token (.word word.toList)].intercalate parts

/-- Where a word does not occur, nothing is cut. -/
theorem cut_eq_singleton {word : String} {es : List Element}
    (h : ∀ e ∈ es, e.is word = false) : cut word es = [es] :=
  List.splitOnP_eq_singleton h

/-- What was joined by a word is cut there again, if the word is not in the parts
(`splitOnP_intercalate`). -/
theorem cut_joined {word : String} (hword : Token.is word (.word word.toList) = true)
    {parts : List (List Element)} (hne : parts ≠ [])
    (h : ∀ part ∈ parts, ∀ e ∈ part, e.is word = false) : cut word (joined word parts) = parts := by
  have hseparator : (Element.token (.word word.toList)).is word = true := hword
  exact splitOnP_intercalate hseparator hne h

/-! ## What plain sequences say

A word that is not there cuts nothing, so a plain sequence passes all levels of the grammar as it
is, and a joined one all levels but one. -/

/-- What connects nothing is none of the five words. -/
theorem Element.connects_eq_false_iff {e : Element} :
    e.connects = false ↔ e.is "AND" = false ∧ e.is "XOR" = false ∧ e.is "OR" = false
      ∧ e.is "BETWEEN" = false ∧ e.is "CASE" = false := by
  simp [Element.connects, and_assoc]

/-- A plain sequence has no `AND` to be cut at. -/
theorem readAll_plain {es : List Element} {f : Formula} (h : Plain es f) : readAll es = some f := by
  have hcut : cut "AND" es = [es] :=
    cut_eq_singleton fun e he => (Element.connects_eq_false_iff.mp (h.apart e he)).1
  rw [readAll, hcut]
  exact h.read

/-- Without `XOR`, the level of `XOR` is passed. -/
theorem readOdd_eq {es : List Element} (h : ∀ e ∈ es, e.is "XOR" = false) :
    readOdd es = readAll es := by
  rw [readOdd, cut_eq_singleton h]
  rfl

/-- Without `OR` and the words that hold others, so is the level of `OR`. -/
theorem read_eq {es : List Element}
    (h : ∀ e ∈ es, e.is "OR" = false ∧ e.is "BETWEEN" = false ∧ e.is "CASE" = false) :
    read es = readOdd es := by
  rw [read, settle_eq_self fun e he => (h e he).2, Option.bind_some,
    cut_eq_singleton fun e he => (h e he).1]
  rfl

/-- A plain sequence passes the level of `XOR`. -/
theorem readOdd_plain {es : List Element} {f : Formula} (h : Plain es f) : readOdd es = some f := by
  rw [readOdd_eq fun e he => (Element.connects_eq_false_iff.mp (h.apart e he)).2.1]
  exact readAll_plain h

/-- A plain sequence says what it says at the strongest level. -/
theorem read_plain {es : List Element} {f : Formula} (h : Plain es f) : read es = some f := by
  rw [read_eq fun e he => (Element.connects_eq_false_iff.mp (h.apart e he)).2.2]
  exact readOdd_plain h

/-- Sequences that are read one by one make up what the connective between them makes of their
truth. -/
theorem chained_truth (join : Formula → Formula → Formula) {op : Truth → Truth → Truth}
    {unit : Truth} (hjoin : ∀ f g row, (join f g).truth row = op (f.truth row) (g.truth row))
    (hunit : ∀ a, op a unit = a) {read : List Element → Option Formula}
    {parts : List (List Element × Formula)} (hne : parts ≠ [])
    (h : ∀ part ∈ parts, read part.1 = some part.2) :
    ∃ f, chained join read (parts.map Prod.fst) = some f
      ∧ ∀ row, f.truth row = (parts.map fun part => part.2.truth row).foldr op unit := by
  induction parts with
  | nil => exact absurd rfl hne
  | cons part rest ih =>
    obtain ⟨hpart, hrest⟩ := List.forall_mem_cons.mp h
    cases rest with
    -- the last part is all that is left, and the unit is added to it
    | nil => exact ⟨part.2, hpart, fun row => (hunit _).symm⟩
    | cons next rest =>
      obtain ⟨f, hf, htruth⟩ := ih (by simp) hrest
      refine ⟨join part.2 f, ?_, fun row => ?_⟩
      · show (read part.1).bind
          (fun g => (chained join read ((next :: rest).map Prod.fst)).map (join g)) = _
        rw [hpart, hf]
        rfl
      · rw [hjoin, htruth row]
        rfl

/-- **Joined sequences.** Plain sequences with one connective between each two say what the
connective makes of what they say. -/
theorem read_joined {k : Connective} (hk : k ≠ .not) {parts : List (List Element × Formula)}
    (hne : parts ≠ []) (h : ∀ part ∈ parts, Plain part.1 part.2) :
    ∃ f, read (joined k.token (parts.map Prod.fst)) = some f
      ∧ ∀ row, f.truth row = k.combine (parts.map fun part => part.2.truth row) := by
  have hparts : parts.map Prod.fst ≠ [] := by simpa using hne
  have hapart : ∀ es ∈ parts.map Prod.fst, ∀ e ∈ es, e.connects = false := by
    intro es hes e he
    obtain ⟨part, hpart, rfl⟩ := List.mem_map.mp hes
    exact (h part hpart).apart e he
  -- no other connecting word is among the joined elements
  have hword : ∀ word, Token.is word (.word k.token.toList) = false →
      (∀ e : Element, e.connects = false → e.is word = false) →
      ∀ e ∈ joined k.token (parts.map Prod.fst), e.is word = false := by
    intro word hother hplain e he
    rcases mem_intercalate he with ⟨es, hes, he⟩ | rfl
    · exact hplain e (hapart es hes e he)
    · exact hother
  -- the joined sequence is cut at its own connective only
  have hcut : cut k.token (joined k.token (parts.map Prod.fst)) = parts.map Prod.fst := by
    refine cut_joined (by cases k <;> decide) hparts fun es hes e he => ?_
    have := Element.connects_eq_false_iff.mp (hapart es hes e he)
    cases k with
    | and => exact this.1
    | xor => exact this.2.1
    -- at the level of the connective, the parts are read by the levels below
    | or => exact this.2.2.1
    | not => exact absurd rfl hk
  have hheld : ∀ e ∈ joined k.token (parts.map Prod.fst), e.is "BETWEEN" = false
      ∧ e.is "CASE" = false :=
    fun e he =>
      ⟨hword "BETWEEN" (by cases k <;> decide)
        (fun e h => (Element.connects_eq_false_iff.mp h).2.2.2.1) e he,
        hword "CASE" (by cases k <;> decide)
          (fun e h => (Element.connects_eq_false_iff.mp h).2.2.2.2) e he⟩
  cases k with
  | not => exact absurd rfl hk
  | or =>
    obtain ⟨f, hf, htruth⟩ := chained_truth .or (fun _ _ _ => rfl) Truth.or_no hne
      fun part hpart => readOdd_plain (h part hpart)
    refine ⟨f, ?_, htruth⟩
    rw [read, settle_eq_self hheld, Option.bind_some, show "OR" = Connective.or.token
      from rfl, hcut, hf]
  | xor =>
    obtain ⟨f, hf, htruth⟩ := chained_truth .xor (fun _ _ _ => rfl) Truth.xor_no hne
      fun part hpart => readAll_plain (h part hpart)
    have hor := hword "OR" (by decide) fun e h => (Element.connects_eq_false_iff.mp h).2.2.1
    refine ⟨f, ?_, htruth⟩
    rw [read_eq fun e he => ⟨hor e he, hheld e he⟩, readOdd,
      show "XOR" = Connective.xor.token from rfl, hcut, hf]
  | and =>
    obtain ⟨f, hf, htruth⟩ := chained_truth .and (fun _ _ _ => rfl) Truth.and_yes hne
      fun part hpart => (h part hpart).read
    have hor := hword "OR" (by decide) fun e h => (Element.connects_eq_false_iff.mp h).2.2.1
    have hxor := hword "XOR" (by decide) fun e h => (Element.connects_eq_false_iff.mp h).2.1
    refine ⟨f, ?_, htruth⟩
    rw [read_eq fun e he => ⟨hor e he, hheld e he⟩, readOdd_eq hxor, readAll,
      show "AND" = Connective.and.token from rfl, hcut, hf]

end EntityMapper.Reading
