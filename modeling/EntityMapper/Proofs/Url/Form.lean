import EntityMapper.Proofs.Lists
import EntityMapper.Proofs.Url.Percent

/-!
# Forms and the pairs in them

The pairs of a form are decoded when they are read, and what is read is what was written: names and
values keep none of the punctuation that stands between them, and each octet is read back from its
two digits.

## Structure

* `decodeOctets_encodeForm` — names and values as octets, encoded and decoded.
* `decodeForm_encodeForm` — the same as texts, by `ofOctets_octets`.
* `component_parts` — a pair is divided where it was joined.
* `formPairs_formOf` — and so is the whole form.
-/

namespace EntityMapper.Url

/-! ## Names and values

A name or a value is encoded octet by octet, but spaces become plus signs. `spaced` undoes the
latter before octets are decoded, which is right because a plus sign is never kept. -/

/-- The characters of a form: those that are kept, and the punctuation that encoding and joining put
there. -/
def isFormChar (c : Char) : Bool := !isFormEncoded c || c == '%' || c == '+'

theorem isFormChar_of_isAlphanum {c : Char} (h : c.isAlphanum = true) : isFormChar c = true := by
  simp [isFormChar, isFormEncoded, h]

theorem encodeForm_cons (c : Char) (s : List Char) :
    encodeForm (c :: s) = (if c == ' ' then ['+'] else encode isFormEncoded [c]) ++ encodeForm s :=
  List.flatMap_cons

/-- A component of a form has no other characters. -/
theorem isFormChar_of_mem_encodeForm {s : List Char} {c : Char} (h : c ∈ encodeForm s) :
    isFormChar c = true := by
  obtain ⟨d, -, hc⟩ := List.mem_flatMap.mp h
  split at hc
  · rw [List.mem_singleton] at hc
    rw [hc]
    decide
  · rcases mem_encode hc with ⟨hkept, -⟩ | rfl | hdigit
    · simp [isFormChar, hkept]
    · decide
    · exact isFormChar_of_isAlphanum hdigit

/-- No component of a form has a character that separates components. -/
theorem ne_of_isFormChar {c : Char} (h : isFormChar c = true) : c ≠ '&' ∧ c ≠ '=' := by
  constructor <;> rintro rfl <;> exact absurd h (by decide)

theorem decodeOctets_cons_of_ne {c : Char} (h : c ≠ '%') (rest : List Char) :
    decodeOctets (c :: rest) = Text.octets c ++ decodeOctets rest := by
  rw [decodeOctets]
  exact fun _ _ _ hc _ => h hc

/-- An octet is read back from its two digits. -/
theorem decodeOctets_encodeOctet {b : Nat} (hb : b < 256) (rest : List Char) :
    decodeOctets (encodeOctet b ++ rest) = b :: decodeOctets rest := by
  have hhigh : hexValue? (hexCapital (b / 16)) = some (b / 16) := hexValue?_hexCapital (by omega)
  have hlow : hexValue? (hexCapital (b % 16)) = some (b % 16) := hexValue?_hexCapital (by omega)
  have hb : b / 16 * 16 + b % 16 = b := by omega
  simp only [encodeOctet, List.cons_append, List.nil_append, decodeOctets, hhigh, hlow, hb]

/-- A sequence of octets is read back octet by octet. Induction on the octets. -/
theorem decodeOctets_encodeOctets {octets : List Nat} (h : ∀ b ∈ octets, b < 256)
    (rest : List Char) :
    decodeOctets (octets.flatMap encodeOctet ++ rest) = octets ++ decodeOctets rest := by
  induction octets with
  | nil => rfl
  | cons b octets ih =>
    obtain ⟨hb, hoctets⟩ := List.forall_mem_cons.mp h
    rw [List.flatMap_cons, List.append_assoc, decodeOctets_encodeOctet hb, ih hoctets,
      List.cons_append]

/-- A space for each plus sign, as reading a form begins. -/
def spaced (s : List Char) : List Char := s.map fun c => if c == '+' then ' ' else c

theorem spaced_append (s t : List Char) : spaced (s ++ t) = spaced s ++ spaced t := List.map_append

theorem spaced_eq_self {s : List Char} (h : '+' ∉ s) : spaced s = s := by
  have hkept : ∀ c ∈ s, (if c == '+' then ' ' else c) = c := by
    intro c hc
    rw [if_neg]
    simpa using fun heq : c = '+' => h (heq ▸ hc)
  rw [spaced, List.map_congr_left hkept, List.map_id']

theorem plus_not_mem_encodeOctets {octets : List Nat} (h : ∀ b ∈ octets, b < 256) :
    '+' ∉ octets.flatMap encodeOctet := by
  intro hplus
  obtain ⟨b, hb, hplus⟩ := List.mem_flatMap.mp hplus
  rcases mem_encodeOctet (h b hb) hplus with hpercent | hdigit
  · exact absurd hpercent (by decide)
  · exact absurd hdigit (by decide)

/-- What was encoded for a form is decoded to its octets. Induction on the text; a character is a
space, or is kept, or is encoded octet by octet. -/
theorem decodeOctets_encodeForm (s : List Char) :
    decodeOctets (spaced (encodeForm s)) = s.flatMap Text.octets := by
  induction s with
  | nil => rfl
  | cons c rest ih =>
    have hoctets : ∀ b ∈ Text.octets c, b < 256 := fun _ hb => Text.octets_lt hb
    rw [encodeForm_cons, spaced_append, List.flatMap_cons]
    by_cases hspace : c = ' '
    · rw [hspace, if_pos (beq_self_eq_true _), ← ih]
      exact decodeOctets_cons_of_ne (by decide) _
    · rw [if_neg (by simpa using hspace)]
      cases hencoded : isFormEncoded c with
      | true =>
        have hencode : encode isFormEncoded [c] = (Text.octets c).flatMap encodeOctet := by
          simp [encode, hencoded]
        rw [hencode, spaced_eq_self (plus_not_mem_encodeOctets hoctets),
          decodeOctets_encodeOctets hoctets, ih]
      | false =>
        -- a plus sign or a percent sign would have been encoded
        have hplus : c ≠ '+' := by
          rintro rfl
          exact absurd hencoded (by decide)
        have hpercent : c ≠ '%' := by
          rintro rfl
          exact absurd hencoded (by decide)
        rw [encode_singleton_of_not hencoded, spaced_eq_self (by simpa using hplus.symm),
          List.singleton_append, decodeOctets_cons_of_ne hpercent, ih]

theorem decodeForm_encodeForm (s : List Char) : decodeForm (encodeForm s) = s := by
  have hoctets : decodeOctets ((encodeForm s).map fun c => if c == '+' then ' ' else c) = _ :=
    decodeOctets_encodeForm s
  rw [decodeForm, hoctets, Text.ofOctets_octets]

/-! ## Pairs -/

def component (pair : String × String) : List Char :=
  encodeForm pair.1.toList ++ '=' :: encodeForm pair.2.toList

theorem separator_not_mem_component (pair : String × String) : '&' ∉ component pair := by
  intro h
  rw [component, List.mem_append, List.mem_cons] at h
  rcases h with h | h | h
  · exact (ne_of_isFormChar (isFormChar_of_mem_encodeForm h)).1 rfl
  · exact absurd h (by decide)
  · exact (ne_of_isFormChar (isFormChar_of_mem_encodeForm h)).1 rfl

/-- The first equals sign of a component is the one between name and value. -/
theorem component_parts (pair : String × String) :
    (component pair).takeWhile (· != '=') = encodeForm pair.1.toList
      ∧ ((component pair).dropWhile (· != '=')).drop 1 = encodeForm pair.2.toList := by
  have hname : ∀ c ∈ encodeForm pair.1.toList, (c != '=') = true := by
    intro c hc
    simpa using (ne_of_isFormChar (isFormChar_of_mem_encodeForm hc)).2
  have hequals : ∀ c ∈ ('=' :: encodeForm pair.2.toList).head?, (c != '=') = false := by simp
  constructor
  · rw [component, takeWhile_append hname hequals]
  · rw [component, dropWhile_append hname hequals, List.drop_one, List.tail_cons]

/-- **Pairs are read back from their form.** -/
theorem formPairs_formOf (pairs : List (String × String)) : formPairs (formOf pairs) = pairs := by
  have hform : formOf pairs = ['&'].intercalate (pairs.map component) := rfl
  cases hpairs : pairs with
  | nil => rfl
  | cons pair rest =>
    rw [← hpairs]
    have hsplit : (formOf pairs).splitOn '&' = pairs.map component := by
      refine List.splitOn_intercalate '&' (fun part hpart => ?_) (by simp [hpairs])
      obtain ⟨pair, -, rfl⟩ := List.mem_map.mp hpart
      exact separator_not_mem_component pair
    -- no component is empty, since each has its equals sign
    have hfilled : (pairs.map component).filter (fun pair => !pair.isEmpty) =
        pairs.map component := by
      refine List.filter_eq_self.mpr fun part hpart => ?_
      obtain ⟨pair, -, rfl⟩ := List.mem_map.mp hpart
      simp [component]
    -- the two parts of a component are decoded each by itself
    have hread :
      ∀ pair : String × String, (String.ofList (decodeForm ((component pair).takeWhile (· != '='))),
        String.ofList (decodeForm (((component pair).dropWhile (· != '=')).drop 1))) = pair := by
      intro pair
      rw [(component_parts pair).1, (component_parts pair).2, decodeForm_encodeForm,
        decodeForm_encodeForm, String.ofList_toList, String.ofList_toList]
    rw [formPairs, hsplit, hfilled, List.map_map]
    exact (List.map_congr_left fun pair _ => hread pair).trans (List.map_id pairs)

theorem isQueryEncoded_of_mem_formOf {pairs : List (String × String)} {c : Char}
    (h : c ∈ formOf pairs) :
    isQueryEncoded c = false := by
  have hform : formOf pairs = ['&'].intercalate (pairs.map component) := rfl
  -- each character of a form is one that a query keeps
  have hchar {c : Char} (hc : isFormChar c = true) : isQueryEncoded c = false := by
    simp only [isFormChar, isFormEncoded, Bool.not_not, Bool.or_eq_true, beq_iff_eq] at hc
    rcases hc with (((((hc | rfl) | rfl) | rfl) | rfl) | rfl) | rfl
    · exact (not_isEncoded_of_isAlphanum hc).2
    all_goals decide
  rw [hform] at h
  rcases mem_intercalate h with ⟨part, hpart, hc⟩ | rfl
  · obtain ⟨pair, -, rfl⟩ := List.mem_map.mp hpart
    rw [component, List.mem_append, List.mem_cons] at hc
    rcases hc with hc | rfl | hc
    · exact hchar (isFormChar_of_mem_encodeForm hc)
    · decide
    · exact hchar (isFormChar_of_mem_encodeForm hc)
  · decide

end EntityMapper.Url
