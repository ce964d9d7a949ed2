import EntityMapper.Proofs.Text.Ascii
import EntityMapper.Proofs.Text.Utf8
import EntityMapper.Url.Percent

/-!
# Encoding the parts of a URL

What is encoded for a part of a URL has no character left that is encoded there. So a text is kept
just if it had no such character to begin with, and what a URL shows does not tell what was put in.

## Structure

* `mem_encode` — the characters of an encoded text.
* `Lasting` — sets of characters for which encoding once is enough. For these,
  `Lasting.encode_eq_self_iff` says which texts are kept.
* `not_isEncoded_of_isAlphanum` — letters and digits belong to none of the sets.
-/

namespace EntityMapper.Url

/-! ## Hexadecimal digits -/

/-- There are sixteen digits, and each is read as its value. -/
theorem hexValue?_hexCapital {n : Nat} (h : n < 16) : hexValue? (hexCapital n) = some n := by
  have hdigits : ∀ n < 16, hexValue? (hexCapital n) = some n := by decide
  exact hdigits n h

theorem isAlphanum_hexCapital {n : Nat} (h : n < 16) : (hexCapital n).isAlphanum = true := by
  have hdigits : ∀ n < 16, (hexCapital n).isAlphanum = true := by decide
  exact hdigits n h

/-- An encoded octet is a percent sign and two digits. -/
theorem mem_encodeOctet {b : Nat} (hb : b < 256) {c : Char} (h : c ∈ encodeOctet b) :
    c = '%' ∨ c.isAlphanum = true := by
  simp only [encodeOctet, List.mem_cons, List.not_mem_nil, or_false] at h
  obtain rfl | rfl | rfl := h
  · exact .inl rfl
  · exact .inr (isAlphanum_hexCapital (by omega))
  · exact .inr (isAlphanum_hexCapital (by omega))

/-! ## Encoding

The statements are about any set of characters to encode, since there is one for each part of a URL.
They need only that the set leaves alone what encoding writes (`Lasting`). -/

section Encode

variable {isEncoded : Char → Bool}

theorem encode_cons (c : Char) (s : List Char) :
    encode isEncoded (c :: s) = encode isEncoded [c] ++ encode isEncoded s := by
  simp only [encode, List.flatMap_cons, List.flatMap_nil, List.append_nil]

theorem encode_singleton_of_not {c : Char} (h : isEncoded c = false) :
    encode isEncoded [c] = [c] := by
  simp [encode, h]

/-- A text without any character to encode is kept. -/
theorem encode_eq_self {s : List Char} (h : ∀ c ∈ s, isEncoded c = false) :
    encode isEncoded s = s := by
  induction s with
  | nil => rfl
  | cons c rest ih =>
    obtain ⟨hc, hrest⟩ := List.forall_mem_cons.mp h
    rw [encode_cons, encode_singleton_of_not hc, ih hrest]
    rfl

theorem encode_eq_nil_iff {s : List Char} : encode isEncoded s = [] ↔ s = [] := by
  constructor
  · intro h
    cases s with
    | nil => rfl
    | cons c rest =>
      -- every character leaves something, since it has at least one octet
      rw [encode_cons, List.append_eq_nil_iff] at h
      cases hencoded : isEncoded c with
      | false => simp [encode, hencoded] at h
      | true =>
        cases hoctets : Text.octets c with
        | nil => exact absurd hoctets (Text.octets_ne_nil c)
        | cons b octets => simp [encode, hencoded, hoctets, encodeOctet] at h
  · rintro rfl
    rfl

/-- What was encoded consists of percent signs and digits beside the characters that were kept. -/
theorem mem_encode {s : List Char} {c : Char} (h : c ∈ encode isEncoded s) :
    (isEncoded c = false ∧ c ∈ s) ∨ c = '%' ∨ c.isAlphanum = true := by
  obtain ⟨d, hd, hc⟩ := List.mem_flatMap.mp h
  -- a character is kept, or its octets are encoded
  cases hencoded : isEncoded d with
  | false =>
    rw [hencoded, if_neg Bool.false_ne_true, List.mem_singleton] at hc
    exact .inl (hc ▸ ⟨hencoded, hd⟩)
  | true =>
    rw [hencoded, if_pos rfl] at hc
    obtain ⟨b, hb, hc⟩ := List.mem_flatMap.mp hc
    exact .inr (mem_encodeOctet (Text.octets_lt hb) hc)

/-- A set of characters that keeps what encoding writes. -/
structure Lasting (isEncoded : Char → Bool) : Prop where
  percent : isEncoded '%' = false
  alphanum : ∀ c : Char, c.isAlphanum = true → isEncoded c = false

namespace Lasting

/-- What was encoded for such a set has nothing left to encode. -/
theorem not_of_mem (h : Lasting isEncoded) {s : List Char} {c : Char}
    (hc : c ∈ encode isEncoded s) :
    isEncoded c = false := by
  rcases mem_encode hc with ⟨hkept, -⟩ | rfl | hdigit
  · exact hkept
  · exact h.percent
  · exact h.alphanum c hdigit

/-- A text is kept just if there is nothing to encode. If it is kept, then it is encoded, and so has
nothing left to encode. -/
theorem encode_eq_self_iff (h : Lasting isEncoded) {s : List Char} :
    encode isEncoded s = s ↔ ∀ c ∈ s, isEncoded c = false :=
  ⟨fun hs _ hc => h.not_of_mem (hs.symm ▸ hc), encode_eq_self⟩

end Lasting

end Encode

/-! ## What is encoded where

The sets themselves, and how they are related. -/

/-- Letters and digits are encoded nowhere. All of them are in ASCII, so they are tried one by one.
-/
theorem not_isEncoded_of_isAlphanum {c : Char} (h : c.isAlphanum = true) :
    isUserEncoded c = false ∧ isQueryEncoded c = false := by
  have htable : ∀ n < 128, (Char.ofNat n).isAlphanum = true →
      isUserEncoded (Char.ofNat n) = false ∧ isQueryEncoded (Char.ofNat n) = false := by
    decide +kernel
  have hbounds := Ascii.toNat_bounds_of_isAlphanum h
  exact Ascii.of_forall_lt
    (P := fun c => c.isAlphanum = true → isUserEncoded c = false ∧ isQueryEncoded c = false) htable
      (by omega) h

theorem isPathEncoded_of_not_isUserEncoded {c : Char} (h : isUserEncoded c = false) :
    isPathEncoded c = false := by
  simp only [isUserEncoded, Bool.or_eq_false_iff] at h
  simp [h]

theorem isOpaqueEncoded_of_not_isPathEncoded {c : Char} (h : isPathEncoded c = false) :
    isOpaqueEncoded c = false := by
  simp only [isPathEncoded, isFragmentEncoded, Bool.or_eq_false_iff] at h
  simp [h]

theorem isOpaqueEncoded_of_not_isQueryEncoded {c : Char} (h : isQueryEncoded c = false) :
    isOpaqueEncoded c = false := by
  simp only [isQueryEncoded, Bool.or_eq_false_iff] at h
  simp [h]

/-- Users and paths keep percent signs, letters and digits. -/
theorem lasting_isUserEncoded : Lasting isUserEncoded where
  percent := by decide
  alphanum _ h := (not_isEncoded_of_isAlphanum h).1

theorem lasting_isPathEncoded : Lasting isPathEncoded where
  percent := by decide
  alphanum _ h := isPathEncoded_of_not_isUserEncoded (not_isEncoded_of_isAlphanum h).1

end EntityMapper.Url
