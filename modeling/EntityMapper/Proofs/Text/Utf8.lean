import EntityMapper.Text.Utf8

/-!
# Octets and the text they spell

The octets of a text are read back as this text. The first octet of a character tells how many
others belong to it and in which range the second one lies; what the octets hold of the code point
is put together again.

## Structure

* `readOctets_complete`, `readOctets_opens`, `readOctets_more`, `readOctets_last` — the four things
  that may happen at an octet.
* `readOctets_octets` — a character is made of one to four octets, and is read by as many of these
  steps.
-/

namespace EntityMapper.Text

variable {p : Unfinished} {b : Nat}

/-! ## One octet

The reader is in one of two states: between characters, or behind some octets of one that is not
complete. For each state and each kind of octet there is one lemma. -/

theorem readOctets_complete {c : Char} (h : lead b = .complete c) (rest : List Nat) :
    readOctets none (b :: rest) = c :: readOctets none rest := by
  rw [readOctets, advance, begin, h]
  rfl

theorem readOctets_opens (h : lead b = .opens p) (rest : List Nat) :
    readOctets none (b :: rest) = readOctets (some p) rest := by
  rw [readOctets, advance, begin, h]
  rfl

/-- An octet in its range that is not the last one. -/
theorem readOctets_more (hlow : p.low ≤ b) (hhigh : b ≤ p.high) (hmissing : p.missing ≠ 1)
    (rest : List Nat) :
    readOctets (some p) (b :: rest) =
      readOctets (some ⟨p.missing - 1, 0x80, 0xBF, p.value * 0x40 + (b - 0x80)⟩) rest := by
  have hrange : (decide (p.low ≤ b) && decide (b ≤ p.high)) = true := by simp [hlow, hhigh]
  have hlast : (p.missing == 1) = false := by simpa using hmissing
  rw [readOctets]
  simp only [advance, hrange, hlast, if_true, Bool.false_eq_true, if_false]
  rfl

theorem readOctets_last (hlow : p.low ≤ b) (hhigh : b ≤ p.high)
    (hmissing : p.missing = 1) {c : Char}
    (hvalue : p.value * 0x40 + (b - 0x80) = c.toNat) (rest : List Nat) :
    readOctets (some p) (b :: rest) = c :: readOctets none rest := by
  have hrange : (decide (p.low ≤ b) && decide (b ≤ p.high)) = true := by simp [hlow, hhigh]
  have hlast : (p.missing == 1) = true := by simpa using hmissing
  rw [readOctets]
  simp only [advance, hrange, hlast, if_true, hvalue, Char.ofNat_toNat]
  rfl

theorem lead_two (hlow : 0xC2 ≤ b) (hhigh : b ≤ 0xDF) :
    lead b = .opens ⟨1, 0x80, 0xBF, b - 0xC0⟩ := by
  rw [lead, if_neg (by omega), if_pos (by simp [hlow, hhigh])]

theorem lead_three (hlow : 0xE0 ≤ b) (hhigh : b ≤ 0xEF) :
    lead b =
      .opens ⟨2, if b == 0xE0 then 0xA0 else 0x80, if b == 0xED then 0x9F else 0xBF, b - 0xE0⟩ := by
  rw [lead, if_neg (by omega), if_neg (by simp; omega), if_pos (by simp [hlow, hhigh])]

theorem lead_four (hlow : 0xF0 ≤ b) (hhigh : b ≤ 0xF4) :
    lead b =
      .opens ⟨3, if b == 0xF0 then 0x90 else 0x80, if b == 0xF4 then 0x8F else 0xBF, b - 0xF0⟩ := by
  rw [lead, if_neg (by omega), if_neg (by simp; omega), if_neg (by simp; omega),
    if_pos (by simp [hlow, hhigh])]

/-! ## A character

The code points of characters leave out the surrogates, and these are just what the ranges of second
octets leave out. -/

/-- The octets of a character are read as this character, whatever comes behind them. There are four
cases by the number of octets; in each of them the lemmas on single octets are applied one by one,
and what is left is arithmetic on the code point. -/
theorem readOctets_octets (c : Char) (rest : List Nat) :
    readOctets none (octets c ++ rest) = c :: readOctets none rest := by
  -- neither a surrogate nor beyond the last code point, so the second octet is in its range
  have hvalid : c.toNat < 0xD800 ∨ 0xDFFF < c.toNat ∧ c.toNat < 0x110000 := c.valid
  unfold octets
  dsimp only
  generalize hn : c.toNat = n at hvalid
  split
  next hone =>
    have hlead : lead n = .complete c := by rw [lead, if_pos hone, ← hn, Char.ofNat_toNat]
    exact readOctets_complete hlead rest
  next hone =>
    split
    next htwo =>
      simp only [List.cons_append, List.nil_append]
      rw [readOctets_opens (lead_two (by omega) (by omega))]
      exact readOctets_last (by simp) (by simp; omega) rfl (by simp only []; omega) rest
    next htwo =>
      split
      next hthree =>
        -- behind 0xE0 and 0xED the second octet has a range of its own
        simp only [List.cons_append, List.nil_append]
        rw [readOctets_opens (lead_three (by omega) (by omega)),
          readOctets_more (by simp only [beq_iff_eq]; split <;> omega)
            (by simp only [beq_iff_eq]; split <;> omega) (by simp)]
        exact readOctets_last (by simp) (by simp; omega) rfl (by simp only []; omega) rest
      next hthree =>
        -- and so it has behind 0xF0 and 0xF4
        simp only [List.cons_append, List.nil_append]
        rw [readOctets_opens (lead_four (by omega) (by omega)),
          readOctets_more (by simp only [beq_iff_eq]; split <;> omega)
            (by simp only [beq_iff_eq]; split <;> omega) (by simp),
          readOctets_more (by simp) (by simp; omega) (by simp)]
        exact readOctets_last (by simp) (by simp; omega) rfl (by simp only []; omega) rest

/-- **A text is read back from its octets.** -/
theorem ofOctets_octets (s : List Char) : ofOctets (s.flatMap octets) = s := by
  induction s with
  | nil => rfl
  | cons c rest ih =>
    rw [List.flatMap_cons, ofOctets, readOctets_octets]
    exact congrArg (c :: ·) ih

theorem octets_ne_nil (c : Char) : octets c ≠ [] := by
  unfold octets
  dsimp only
  split
  · exact List.cons_ne_nil _ _
  · split
    · exact List.cons_ne_nil _ _
    · split <;> exact List.cons_ne_nil _ _

theorem octets_lt {c : Char} (h : b ∈ octets c) : b < 256 := by
  have hvalid : c.toNat < 0xD800 ∨ 0xDFFF < c.toNat ∧ c.toNat < 0x110000 := c.valid
  unfold octets at h
  dsimp only at h
  -- by the number of octets, as above
  split at h
  · simp only [List.mem_singleton] at h
    omega
  · split at h
    · simp only [List.mem_cons, List.not_mem_nil, or_false] at h
      omega
    · split at h
      · simp only [List.mem_cons, List.not_mem_nil, or_false] at h
        omega
      · simp only [List.mem_cons, List.not_mem_nil, or_false] at h
        omega

end EntityMapper.Text
