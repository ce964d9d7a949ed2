/-!
# Blanks

A blank is a character with the Unicode property `White_Space`. `trim` drops the blanks at the ends
of a text and keeps those inside. A text of nothing but blanks is trimmed to nothing, and no other
text is (`trim_eq_nil_iff`).
-/

namespace EntityMapper.Text

/-- The property `White_Space`. -/
def isBlank (c : Char) : Bool :=
  let n := c.toNat
  (0x9 ≤ n && n ≤ 0xD) || n == 0x20 || n == 0x85 || n == 0xA0 || n == 0x1680
    || (0x2000 ≤ n && n ≤ 0x200A) || n == 0x2028 || n == 0x2029 || n == 0x202F || n == 0x205F
    || n == 0x3000

def trimStart (s : List Char) : List Char := s.dropWhile isBlank

def trimEnd : List Char → List Char
  | [] => []
  | c :: rest =>
    match trimEnd rest with
    | [] => if isBlank c then [] else [c]
    | kept => c :: kept

def trim (s : List Char) : List Char := trimEnd (trimStart s)

def trimmed (s : String) : String := String.ofList (trim s.toList)

def isBlankText (s : String) : Bool := s.toList.all isBlank

/-! ## What trimming leaves

Blanks alone vanish. `trimEnd` goes by recursion from the end, so the proof follows it; `trimStart`
only drops blanks, which does not change whether there is anything else. -/

theorem trimEnd_eq_nil_iff {s : List Char} : trimEnd s = [] ↔ s.all isBlank = true := by
  induction s with
  | nil => simp [trimEnd]
  | cons c rest ih =>
    rw [trimEnd]
    split
    next h => by_cases hc : isBlank c <;> simp [hc, ih.mp h]
    next kept h =>
      have : ¬ rest.all isBlank = true := fun hall => h (ih.mpr hall)
      simp [this]

theorem trim_eq_nil_iff {s : List Char} : trim s = [] ↔ s.all isBlank = true := by
  rw [trim, trimEnd_eq_nil_iff]
  induction s with
  | nil => rfl
  | cons c rest ih =>
    by_cases hc : isBlank c <;> simp_all [trimStart, List.dropWhile]

end EntityMapper.Text
