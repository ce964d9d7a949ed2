import EntityMapper.Naming
import EntityMapper.Proofs.Text.Ascii

/-!
# The words of a name

The English convention goes through a name once. A capital is lowered, behind an underscore if it
begins a word; a hyphen or a space becomes an underscore unless there is one already; every other
character is kept. Which of these happens hangs on the neighbours of a character, but across an
underscore nothing of that is seen. So two names that are joined by an underscore are taken apart
into words one by one (`underscore_join`).

Of an ASCII name only characters are left that are kept when they are met again, so that a name
which was taken apart stays as it is (`underscore_normal`).

## Structure

* `underscoreFrom_capital`, `underscoreFrom_break`, `underscoreFrom_kept` — the three steps of the
  scan. All inductions go by these, and not by the definition.
* `underscoreFrom_append` — the seam: behind an underscore, the scan begins anew.
* `underscoreFrom_eq_self` — characters that are kept stay, whatever comes before them.
* `isKept_of_mem_underscoreFrom` — and of ASCII nothing else comes out. Both together make the scan
  idempotent.
-/

namespace EntityMapper.Naming

/-! ## One character at a time

`underscoreFrom` has one equation for each of the three things that may happen to a character. All
facts about it are inductions with these three cases. -/

/-- Whether a character parts words without being written. -/
def isBreak (c : Char) : Bool := c == '-' || c == ' '

/-- Whether a character is written as it stands. -/
def isKept (c : Char) : Bool := !Text.isUpper c && !isBreak c

variable {before : Option Char} {separated : Bool} {c : Char} {rest : List Char}

theorem isUpper_of_isBreak (h : isBreak c = true) : Text.isUpper c = false := by
  rcases Bool.or_eq_true_iff.mp h with h | h
  · obtain rfl := eq_of_beq h
    decide
  · obtain rfl := eq_of_beq h
    decide

/-- What is kept is neither a capital nor a hyphen or a space. -/
theorem isKept_iff : isKept c = true ↔ Text.isUpper c = false ∧ c ≠ '-' ∧ c ≠ ' ' := by
  simp [isKept, isBreak]

/-- The three things that may happen to a character. -/
theorem isUpper_or_isBreak_or_isKept (c : Char) :
    Text.isUpper c = true ∨ isBreak c = true ∨ isKept c = true := by
  cases hupper : Text.isUpper c with
  | true => exact .inl rfl
  | false => cases hbreak : isBreak c <;> simp [isKept, hupper, hbreak]

/-- A capital is lowered. If it begins a word, an underscore is written before it, unless one stands
there. -/
theorem underscoreFrom_capital (h : Text.isUpper c = true) :
    underscoreFrom before separated (c :: rest) =
      (if beginsWord before rest.head? && !separated then ['_'] else [])
        ++ Text.lowerChar c ++ underscoreFrom (some c) false rest := by
  rw [underscoreFrom, if_pos h]

/-- A break becomes an underscore, unless one stands there. -/
theorem underscoreFrom_break (h : isBreak c = true) :
    underscoreFrom before separated (c :: rest) =
      (if separated then [] else ['_']) ++ underscoreFrom (some c) true rest := by
  rw [underscoreFrom, isUpper_of_isBreak h, if_neg Bool.false_ne_true]
  exact if_pos h

/-- What is kept is written, and counts as an underscore if it is one. -/
theorem underscoreFrom_kept (h : isKept c = true) :
    underscoreFrom before separated (c :: rest) = c :: underscoreFrom (some c) (c == '_') rest := by
  obtain ⟨hupper, hbreak⟩ := Bool.and_eq_true_iff.mp h
  rw [Bool.not_eq_true'] at hupper hbreak
  rw [underscoreFrom, hupper, if_neg Bool.false_ne_true]
  exact if_neg (by rw [← isBreak, hbreak]; exact Bool.false_ne_true)

/-! ## Two names with an underscore between them

The seam of two names. Neither the capital before the underscore nor the one behind it can tell what
stands on the other side. -/

/-- An underscore is no letter, so to a capital before it it is as if nothing followed. -/
theorem beginsWord_before_underscore (before : Option Char) (rest b : List Char) :
    beginsWord before (rest ++ '_' :: b).head? = beginsWord before rest.head? := by
  cases rest with
  | cons c rest => rfl
  | nil =>
    have hlower : Text.isLower '_' = false := by decide
    cases before with
    | none => rfl
    | some p => simp [beginsWord, hlower]

/-- Up to an underscore, a name is taken apart as if it ended there. Induction on the first name, by
the three things that may happen to a character. -/
theorem underscoreFrom_append (before : Option Char) (separated : Bool) (a b : List Char) :
    underscoreFrom before separated (a ++ '_' :: b) =
      underscoreFrom before separated a ++ '_' :: underscoreFrom (some '_') true b := by
  induction a generalizing before separated with
  | nil => exact underscoreFrom_kept (by decide)
  | cons c rest ih =>
    rw [List.cons_append]
    rcases isUpper_or_isBreak_or_isKept c with h | h | h
    · rw [underscoreFrom_capital h, underscoreFrom_capital h, beginsWord_before_underscore, ih,
        List.append_assoc _ _ (_ :: _)]
    · rw [underscoreFrom_break h, underscoreFrom_break h, ih, List.append_assoc]
    · rw [underscoreFrom_kept h, underscoreFrom_kept h, ih, List.cons_append]

/-- Behind an underscore a name begins as if nothing stood before it, unless it begins with a break,
for which the underscore stands already. -/
theorem underscoreFrom_behind_underscore {b : List Char} (h : ∀ c ∈ b.head?, isBreak c = false) :
    underscoreFrom (some '_') true b = underscoreFrom none false b := by
  cases b with
  | nil => rfl
  | cons c rest =>
    rcases isUpper_or_isBreak_or_isKept c with hupper | hbreak | hkept
    · -- an underscore is neither a small letter, a digit nor a capital
      have hword : beginsWord (some '_') rest.head? = false := by
        have hlower : (Text.isLower '_' || '_'.isDigit) = false := by decide
        have hupper : Text.isUpper '_' = false := by decide
        simp only [beginsWord, hlower, hupper, Bool.false_eq_true, if_false]
      rw [underscoreFrom_capital hupper, underscoreFrom_capital hupper, hword]
      rfl
    · rw [h c rfl] at hbreak
      cases hbreak
    · rw [underscoreFrom_kept hkept, underscoreFrom_kept hkept]

theorem toList_underscore (s : String) :
    (english.underscore s).toList = underscoreFrom none false s.toList :=
  String.toList_ofList

/-- **Names that are joined by an underscore** are taken apart one by one, provided that the second
does not begin with a hyphen or a space. -/
theorem underscore_join (a : String) {b : String} (h : ∀ c ∈ b.toList.head?, isBreak c = false) :
    english.underscore (a ++ "_" ++ b) = english.underscore a ++ "_" ++ english.underscore b := by
  apply String.toList_injective
  have hseam : (a ++ "_" ++ b).toList = a.toList ++ '_' :: b.toList := by simp
  rw [toList_underscore, hseam, underscoreFrom_append, underscoreFrom_behind_underscore h]
  simp [toList_underscore]

/-! ## ASCII names

Where the lower case of a character is a single character, and is found in a table. -/

/-- Characters that are kept are all there is to a name that was taken apart. -/
theorem underscoreFrom_eq_self {s : List Char} (h : ∀ c ∈ s, isKept c = true) :
    underscoreFrom before separated s = s := by
  induction s generalizing before separated with
  | nil => rfl
  | cons c rest ih =>
    obtain ⟨hc, hrest⟩ := List.forall_mem_cons.mp h
    rw [underscoreFrom_kept hc, ih hrest]

/-- A capital is lowered to a letter, which is kept and is no underscore. -/
theorem isKept_toLower (hc : c.toNat < 128) (h : Text.isUpper c = true) :
    isKept c.toLower = true ∧ c.toLower ≠ '_' := by
  -- a table of the 128 characters
  have htable : ∀ n < 128, Text.isUpper (Char.ofNat n) = true →
      isKept (Char.ofNat n).toLower = true ∧ (Char.ofNat n).toLower ≠ '_' := by decide
  let P (c : Char) : Prop := Text.isUpper c = true → isKept c.toLower = true ∧ c.toLower ≠ '_'
  have hall : P c := Ascii.of_forall_lt htable hc
  exact hall h

/-- Of ASCII characters, only capitals have another lower case. -/
theorem toLower_eq_self (hc : c.toNat < 128) (h : Text.isUpper c = false) : c.toLower = c :=
  Ascii.toLower_of_not_isUpper (Ascii.isUpper_eq hc ▸ h)

/-- Nothing but characters that are kept is written: an underscore, a letter in lower case, or a
character that was kept. -/
theorem isKept_of_mem_underscoreFrom {s : List Char} (hs : ∀ c ∈ s, c.toNat < 128) :
    ∀ d ∈ underscoreFrom before separated s, isKept d = true := by
  induction s generalizing before separated with
  | nil => simp [underscoreFrom]
  | cons c rest ih =>
    obtain ⟨hc, hrest⟩ := List.forall_mem_cons.mp hs
    have hunderscore : isKept '_' = true := by decide
    -- each step gives out underscores and one more character at most
    rcases isUpper_or_isBreak_or_isKept c with h | h | h
    · rw [underscoreFrom_capital h, Ascii.lowerChar_eq hc]
      refine List.forall_mem_append.mpr ⟨List.forall_mem_append.mpr ⟨?_, ?_⟩, ih hrest⟩
      · split <;> simp [hunderscore]
      · exact List.forall_mem_singleton.mpr (isKept_toLower hc h).1
    · rw [underscoreFrom_break h]
      refine List.forall_mem_append.mpr ⟨?_, ih hrest⟩
      split <;> simp [hunderscore]
    · rw [underscoreFrom_kept h]
      exact List.forall_mem_cons.mpr ⟨h, ih hrest⟩

/-- So the names that stay as they are, are those of characters that are kept. -/
theorem underscore_eq_self_iff {s : String} (hs : ∀ c ∈ s.toList, c.toNat < 128) :
    english.underscore s = s ↔ ∀ c ∈ s.toList, isKept c = true := by
  constructor
  · intro h
    rw [← h, toList_underscore]
    exact isKept_of_mem_underscoreFrom hs
  · intro h
    apply String.toList_injective
    rw [toList_underscore, underscoreFrom_eq_self h]

/-- Apart from underscores and breaks, nothing is lost and nothing is added. -/
theorem filter_underscoreFrom {s : List Char} (hs : ∀ c ∈ s, c.toNat < 128) :
    (underscoreFrom before separated s).filter (· != '_') =
      (s.map Char.toLower).filter fun c => c != '_' && !isBreak c := by
  induction s generalizing before separated with
  | nil => rfl
  | cons c rest ih =>
    obtain ⟨hc, hrest⟩ := List.forall_mem_cons.mp hs
    rw [List.map_cons]
    rcases isUpper_or_isBreak_or_isKept c with h | h | h
    · obtain ⟨hkept, hne⟩ := isKept_toLower hc h
      have hbreak : isBreak c.toLower = false := by simpa using (Bool.and_eq_true_iff.mp hkept).2
      -- an underscore that is put in is filtered out
      have hseparator : (if beginsWord before rest.head? && !separated then ['_'] else []).filter
          (· != '_') = [] := by
        split <;> rfl
      rw [underscoreFrom_capital h, Ascii.lowerChar_eq hc, List.filter_append, List.filter_append,
        hseparator, ih hrest]
      simp [hne, hbreak]
    · have hseparator : (if separated then [] else ['_']).filter (· != '_') = [] := by split <;> rfl
      rw [underscoreFrom_break h, List.filter_append, hseparator, ih hrest,
        toLower_eq_self hc (isUpper_of_isBreak h)]
      simp [h]
    · obtain ⟨hupper, hbreak⟩ : Text.isUpper c = false ∧ isBreak c = false := by
        simpa [isKept] using h
      rw [underscoreFrom_kept h, toLower_eq_self hc hupper]
      by_cases hc : c = '_'
      · subst hc
        simp [ih hrest]
      · simp [hc, hbreak, ih hrest]

/-- **The words of an ASCII name** are a normal form. No capital, hyphen or space is left in them,
without the underscores they are the name in lower case without underscores, hyphens and spaces, and
they are not taken apart any further. Of two names with an underscore between them, such as make up
the names of foreign keys and of join tables, they are the words of the one and of the other, unless
the second begins with a hyphen or a space. -/
theorem underscore_normal {s : String} (hs : ∀ c ∈ s.toList, c.toNat < 128) :
    (∀ c ∈ (english.underscore s).toList, Text.isUpper c = false ∧ c ≠ '-' ∧ c ≠ ' ')
    ∧ (english.underscore s).toList.filter (· != '_') =
        (Text.lowercase s).toList.filter (fun c => c != '_' && !(c == '-' || c == ' '))
    ∧ english.underscore (english.underscore s) = english.underscore s
    ∧ ∀ t : String, (∀ c ∈ t.toList.head?, c ≠ '-' ∧ c ≠ ' ') →
        english.underscore (s ++ "_" ++ t) = english.underscore s ++ "_" ++ english.underscore t
        ∧ english.foreignKey s t = english.underscore s ++ "_" ++ english.underscore t
        ∧ english.joinTable s t = english.underscore s ++ "_" ++ english.underscore t := by
  -- the second and the third part both hang on the first one
  have hkept : ∀ c ∈ (english.underscore s).toList, isKept c = true := by
    rw [toList_underscore]
    exact isKept_of_mem_underscoreFrom hs
  refine ⟨fun c hc => isKept_iff.mp (hkept c hc), ?_, ?_, fun t ht => ?_⟩
  · rw [toList_underscore, Ascii.toList_lowercase hs]
    exact filter_underscoreFrom hs
  · apply String.toList_injective
    rw [toList_underscore (english.underscore s), underscoreFrom_eq_self hkept]
  · have hjoin := underscore_join s fun c hc => by simpa [isBreak] using ht c hc
    exact ⟨hjoin, hjoin, hjoin⟩

/-- Capitals in a row, a hyphen, a space and a digit before a capital. -/
theorem underscore_normal_serverLog :
    (∀ c ∈ "HTTPServer-Log 2B".toList, c.toNat < 128)
    ∧ english.underscore "HTTPServer-Log 2B" = "http_server_log_2_b"
    ∧ english.underscore "http_server_log_2_b" = "http_server_log_2_b"
    ∧ english.foreignKey "HTTPServer-Log 2B" "entryID" = "http_server_log_2_b" ++ "_"
      ++ "entry_id" := by
  have hs : ∀ c ∈ "HTTPServer-Log 2B".toList, c.toNat < 128 := by simp
  have hwords : english.underscore "HTTPServer-Log 2B" = "http_server_log_2_b" := by decide
  have hkey : english.underscore "entryID" = "entry_id" := by decide
  obtain ⟨-, -, hagain, hjoin⟩ := underscore_normal hs
  rw [hwords] at hagain
  -- the second name begins with a letter
  have hfirst : ∀ c ∈ "entryID".toList.head?, c ≠ '-' ∧ c ≠ ' ' := by
    intro c hc
    obtain rfl : 'e' = c := Option.some.inj hc
    decide
  refine ⟨hs, hwords, hagain, ?_⟩
  rw [← hwords, ← hkey]
  exact (hjoin "entryID" hfirst).2.1

end EntityMapper.Naming
