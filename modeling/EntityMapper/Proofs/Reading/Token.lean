import EntityMapper.Proofs.Text.Trim
import EntityMapper.Value.Basic

/-!
# Tokens of predicates

The words, symbols and quoted parts that the text of a predicate consists of. The text is scanned
from the left by a machine that knows only which token it is inside of, so what it makes of a text
depends on the text before it through that state alone. The main statement is `tokens_append_cons`:
at a blank, a comma, a parenthesis or a placeholder every token ends, and what stands on either side
is scanned as if it stood alone.

Comments are no part of a predicate: a text with one has no tokens, nor has a text with a quote that
is left open or with a character that means different things to different databases.

## Structure

* `Token`, `kind` — the tokens, and what kinds of characters there are.
* `step`, `scan` — the machine: it collects the characters of a pending token, or lets a character
  end it.
* `scan_append` — a scan can be interrupted; it goes on from the state that it is in.
* `tokens_append_cons` — a character that stands alone divides a text. The lemmas on spaces,
  parentheses and trimming are cases of it.
-/

namespace EntityMapper.Reading

/-- The two kinds of quotes. -/
inductive Quote where
  | single
  | double
deriving DecidableEq, Repr

/-- The character that a quoted part begins and ends with. -/
def Quote.char : Quote → Char
  | .single => '\''
  | .double => '"'

/-- What a text consists of. -/
inductive Token where
  /-- A keyword, a number, or a column with the table that it may be prefixed with. -/
  | word (s : List Char)
  /-- Operator characters without a gap. -/
  | symbol (s : List Char)
  | quoted (q : Quote) (s : List Char)
  | comma
  | opening
  | closing
  /-- A placeholder with the value bound to it, as far as there is one. -/
  | slot (value? : Option Value)
deriving Repr

/-! ## Scanning

The machine. Its state is the token it is inside of (`Pending`), and each character either goes on
with this token or ends it. -/

/-- What a character does to a text outside quotes. -/
inductive Kind where
  /-- It ends any token, and stands for these itself. -/
  | alone (self : List Token)
  | word
  | symbol
  | quote (q : Quote)
  /-- It has no place in a predicate. -/
  | foreign
deriving Repr

/-- Whether a character may stand in a word. Letters beyond ASCII may. -/
def isWordChar (c : Char) : Bool := c.isAlphanum || c == '_' || c == '.' || 0x80 ≤ c.toNat

/-- Whether a character may stand in an operator. -/
def isSymbolChar (c : Char) : Bool :=
  ['=', '<', '>', '!', '&', '|', '^', '~', '+', '-', '*', '/', '%', ':', '@'].contains c

/-- The kind of a character outside quotes. -/
def kind (c : Char) : Kind :=
  if Text.isBlank c then .alone []
  else if c = ',' then .alone [.comma]
  else if c = '(' then .alone [.opening]
  else if c = ')' then .alone [.closing]
  else if c = '?' then .alone [.slot none]
  else if c = '\'' then .quote .single
  else if c = '"' then .quote .double
  else if isWordChar c then .word
  else if isSymbolChar c then .symbol
  else .foreign

/-- Whether operator characters begin a comment somewhere. -/
def beginsComment : List Char → Bool
  | [] => false
  | '-' :: '-' :: _ => true
  | '/' :: '*' :: _ => true
  | _ :: rest => beginsComment rest

/-- The token inside of which a scan stands. -/
inductive Pending where
  | gap
  | word (s : List Char)
  | symbol (s : List Char)
  | quoted (q : Quote) (s : List Char)
deriving DecidableEq, Repr

namespace Pending

/-- The tokens that a pending token leaves when the text goes on with something else, or not at all.
-/
def close : Pending → Option (List Token)
  | .gap => some []
  | .word s => some [.word s]
  | .symbol s => if beginsComment s then none else some [.symbol s]
  | .quoted _ _ => none

/-- A character of some kind that continues no pending token. -/
def start (c : Char) : Kind → Option (List Token × Pending)
  | .alone self => some (self, .gap)
  | .word => some ([], .word [c])
  | .symbol => some ([], .symbol [c])
  | .quote q => some ([], .quoted q [])
  | .foreign => none

/-- A character of some kind that ends the pending token. -/
def cutOff (p : Pending) (c : Char) (k : Kind) : Option (List Token × Pending) :=
  p.close.bind fun us => (start c k).map fun (ts, p) => (us ++ ts, p)

/-- A character of some kind: the tokens that it completes, and what is pending behind it. -/
def step (c : Char) : Pending → Kind → Option (List Token × Pending)
  | .quoted q s, _ =>
    if c = q.char then some ([.quoted q s], .gap) else some ([], .quoted q (s ++ [c]))
  | .word s, .word => some ([], .word (s ++ [c]))
  | .symbol s, .symbol => some ([], .symbol (s ++ [c]))
  | p, k => cutOff p c k

/-- A text, character by character: the tokens that are complete, and what is pending at its end. -/
def scan (p : Pending) : List Char → Option (List Token × Pending)
  | [] => some ([], p)
  | c :: rest =>
    (step c p (kind c)).bind fun (ts, p) => (p.scan rest).map fun (us, p) => (ts ++ us, p)

end Pending

/-- The tokens of a text, if no quote is left open and nothing in it is foreign. -/
def tokens (s : List Char) : Option (List Token) :=
  (Pending.gap.scan s).bind fun (ts, p) => p.close.map fun us => ts ++ us

/-! ## Scanning in parts

The machine composes: a text in two parts is scanned by scanning the first part and going on from
where that ends. -/

/-- A text in two parts. Induction on the first part. -/
theorem scan_append (p : Pending) (a b : List Char) :
    p.scan (a ++ b) =
      (p.scan a).bind fun (ts, p) => (p.scan b).map fun (us, p) => (ts ++ us, p) := by
  induction a generalizing p with
  | nil => simp [Pending.scan]
  | cons c rest ih =>
    simp only [List.cons_append, Pending.scan, ih]
    -- the first character has its tokens, and the rest of both parts goes on from there
    cases Pending.step c p (kind c) with
    | none => rfl
    | some first =>
      obtain ⟨ts, p⟩ := first
      simp only [Option.bind_some]
      cases p.scan rest with
      | none => rfl
      | some second =>
        obtain ⟨us, p⟩ := second
        simp [Option.map_map, Function.comp_def, List.append_assoc]

/-- A character that stands alone closes whatever is pending. -/
theorem step_alone {p : Pending} (c : Char) (self : List Token) {us : List Token}
    (hp : p.close = some us) : Pending.step c p (.alone self) = some (us ++ self, .gap) := by
  cases p with
  | quoted q s => simp [Pending.close] at hp
  | gap => simp [Pending.step, Pending.cutOff, Pending.start, hp]
  | word s => simp [Pending.step, Pending.cutOff, Pending.start, hp]
  | symbol s => simp [Pending.step, Pending.cutOff, Pending.start, hp]

/-- A text that has tokens is scanned up to a token that can be closed. -/
theorem tokens_eq_some_iff {s : List Char} {ts : List Token} :
    tokens s = some ts ↔
      ∃ us p vs, Pending.gap.scan s = some (us, p) ∧ p.close = some vs ∧ ts = us ++ vs := by
  unfold tokens
  constructor
  · intro h
    obtain ⟨⟨us, p⟩, hscan, h⟩ := Option.bind_eq_some_iff.mp h
    obtain ⟨vs, hclose, rfl⟩ := Option.map_eq_some_iff.mp h
    exact ⟨us, p, vs, hscan, hclose, rfl⟩
  · rintro ⟨us, p, vs, hscan, hclose, rfl⟩
    simp [hscan, hclose]

/-- **Where tokens end.** On either side of a character that stands alone, a text is scanned as if
the other side were not there. -/
theorem tokens_append_cons {a b : List Char} {c : Char} {ts self us : List Token}
    (ha : tokens a = some ts) (hc : kind c = .alone self) (hb : tokens b = some us) :
    tokens (a ++ c :: b) = some (ts ++ self ++ us) := by
  obtain ⟨ta, p, tp, hscan, hclose, rfl⟩ := tokens_eq_some_iff.mp ha
  obtain ⟨tb, q, tq, hscan', hclose', rfl⟩ := tokens_eq_some_iff.mp hb
  refine tokens_eq_some_iff.mpr ⟨ta ++ (tp ++ self ++ tb), q, tq, ?_, hclose', by simp⟩
  rw [scan_append, hscan]
  simp [Pending.scan, hc, step_alone c self hclose, hscan']

/-- A character that stands alone in front of a text. -/
theorem tokens_cons {b : List Char} {c : Char} {self us : List Token}
    (hc : kind c = .alone self) (hb : tokens b = some us) :
    tokens (c :: b) = some (self ++ us) := by
  have h : tokens [] = some [] := rfl
  simpa using tokens_append_cons h hc hb

theorem tokens_append_space {a b : List Char} {ts us : List Token} (ha : tokens a = some ts)
    (hb : tokens b = some us) : tokens (a ++ ' ' :: b) = some (ts ++ us) := by
  have hspace : kind ' ' = .alone [] := rfl
  simpa using tokens_append_cons ha hspace hb

/-- A text in parentheses, and what comes behind. -/
theorem tokens_group {a b : List Char} {ts us : List Token} (ha : tokens a = some ts)
    (hb : tokens b = some us) :
    tokens ('(' :: a ++ ')' :: b) = some (.opening :: ts ++ .closing :: us) := by
  have hopening : kind '(' = .alone [.opening] := rfl
  have hclosing : kind ')' = .alone [.closing] := rfl
  have hrest : tokens (a ++ ')' :: b) = some (ts ++ [.closing] ++ us) :=
    tokens_append_cons ha hclosing hb
  simpa using tokens_cons hopening hrest

/-! ## Words

Texts that are one word. -/

theorem scan_word {w : List Char} (hw : ∀ c ∈ w, kind c = .word) (s : List Char) :
    (Pending.word s).scan w = some ([], .word (s ++ w)) := by
  induction w generalizing s with
  | nil => simp [Pending.scan]
  | cons c rest ih =>
    obtain ⟨hc, hrest⟩ := List.forall_mem_cons.mp hw
    rw [Pending.scan, hc]
    simp [Pending.step, ih hrest]

/-- A text of nothing but characters of words is one word. -/
theorem tokens_word {w : List Char} (hne : w ≠ []) (hw : ∀ c ∈ w, kind c = .word) :
    tokens w = some [.word w] := by
  cases w with
  | nil => exact absurd rfl hne
  | cons c rest =>
    obtain ⟨hc, hrest⟩ := List.forall_mem_cons.mp hw
    refine tokens_eq_some_iff.mpr ⟨[], .word (c :: rest), [.word (c :: rest)], ?_, rfl, by simp⟩
    rw [Pending.scan, hc]
    simp [Pending.step, Pending.cutOff, Pending.close, Pending.start, scan_word hrest]

/-! ## Blanks at the ends

Trimming takes nothing from a text that could be seen in its tokens. At the end this has two
reasons: a blank closes a token just as the end does, and inside a quote that is left open nothing
helps. -/

theorem kind_blank {c : Char} (hc : Text.isBlank c = true) : kind c = .alone [] := by
  simp [kind, hc]

/-- A blank in front of a text is passed over. -/
theorem tokens_cons_blank {c : Char} (hc : Text.isBlank c = true) (s : List Char) :
    tokens (c :: s) = tokens s := by
  unfold tokens
  rw [Pending.scan, kind_blank hc, step_alone c [] (p := .gap) rfl]
  simp

theorem tokens_append_blank {c : Char} (hc : Text.isBlank c = true) (s : List Char) :
    tokens (s ++ [c]) = tokens s := by
  unfold tokens
  rw [scan_append]
  cases h : Pending.gap.scan s with
  | none => rfl
  | some state =>
    obtain ⟨ts, p⟩ := state
    simp only [Option.bind_some, Pending.scan, kind_blank hc]
    cases hp : p.close with
    | some us => simp [step_alone c [] hp, Pending.close]
    | none =>
      cases p with
      | gap => simp [Pending.close] at hp
      | word s => simp [Pending.close] at hp
      | symbol s => simp [Pending.step, Pending.cutOff, hp]
      -- the blank goes into the quoted part, which is left open all the same
      | quoted q s =>
        have hq : c ≠ q.char := by rintro rfl; cases q <;> exact absurd hc (by decide)
        simp [Pending.step, hq, Pending.close]

theorem tokens_blanks_append {blanks : List Char} (h : ∀ c ∈ blanks, Text.isBlank c = true)
    (s : List Char) : tokens (blanks ++ s) = tokens s := by
  induction blanks with
  | nil => rfl
  | cons c rest ih =>
    obtain ⟨hc, hrest⟩ := List.forall_mem_cons.mp h
    rw [List.cons_append, tokens_cons_blank hc, ih hrest]

theorem tokens_append_blanks {blanks : List Char} (h : ∀ c ∈ blanks, Text.isBlank c = true)
    (s : List Char) : tokens (s ++ blanks) = tokens s := by
  induction blanks generalizing s with
  | nil => simp
  | cons c rest ih =>
    obtain ⟨hc, hrest⟩ := List.forall_mem_cons.mp h
    rw [List.append_cons, ih hrest, tokens_append_blank hc]

/-- So trimming leaves the tokens as they are. -/
theorem tokens_trim (s : List Char) : tokens (Text.trim s) = tokens s := by
  obtain ⟨before, after, hbefore, hafter, hs⟩ := Text.exists_append_trim_append s
  calc tokens (Text.trim s)
      = tokens (Text.trim s ++ after) := (tokens_append_blanks hafter _).symm
    _ = tokens (before ++ (Text.trim s ++ after)) := (tokens_blanks_append hbefore _).symm
    _ = tokens s := by rw [← hs]

end EntityMapper.Reading
