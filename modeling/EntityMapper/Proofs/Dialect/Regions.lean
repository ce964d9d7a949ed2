import EntityMapper.Proofs.Dialect.Marks
import Mathlib.Data.List.Count

/-!
# Quoted regions

A text consists of single characters outside quotes and of quoted regions, each from a quotation
mark to the next one like it. A doubled mark ends one region and begins another, so nothing of it is
outside. A mark that has no other like it behind it takes the rest of the text with it.

There is one way to cut a text into these parts (`Cuts.iff_eq`), so `prepare` can be measured by
them. The main statement is `prepare_numbers_bare_marks`: the question marks among the single
characters are replaced by `$1`, `$2` and so on, and nothing else is changed.

## Structure

* `Part` — a single character, or a region between two marks that are the same.
* `Cuts` — a text cut into parts, with a rest in which a quote is open, or none.
* `exists_cuts`, `unique` — each text is cut in exactly one way. For the second, no part is the
  beginning of another one (`eq_of_append`).
* `marks_eq`, `numbered_append` — parts are passed as wholes: a region has no mark, and a single
  character is one or not.
-/

namespace EntityMapper.Dialect

/-- A part of a text. -/
inductive Part where
  /-- A character outside quotes. -/
  | bare (c : Char)
  /-- A region from a quotation mark to the next one like it. -/
  | quoted (quote : Char) (body : List Char)
  /-- A quotation mark with no other like it behind it, and what stands behind it. -/
  | unclosed (quote : Char) (body : List Char)
deriving DecidableEq, Repr

/-- The two characters that quoted regions begin and end with. -/
def isQuote (c : Char) : Bool := c == '\'' || c == '"'

namespace Part

/-- The text of a part. -/
def chars : Part → List Char
  | bare c => [c]
  | quoted quote body => quote :: body ++ [quote]
  | unclosed quote body => quote :: body

/-- The part that a value is bound to. -/
def mark : Part := bare '?'

/-- A part that ends before the text does, or with it. -/
inductive Whole : Part → Prop where
  | bare {c : Char} (hc : isQuote c = false) : Whole (bare c)
  | quoted {quote : Char} {body : List Char} (hquote : isQuote quote = true)
      (hbody : quote ∉ body) :
      Whole (quoted quote body)

end Part

/-- A text and its parts. -/
inductive Cuts : List Char → List Part → Prop where
  | nil : Cuts [] []
  | cons {p : Part} {rest : List Char} {parts : List Part} (hp : p.Whole) (h : Cuts rest parts) :
      Cuts (p.chars ++ rest) (p :: parts)
  | unclosed {quote : Char} {body : List Char} (hquote : isQuote quote = true)
      (hbody : quote ∉ body) :
      Cuts (quote :: body) [.unclosed quote body]

/-- Parts none of which runs on to the end for want of a closing mark. -/
def Closed (parts : List Part) : Prop := ∀ p ∈ parts, p.Whole

/-- Whole parts make up a text that is cut into them. -/
theorem Closed.cuts {parts : List Part} (h : Closed parts) :
    Cuts (parts.flatMap Part.chars) parts := by
  induction parts with
  | nil => exact .nil
  | cons p parts ih =>
    obtain ⟨hp, hparts⟩ := List.forall_mem_cons.mp h
    exact .cons hp (ih hparts)

/-! ## One way to cut

What the first part is shows at the first character, and where it ends at the next character like
it. -/

/-- Every text can be cut. By recursion on its length: a region takes what stands up to the next
mark like its first, or else the whole rest. -/
theorem exists_cuts : ∀ cs : List Char, ∃ parts, Cuts cs parts
  | [] => ⟨[], .nil⟩
  | c :: rest => by
    cases hc : isQuote c with
    | false =>
      obtain ⟨parts, h⟩ := exists_cuts rest
      exact ⟨_, .cons (.bare hc) h⟩
    | true =>
      by_cases hmem : c ∈ rest
      · -- the region ends at the first mark like the one it begins with
        obtain ⟨body, behind, hrest, hbody⟩ := List.eq_append_cons_of_mem hmem
        have hshorter : behind.length < (c :: rest).length := by
          rw [hrest]
          simp only [List.length_cons, List.length_append]
          omega
        obtain ⟨parts, h⟩ := exists_cuts behind
        have hregion : (Part.quoted c body).chars ++ behind = c :: rest := by
          simp [Part.chars, hrest]
        rw [← hregion]
        exact ⟨_, .cons (.quoted hc hbody) h⟩
      · exact ⟨_, .unclosed hc hmem⟩
termination_by cs => cs.length

/-- What stands before the first place of a character, and what behind it, is determined by the
whole. -/
theorem eq_of_append_cons {q : Char} {body body' rest rest' : List Char} (hbody : q ∉ body)
    (hbody' : q ∉ body') (h : body ++ q :: rest = body' ++ q :: rest') :
    body = body' ∧ rest = rest' := by
  induction body generalizing body' with
  | nil =>
    -- if only one of both bodies is at its end, the other has the character in it
    cases body' with
    | nil => exact ⟨rfl, (List.cons.inj h).2⟩
    | cons c body' =>
      have hq : q = c := (List.cons.inj h).1
      exact absurd (hq ▸ List.mem_cons_self) hbody'
  | cons c body ih =>
    cases body' with
    | nil =>
      have hq : c = q := (List.cons.inj h).1
      exact absurd (hq ▸ List.mem_cons_self) hbody
    | cons c' body' =>
      obtain ⟨rfl, htail⟩ := List.cons.inj h
      have hsame := ih (fun hq => hbody (List.mem_cons_of_mem _ hq))
        (fun hq => hbody' (List.mem_cons_of_mem _ hq)) htail
      exact ⟨by rw [hsame.1], hsame.2⟩

namespace Part.Whole

/-- No whole part is the beginning of another. -/
theorem eq_of_append {p p' : Part} {rest rest' : List Char} (hp : p.Whole) (hp' : p'.Whole)
    (h : p.chars ++ rest = p'.chars ++ rest') : p = p' ∧ rest = rest' := by
  cases hp with
  | bare hc =>
    cases hp' with
    | bare =>
      obtain ⟨rfl, hrest⟩ := List.cons.inj h
      exact ⟨rfl, hrest⟩
    -- a quotation mark is no single character, and conversely
    | quoted hquote =>
      obtain ⟨rfl, -⟩ := List.cons.inj h
      exact absurd hquote (by simp [hc])
  | quoted hquote hbody =>
    cases hp' with
    | bare hc =>
      obtain ⟨rfl, -⟩ := List.cons.inj h
      exact absurd hquote (by simp [hc])
    | quoted _ hbody' =>
      simp only [chars, List.cons_append, List.append_assoc, List.nil_append, List.cons.injEq] at h
      -- both regions end at the next mark of this kind
      obtain ⟨rfl, htail⟩ := h
      obtain ⟨rfl, hrest⟩ := eq_of_append_cons hbody hbody' htail
      exact ⟨rfl, hrest⟩

/-- What is never closed does not begin with a whole part. -/
theorem append_ne {p : Part} {quote : Char} {body rest : List Char} (hp : p.Whole)
    (hquote : isQuote quote = true) (hbody : quote ∉ body) : p.chars ++ rest ≠ quote :: body := by
  intro h
  cases hp with
  | bare hc =>
    obtain ⟨rfl, -⟩ := List.cons.inj h
    exact absurd hquote (by simp [hc])
  | quoted =>
    obtain ⟨rfl, rfl⟩ := List.cons.inj h
    exact hbody (by simp)

end Part.Whole

namespace Cuts

variable {cs : List Char} {parts parts' : List Part}

/-- A text is cut in one way. Induction on one cut and cases on the other; the first parts agree by
`eq_of_append`, or by `append_ne` cannot both be there. -/
theorem unique (h : Cuts cs parts) (h' : Cuts cs parts') : parts = parts' := by
  induction h generalizing parts' with
  | nil =>
    generalize hcs : ([] : List Char) = cs at h'
    cases h' with
    | nil => rfl
    | cons hp => cases hp <;> exact absurd hcs (by simp [Part.chars])
    | unclosed => exact absurd hcs (by simp)
  | @cons p rest parts hp _ ih =>
    generalize hcs : p.chars ++ rest = cs at h'
    cases h' with
    | nil => cases hp <;> exact absurd hcs (by simp [Part.chars])
    | cons hp' hrest =>
      -- both cuts begin with the same part, and go on behind it
      obtain ⟨rfl, rfl⟩ := hp.eq_of_append hp' hcs
      rw [ih hrest]
    | unclosed hquote hbody => exact absurd hcs (hp.append_ne hquote hbody)
  | @unclosed quote body hquote hbody =>
    generalize hcs : quote :: body = cs at h'
    cases h' with
    | nil => exact absurd hcs (by simp)
    | cons hp => exact absurd hcs.symm (hp.append_ne hquote hbody)
    | unclosed =>
      obtain ⟨rfl, rfl⟩ := List.cons.inj hcs
      rfl

theorem iff_eq (h : Cuts cs parts) (parts' : List Part) : Cuts cs parts' ↔ parts' = parts := by
  constructor
  · intro h'
    exact h'.unique h
  · rintro rfl
    exact h

end Cuts

/-! ## What is numbered

A whole part leaves no quote open, and no mark in it counts unless the part is a mark. -/

/-- The quote that a region begins with stays open until it is met again, and no mark counts before.
-/
theorem opened {quote : Char} {body : List Char} (hquote : isQuote quote = true)
    (hbody : quote ∉ body) :
    quoteAfter none (quote :: body) = some quote ∧ marks none (quote :: body) = 0 := by
  -- within the region only its own mark could close it, and that is not there
  have hinside : quoteAfter (some quote) body = some quote ∧ marks (some quote) body = 0 := by
    induction body with
    | nil => exact ⟨rfl, rfl⟩
    | cons c rest ih =>
      have hc : ¬ (c == quote) = true := by
        rw [beq_iff_eq]
        rintro rfl
        exact hbody List.mem_cons_self
      have hstep : quoteStep (some quote) c = some quote := if_neg hc
      rw [quoteAfter_cons, marks_of_not_mark (by simp [isMark]), hstep]
      exact ih fun h => hbody (List.mem_cons_of_mem c h)
  have hopen : quoteStep none quote = some quote := if_pos hquote
  have hmark : ¬ isMark none quote = true := by
    intro hmark
    rw [(isMark_iff.mp hmark).2] at hquote
    exact absurd hquote (by decide)
  rw [quoteAfter_cons, marks_of_not_mark hmark, hopen]
  exact hinside

namespace Part.Whole

variable {p : Part}

theorem quoteAfter_eq_none (hp : p.Whole) : quoteAfter none p.chars = none := by
  cases hp with
  | bare hc => exact if_neg (by simpa [isQuote] using hc)
  | @quoted quote body hquote hbody =>
    show quoteAfter none ((quote :: body) ++ [quote]) = none
    rw [quoteAfter_append, (opened hquote hbody).1]
    exact if_pos (beq_self_eq_true quote)

theorem marks_eq (hp : p.Whole) : marks none p.chars = if p = .mark then 1 else 0 := by
  cases hp with
  | @bare c hc => simp [chars, marks, isMark, mark]
  | @quoted quote body hquote hbody =>
    show marks none ((quote :: body) ++ [quote]) = _
    rw [marks_append, (opened hquote hbody).1, (opened hquote hbody).2, if_neg (by simp [mark]),
      marks_of_not_mark (by simp [isMark])]
    rfl

theorem numbered_append (hp : p.Whole) (hmark : p ≠ .mark) (index : Nat) (rest : List Char) :
    numbered none index (p.chars ++ rest) = p.chars ++ numbered none index rest := by
  have hmarks : marks none p.chars = 0 := by rw [hp.marks_eq, if_neg hmark]
  rw [Dialect.numbered_append, numbered_eq_self hmarks, hp.quoteAfter_eq_none, hmarks, Nat.add_zero]

end Part.Whole

namespace Cuts

variable {cs : List Char} {parts : List Part}

/-- The marks of a text are its marks among the parts, whether or not its last region is closed. -/
theorem marks_eq_count (h : Cuts cs parts) : marks none cs = parts.count .mark := by
  induction h with
  | nil => rfl
  | cons hp _ ih =>
    rw [marks_append, hp.quoteAfter_eq_none, hp.marks_eq, ih, List.count_cons, Nat.add_comm]
    simp only [beq_iff_eq]
  | unclosed hquote hbody =>
    rw [(opened hquote hbody).2, List.count_cons_of_ne (by simp [Part.mark])]
    rfl

/-- A text of whole parts leaves no quote open. -/
theorem quoteAfter_eq_none (h : Cuts cs parts) (hclosed : Closed parts) :
    quoteAfter none cs = none := by
  induction h with
  | nil => rfl
  | cons hp _ ih =>
    rw [quoteAfter_append, hp.quoteAfter_eq_none]
    exact ih (List.forall_mem_cons.mp hclosed).2
  | unclosed => exact nomatch (List.forall_mem_cons.mp hclosed).1

/-- Between the marks stand runs of other parts. Numbering writes the placeholder of each position
where the mark before a run stood, and keeps the runs. -/
theorem exists_runs (h : Cuts cs parts) :
    ∃ (first : List Part) (runs : List (List Part)), parts = first ++ runs.flatMap (.mark :: ·)
      ∧ (∀ run ∈ first :: runs, .mark ∉ run)
      ∧ ∀ index, numbered none index cs = first.flatMap Part.chars
          ++ (runs.zipIdx index).flatMap fun (run, i) => s!"${i + 1}".toList
            ++ run.flatMap Part.chars := by
  induction h with
  | nil => exact ⟨[], [], rfl, by simp, fun _ => rfl⟩
  | @cons p rest parts hp h ih =>
    obtain ⟨first, runs, rfl, hruns, hnumbered⟩ := ih
    by_cases hmark : p = .mark
    · subst hmark
      -- what came first so far is the run behind this mark
      refine ⟨[], first :: runs, rfl, List.forall_mem_cons.mpr ⟨by simp, hruns⟩, fun index => ?_⟩
      show numbered none index ('?' :: rest) = _
      rw [numbered_mark, hnumbered (index + 1)]
      simp [placeholder]
    · obtain ⟨hfirst, hruns⟩ := List.forall_mem_cons.mp hruns
      have hfirst : .mark ∉ p :: first := by
        rw [List.mem_cons, not_or]
        exact ⟨fun h => hmark h.symm, hfirst⟩
      -- any other part belongs to the first run
      refine ⟨p :: first, runs, rfl, List.forall_mem_cons.mpr ⟨hfirst, hruns⟩, fun index => ?_⟩
      rw [hp.numbered_append hmark, hnumbered index, List.flatMap_cons, List.append_assoc]
  | unclosed hquote hbody =>
    refine ⟨[_], [], rfl, by simp [Part.mark], fun index => ?_⟩
    rw [numbered_eq_self (opened hquote hbody).2]
    simp [Part.chars]

end Cuts

/-! ## Preparing

`prepare` on whole texts, with the shortcut for texts without question marks (`toList_prepare`). -/

/-- **Marks outside quotes are numbered.** A text is cut in one way into marks and runs of other
parts between them. Prepared for PostgreSQL it has `$1`, `$2` and so on in the places of the marks
and is otherwise unchanged, whether or not it is read for marks at all; a text that closes its
quotes is prepared by itself, and what stands behind it is numbered from the next number on. What is
prepared stays as it is, and for SQLite all stays as it is. -/
theorem prepare_numbers_bare_marks (s : String) :
    (∃ (first : List Part) (runs : List (List Part)),
      (∀ parts, Cuts s.toList parts ↔ parts = first ++ runs.flatMap (.mark :: ·))
      ∧ (∀ run ∈ first :: runs, .mark ∉ run)
      ∧ ∀ index, numbered none index s.toList = first.flatMap Part.chars
          ++ (runs.zipIdx index).flatMap fun (run, i) => s!"${i + 1}".toList
            ++ run.flatMap Part.chars)
    ∧ prepare s .postgres = String.ofList (numbered none 0 s.toList)
    ∧ (∀ (parts : List Part) (t : String), Cuts s.toList parts → Closed parts →
        prepare (s ++ t) .postgres =
          prepare s .postgres ++ String.ofList (numbered none (parts.count .mark) t.toList))
    ∧ (∀ d : Dialect, prepare (prepare s d) d = prepare s d)
    ∧ prepare s .sqlite = s := by
  have hprepare :
      ∀ sql : String, prepare sql .postgres = String.ofList (numbered none 0 sql.toList) := by
    intro sql
    rw [← toList_prepare, String.ofList_toList]
  refine ⟨?_, hprepare s, fun parts t hcuts hclosed => ?_, fun d => ?_, rfl⟩
  · -- the parts are divided at the marks among them
    obtain ⟨parts, hcuts⟩ := exists_cuts s.toList
    obtain ⟨first, runs, rfl, hruns, hnumbered⟩ := hcuts.exists_runs
    exact ⟨first, runs, hcuts.iff_eq, hruns, hnumbered⟩
  · rw [hprepare, hprepare, String.toList_append, numbered_append, hcuts.quoteAfter_eq_none hclosed,
      hcuts.marks_eq_count, Nat.zero_add, String.ofList_append]
  · cases d with
    | postgres =>
      -- what is numbered has no mark left, so numbering it again does nothing
      have hnone : marks none (prepare s .postgres).toList = 0 := by
        rw [toList_prepare]
        exact marks_numbered none 0 s.toList
      rw [hprepare (prepare s .postgres), numbered_eq_self hnone, String.ofList_toList]
    | sqlite => rfl

/-- A text with a quoted mark and one that counts. -/
def halfQuoted : String := "'?' = ?"

/-- Its parts: a quoted region, and single characters of which the last is a mark. -/
def halfQuotedParts : List Part :=
  [.quoted '\'' ['?'], .bare ' ', .bare '=', .bare ' ', .mark]

/-- One mark is met before the text that is put behind, so this is numbered from the second position
on. -/
theorem prepare_numbers_bare_marks_halfQuoted :
    Cuts halfQuoted.toList halfQuotedParts ∧ Closed halfQuotedParts
    ∧ prepare (halfQuoted ++ " OR id = ?") .postgres =
        prepare halfQuoted .postgres ++ String.ofList (numbered none 1 " OR id = ?".toList) := by
  have hclosed : Closed halfQuotedParts := by
    intro p hp
    simp only [halfQuotedParts, List.mem_cons, List.not_mem_nil, or_false] at hp
    rcases hp with rfl | rfl | rfl | rfl | rfl
    · exact .quoted rfl (by decide)
    all_goals exact .bare rfl
  have hcuts : Cuts halfQuoted.toList halfQuotedParts := hclosed.cuts
  have hcount : halfQuotedParts.count .mark = 1 := by decide
  -- numbering goes on with the number that the first text has come to
  have hbehind :=
    (prepare_numbers_bare_marks halfQuoted).2.2.1 halfQuotedParts " OR id = ?" hcuts hclosed
  rw [hcount] at hbehind
  exact ⟨hcuts, hclosed, hbehind⟩

end EntityMapper.Dialect
