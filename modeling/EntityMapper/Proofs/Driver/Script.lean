import EntityMapper.Driver.Scripted

/-!
# Playing a script

Statements that are executed one after the other, as long as the answers of a script are successes.
How far this gets is a matter of the script alone: the statement whose answer is the first failure
is the last one that is executed (`play_cases`).
-/

namespace EntityMapper.Scripted

/-- The answer to the statement that is executed after `i` others. -/
def answer (script : List (Except Error ResultSet)) (i : Nat) : Except Error ResultSet :=
  script[i]?.getD (.ok {})

/-- After one answer, the next one comes first. -/
theorem answer_tail (script : List (Except Error ResultSet)) (i : Nat) :
    answer script.tail i = answer script (i + 1) := by
  rw [answer, answer, List.getElem?_tail]

/-- After `n` answers, the one behind them does. -/
theorem answer_drop (script : List (Except Error ResultSet)) (n i : Nat) :
    answer (script.drop n) i = answer script (n + i) := by
  rw [answer, answer, List.getElem?_drop]

/-- The statements of a sequence that are executed, and the failure that stops them, if one does. -/
def play : List Statement → List (Except Error ResultSet) → List Statement × Option Error
  | [], _ => ([], none)
  | s :: rest, script =>
    match answer script 0 with
    | .ok _ => (s :: (play rest script.tail).1, (play rest script.tail).2)
    | .error e => ([s], some e)

/-- A failure in the first part of a sequence is the end of the whole; otherwise the second part
goes on with the answers that are left. -/
theorem play_append (a b : List Statement) (script : List (Except Error ResultSet)) :
    play (a ++ b) script =
      match play a script with
      | (executed, some e) => (executed, some e)
      | (executed, none) =>
        (executed ++ (play b (script.drop a.length)).1, (play b (script.drop a.length)).2) := by
  induction a generalizing script with
  | nil => rfl
  | cons s a ih =>
    rw [List.cons_append, play, play]
    cases answer script 0 with
    | error e => rfl
    | ok r =>
      simp only [ih script.tail, List.length_cons, ← List.drop_tail]
      -- the rest of the first part was stopped, or it was not
      rcases play a script.tail with ⟨executed, failure?⟩
      cases failure? <;> rfl

/-- **How far statements get.** Either all answers are successes and all statements are executed, or
there is a first failure and the statement that it answers is the last one. -/
theorem play_cases (promised : List Statement) (script : List (Except Error ResultSet)) :
    ((∀ i < promised.length, ∃ r, answer script i = .ok r)
      ∧ play promised script = (promised, none))
    ∨ ∃ i e, i < promised.length ∧ (∀ j < i, ∃ r, answer script j = .ok r)
      ∧ answer script i = .error e
      ∧ play promised script = (promised.take (i + 1), some e) := by
  induction promised generalizing script with
  | nil => exact .inl ⟨by simp, rfl⟩
  | cons s rest ih =>
    rw [play]
    cases hfirst : answer script 0 with
    | error e => exact .inr ⟨0, e, by simp, by simp, hfirst, by simp⟩
    | ok r =>
      -- an answer counts from the second statement on as one place less
      rcases ih script.tail with ⟨hok, hplay⟩ | ⟨i, e, hi, hok, herror, hplay⟩
      · refine .inl ⟨fun i hi => ?_, by simp [hplay]⟩
        cases i with
        | zero => exact ⟨r, hfirst⟩
        | succ i =>
          rw [← answer_tail]
          exact hok i (by simpa using hi)
      · refine .inr
          ⟨i + 1, e, by simpa using hi, fun j hj => ?_, by rwa [← answer_tail], by simp [hplay]⟩
        cases j with
        | zero => exact ⟨r, hfirst⟩
        | succ j =>
          rw [← answer_tail]
          exact hok j (by omega)

/-- What one statement does to the driver: it is logged, and takes an answer from the script. -/
theorem execute_plays (statement : Statement) (d : Scripted) :
    (d.execute statement).1 = answer d.script 0
      ∧ (d.execute statement).2.log = d.log ++ [statement]
      ∧ (d.execute statement).2.script = d.script.tail
      ∧ (d.execute statement).2.tables = d.tables := by
  rcases d with ⟨dialect, isConnected, tables, script, log, affected, lastInsertId?, c, t, k⟩
  -- without an answer left, a statement succeeds with nothing
  match script with
  | [] => exact ⟨rfl, rfl, rfl, rfl⟩
  | .ok r :: rest => exact ⟨rfl, rfl, rfl, rfl⟩
  | .error e :: rest => exact ⟨rfl, rfl, rfl, rfl⟩

end EntityMapper.Scripted
