import EntityMapper.Value.Basic

/-!
# SQL with its bindings

SQL is put together from pieces that carry the values they bind, and only turned into text at the
end. So placeholders and values cannot fall out of step: each value enters together with its
placeholder, in the same place.
-/

namespace EntityMapper

namespace Sql

/-- A piece of SQL. -/
inductive Piece where
  /-- Text that binds nothing. -/
  | text (s : String)
  /-- A placeholder and the value bound to it. -/
  | slot (value : Value)
  /-- Ready-made text that brings the values for its own placeholders. -/
  | raw (s : String) (values : List Value)
deriving Repr

/-- A piece as text, with a question mark for a placeholder. -/
def Piece.chars : Piece → List Char
  | .text s => s.toList
  | .slot _ => ['?']
  | .raw s _ => s.toList

def Piece.bindings : Piece → List Value
  | .text _ => []
  | .slot value => [value]
  | .raw _ values => values

end Sql

/-- SQL, as pieces in their order. -/
abbrev Sql := List Sql.Piece

namespace Sql

def chars (sql : Sql) : List Char := sql.flatMap Piece.chars

/-- The text, with a question mark for each placeholder. -/
def text (sql : Sql) : String := String.ofList sql.chars

def bindings (sql : Sql) : List Value := sql.flatMap Piece.bindings

def plain (s : String) : Sql := [.text s]

def parenthesised (sql : Sql) : Sql := .text "(" :: sql ++ [.text ")"]

/-- SQL with a separator between its parts. -/
def joined (separator : String) (parts : List Sql) : Sql := [Piece.text separator].intercalate parts

@[simp] theorem joined_nil (separator : String) : joined separator [] = [] := rfl

@[simp] theorem joined_singleton (separator : String) (part : Sql) :
    joined separator [part] = part :=
  List.intercalate_singleton

@[simp] theorem joined_cons_cons (separator : String) (part next : Sql) (rest : List Sql) :
    joined separator (part :: next :: rest) =
      part ++ .text separator :: joined separator (next :: rest) := by
  rw [joined, List.intercalate_cons_cons, List.append_assoc, List.singleton_append, joined]

theorem chars_append (a b : Sql) : chars (a ++ b) = chars a ++ chars b := List.flatMap_append

theorem bindings_append (a b : Sql) : bindings (a ++ b) = bindings a ++ bindings b :=
  List.flatMap_append

theorem text_append (a b : Sql) : text (a ++ b) = text a ++ text b := by
  rw [text, chars_append, String.ofList_append, text, text]

/-- The text grows with each piece, the first one in front. -/
theorem text_cons (p : Piece) (sql : Sql) : text (p :: sql) = String.ofList p.chars ++ text sql :=
  text_append [p] sql ▸ congrArg (· ++ text sql) (by simp [text, chars])

@[simp] theorem text_nil : text [] = "" := rfl

@[simp] theorem text_cons_text (s : String) (sql : Sql) :
    text (.text s :: sql) = s ++ text sql := by
  rw [text_cons, Piece.chars, String.ofList_toList]

@[simp] theorem text_cons_slot (v : Value) (sql : Sql) : text (.slot v :: sql) = "?" ++ text sql :=
  text_cons _ _

@[simp] theorem text_cons_raw (s : String) (values : List Value) (sql : Sql) :
    text (.raw s values :: sql) = s ++ text sql := by
  rw [text_cons, Piece.chars, String.ofList_toList]

@[simp] theorem text_plain (s : String) : (plain s).text = s := by
  rw [plain, text_cons_text, text_nil, String.append_empty]

/-- The text of parts with a separator is their texts with it. -/
theorem text_joined (separator : String) (parts : List Sql) :
    (joined separator parts).text = separator.intercalate (parts.map text) := by
  induction parts with
  | nil => rfl
  | cons part rest ih =>
    cases rest with
    | nil => simp
    | cons next rest =>
      rw [joined_cons_cons, text_append, text_cons_text, ih, ← String.append_assoc]
      exact String.intercalate_cons_cons.symm

end Sql

end EntityMapper
