import EntityMapper.Yaml.Token

/-!
# Reading YAML

The node that the tokens of a text make up. A text holds one document; where a key or a value is not
written there is nothing.

Each of the functions here takes one unit of `fuel`. At most three of them follow one another before
a token is taken off the front, so three times the number of tokens is enough.
-/

namespace EntityMapper.Yaml

/-- Where a node stands. This decides which blocks may begin there. -/
inductive Context where
  /-- Inside brackets, where there are no blocks. -/
  | flow
  /-- As a document or as an item of a block. -/
  | item
  /-- As a key or a value of a block, where the items of a sequence may stand in the column of the
  key. -/
  | field
deriving DecidableEq, Repr

mutual

def node? (fuel : Nat) (context : Context) (tokens : List Token) : Option (Yaml × List Token) :=
  match fuel with
  | 0 => none
  | fuel + 1 =>
    match tokens with
    | .scalar plain text :: rest => some (.scalar plain text, rest)
    | .openSequence :: rest => flowItems? fuel [] rest
    | .openMapping :: rest => flowEntries? fuel [] rest
    | .blockSequence :: rest => if context = .flow then none else blockItems? fuel [] rest
    | .blockMapping :: rest => if context = .flow then none else blockEntries? fuel [] rest
    | .item :: _ => if context = .field then looseItems? fuel [] tokens else none
    | _ => none

/-- The node that the tokens begin with, or nothing in front of one of the tokens `ends`. -/
def nodeBefore? (fuel : Nat) (context : Context) (ends tokens : List Token) :
    Option (Yaml × List Token) :=
  match fuel with
  | 0 => none
  | fuel + 1 =>
    if (tokens.head?.map (ends.contains ·)).getD false then some (nothing, tokens)
    else node? fuel context tokens

/-- The value of a key, if there is one. -/
def valueBefore? (fuel : Nat) (context : Context) (ends tokens : List Token) :
    Option (Yaml × List Token) :=
  match fuel with
  | 0 => none
  | fuel + 1 =>
    match tokens with
    | .value :: rest => nodeBefore? fuel context ends rest
    | tokens => some (nothing, tokens)

/-- The items of a sequence that is a block, up to the end of the block. -/
def blockItems? (fuel : Nat) (items : List Yaml) (tokens : List Token) :
    Option (Yaml × List Token) :=
  match fuel with
  | 0 => none
  | fuel + 1 =>
    match tokens with
    | .item :: rest => do
      let (item, rest) ← nodeBefore? fuel .item [.item, .blockEnd] rest
      blockItems? fuel (items ++ [item]) rest
    | .blockEnd :: rest => some (.sequence items, rest)
    | _ => none

/-- The items of a sequence in the column of its key, which have no block of their own. -/
def looseItems? (fuel : Nat) (items : List Yaml) (tokens : List Token) :
    Option (Yaml × List Token) :=
  match fuel with
  | 0 => none
  | fuel + 1 =>
    match tokens with
    | .item :: rest => do
      let (item, rest) ← nodeBefore? fuel .item [.item, .key, .value, .blockEnd] rest
      looseItems? fuel (items ++ [item]) rest
    | tokens => some (.sequence items, tokens)

/-- The entries of a mapping that is a block, up to the end of the block. -/
def blockEntries? (fuel : Nat) (entries : List (Yaml × Yaml)) (tokens : List Token) :
    Option (Yaml × List Token) :=
  match fuel with
  | 0 => none
  | fuel + 1 =>
    match tokens with
    | .key :: rest => do
      let (key, rest) ← nodeBefore? fuel .field [.key, .value, .blockEnd] rest
      let (value, rest) ← valueBefore? fuel .field [.key, .value, .blockEnd] rest
      blockEntries? fuel (entries ++ [(key, value)]) rest
    | .blockEnd :: rest => some (.mapping entries, rest)
    | _ => none

/-- The items between brackets, after the opening one or after a comma. An item with a colon is a
mapping of one entry. -/
def flowItems? (fuel : Nat) (items : List Yaml) (tokens : List Token) :
    Option (Yaml × List Token) :=
  match fuel with
  | 0 => none
  | fuel + 1 =>
    match tokens with
    | .closeSequence :: rest => some (.sequence items, rest)
    | tokens => do
      let (item, rest) ←
        match tokens with
        | .key :: rest => do
          -- where a key is announced and missing, the mark that stands there is taken for it
          let (key, rest) ←
            match rest with
            | .value :: rest | .comma :: rest | .closeSequence :: rest => some (nothing, rest)
            | rest => node? fuel .flow rest
          let (value, rest) ← valueBefore? fuel .flow [.comma, .closeSequence] rest
          some (.mapping [(key, value)], rest)
        | tokens => node? fuel .flow tokens
      -- a comma may also stand behind the last item
      match rest with
      | .comma :: rest => flowItems? fuel (items ++ [item]) rest
      | .closeSequence :: rest => some (.sequence (items ++ [item]), rest)
      | _ => none

/-- The entries between braces, after the opening one or after a comma. A node without a colon is a
key that has nothing for its value. -/
def flowEntries? (fuel : Nat) (entries : List (Yaml × Yaml)) (tokens : List Token) :
    Option (Yaml × List Token) :=
  match fuel with
  | 0 => none
  | fuel + 1 =>
    match tokens with
    | .closeMapping :: rest => some (.mapping entries, rest)
    | tokens => do
      let (entry, rest) ←
        match tokens with
        | .key :: rest => do
          let (key, rest) ← nodeBefore? fuel .flow [.value, .comma, .closeMapping] rest
          let (value, rest) ← valueBefore? fuel .flow [.comma, .closeMapping] rest
          some ((key, value), rest)
        | tokens => (node? fuel .flow tokens).map fun (key, rest) => ((key, nothing), rest)
      match rest with
      | .comma :: rest => flowEntries? fuel (entries ++ [entry]) rest
      | .closeMapping :: rest => some (.mapping (entries ++ [entry]), rest)
      | _ => none

end

/-- The node of a document, and the tokens behind it. A document whose beginning is marked may be
empty. -/
def document? (tokens : List Token) : Option (Yaml × List Token) :=
  let fuel := 3 * tokens.length + 3
  match tokens with
  | [] => some (nothing, [])
  | [.documentStart] => some (nothing, [])
  | .documentStart :: rest => nodeBefore? fuel .item [.documentStart, .documentEnd] rest
  | tokens => node? fuel .item tokens

/-- The node of a text that holds one document. A text without any holds nothing. -/
def read? (text : String) : Option Yaml := do
  let (node, rest) ← document? (← tokens? text)
  if rest.all (· == .documentEnd) then some node else none

end EntityMapper.Yaml
