import VirtualMonitor.Json.Parser
import VirtualMonitor.Proofs.Json.Token

/-!
# Values are read back from their tokens

`Json.tokens` are the tokens a value is written with, and `value?_tokens` says that
the reader takes them off and gives the value, whatever follows and however deep the
value is nested.  The reader is given two steps for every token of the text, which is
always enough: a value takes one step, and an item or member one more.

Put together with `Spells`, a text that spells the tokens of a value denotes that value
(`parse?_of_spells`), and so do the arrays and objects of the printer
(`spells_quoteAll`, `spells_writeObject`).
-/

namespace VirtualMonitor.Json

def commaTokens (parts : List (List Token)) : List Token :=
  (parts.intersperse [.mark .comma]).flatten

mutual

/-- The tokens a value is written with. -/
def tokens : Json → List Token
  | .null => [.null]
  | .bool value => [.bool value]
  | .number value => [.number value]
  | .string text => [.string text]
  | .array items => .mark .openArray :: (commaTokens (itemTokens items) ++ [.mark .closeArray])
  | .object members =>
    .mark .openObject :: (commaTokens (memberTokens members) ++ [.mark .closeObject])

/-- The tokens of each item of an array. -/
def itemTokens : List Json → List (List Token)
  | [] => []
  | item :: items => item.tokens :: itemTokens items

/-- The tokens of each member of an object. -/
def memberTokens : List (Option String × Json) → List (List Token)
  | [] => []
  | (key, value) :: members =>
    (.string key :: .mark .colon :: value.tokens) :: memberTokens members

end

@[simp] theorem commaTokens_singleton (part : List Token) : commaTokens [part] = part := by
  simp [commaTokens]

@[simp] theorem commaTokens_cons_cons (part next : List Token) (parts : List (List Token)) :
    commaTokens (part :: next :: parts) = part ++ .mark .comma :: commaTokens (next :: parts) := by
  simp [commaTokens]

/-- A value starts with no closing mark. -/
theorem tokens_append_ne_close (value : Json) (further rest : List Token) :
    value.tokens ++ further ≠ .mark .closeArray :: rest := by
  cases value <;> simp [tokens]

theorem commaTokens_itemTokens_ne_close (item : Json) (items : List Json)
    (further rest : List Token) :
    commaTokens (itemTokens (item :: items)) ++ further ≠ .mark .closeArray :: rest := by
  cases items with
  | nil => simpa [itemTokens] using tokens_append_ne_close item further rest
  | cons next items =>
      simpa [itemTokens] using tokens_append_ne_close item _ rest

/-! ### Reading -/

mutual

/-- A value is read back from its tokens, whatever follows them. -/
theorem value?_tokens : ∀ (value : Json) (fuel : Nat) (rest : List Token),
    2 * value.tokens.length ≤ fuel → value? fuel (value.tokens ++ rest) = some (value, rest)
  | .null, fuel + 1, rest, _ => rfl
  | .bool _, fuel + 1, rest, _ => rfl
  | .number _, fuel + 1, rest, _ => rfl
  | .string _, fuel + 1, rest, _ => rfl
  | .array [], fuel + 1, rest, _ => rfl
  | .object [], fuel + 1, rest, _ => rfl
  | .array (item :: items), fuel + 1, rest, hfuel => by
      -- the opening mark and the fuel it takes; the items then read themselves back
      have hitems := items?_itemTokens item items fuel rest (by simp [tokens] at hfuel; omega)
      rw [tokens, List.cons_append, List.append_assoc, value?, List.singleton_append, hitems]
      · rfl
      · exact commaTokens_itemTokens_ne_close item items _
  | .object ((key, member) :: members), fuel + 1, rest, hfuel => by
      have hmembers := members?_memberTokens key member members fuel rest
        (by simp [tokens] at hfuel; omega)
      rw [tokens, List.cons_append, List.append_assoc, value?, List.singleton_append, hmembers]
      · rfl
      · cases members <;> simp [memberTokens]
  | value, 0, rest, hfuel => by
      cases value <;> simp [tokens] at hfuel

theorem items?_itemTokens : ∀ (item : Json) (items : List Json) (fuel : Nat) (rest : List Token),
    2 * (commaTokens (itemTokens (item :: items))).length + 1 ≤ fuel →
      items? fuel (commaTokens (itemTokens (item :: items)) ++ .mark .closeArray :: rest) =
        some (item :: items, rest)
  | item, [], fuel + 1, rest, hfuel => by
      have hitem := value?_tokens item fuel (.mark .closeArray :: rest)
        (by simp [itemTokens] at hfuel; omega)
      simp [items?, itemTokens, hitem]
  | item, next :: items, fuel + 1, rest, hfuel => by
      have hitem := value?_tokens item fuel
        (.mark .comma :: (commaTokens (itemTokens (next :: items)) ++ .mark .closeArray :: rest))
        (by simp [itemTokens] at hfuel; omega)
      have hitems := items?_itemTokens next items fuel rest
        (by simp [itemTokens] at hfuel ⊢; omega)
      rw [itemTokens, itemTokens] at *
      simp [items?, hitem, hitems]

theorem members?_memberTokens : ∀ (key : Option String) (value : Json)
    (members : List (Option String × Json)) (fuel : Nat) (rest : List Token),
    2 * (commaTokens (memberTokens ((key, value) :: members))).length + 1 ≤ fuel →
      members? fuel (commaTokens (memberTokens ((key, value) :: members)) ++
        .mark .closeObject :: rest) = some ((key, value) :: members, rest)
  | key, value, [], fuel + 1, rest, hfuel => by
      have hvalue := value?_tokens value fuel (.mark .closeObject :: rest)
        (by simp [memberTokens] at hfuel; omega)
      simp [members?, memberTokens, hvalue]
  | key, value, (next, member) :: members, fuel + 1, rest, hfuel => by
      have hvalue := value?_tokens value fuel
        (.mark .comma :: (commaTokens (memberTokens ((next, member) :: members)) ++
          .mark .closeObject :: rest))
        (by simp [memberTokens] at hfuel; omega)
      have hmembers := members?_memberTokens next member members fuel rest
        (by simp [memberTokens] at hfuel ⊢; omega)
      rw [memberTokens, memberTokens] at *
      simp [members?, hvalue, hmembers]

end

theorem parse?_of_spells {text : String} {value : Json} (h : Spells text.toList value.tokens) :
    parse? text = some value := by
  have hvalue := value?_tokens value (2 * value.tokens.length) [] (Nat.le_refl _)
  rw [List.append_nil] at hvalue
  simp [parse?, h.tokens?_eq, hvalue]

/-! ### Writing -/

theorem itemTokens_eq_map (items : List Json) : itemTokens items = items.map tokens := by
  induction items with
  | nil => rfl
  | cons item items ih => rw [itemTokens, ih, List.map_cons]

theorem memberTokens_eq_map (members : List (Option String × Json)) :
    memberTokens members =
      members.map fun (key, value) => .string key :: .mark .colon :: value.tokens := by
  induction members with
  | nil => rfl
  | cons member members ih => rw [memberTokens, ih, List.map_cons]

section Writing

variable {α : Type} {parts : List α} {write : α → List Char} {spelled : α → List Token}

/-- Texts with commas between them spell their tokens with commas between them. -/
theorem spells_commaSeparated (h : ∀ part ∈ parts, Spells (write part) (spelled part)) :
    Spells (commaSeparated (parts.map write)) (commaTokens (parts.map spelled)) := by
  induction parts with
  | nil => exact spells_nil
  | cons part parts ih =>
      have hpart := h part List.mem_cons_self
      have hparts := ih fun other hother => h other (List.mem_cons_of_mem _ hother)
      cases parts with
      | nil => simpa [commaSeparated] using hpart
      | cons next parts =>
          have hcomma := hparts.mark_cons .comma
          simpa [commaSeparated, Mark.character] using hpart.append hcomma (Mark.stops .comma _)

theorem spells_quoteAll (texts : List String) :
    Spells (quoteAll texts) (array (texts.map fun text => .string (some text))).tokens := by
  have hclose : Spells [']'] [.mark .closeArray] := spells_nil.mark_cons .closeArray
  have hitems := spells_commaSeparated fun text (_ : text ∈ texts) => spells_quote text
  have harray := (hitems.append hclose (Mark.stops .closeArray [])).mark_cons .openArray
  rw [tokens, itemTokens_eq_map, List.map_map]
  exact harray

/-- An object is written with the tokens of an object, if its members are. -/
theorem spells_writeObject {key : α → String} {value : α → Json}
    (h : ∀ part ∈ parts, Spells (write part) (value part).tokens) :
    Spells (writeObject (parts.map fun part => (key part, write part)))
      (object (parts.map fun part => (some (key part), value part))).tokens := by
  have hmember : ∀ part ∈ parts, Spells (quote (key part).toList ++ ':' :: write part)
      (.string (some (key part)) :: .mark .colon :: (value part).tokens) := by
    intro part hpart
    have hvalue := (h part hpart).mark_cons .colon
    exact (spells_quote (key part)).append hvalue (Mark.stops .colon _)
  have hclose : Spells ['\x7d'] [.mark .closeObject] := spells_nil.mark_cons .closeObject
  have hmembers := spells_commaSeparated hmember
  have hobject := (hmembers.append hclose (Mark.stops .closeObject [])).mark_cons .openObject
  rw [tokens, memberTokens_eq_map, List.map_map, writeObject, List.map_map]
  exact hobject

end Writing

end VirtualMonitor.Json
