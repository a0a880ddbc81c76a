import VirtualMonitor.Json.Token

/-!
# Reading JSON

A text denotes the value that its tokens spell; anything left over is a fault.
Nesting may go to any depth.
-/

namespace VirtualMonitor.Json

mutual

/-- Reads a value of at most `fuel` tokens; gives the tokens behind it. -/
def value? : Nat → List Token → Option (Json × List Token)
  | 0, _ => none
  | _ + 1, .null :: rest => some (.null, rest)
  | _ + 1, .bool value :: rest => some (.bool value, rest)
  | _ + 1, .number value :: rest => some (.number value, rest)
  | _ + 1, .string text :: rest => some (.string text, rest)
  | _ + 1, .mark .openArray :: .mark .closeArray :: rest => some (.array [], rest)
  | fuel + 1, .mark .openArray :: rest => do
    let (items, rest) ← items? fuel rest
    return (.array items, rest)
  | _ + 1, .mark .openObject :: .mark .closeObject :: rest => some (.object [], rest)
  | fuel + 1, .mark .openObject :: rest => do
    let (members, rest) ← members? fuel rest
    return (.object members, rest)
  | _ + 1, _ => none

/-- Reads the items of an array that has at least one, and its closing mark. -/
def items? : Nat → List Token → Option (List Json × List Token)
  | 0, _ => none
  | fuel + 1, tokens => do
    let (item, rest) ← value? fuel tokens
    match rest with
    | .mark .closeArray :: rest => return ([item], rest)
    | .mark .comma :: rest =>
      let (items, rest) ← items? fuel rest
      return (item :: items, rest)
    | _ => none

/-- Reads the members of an object that has at least one, and its closing mark. -/
def members? : Nat → List Token → Option (List (Option String × Json) × List Token)
  | 0, _ => none
  | fuel + 1, .string key :: .mark .colon :: tokens => do
    let (value, rest) ← value? fuel tokens
    match rest with
    | .mark .closeObject :: rest => return ([(key, value)], rest)
    | .mark .comma :: rest =>
      let (members, rest) ← members? fuel rest
      return ((key, value) :: members, rest)
    | _ => none
  | _ + 1, _ => none

end

def parse? (text : String) : Option Json := do
  let tokens ← tokens? text.toList
  let (value, rest) ← value? (2 * tokens.length) tokens
  if rest.isEmpty then some value else none

end VirtualMonitor.Json
