/-!
# JSON values

A JSON text denotes a tree of values.  A string in it is normally text, but its
escapes may leave half of a surrogate pair alone; such a string is no text, and
is kept only so that it can stand where nobody reads it.
-/

namespace VirtualMonitor

/-- A number as it is written, as far as anybody asks for it. -/
structure Json.Number where
  negative : Bool
  /-- The digits before the fraction. -/
  whole : Nat
  /-- Written without fraction and without exponent. -/
  integral : Bool
  deriving DecidableEq

/-- A JSON value.  Strings and keys that are no text are `none`; members of an
object keep their order, and repeated keys are kept. -/
inductive Json where
  | null
  | bool (value : Bool)
  | number (value : Json.Number)
  | string (text : Option String)
  | array (items : List Json)
  | object (members : List (Option String × Json))

namespace Json

/-- The integer a number denotes.  Minus zero is no integer, nor is any number
with a fraction or an exponent. -/
def Number.toInt? (number : Number) : Option Int :=
  if !number.integral || (number.negative && number.whole == 0) then none
  else if number.negative then some (-number.whole)
  else some number.whole

def Number.ofInt (value : Int) : Number := ⟨value < 0, value.natAbs, true⟩

@[simp] theorem Number.toInt?_ofInt (value : Int) : (ofInt value).toInt? = some value := by
  by_cases negative : value < 0
  · have nonzero : (value.natAbs == 0) = false := beq_false_of_ne (by omega)
    have opposite : -(value.natAbs : Int) = value := by omega
    simp only [toInt?, ofInt, decide_eq_true negative, nonzero, opposite, Bool.not_true,
      Bool.and_false, Bool.or_false, Bool.false_eq_true, if_false, if_true]
  · have same : (value.natAbs : Int) = value := by omega
    simp only [toInt?, ofInt, decide_eq_false negative, same, Bool.not_true, Bool.false_and,
      Bool.or_false, Bool.false_eq_true, if_false]

def text? : Json → Option String
  | .string text => text
  | _ => none

def texts? : Json → Option (List String)
  | .array items => items.mapM text?
  | _ => none

def intWithin? (least greatest : Int) : Json → Option Int
  | .number written =>
    written.toInt?.bind fun value => if least ≤ value ∧ value ≤ greatest then some value else none
  | _ => none

end Json

end VirtualMonitor
