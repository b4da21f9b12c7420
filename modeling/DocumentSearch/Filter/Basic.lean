import DocumentSearch.Instant
import DocumentSearch.Fault

/-!
Filters: which documents a search is after. A leaf puts conditions on one field; filters combine, to
any depth, into one that asks for any of them and one that asks for all of them.
-/

namespace DocumentSearch

inductive Comparison where
  | equals
  | less
  | lessOrEqual
  | greater
  | greaterOrEqual
deriving DecidableEq

namespace Comparison

/-- The name of a comparison in a filter document. -/
def name : Comparison → String
  | .equals => "equals"
  | .less => "lessThan"
  | .lessOrEqual => "lessThanOrEquals"
  | .greater => "greaterThan"
  | .greaterOrEqual => "greaterThanOrEquals"

/-- The engine's operator for one bound of a range; equality is no bound. -/
def bound? : Comparison → Option String
  | .equals => none
  | .less => some "$lt"
  | .lessOrEqual => some "$lte"
  | .greater => some "$gt"
  | .greaterOrEqual => some "$gte"

def isRange (c : Comparison) : Bool := c.bound?.isSome

instance : Vocabulary Comparison where
  all := [.equals, .less, .lessOrEqual, .greater, .greaterOrEqual]
  word := name

@[simp] theorem ofWord?_name (c : Comparison) : Vocabulary.ofWord? c.name = some c :=
  Vocabulary.ofWord?_word c

theorem isRange_eq_false_iff (c : Comparison) : c.isRange = false ↔ c = .equals := by
  cases c <;> decide

def read (name : String) : Except Fault Comparison :=
  match Vocabulary.ofWord? name with
  | some c => .ok c
  | none => .error (.unknownComparison name)

end Comparison

inductive Operand where
  | text (value : String)
  | number (value : Number)
  | float (value : Binary64)
  | bool (value : Bool)
  | date (value : Instant)
deriving DecidableEq

/-- The JSON value of an operand. A date is its text, and a float that is not finite is null. -/
def Operand.toJson : Operand → Json
  | .text s => .str s
  | .number n => .num n
  | .float x => .ofBinary64 x
  | .bool b => .bool b
  | .date t => .str t.text

/-- A comparison with its operand, which may have been left out. -/
structure Condition where
  comparison : Comparison
  operand? : Option Operand
deriving DecidableEq

inductive Filter where
  | leaf (field : String) (conditions : List Condition)
  | any (filters : List Filter)
  | all (filters : List Filter)

namespace Filter

mutual

def decEq : (a b : Filter) → Decidable (a = b)
  | .leaf f cs, .leaf g ds => decidable_of_iff (f = g ∧ cs = ds) (by simp)
  | .any a, .any b => @decidable_of_iff _ (a = b) (by simp) (decEqAll a b)
  | .all a, .all b => @decidable_of_iff _ (a = b) (by simp) (decEqAll a b)
  | .leaf _ _, .any _ | .leaf _ _, .all _ | .any _, .leaf _ _ | .any _, .all _
  | .all _, .leaf _ _ | .all _, .any _ => .isFalse (by simp)

def decEqAll : (a b : List Filter) → Decidable (a = b)
  | [], [] => .isTrue rfl
  | [], _ :: _ | _ :: _, [] => .isFalse (by simp)
  | a :: as, b :: bs =>
    match decEq a b, decEqAll as bs with
    | .isTrue h, .isTrue hs => .isTrue (by rw [h, hs])
    | .isFalse h, _ => .isFalse (by simp [h])
    | _, .isFalse hs => .isFalse (by simp [hs])

end

instance : DecidableEq Filter := decEq

def compare (field : String) (comparison : Comparison) (operand : Operand) : Filter :=
  .leaf field [⟨comparison, some operand⟩]

/-- A range on one field, both ends included. -/
def between (field : String) (low high : Operand) : Filter :=
  .leaf field [⟨.greaterOrEqual, some low⟩, ⟨.lessOrEqual, some high⟩]

def both (first second : Filter) : Filter := .all [first, second]

end Filter

end DocumentSearch
