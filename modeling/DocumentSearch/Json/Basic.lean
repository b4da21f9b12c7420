import DocumentSearch.Binary64.Basic
import DocumentSearch.Members

/-!
JSON values. Objects keep their members in order; a number is a whole number or a finite float, and
the two stay apart (`1` is not `1.0`).

Equality is decidable, and `ofBinary64` gives a number exactly for the finite floats.
-/

namespace DocumentSearch

inductive Number where
  | int (value : Int)
  | float (value : Binary64) (finite : value.isFinite = true)
deriving DecidableEq

inductive Json where
  | null
  | bool (value : Bool)
  | num (value : Number)
  | str (value : String)
  | arr (items : List Json)
  | obj (members : List (String × Json))

namespace Json

mutual

def decEq : (a b : Json) → Decidable (a = b)
  | .null, .null => .isTrue rfl
  | .bool a, .bool b => decidable_of_iff (a = b) (by simp)
  | .num a, .num b => decidable_of_iff (a = b) (by simp)
  | .str a, .str b => decidable_of_iff (a = b) (by simp)
  | .arr a, .arr b => @decidable_of_iff _ (a = b) (by simp) (decEqItems a b)
  | .obj a, .obj b => @decidable_of_iff _ (a = b) (by simp) (decEqMembers a b)
  | .null, .bool _ | .null, .num _ | .null, .str _ | .null, .arr _ | .null, .obj _
  | .bool _, .null | .bool _, .num _ | .bool _, .str _ | .bool _, .arr _ | .bool _, .obj _
  | .num _, .null | .num _, .bool _ | .num _, .str _ | .num _, .arr _ | .num _, .obj _
  | .str _, .null | .str _, .bool _ | .str _, .num _ | .str _, .arr _ | .str _, .obj _
  | .arr _, .null | .arr _, .bool _ | .arr _, .num _ | .arr _, .str _ | .arr _, .obj _
  | .obj _, .null | .obj _, .bool _ | .obj _, .num _ | .obj _, .str _ | .obj _, .arr _ =>
    .isFalse (by simp)

def decEqItems : (a b : List Json) → Decidable (a = b)
  | [], [] => .isTrue rfl
  | [], _ :: _ | _ :: _, [] => .isFalse (by simp)
  | a :: as, b :: bs =>
    match decEq a b, decEqItems as bs with
    | .isTrue h, .isTrue hs => .isTrue (by rw [h, hs])
    | .isFalse h, _ => .isFalse (by simp [h])
    | _, .isFalse hs => .isFalse (by simp [hs])

def decEqMembers : (a b : List (String × Json)) → Decidable (a = b)
  | [], [] => .isTrue rfl
  | [], _ :: _ | _ :: _, [] => .isFalse (by simp)
  | (j, a) :: as, (k, b) :: bs =>
    if hk : j = k then
      match decEq a b, decEqMembers as bs with
      | .isTrue h, .isTrue hs => .isTrue (by rw [hk, h, hs])
      | .isFalse h, _ => .isFalse (by simp [h])
      | _, .isFalse hs => .isFalse (by simp [hs])
    else .isFalse (by simp [hk])

end

instance : DecidableEq Json := decEq

instance : Inhabited Json := ⟨.null⟩

def int (n : Int) : Json := .num (.int n)

/-- The number that a float is; infinities and what is not a number become null. -/
def ofBinary64 (x : Binary64) : Json :=
  if finite : x.isFinite = true then .num (.float x finite) else .null

def text? : Json → Option String
  | .str s => some s
  | _ => none

def member? : Json → String → Option Json
  | .obj members, key => Members.lookup? members key
  | _, _ => none

theorem ofBinary64_eq_null_or_num (x : Binary64) :
    ofBinary64 x = .null ∨ ∃ finite, ofBinary64 x = .num (.float x finite) := by
  by_cases finite : x.isFinite = true
  · exact .inr ⟨finite, dif_pos finite⟩
  · exact .inl (dif_neg finite)

theorem ofBinary64_eq_null_iff (x : Binary64) : ofBinary64 x = .null ↔ x.isFinite = false := by
  by_cases finite : x.isFinite = true <;> simp [ofBinary64, finite]

end Json

end DocumentSearch
