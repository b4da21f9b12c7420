/-!
Closed vocabularies: types whose values each have one word in documents and commands. Reading a word
back gives the value (`ofWord?_word`), and no two values share a word (`word_injective`).
-/

namespace DocumentSearch

/-- A type with finitely many values, each spelled by a word of its own. -/
class Vocabulary (α : Type) where
  /-- Every value, in the order in which messages list them. -/
  all : List α
  word : α → String
  /-- The first value with the word of a value is that value. -/
  find_word : ∀ a : α, (all.find? fun b => word b == word a) = some a := by
    intro a; cases a <;> rfl

namespace Vocabulary

variable {α : Type} [Vocabulary α]

def words (α : Type) [Vocabulary α] : List String := (all : List α).map word

/-- The value that a word spells. -/
def ofWord? (w : String) : Option α := all.find? fun a => word a == w

@[simp] theorem ofWord?_word (a : α) : ofWord? (word a) = some a := find_word a

theorem word_of_ofWord? {w : String} {a : α} (h : ofWord? w = some a) : word a = w := by
  simpa using List.find?_some h

theorem ofWord?_eq_some_iff {w : String} {a : α} : ofWord? w = some a ↔ word a = w :=
  ⟨word_of_ofWord?, fun h => h ▸ ofWord?_word a⟩

theorem word_injective {a b : α} (h : word a = word b) : a = b := by
  have := ofWord?_word a
  rw [h, ofWord?_word] at this
  exact (Option.some.inj this).symm

end Vocabulary

end DocumentSearch
