/-!
Ordered members: names bound to values, in the order in which the names first appeared. A JSON
object, an index schema and the field list of a search hit all have this shape.

Binding a name again keeps its place and takes the new value. Main statements: what `put` does to
the names (`keys_put`) and to the bindings (`lookup?_put`). A list of members may bind a name twice,
a `Record` does not; `ofPairs` makes one of any pairs.
-/

namespace DocumentSearch

/-- Names bound to values, in order of first appearance. -/
abbrev Members (α : Type) := List (String × α)

namespace Members

variable {α : Type}

def keys (members : Members α) : List String := members.map Prod.fst

/-- The value bound to a name, if there is one. -/
def lookup? : Members α → String → Option α
  | [], _ => none
  | (name, value) :: rest, key => if name = key then some value else lookup? rest key

/-- Binds a name: in place where it is bound already, at the end otherwise. -/
def put : Members α → String → α → Members α
  | [], key, value => [(key, value)]
  | (name, old) :: rest, key, value =>
    if name = key then (name, value) :: rest else (name, old) :: put rest key value

def putAll (members : Members α) (pairs : List (String × α)) : Members α :=
  pairs.foldl (fun bound pair => put bound pair.1 pair.2) members

/-- The members that a list of pairs describes, a later pair winning over an earlier one. -/
def ofPairs (pairs : List (String × α)) : Members α := putAll [] pairs

/-- No name is bound twice. -/
def Distinct (members : Members α) : Prop := (keys members).Nodup

instance (members : Members α) : Decidable (Distinct members) :=
  inferInstanceAs (Decidable (keys members).Nodup)

@[simp] theorem keys_nil : keys ([] : Members α) = [] := rfl

@[simp] theorem keys_cons (pair : String × α) (rest : Members α) :
    keys (pair :: rest) = pair.1 :: keys rest := rfl

@[simp] theorem putAll_nil (members : Members α) : putAll members [] = members := rfl

@[simp] theorem putAll_cons (members : Members α) (pair : String × α)
    (rest : List (String × α)) :
    putAll members (pair :: rest) = putAll (put members pair.1 pair.2) rest := rfl

/-- A name that is bound keeps its place, and a new one comes last. -/
theorem keys_put (members : Members α) (key : String) (value : α) :
    keys (put members key value)
      = if key ∈ keys members then keys members else keys members ++ [key] := by
  induction members with
  | nil => simp [put]
  | cons pair rest ih =>
    obtain ⟨name, old⟩ := pair
    by_cases h : name = key
    · subst h; simp [put]
    · have h' : ¬ key = name := fun e => h e.symm
      simp only [put, h, if_false, keys_cons, ih, List.mem_cons, h', false_or]
      split <;> simp

/-- The name just bound has the new value, and every other name the value it had. -/
theorem lookup?_put (members : Members α) (key other : String) (value : α) :
    lookup? (put members key value) other
      = if key = other then some value else lookup? members other := by
  induction members with
  | nil => simp [put, lookup?]
  | cons pair rest ih =>
    obtain ⟨name, old⟩ := pair
    by_cases h : name = key
    · subst h
      by_cases ho : name = other <;> simp [put, lookup?, ho]
    · by_cases ho : name = other
      · subst ho
        have h' : ¬ key = name := fun e => h e.symm
        simp [put, lookup?, h, h']
      · simp [put, lookup?, h, ho, ih]

theorem mem_of_mem_put {members : Members α} {key : String} {value : α} {pair : String × α}
    (h : pair ∈ put members key value) : pair ∈ members ∨ pair = (key, value) := by
  induction members with
  | nil => simpa [put] using h
  | cons first rest ih =>
    obtain ⟨name, old⟩ := first
    by_cases hname : name = key
    · rw [put, if_pos hname] at h
      rcases List.mem_cons.mp h with rfl | hmem
      · exact .inr (by rw [hname])
      · exact .inl (List.mem_cons_of_mem (name, old) hmem)
    · rw [put, if_neg hname] at h
      rcases List.mem_cons.mp h with rfl | hmem
      · exact .inl List.mem_cons_self
      · exact (ih hmem).imp_left (List.mem_cons_of_mem (name, old))

theorem Distinct.put {members : Members α} (h : Distinct members) (key : String) (value : α) :
    Distinct (Members.put members key value) := by
  unfold Distinct at *
  rw [keys_put]
  split
  · exact h
  · next hk =>
    rw [List.nodup_append]
    refine ⟨h, by simp, ?_⟩
    intro a ha b hb
    simp only [List.mem_singleton] at hb
    subst hb
    exact fun e => hk (e ▸ ha)

theorem Distinct.putAll {members : Members α} (h : Distinct members)
    (pairs : List (String × α)) : Distinct (Members.putAll members pairs) := by
  induction pairs generalizing members with
  | nil => exact h
  | cons pair rest ih => exact ih (h.put pair.1 pair.2)

theorem distinct_ofPairs (pairs : List (String × α)) : Distinct (ofPairs pairs) :=
  Distinct.putAll (show Distinct ([] : Members α) from List.nodup_nil) pairs

end Members

/-- Members of which no two have the same name. -/
@[ext]
structure Record (α : Type) where
  members : Members α := []
  distinct : Members.Distinct members := by decide
deriving DecidableEq

namespace Record

variable {α : Type}

/-- The record that a list of pairs describes, a later pair winning over an earlier one. -/
def ofPairs (pairs : List (String × α)) : Record α where
  members := Members.ofPairs pairs
  distinct := Members.distinct_ofPairs pairs

@[simp] theorem members_ofPairs (pairs : List (String × α)) :
    (ofPairs pairs).members = Members.ofPairs pairs := rfl

end Record

end DocumentSearch
