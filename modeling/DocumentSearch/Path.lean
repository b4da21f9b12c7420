/-!
Paths: keys joined by dots. Splitting a path gives back the keys that made it, as long as none of
them holds a dot itself (`split_join`), and joining the parts of any text gives back the text
(`join_split`).
-/

namespace DocumentSearch.Path

def join : List String → String
  | [] => ""
  | [key] => key
  | key :: next :: rest => key ++ "." ++ join (next :: rest)

/-- The parts of a text between its dots; there is always at least one. -/
def splitChars : List Char → List (List Char)
  | [] => [[]]
  | c :: rest =>
    if c = '.' then [] :: splitChars rest
    else match splitChars rest with
      | [] => [[c]]
      | part :: parts => (c :: part) :: parts

/-- The keys that a path names, from the outermost on. -/
def split (path : String) : List String := (splitChars path.toList).map String.ofList

/-- Whether a key holds a dot. -/
def dotted (key : String) : Bool := key.toList.contains '.'

theorem splitChars_of_not_mem {chars : List Char} (h : '.' ∉ chars) :
    splitChars chars = [chars] := by
  induction chars with
  | nil => rfl
  | cons c rest ih =>
    simp only [List.mem_cons, not_or] at h
    simp [splitChars, ih h.2, Ne.symm h.1]

theorem splitChars_append_dot {chars : List Char} (h : '.' ∉ chars) (rest : List Char) :
    splitChars (chars ++ '.' :: rest) = chars :: splitChars rest := by
  induction chars with
  | nil => simp [splitChars]
  | cons c chars ih =>
    simp only [List.mem_cons, not_or] at h
    simp [splitChars, ih h.2, Ne.symm h.1]

theorem dotted_eq_false_iff (key : String) : dotted key = false ↔ '.' ∉ key.toList := by
  simp [dotted]

theorem join_cons {key : String} {rest : List String} (h : rest ≠ []) :
    join (key :: rest) = key ++ "." ++ join rest := by
  cases rest with
  | nil => exact absurd rfl h
  | cons next rest => rfl

/-- Splitting a path gives back the keys that made it. -/
theorem split_join {keys : List String} (nonempty : keys ≠ [])
    (undotted : ∀ key ∈ keys, dotted key = false) : split (join keys) = keys := by
  induction keys with
  | nil => exact absurd rfl nonempty
  | cons key rest ih =>
    have hkey := (dotted_eq_false_iff key).1 (undotted key (by simp))
    by_cases hrest : rest = []
    · subst hrest
      simp [join, split, splitChars_of_not_mem hkey]
    · have := ih hrest fun k hk => undotted k (by simp [hk])
      rw [join_cons hrest]
      simp only [split, String.toList_append] at this ⊢
      have hdot : ".".toList = ['.'] := by decide
      rw [hdot, List.append_assoc, List.singleton_append, splitChars_append_dot hkey]
      simp [this]

theorem splitChars_ne_nil (chars : List Char) : splitChars chars ≠ [] := by
  cases chars with
  | nil => simp [splitChars]
  | cons c rest =>
    rw [splitChars]
    split
    · simp
    · cases splitChars rest <;> simp

theorem split_ne_nil (path : String) : split path ≠ [] := by
  simp [split, splitChars_ne_nil]

theorem toList_join_splitChars (chars : List Char) :
    (join ((splitChars chars).map String.ofList)).toList = chars := by
  induction chars with
  | nil => simp [splitChars, join]
  | cons c rest ih =>
    cases hrest : splitChars rest with
    | nil => exact absurd hrest (splitChars_ne_nil rest)
    | cons part parts =>
      rw [hrest, List.map_cons] at ih
      by_cases hdot : c = '.'
      · subst hdot
        rw [splitChars, if_pos rfl, hrest, List.map_cons, join_cons (by simp)]
        simp [ih]
      · rw [splitChars, if_neg hdot, hrest, List.map_cons]
        cases parts with
        | nil =>
          simp only [List.map_nil, join, String.toList_ofList] at ih ⊢
          rw [ih]
        | cons next others =>
          rw [join_cons (by simp)] at ih ⊢
          simp only [String.toList_append, String.toList_ofList, List.cons_append] at ih ⊢
          rw [ih]

/-- Joining the keys that a path names gives back the path. -/
theorem join_split (path : String) : join (split path) = path :=
  String.toList_injective (toList_join_splitChars path.toList)

end DocumentSearch.Path
