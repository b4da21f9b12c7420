import DocumentSearch.Proofs.Command.Search

/-! The dialects say the same in other words. A search in the legacy dialect has as many words as
the same search in the current one, and all of them are the same but two: the word for the order of
hits and the word for the fields to return, each at the place that the clauses before it leave to
it. -/

namespace DocumentSearch

namespace Command

/-! ## Commands that differ in some places -/

/-- A place where one command has a word and another command has another. -/
structure Place where
  position : Nat
  word : String
  other : String

def Place.shift (count : Nat) (place : Place) : Place :=
  { place with position := count + place.position }

/-- Two commands differ in the given places, and nowhere else. -/
structure DifferAt (places : List Place) (words others : List String) : Prop where
  length : words.length = others.length
  differ : ∀ place ∈ places,
    words[place.position]? = some place.word ∧ others[place.position]? = some place.other
  agree : ∀ i, (∀ place ∈ places, place.position ≠ i) → words[i]? = others[i]?

variable {places more : List Place} {words others rest otherRest : List String}

theorem differAt_self (words : List String) : DifferAt [] words words :=
  ⟨rfl, by simp, fun _ _ => rfl⟩

theorem differAt_cons (word other : String) (rest : List String) :
    DifferAt [⟨0, word, other⟩] (word :: rest) (other :: rest) := by
  refine ⟨rfl, by simp, fun i hi => ?_⟩
  cases i with
  | zero => exact absurd rfl (hi _ List.mem_cons_self)
  | succ i => rfl

theorem getElem?_append_of_eq_some {i : Nat} {word : String} (h : words[i]? = some word) :
    (words ++ rest)[i]? = some word := by
  rw [List.getElem?_append_left (List.getElem?_eq_some_iff.mp h).1, h]

theorem getElem?_length_add (words rest : List String) (i : Nat) :
    (words ++ rest)[words.length + i]? = rest[i]? := by
  rw [List.getElem?_append_right (Nat.le_add_right words.length i), Nat.add_sub_cancel_left]

/-- Commands put one after another differ in the places of either part. -/
theorem DifferAt.append (h : DifferAt places words others)
    (hrest : DifferAt more rest otherRest) :
    DifferAt (places ++ more.map (Place.shift words.length)) (words ++ rest)
      (others ++ otherRest) := by
  refine ⟨by simp [h.length, hrest.length], ?_, ?_⟩
  · intro place hmem
    rcases List.mem_append.mp hmem with hmem | hmem
    · obtain ⟨hword, hother⟩ := h.differ place hmem
      exact ⟨getElem?_append_of_eq_some hword, getElem?_append_of_eq_some hother⟩
    · obtain ⟨inner, hinner, rfl⟩ := List.mem_map.mp hmem
      obtain ⟨hword, hother⟩ := hrest.differ inner hinner
      simp only [Place.shift, getElem?_length_add]
      rw [h.length, getElem?_length_add]
      exact ⟨hword, hother⟩
  · intro i hi
    rw [List.getElem?_append, List.getElem?_append, ← h.length]
    split
    · exact h.agree i fun place hmem => hi place (List.mem_append_left _ hmem)
    · next hlt =>
      apply hrest.agree
      intro place hmem heq
      apply hi (place.shift words.length)
      · exact List.mem_append_right _ (List.mem_map_of_mem hmem)
      · simp only [Place.shift, heq]
        omega

end Command

namespace SearchOptions

open Command

/-! ## Where the two words stand -/

/-- The fields to return, if any are named. -/
def namedProjection? (options : SearchOptions) : Option (List String) :=
  options.projection?.filter (!·.isEmpty)

/-- The position of the word for the order of hits, after the verb, the index, the query and the
clauses for paging and for keys only. -/
def orderAt (options : SearchOptions) : Nat :=
  3 + (if options.limit?.isSome then 2 else 0) + (if options.offset?.isSome then 2 else 0)
    + if options.returnsKeysOnly then 1 else 0

/-- The position of the word for the fields to return, after the clauses for order and
highlighting. -/
def projectionAt (options : SearchOptions) : Nat :=
  options.orderAt
    + (options.order?.elim 0 fun order => 2 + if order.direction?.isSome then 1 else 0)
    + options.highlight?.elim 0 fun highlight =>
        3 + highlight.fields.length + if highlight.marks?.isSome then 3 else 0

/-- The places in which the dialects differ: one for the order if hits are ordered, and one for the
fields to return if there are any. -/
def dialectPlaces (options : SearchOptions) : List Place :=
  (options.order?.toList.map fun _ => ⟨options.orderAt, "ORDERBY", "SORTBY"⟩)
    ++ options.namedProjection?.toList.map fun _ => ⟨options.projectionAt, "SELECT", "RETURN"⟩

theorem length_clause (word : String) (argument? : Option String) :
    (clause word argument?).length = if argument?.isSome then 2 else 0 := by
  cases argument? <;> rfl

theorem length_wordIf (condition : Bool) (word : String) :
    (wordIf condition word).length = if condition then 1 else 0 := by
  cases condition <;> rfl

theorem length_order (dialect : Dialect) (order? : Option SortKey) :
    (order?.toList.flatMap (orderWords dialect)).length =
      order?.elim 0 fun order => 2 + if order.direction?.isSome then 1 else 0 := by
  cases order? with
  | none => rfl
  | some order => cases h : order.direction? <;> simp [orderWords, h]

theorem length_highlight (highlight? : Option Highlight) :
    (highlight?.toList.flatMap highlightWords).length =
      highlight?.elim 0 fun highlight =>
        3 + highlight.fields.length + if highlight.marks?.isSome then 3 else 0 := by
  cases highlight? with
  | none => rfl
  | some highlight =>
    cases h : highlight.marks? <;> simp [highlightWords_eq, counted, h] <;> omega

theorem shift_map {α : Type} (count : Nat) (word other : String) (list : List α) :
    (list.map fun _ => Place.mk 0 word other).map (Place.shift count) =
      list.map fun _ => ⟨count, word, other⟩ := by
  simp [Place.shift]

/-! ## The clauses that a dialect words in its own way -/

theorem differAt_order (order? : Option SortKey) :
    DifferAt (order?.toList.map fun _ => ⟨0, "ORDERBY", "SORTBY"⟩)
      (order?.toList.flatMap (orderWords .current))
      (order?.toList.flatMap (orderWords .legacy)) := by
  cases order? with
  | none => exact differAt_self []
  | some order =>
    simp only [Option.toList_some, List.flatMap_singleton, orderWords]
    exact differAt_cons _ _ _

theorem differAt_projection (options : SearchOptions) :
    DifferAt (options.namedProjection?.toList.map fun _ => ⟨0, "SELECT", "RETURN"⟩)
      (options.projection?.toList.flatMap (projectionWords .current))
      (options.projection?.toList.flatMap (projectionWords .legacy)) := by
  rw [projection_words_eq, projection_words_eq, namedProjection?]
  cases options.projection?.filter (!·.isEmpty) with
  | none => exact differAt_self []
  | some fields =>
    simp only [Option.toList_some, List.flatMap_singleton]
    exact differAt_cons _ _ _

theorem differAt_words {opening : List String} (hopening : opening.length = 3)
    (options : SearchOptions) :
    DifferAt options.dialectPlaces (opening ++ options.words .current)
      (opening ++ options.words .legacy) := by
  let before := opening ++ (clause "LIMIT" (options.limit?.map toString)
    ++ clause "OFFSET" (options.offset?.map toString)
    ++ wordIf options.returnsKeysOnly "NOCONTENT")
  have hbefore : before.length = options.orderAt := by
    simp [before, hopening, orderAt, length_clause, length_wordIf, Nat.add_assoc]
  have horder := (differAt_self before).append (differAt_order options.order?)
  have hhighlight :=
    horder.append (differAt_self (options.highlight?.toList.flatMap highlightWords))
  have hprojection := hhighlight.append (differAt_projection options)
  have hscoring := hprojection.append (differAt_self (options.scoring?.toList.flatMap scoringWords))
  simp only [List.length_append, hbefore, length_order, length_highlight, shift_map, List.map_nil,
    List.nil_append, List.append_nil] at hscoring
  simpa only [words, dialectPlaces, projectionAt, before, List.append_assoc] using hscoring

/-- A search has a command in both dialects or fails for the same reason in both. The commands are
equally long and differ in the word for the order of hits, if hits are ordered, and in the word for
the fields to return, if there are any, whatever the index, the fields, the marks and the query are
called. -/
theorem searchCommand_dialects (purpose : Purpose) (index : String) (filter? : Option Filter)
    (options : SearchOptions) :
    (∃ fault, searchCommand purpose index filter? options .current = .error fault ∧
      searchCommand purpose index filter? options .legacy = .error fault) ∨
    ∃ current legacy, searchCommand purpose index filter? options .current = .ok current ∧
      searchCommand purpose index filter? options .legacy = .ok legacy ∧
      DifferAt options.dialectPlaces current legacy := by
  simp only [searchCommand]
  cases Filter.searchText filter? with
  | error fault => exact .inl ⟨fault, rfl, rfl⟩
  | ok text => exact .inr ⟨_, _, rfl, rfl, differAt_words rfl options⟩

example :
    let options : SearchOptions :=
      { limit? := some 5, order? := some ⟨"SELECT", some .ascending⟩
        highlight? := some ⟨["RETURN"], none, none⟩, projection? := some ["ORDERBY", "SORTBY"] }
    options.dialectPlaces = [⟨5, "ORDERBY", "SORTBY"⟩, ⟨12, "SELECT", "RETURN"⟩] := rfl

end SearchOptions

end DocumentSearch
