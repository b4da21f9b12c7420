import DocumentSearch.Filter.Document
import DocumentSearch.Proofs.Filter.Compilation

/-! Filters and their written forms. Reading gives back every filter from its form. What it accepts
beside the forms are documents with further members beside `OR` or `AND`: they are read as if those
members were not there. -/

namespace DocumentSearch

/-! ## Written forms -/

/-- What stands for an operand in a document; null leaves it out. -/
inductive Operand.Written : Json → Option Operand → Prop where
  | missing : Written .null none
  | text (s : String) : Written (.str s) (some (.text s))
  | number (n : Number) : Written (.num n) (some (.number n))
  | bool (b : Bool) : Written (.bool b) (some (.bool b))

/-- The member that stands for a condition in a document: the comparison with its operand. -/
structure Condition.Written (member : String × Json) (condition : Condition) : Prop where
  name : member.1 = condition.comparison.name
  operand : Operand.Written member.2 condition.operand?

namespace Filter

/-- The form in which a filter is written: an object with one member, which is a list of forms
under `OR` or `AND`, or a field with its conditions in order. -/
inductive Written : Json → Filter → Prop where
  | any {documents : List Json} {filters : List Filter} :
      List.Forall₂ Written documents filters →
        Written (.obj [("OR", .arr documents)]) (.any filters)
  | all {documents : List Json} {filters : List Filter} :
      List.Forall₂ Written documents filters →
        Written (.obj [("AND", .arr documents)]) (.all filters)
  | leaf {field : String} {members : List (String × Json)} {conditions : List Condition} :
      field ≠ "OR" → field ≠ "AND" → List.Forall₂ Condition.Written members conditions →
        Written (.obj [(field, .obj members)]) (.leaf field conditions)

theorem written_or_iff {value : Json} {filter : Filter} :
    Written (.obj [("OR", value)]) filter ↔
      ∃ filters, (∃ documents, value = .arr documents ∧ List.Forall₂ Written documents filters) ∧
        .any filters = filter := by
  constructor
  · intro h
    generalize hdocument : Json.obj [("OR", value)] = document at h
    cases h with
    | any h =>
      obtain rfl : value = .arr _ := by simpa using hdocument
      exact ⟨_, ⟨_, rfl, h⟩, rfl⟩
    | all h => simp at hdocument
    | leaf hor hand h => simp [hor.symm] at hdocument
  · rintro ⟨filters, ⟨documents, rfl, h⟩, rfl⟩
    exact .any h

theorem written_and_iff {value : Json} {filter : Filter} :
    Written (.obj [("AND", value)]) filter ↔
      ∃ filters, (∃ documents, value = .arr documents ∧ List.Forall₂ Written documents filters) ∧
        .all filters = filter := by
  constructor
  · intro h
    generalize hdocument : Json.obj [("AND", value)] = document at h
    cases h with
    | any h => simp at hdocument
    | all h =>
      obtain rfl : value = .arr _ := by simpa using hdocument
      exact ⟨_, ⟨_, rfl, h⟩, rfl⟩
    | leaf hor hand h => simp [hand.symm] at hdocument
  · rintro ⟨filters, ⟨documents, rfl, h⟩, rfl⟩
    exact .all h

/-- Without a combining member, only a leaf can be written. -/
theorem written_field_iff {members : List (String × Json)} {filter : Filter}
    (hor : Members.lookup? members "OR" = none) (hand : Members.lookup? members "AND" = none) :
    Written (.obj members) filter ↔
      ∃ field own conditions, members = [(field, .obj own)] ∧
        List.Forall₂ Condition.Written own conditions ∧ filter = .leaf field conditions := by
  constructor
  · rintro (_ | _ | ⟨-, -, h⟩)
    · simp [Members.lookup?] at hor
    · simp [Members.lookup?] at hand
    · exact ⟨_, _, _, rfl, h, rfl⟩
  · rintro ⟨field, own, conditions, rfl, h, rfl⟩
    refine .leaf ?_ ?_ h
    · rintro rfl
      simp [Members.lookup?] at hor
    · rintro rfl
      simp [Members.lookup?] at hand

mutual

/-- The part of a document that decides which filter it is read as: of an object with a member `OR`
that member alone, of any other with a member `AND` that one, and so on in the lists. -/
def heeded : Json → Json
  | .obj members =>
    match heededUnder "OR" members with
    | some value => .obj [("OR", value)]
    | none =>
      match heededUnder "AND" members with
      | some value => .obj [("AND", value)]
      | none => .obj members
  | document => document

def heededUnder (combiner : String) : List (String × Json) → Option Json
  | [] => none
  | (name, value) :: rest =>
    if name = combiner then some (heededList value) else heededUnder combiner rest

def heededList : Json → Json
  | .arr documents => .arr (heededAll documents)
  | value => value

def heededAll : List Json → List Json
  | [] => []
  | document :: rest => heeded document :: heededAll rest

end

theorem heededUnder_eq (combiner : String) (members : List (String × Json)) :
    heededUnder combiner members = (Members.lookup? members combiner).map heededList := by
  induction members with
  | nil => rfl
  | cons member rest ih =>
    obtain ⟨name, value⟩ := member
    by_cases hname : name = combiner
    · simp [heededUnder, Members.lookup?, hname]
    · simp [heededUnder, Members.lookup?, hname, ih]

theorem heededAll_eq_map (documents : List Json) : heededAll documents = documents.map heeded := by
  induction documents with
  | nil => rfl
  | cons document rest ih => rw [heededAll, ih, List.map_cons]

theorem heededList_eq_arr_iff {value : Json} {documents : List Json} :
    heededList value = .arr documents ↔
      ∃ items, value = .arr items ∧ documents = items.map heeded := by
  cases value <;> simp [heededList, heededAll_eq_map, eq_comm]

theorem heeded_obj (members : List (String × Json)) :
    heeded (.obj members) =
      match Members.lookup? members "OR", Members.lookup? members "AND" with
      | some value, _ => .obj [("OR", heededList value)]
      | none, some value => .obj [("AND", heededList value)]
      | none, none => .obj members := by
  rw [heeded, heededUnder_eq, heededUnder_eq]
  cases Members.lookup? members "OR" <;> cases Members.lookup? members "AND" <;> rfl

/-! ## Reading -/

theorem readOperand_eq_ok_iff {field : String} {value : Json} {operand? : Option Operand} :
    readOperand field value = .ok operand? ↔ Operand.Written value operand? := by
  constructor
  · intro h
    cases value with
    | null =>
      obtain rfl : none = operand? := by simpa [readOperand] using h
      exact .missing
    | bool b =>
      obtain rfl : some (.bool b) = operand? := by simpa [readOperand] using h
      exact .bool b
    | num n =>
      obtain rfl : some (.number n) = operand? := by simpa [readOperand] using h
      exact .number n
    | str s =>
      obtain rfl : some (.text s) = operand? := by simpa [readOperand] using h
      exact .text s
    | arr items => simp [readOperand] at h
    | obj members => simp [readOperand] at h
  · rintro (_ | _ | _ | _) <;> rfl

theorem comparison_read_eq_ok_iff {name : String} {comparison : Comparison} :
    Comparison.read name = .ok comparison ↔ name = comparison.name := by
  have hword : Vocabulary.ofWord? name = some comparison ↔ comparison.name = name :=
    Vocabulary.ofWord?_eq_some_iff
  rw [@eq_comm _ name, ← hword, Comparison.read]
  cases (Vocabulary.ofWord? name : Option Comparison) <;> simp

theorem readCondition_eq_ok_iff {field : String} {member : String × Json} {condition : Condition} :
    readCondition field member.1 member.2 = .ok condition ↔ condition.Written member := by
  constructor
  · intro h
    rw [readCondition] at h
    cases hname : Comparison.read member.1 with
    | error fault => simp [hname] at h
    | ok comparison =>
      cases hvalue : readOperand field member.2 with
      | error fault => simp [hname, hvalue, Except.map] at h
      | ok operand? =>
        obtain rfl : ⟨comparison, operand?⟩ = condition := by
          simpa [hname, hvalue, Except.map] using h
        exact ⟨comparison_read_eq_ok_iff.mp hname, readOperand_eq_ok_iff.mp hvalue⟩
  · intro h
    rw [readCondition, comparison_read_eq_ok_iff.mpr h.name, readOperand_eq_ok_iff.mpr h.operand]
    rfl

theorem readConditions_eq_ok_iff {field : String} {members : List (String × Json)}
    {conditions : List Condition} :
    readConditions field members = .ok conditions ↔
      List.Forall₂ Condition.Written members conditions := by
  have hnil : readConditions field [] = .ok [] := rfl
  have hcons : ∀ (member : String × Json) (rest : List (String × Json)),
      readConditions field (member :: rest) =
        (readCondition field member.1 member.2).bind fun condition =>
          (readConditions field rest).map (condition :: ·) := by
    intro member rest
    rw [readConditions]
    cases readCondition field member.1 member.2 <;> rfl
  rw [eq_ok_iff_forall₂ hnil hcons]
  simp only [readCondition_eq_ok_iff]

theorem ofJsonAll_eq_ok_iff {documents : List Json} {filters : List Filter} :
    ofJsonAll documents = .ok filters ↔
      List.Forall₂ (fun document filter => ofJson document = .ok filter) documents filters := by
  have hnil : ofJsonAll [] = .ok [] := rfl
  refine eq_ok_iff_forall₂ hnil fun document rest => ?_
  rw [ofJsonAll]
  cases ofJson document <;> rfl

theorem readChildren_eq_ok_iff {combiner : String} {value : Json} {filters : List Filter} :
    readChildren combiner value = .ok filters ↔
      ∃ documents, value = .arr documents ∧
        List.Forall₂ (fun document filter => ofJson document = .ok filter) documents filters := by
  cases value <;> simp [readChildren, ofJsonAll_eq_ok_iff]

theorem readLeaf_eq_ok_iff {members : List (String × Json)} {filter : Filter} :
    readLeaf members = .ok filter ↔
      ∃ field own conditions, members = [(field, .obj own)] ∧
        List.Forall₂ Condition.Written own conditions ∧ filter = .leaf field conditions := by
  constructor
  · intro h
    obtain _ | ⟨⟨field, value⟩, _ | ⟨_, _⟩⟩ := members
    · simp [readLeaf] at h
    · cases value with
      | obj own =>
        cases hconditions : readConditions field own with
        | error fault => simp [readLeaf, hconditions, Except.map] at h
        | ok conditions =>
          obtain rfl : .leaf field conditions = filter := by
            simpa [readLeaf, hconditions, Except.map] using h
          exact ⟨field, own, conditions, rfl, readConditions_eq_ok_iff.mp hconditions, rfl⟩
      | null | bool | num | str | arr => simp [readLeaf] at h
    · simp [readLeaf] at h
  · rintro ⟨field, own, conditions, rfl, hconditions, rfl⟩
    rw [readLeaf, readConditions_eq_ok_iff.mpr hconditions]
    rfl

theorem readCombined_eq (combiner : String) (members : List (String × Json)) :
    readCombined combiner members =
      (Members.lookup? members combiner).map (readChildren combiner) := by
  induction members with
  | nil => rfl
  | cons member rest ih =>
    obtain ⟨name, value⟩ := member
    by_cases hname : name = combiner
    · simp [readCombined, Members.lookup?, hname]
    · simp [readCombined, Members.lookup?, hname, ih]

theorem ofJson_obj (members : List (String × Json)) :
    ofJson (.obj members) =
      match Members.lookup? members "OR", Members.lookup? members "AND" with
      | some value, _ => (readChildren "OR" value).map .any
      | none, some value => (readChildren "AND" value).map .all
      | none, none => readLeaf members := by
  rw [ofJson, readCombined_eq, readCombined_eq]
  cases Members.lookup? members "OR" <;> cases Members.lookup? members "AND" <;> rfl

/-! ## What is read as which filter -/

/-- Under a combiner, lists are read element by element. -/
theorem readChildren_eq_ok_iff_written {combiner : String} {value : Json} {filters : List Filter}
    (hinner : ∀ filter ∈ filters, ∀ document,
      ofJson document = .ok filter ↔ Written (heeded document) filter) :
    readChildren combiner value = .ok filters ↔
      ∃ documents, heededList value = .arr documents ∧
        List.Forall₂ Written documents filters := by
  rw [readChildren_eq_ok_iff]
  simp only [heededList_eq_arr_iff]
  constructor
  · rintro ⟨items, rfl, hitems⟩
    refine ⟨items.map heeded, ⟨items, rfl, rfl⟩, List.forall₂_map_left_iff.mpr ?_⟩
    exact forall₂_of_forall₂ hitems fun document _ filter hmem =>
      (hinner filter hmem document).mp
  · rintro ⟨_, ⟨items, rfl, rfl⟩, hitems⟩
    refine ⟨items, rfl, ?_⟩
    exact forall₂_of_forall₂ (List.forall₂_map_left_iff.mp hitems) fun document _ filter hmem =>
      (hinner filter hmem document).mpr

/-- The filters directly inside a filter. -/
def children : Filter → List Filter
  | .leaf _ _ => []
  | .any filters => filters
  | .all filters => filters

theorem ofJson_eq_ok_iff_of_children {document : Json} {filter : Filter}
    (hinner : ∀ inner ∈ filter.children, ∀ document,
      ofJson document = .ok inner ↔ Written (heeded document) inner) :
    ofJson document = .ok filter ↔ Written (heeded document) filter := by
  cases document with
  | obj members =>
    rw [ofJson_obj, heeded_obj]
    cases hor : Members.lookup? members "OR" with
    | some value =>
      rw [written_or_iff, map_eq_ok_iff]
      refine exists_congr fun filters => and_congr_left ?_
      rintro rfl
      exact readChildren_eq_ok_iff_written hinner
    | none =>
      cases hand : Members.lookup? members "AND" with
      | some value =>
        rw [written_and_iff, map_eq_ok_iff]
        refine exists_congr fun filters => and_congr_left ?_
        rintro rfl
        exact readChildren_eq_ok_iff_written hinner
      | none => rw [readLeaf_eq_ok_iff, written_field_iff hor hand]
  | null | bool | num | str | arr =>
    refine iff_of_false (by simp [ofJson]) ?_
    rintro ⟨⟩

/-- A document is read as the filter of which the heeded part of it is the form. -/
theorem ofJson_eq_ok_iff {document : Json} {filter : Filter} :
    ofJson document = .ok filter ↔ Written (heeded document) filter := by
  induction filter using Filter.induction generalizing document with
  | leaf field conditions =>
    exact ofJson_eq_ok_iff_of_children fun inner hmem => absurd hmem List.not_mem_nil
  | any filters ih =>
    exact ofJson_eq_ok_iff_of_children fun inner hmem document => ih inner hmem
  | all filters ih =>
    exact ofJson_eq_ok_iff_of_children fun inner hmem document => ih inner hmem

theorem map_heeded_of_written {documents : List Json} {filters : List Filter}
    (h : List.Forall₂ Written documents filters)
    (hinner : ∀ filter ∈ filters, ∀ document, Written document filter →
      heeded document = document) : documents.map heeded = documents := by
  induction h with
  | nil => rfl
  | cons hwritten _ ih =>
    rw [List.map_cons, hinner _ List.mem_cons_self _ hwritten,
      ih fun filter hmem => hinner filter (List.mem_cons_of_mem _ hmem)]

/-- A written form is heeded as a whole. -/
theorem heeded_of_written {document : Json} {filter : Filter} (h : Written document filter) :
    heeded document = document := by
  induction filter using Filter.induction generalizing document with
  | leaf field conditions =>
    obtain _ | _ | ⟨hor, hand, -⟩ := h
    simp [heeded_obj, Members.lookup?, hor, hand]
  | any filters ih =>
    obtain h | _ | _ := h
    simp [heeded_obj, Members.lookup?, heededList, heededAll_eq_map,
      map_heeded_of_written h fun filter hmem _ => ih filter hmem]
  | all filters ih =>
    obtain _ | h | _ := h
    simp [heeded_obj, Members.lookup?, heededList, heededAll_eq_map,
      map_heeded_of_written h fun filter hmem _ => ih filter hmem]

/-- The documents that are read as a filter are those whose heeded part is the form of the filter.
Among them, the forms themselves are the documents in which nothing stands beside `OR` or `AND`. -/
theorem ofJson_eq_ok_iff_written (document : Json) (filter : Filter) :
    (ofJson document = .ok filter ↔ Written (heeded document) filter) ∧
    (Written document filter ↔ ofJson document = .ok filter ∧ heeded document = document) := by
  refine ⟨ofJson_eq_ok_iff, ?_, ?_⟩
  · intro h
    have hheeded := heeded_of_written h
    exact ⟨ofJson_eq_ok_iff.mpr (by rwa [hheeded]), hheeded⟩
  · rintro ⟨h, hheeded⟩
    rw [ofJson_eq_ok_iff, hheeded] at h
    exact h

theorem length_eq_one_of_written {members : List (String × Json)} {filter : Filter}
    (h : Written (.obj members) filter) : members.length = 1 := by
  cases h <;> rfl

/-- Not all that is read is a written form: a member beside `OR` is dropped without a word. -/
theorem not_ofJson_iff_written :
    ¬ ∀ (document : Json) (filter : Filter), ofJson document = .ok filter ↔
      Written document filter := by
  intro hiff
  have hread : ofJson (.obj [("OR", .arr [.obj [("name", .obj [("equals", .str "A")])]]),
      ("age", .obj [("greaterThan", .int 18)])]) =
    .ok (.any [.leaf "name" [⟨.equals, some (.text "A")⟩]]) := rfl
  simpa using length_eq_one_of_written ((hiff _ _).mp hread)

end Filter

end DocumentSearch
