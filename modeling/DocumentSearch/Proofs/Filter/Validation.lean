import DocumentSearch.Filter.Validation
import DocumentSearch.Proofs.Filter.Compilation
import DocumentSearch.Proofs.Schema.Lookup

/-! Holding a filter against a schema. The filter is refused for the first of its leaves that asks
for a range of a field without order, where the field is found by walking through the schema. -/

namespace DocumentSearch

namespace Filter

/-! ## The leaves of a filter -/

/-- A field with the conditions that a leaf puts on it. -/
abbrev Constraint := String × List Condition

mutual

/-- The leaves of a filter, from left to right. -/
def constraints : Filter → List Constraint
  | .leaf field conditions => [(field, conditions)]
  | .any filters => constraintsAll filters
  | .all filters => constraintsAll filters

def constraintsAll : List Filter → List Constraint
  | [] => []
  | filter :: rest => constraints filter ++ constraintsAll rest

end

/-! ## Leaves that are refused -/

/-- A leaf asks for a range of a field that the schema declares as text or as a truth value. The
comparison is its first one that is a range. -/
structure RangeOffence (schema : Schema) (constraint : Constraint) (comparison : Comparison)
    (kind : FieldKind) : Prop where
  declared : ∃ spec, schema.fieldAt? constraint.1 = some spec ∧ spec.kind = kind
  unordered : kind = .text ∨ kind = .bool
  first : (constraint.2.map Condition.comparison).find? Comparison.isRange = some comparison

theorem isOrdered_eq_false_iff (kind : FieldKind) :
    kind.isOrdered = false ↔ kind = .text ∨ kind = .bool := by
  cases kind <;> decide

section

variable {schema : CheckedSchema}

/-- The declaration of a field is what its path leads to. -/
theorem declared?_eq (field : String) :
    declared? schema.leaves field = (schema.fieldAt? field).map fun spec => ⟨field, spec⟩ := by
  cases hdeclared : declared? schema.leaves field with
  | some leaf =>
    have hmem := List.mem_of_find?_eq_some hdeclared
    obtain rfl : leaf.path = field := by simpa using List.find?_some hdeclared
    rw [schema.fieldAt?_eq_some_iff.mpr hmem]
    rfl
  | none =>
    cases hfield : schema.fieldAt? field with
    | none => rfl
    | some spec =>
      have hmem := schema.fieldAt?_eq_some_iff.mp hfield
      have hother := List.find?_eq_none.mp hdeclared _ hmem
      simp at hother

/-- The fault that one leaf is refused for. -/
def constraintFault? (leaves : List Leaf) (constraint : Constraint) : Option Fault :=
  match validateLeaf leaves constraint.1 constraint.2 with
  | .error fault => some fault
  | .ok () => none

theorem constraintFault?_eq_some_iff {constraint : Constraint} {fault : Fault} :
    constraintFault? schema.leaves constraint = some fault ↔
      ∃ comparison kind, RangeOffence schema.toSchema constraint comparison kind ∧
        fault = .rangeOnUnordered constraint.1 comparison.name kind.token := by
  obtain ⟨field, conditions⟩ := constraint
  rw [constraintFault?, validateLeaf, declared?_eq]
  constructor
  · intro h
    cases hfield : schema.fieldAt? field with
    | none => simp [hfield] at h
    | some spec =>
      cases hfirst : conditions.find? (·.comparison.isRange) with
      | none => simp [hfield, hfirst] at h
      | some condition =>
        cases hordered : spec.kind.isOrdered with
        | true => simp [hfield, hfirst, hordered] at h
        | false =>
          refine ⟨condition.comparison, spec.kind, ⟨⟨spec, hfield, rfl⟩, ?_, ?_⟩, ?_⟩
          · exact (isOrdered_eq_false_iff spec.kind).mp hordered
          · rw [List.find?_map]
            exact Option.map_eq_some_iff.mpr ⟨condition, hfirst, rfl⟩
          · simpa [hfield, hfirst, hordered, eq_comm] using h
  · rintro ⟨comparison, kind, ⟨⟨spec, hfield, rfl⟩, hunordered, hfirst⟩, rfl⟩
    rw [List.find?_map] at hfirst
    obtain ⟨condition, hcondition, rfl⟩ := Option.map_eq_some_iff.mp hfirst
    have hordered := (isOrdered_eq_false_iff spec.kind).mpr hunordered
    have hrange : conditions.find? (·.comparison.isRange) = some condition := hcondition
    simp [hfield, hrange, hordered]

theorem constraintFault?_eq_none_iff {constraint : Constraint} :
    constraintFault? schema.leaves constraint = none ↔
      ∀ comparison kind, ¬ RangeOffence schema.toSchema constraint comparison kind := by
  rw [Option.eq_none_iff_forall_ne_some]
  constructor
  · intro h comparison kind hoffence
    exact h _ (constraintFault?_eq_some_iff.mpr ⟨comparison, kind, hoffence, rfl⟩)
  · intro h fault hfault
    obtain ⟨comparison, kind, hoffence, -⟩ := constraintFault?_eq_some_iff.mp hfault
    exact h comparison kind hoffence

end

/-! ## Filters that are refused -/

/-- The outcome of a check that found a fault or none. -/
def outcomeOf : Option Fault → Except Fault Unit
  | some fault => .error fault
  | none => .ok ()

@[simp]
theorem outcomeOf_eq_error_iff {fault? : Option Fault} {fault : Fault} :
    outcomeOf fault? = .error fault ↔ fault? = some fault := by
  cases fault? <;> simp [outcomeOf]

@[simp]
theorem outcomeOf_eq_ok_iff {fault? : Option Fault} :
    outcomeOf fault? = .ok () ↔ fault? = none := by
  cases fault? <;> simp [outcomeOf]

theorem validateLeaf_eq (leaves : List Leaf) (field : String) (conditions : List Condition) :
    validateLeaf leaves field conditions =
      outcomeOf (constraintFault? leaves (field, conditions)) := by
  rw [constraintFault?]
  cases validateLeaf leaves field conditions with
  | error fault => rfl
  | ok _ => rfl

theorem validateAll_eq {leaves : List Leaf} {filters : List Filter}
    (h : ∀ filter ∈ filters, validate leaves filter =
      outcomeOf (filter.constraints.findSome? (constraintFault? leaves))) :
    validateAll leaves filters =
      outcomeOf ((constraintsAll filters).findSome? (constraintFault? leaves)) := by
  induction filters with
  | nil => rfl
  | cons filter rest ih =>
    rw [validateAll, h filter List.mem_cons_self, constraintsAll, List.findSome?_append]
    cases filter.constraints.findSome? (constraintFault? leaves) with
    | some fault => rfl
    | none => exact ih fun other hmem => h other (List.mem_cons_of_mem _ hmem)

/-- A filter is refused for the first of its leaves that is. -/
theorem validate_eq (leaves : List Leaf) (filter : Filter) :
    validate leaves filter =
      outcomeOf (filter.constraints.findSome? (constraintFault? leaves)) := by
  induction filter using Filter.induction with
  | leaf field conditions =>
    rw [validate, validateLeaf_eq, constraints, List.findSome?_singleton]
  | any filters ih =>
    rw [validate, constraints]
    exact validateAll_eq ih
  | all filters ih =>
    rw [validate, constraints]
    exact validateAll_eq ih

end Filter

end DocumentSearch
