import DocumentSearch.Filter.Query
import DocumentSearch.Proofs.Members
import DocumentSearch.Proofs.Pointwise

/-! What compiling a filter can give. Every node of the tree has one rule: a leaf is an equality or
a range, alternatives become a list under `$or`, and filters that are all asked for are bound one
after another into one object. Where compiling fails, one leaf is at fault. -/

namespace DocumentSearch

/-- The bound that a condition gives, if it is a range condition with an operand. -/
def Condition.bound? (condition : Condition) : Option (String × Json) :=
  condition.comparison.bound?.bind fun bound =>
    condition.operand?.map fun operand => (bound, operand.toJson)

namespace Filter

/-! ## Filters as trees -/

/-- Induction over filters, with the claim for every child of a combining filter. -/
@[elab_as_elim]
theorem induction {motive : Filter → Prop}
    (leaf : ∀ field conditions, motive (.leaf field conditions))
    (any : ∀ filters, (∀ filter ∈ filters, motive filter) → motive (.any filters))
    (all : ∀ filters, (∀ filter ∈ filters, motive filter) → motive (.all filters)) :
    ∀ filter, motive filter
  | .leaf field conditions => leaf field conditions
  | .any filters => any filters fun filter _ => induction leaf any all filter
  | .all filters => all filters fun filter _ => induction leaf any all filter

mutual

/-- A filter and all the filters inside it, each before those inside it. -/
def nodes : Filter → List Filter
  | .leaf field conditions => [.leaf field conditions]
  | .any filters => .any filters :: nodesAll filters
  | .all filters => .all filters :: nodesAll filters

def nodesAll : List Filter → List Filter
  | [] => []
  | filter :: rest => nodes filter ++ nodesAll rest

end

theorem nodesAll_eq_flatMap (filters : List Filter) : nodesAll filters = filters.flatMap nodes := by
  induction filters with
  | nil => rfl
  | cons filter rest ih => simp [nodesAll, ih]

theorem mem_nodes_any {filters : List Filter} {filter node : Filter} (hmem : filter ∈ filters)
    (hnode : node ∈ filter.nodes) : node ∈ (Filter.any filters).nodes := by
  rw [nodes, nodesAll_eq_flatMap]
  exact List.mem_cons_of_mem _ (List.mem_flatMap.mpr ⟨filter, hmem, hnode⟩)

theorem mem_nodes_all {filters : List Filter} {filter node : Filter} (hmem : filter ∈ filters)
    (hnode : node ∈ filter.nodes) : node ∈ (Filter.all filters).nodes := by
  rw [nodes, nodesAll_eq_flatMap]
  exact List.mem_cons_of_mem _ (List.mem_flatMap.mpr ⟨filter, hmem, hnode⟩)

theorem mem_nodes_self (filter : Filter) : filter ∈ filter.nodes := by
  cases filter <;> simp [nodes]

theorem mem_nodes_trans {filter inner node : Filter} (hinner : inner ∈ filter.nodes)
    (hnode : node ∈ inner.nodes) : node ∈ filter.nodes := by
  induction filter using Filter.induction with
  | leaf field conditions =>
    obtain rfl : inner = .leaf field conditions := by simpa [nodes] using hinner
    exact hnode
  | any filters ih =>
    rw [nodes, nodesAll_eq_flatMap, List.mem_cons, List.mem_flatMap] at hinner
    rcases hinner with rfl | ⟨filter, hfilter, hinner⟩
    · exact hnode
    · exact mem_nodes_any hfilter (ih filter hfilter hinner)
  | all filters ih =>
    rw [nodes, nodesAll_eq_flatMap, List.mem_cons, List.mem_flatMap] at hinner
    rcases hinner with rfl | ⟨filter, hfilter, hinner⟩
    · exact hnode
    · exact mem_nodes_all hfilter (ih filter hfilter hinner)

/-! ## Leaves -/

/-- Bounds are bound in order if every condition has its operand. -/
theorem bounds_eq (field : String) (sofar : Members Json) (conditions : List Condition) :
    bounds field sofar conditions =
      if ∀ condition ∈ conditions, condition.operand?.isSome then
        .ok (sofar.putAll (conditions.filterMap Condition.bound?))
      else .error (.missingOperand field) := by
  induction conditions generalizing sofar with
  | nil => simp [bounds]
  | cons condition rest ih =>
    obtain ⟨comparison, operand?⟩ := condition
    cases operand? with
    | none => simp [bounds]
    | some operand =>
      cases hbound : comparison.bound? with
      | none => simp [bounds, hbound, ih, Condition.bound?]
      | some bound => simp [bounds, hbound, ih, Condition.bound?]

/-- A leaf with an equality compiles to its first one. -/
theorem queryLeaf_of_equality {field : String} {conditions : List Condition} {equality : Condition}
    (h : conditions.find? (·.comparison == .equals) = some equality) :
    queryLeaf field conditions =
      match equality.operand? with
      | some operand => .ok [(field, operand.toJson)]
      | none => .error (.missingOperand field) := by
  have hne : conditions.isEmpty = false := by
    cases conditions with
    | nil => simp at h
    | cons condition rest => rfl
  simp only [queryLeaf, hne, h]
  rfl

/-- A leaf without an equality compiles to the range of all its conditions. -/
theorem queryLeaf_of_range {field : String} {conditions : List Condition}
    (hne : conditions ≠ []) (h : ∀ condition ∈ conditions, condition.comparison ≠ .equals) :
    queryLeaf field conditions =
      if ∀ condition ∈ conditions, condition.operand?.isSome then
        .ok [(field, .obj [("$range",
          .obj (Members.ofPairs (conditions.filterMap Condition.bound?)))])]
      else .error (.missingOperand field) := by
  have hfind : conditions.find? (·.comparison == .equals) = none := by simpa using h
  have hempty : conditions.isEmpty = false := by simpa using hne
  simp only [queryLeaf, hempty, hfind, bounds_eq, Bool.false_eq_true, if_false]
  split <;> rfl

/-- All that the query of a leaf can be: one equality, or the range of all conditions. -/
theorem queryLeaf_cases {field : String} {conditions : List Condition} {members : Members Json}
    (h : queryLeaf field conditions = .ok members) :
    (∃ equality operand, conditions.find? (·.comparison == .equals) = some equality ∧
      equality.operand? = some operand ∧ members = [(field, operand.toJson)]) ∨
    (conditions ≠ [] ∧ (∀ condition ∈ conditions, condition.comparison ≠ .equals) ∧
      (∀ condition ∈ conditions, condition.operand?.isSome) ∧
      members = [(field, .obj [("$range",
        .obj (Members.ofPairs (conditions.filterMap Condition.bound?)))])]) := by
  by_cases hne : conditions = []
  · simp [queryLeaf, hne] at h
  · cases hfind : conditions.find? (·.comparison == .equals) with
    | some equality =>
      rw [queryLeaf_of_equality hfind] at h
      cases hoperand : equality.operand? with
      | none => simp [hoperand] at h
      | some operand =>
        simp only [hoperand, Except.ok.injEq] at h
        exact .inl ⟨equality, operand, rfl, hoperand, h.symm⟩
    | none =>
      have hrange : ∀ condition ∈ conditions, condition.comparison ≠ .equals := by
        simpa using hfind
      rw [queryLeaf_of_range hne hrange] at h
      split at h
      · next hoperands =>
        simp only [Except.ok.injEq] at h
        exact .inr ⟨hne, hrange, hoperands, h.symm⟩
      · simp at h

/-! ## Combining filters -/

/-- Filters compile to queries of their own, one for each. -/
def CompileTo (filters : List Filter) (parts : List (Members Json)) : Prop :=
  List.Forall₂ (fun filter part => filter.query = .ok part) filters parts

theorem CompileTo.exists_of_mem {filters : List Filter} {parts : List (Members Json)}
    {part : Members Json} (h : CompileTo filters parts) (hmem : part ∈ parts) :
    ∃ filter ∈ filters, filter.query = .ok part := by
  obtain ⟨filter, hfilter, hquery⟩ := exists_left_of_forall₂ h hmem
  exact ⟨filter, hfilter, hquery⟩

theorem CompileTo.exists_part {filters : List Filter} {parts : List (Members Json)}
    {filter : Filter} (h : CompileTo filters parts) (hmem : filter ∈ filters) :
    ∃ part ∈ parts, filter.query = .ok part := by
  obtain ⟨part, hpart, hquery⟩ := exists_right_of_forall₂ h hmem
  exact ⟨part, hpart, hquery⟩

theorem CompileTo.exists_append {before after : List Filter} {parts : List (Members Json)}
    (h : CompileTo (before ++ after) parts) :
    ∃ first rest, CompileTo before first ∧ CompileTo after rest ∧ parts = first ++ rest := by
  refine ⟨parts.take before.length, parts.drop before.length, ?_, ?_, ?_⟩
  · simpa [CompileTo] using List.forall₂_take before.length h
  · simpa [CompileTo] using List.forall₂_drop before.length h
  · exact (List.take_append_drop before.length parts).symm

/-- What holds of each filter and its query holds of the lists. -/
theorem CompileTo.map_eq {β : Type} {filters : List Filter} {parts : List (Members Json)}
    (h : CompileTo filters parts) {f : Members Json → β} {g : Filter → β}
    (heq : ∀ filter ∈ filters, ∀ part, filter.query = .ok part → f part = g filter) :
    parts.map f = filters.map g := by
  apply Eq.symm
  exact map_eq_of_forall₂ h fun filter hmem part hquery => (heq filter hmem part hquery).symm

theorem queries_eq_ok_iff {filters : List Filter} {alternatives : List Json} :
    queries filters = .ok alternatives ↔
      ∃ parts, CompileTo filters parts ∧ alternatives = parts.map .obj := by
  induction filters generalizing alternatives with
  | nil => simp [queries, CompileTo, eq_comm]
  | cons filter rest ih =>
    cases hquery : filter.query with
    | error fault => simp [queries, CompileTo, hquery, List.forall₂_cons_left_iff]
    | ok part =>
      simp only [queries, hquery]
      constructor
      · intro h
        cases hrest : queries rest with
        | error fault => simp [hrest, Except.map] at h
        | ok others =>
          obtain ⟨parts, hparts, rfl⟩ := ih.mp hrest
          simp only [hrest, Except.map, Except.ok.injEq] at h
          exact ⟨part :: parts, .cons hquery hparts, by simp [← h]⟩
      · rintro ⟨parts, hparts, rfl⟩
        obtain ⟨first, others, hfirst, hothers, rfl⟩ := List.forall₂_cons_left_iff.mp hparts
        obtain rfl : part = first := by simpa [hquery] using hfirst
        simp [ih.mpr ⟨others, hothers, rfl⟩, Except.map]

theorem merged_eq_ok_iff {sofar members : Members Json} {filters : List Filter} :
    merged sofar filters = .ok members ↔
      ∃ parts, CompileTo filters parts ∧ members = sofar.putAll parts.flatten := by
  induction filters generalizing sofar with
  | nil => simp [merged, CompileTo, eq_comm]
  | cons filter rest ih =>
    cases hquery : filter.query with
    | error fault => simp [merged, CompileTo, hquery, List.forall₂_cons_left_iff]
    | ok part =>
      simp only [merged, hquery]
      rw [ih]
      constructor
      · rintro ⟨parts, hparts, rfl⟩
        exact ⟨part :: parts, .cons hquery hparts, by simp [Members.putAll_append]⟩
      · rintro ⟨parts, hparts, rfl⟩
        obtain ⟨first, others, hfirst, hothers, rfl⟩ := List.forall₂_cons_left_iff.mp hparts
        obtain rfl : part = first := by simpa [hquery] using hfirst
        exact ⟨others, hothers, by simp [Members.putAll_append]⟩

theorem query_any_eq_ok_iff {filters : List Filter} {members : Members Json} :
    (Filter.any filters).query = .ok members ↔
      ∃ parts, CompileTo filters parts ∧ members = [("$or", .arr (parts.map .obj))] := by
  rw [query, map_eq_ok_iff]
  constructor
  · rintro ⟨alternatives, hqueries, rfl⟩
    obtain ⟨parts, hparts, rfl⟩ := queries_eq_ok_iff.mp hqueries
    exact ⟨parts, hparts, rfl⟩
  · rintro ⟨parts, hparts, rfl⟩
    exact ⟨_, queries_eq_ok_iff.mpr ⟨parts, hparts, rfl⟩, rfl⟩

theorem query_all_eq_ok_iff {filters : List Filter} {members : Members Json} :
    (Filter.all filters).query = .ok members ↔
      ∃ parts, CompileTo filters parts ∧ members = Members.ofPairs parts.flatten := by
  rw [query]
  exact merged_eq_ok_iff

theorem toQuery_eq_ok_iff {filter : Filter} {document : Json} :
    filter.toQuery = .ok document ↔
      ∃ members, filter.query = .ok members ∧ .obj members = document := by
  rw [toQuery, map_eq_ok_iff]

theorem toQuery_eq_error_iff {filter : Filter} {fault : Fault} :
    filter.toQuery = .error fault ↔ filter.query = .error fault := by
  rw [toQuery, map_eq_error_iff]

/-- No query binds a name twice. -/
theorem distinct_query {filter : Filter} {members : Members Json}
    (h : filter.query = .ok members) : members.Distinct := by
  cases filter with
  | leaf field conditions =>
    rw [query] at h
    obtain ⟨_, _, _, _, rfl⟩ | ⟨_, _, _, rfl⟩ := queryLeaf_cases h <;>
      simp [Members.Distinct]
  | any filters =>
    obtain ⟨parts, _, rfl⟩ := query_any_eq_ok_iff.mp h
    simp [Members.Distinct]
  | all filters =>
    obtain ⟨parts, _, rfl⟩ := query_all_eq_ok_iff.mp h
    exact Members.distinct_ofPairs _

/-! ## Filters that do not compile -/

theorem queryLeaf_fault {field : String} {conditions : List Condition} {fault : Fault}
    (h : queryLeaf field conditions = .error fault) :
    fault = .missingOperand field ∨ fault = .noConditions field := by
  by_cases hne : conditions = []
  · exact .inr (by simpa [queryLeaf, hne, eq_comm] using h)
  · left
    cases hfind : conditions.find? (·.comparison == .equals) with
    | some equality =>
      rw [queryLeaf_of_equality hfind] at h
      cases hoperand : equality.operand? with
      | none => simpa [hoperand, eq_comm] using h
      | some operand => simp [hoperand] at h
    | none =>
      rw [queryLeaf_of_range hne (by simpa using hfind)] at h
      split at h
      · contradiction
      · simpa [eq_comm] using h

/-- The fault for which a filter does not compile. -/
def fault? (filter : Filter) : Option Fault :=
  match filter.query with
  | .error fault => some fault
  | .ok _ => none

theorem fault?_eq_some_iff {filter : Filter} {fault : Fault} :
    filter.fault? = some fault ↔ filter.query = .error fault := by
  rw [fault?]
  cases filter.query <;> simp

theorem fault?_eq_none_iff {filter : Filter} :
    filter.fault? = none ↔ ∃ members, filter.query = .ok members := by
  rw [fault?]
  cases filter.query <;> simp

/-- Alternatives are given up at the first of them that does not compile. -/
theorem queries_eq_error_iff {filters : List Filter} {fault : Fault} :
    queries filters = .error fault ↔ filters.findSome? fault? = some fault := by
  induction filters with
  | nil => simp [queries]
  | cons filter rest ih =>
    rw [queries, List.findSome?_cons, fault?]
    cases filter.query with
    | error own => simp
    | ok part => exact map_eq_error_iff.trans ih

/-- Merging is given up at the first filter that does not compile, whatever was merged before. -/
theorem merged_eq_error_iff {sofar : Members Json} {filters : List Filter} {fault : Fault} :
    merged sofar filters = .error fault ↔ filters.findSome? fault? = some fault := by
  induction filters generalizing sofar with
  | nil => simp [merged]
  | cons filter rest ih =>
    rw [merged, List.findSome?_cons, fault?]
    cases filter.query with
    | error own => simp
    | ok part => exact ih

theorem fault?_any (filters : List Filter) :
    (Filter.any filters).fault? = filters.findSome? fault? := by
  apply Option.ext
  intro fault
  rw [fault?_eq_some_iff, query, map_eq_error_iff, queries_eq_error_iff]

theorem fault?_all (filters : List Filter) :
    (Filter.all filters).fault? = filters.findSome? fault? := by
  apply Option.ext
  intro fault
  rw [fault?_eq_some_iff, query, merged_eq_error_iff]

/-- A filter fails to compile for a leaf that lacks an operand or has no conditions at all. -/
theorem query_fault {filter : Filter} {fault : Fault} (h : filter.query = .error fault) :
    ∃ field, fault = .missingOperand field ∨ fault = .noConditions field := by
  rw [← fault?_eq_some_iff] at h
  induction filter using Filter.induction with
  | leaf field conditions =>
    rw [fault?_eq_some_iff, query] at h
    exact ⟨field, queryLeaf_fault h⟩
  | any filters ih =>
    rw [fault?_any] at h
    obtain ⟨filter, hmem, hfault⟩ := List.exists_of_findSome?_eq_some h
    exact ih filter hmem hfault
  | all filters ih =>
    rw [fault?_all] at h
    obtain ⟨filter, hmem, hfault⟩ := List.exists_of_findSome?_eq_some h
    exact ih filter hmem hfault

end Filter

end DocumentSearch
