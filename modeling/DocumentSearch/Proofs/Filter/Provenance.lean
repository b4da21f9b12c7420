import DocumentSearch.Proofs.Filter.Alternatives
import DocumentSearch.Proofs.Filter.Validation

/-! Where the members of a query come from. Every query that stands inside a compiled one is the
query of a filter inside the one that was compiled, and each of its members stems from one leaf or
from one list of alternatives. What was checked of the leaves is therefore true of the query,
whatever was overwritten on the way. -/

namespace DocumentSearch

namespace Json

/-- A query stands inside another: it is the other one, or it stands inside one of the alternatives
that the other one lists. -/
inductive QueryIn : Json → Json → Prop where
  | self {query : Json} : QueryIn query query
  | alternative {query inner : Json} {members : List (String × Json)} {items : List Json} :
      ("$or", .arr items) ∈ members → inner ∈ items → QueryIn query inner →
        QueryIn query (.obj members)

/-- Whether a value asks for a range. -/
def isRange (value : Json) : Bool := (value.member? "$range").isSome

end Json

theorem Operand.toJson_ne_arr (operand : Operand) (items : List Json) :
    operand.toJson ≠ .arr items := by
  cases operand with
  | float x =>
    rcases Json.ofBinary64_eq_null_or_num x with h | ⟨_, h⟩ <;> simp [toJson, h]
  | text | number | bool | date => simp [toJson]

theorem Operand.isRange_toJson (operand : Operand) : operand.toJson.isRange = false := by
  cases operand with
  | float x =>
    rcases Json.ofBinary64_eq_null_or_num x with h | ⟨_, h⟩ <;> rw [toJson, h] <;> rfl
  | text | number | bool | date => rfl

namespace Filter

/-! ## The leaves of a filter -/

theorem constraintsAll_eq_flatMap (filters : List Filter) :
    constraintsAll filters = filters.flatMap constraints := by
  induction filters with
  | nil => rfl
  | cons filter rest ih => rw [constraintsAll, ih, List.flatMap_cons]

/-- The leaves of a filter are the leaves among the filters inside it. -/
theorem mem_constraints_iff {filter : Filter} {constraint : Constraint} :
    constraint ∈ filter.constraints ↔ .leaf constraint.1 constraint.2 ∈ filter.nodes := by
  induction filter using Filter.induction with
  | leaf field conditions => simp [constraints, nodes, Prod.ext_iff]
  | any filters ih =>
    rw [constraints, constraintsAll_eq_flatMap, nodes, nodesAll_eq_flatMap, List.mem_cons,
      List.mem_flatMap, List.mem_flatMap]
    simp only [reduceCtorEq, false_or]
    exact exists_congr fun filter => and_congr_right (ih filter)
  | all filters ih =>
    rw [constraints, constraintsAll_eq_flatMap, nodes, nodesAll_eq_flatMap, List.mem_cons,
      List.mem_flatMap, List.mem_flatMap]
    simp only [reduceCtorEq, false_or]
    exact exists_congr fun filter => and_congr_right (ih filter)

/-! ## The members of a query -/

/-- What a member of the query of a filter stems from: an equality or a range that a leaf asks for,
or a list of alternatives. -/
inductive Origin (filter : Filter) : String → Json → Prop where
  | equality {field : String} {conditions : List Condition} (operand : Operand) :
      .leaf field conditions ∈ filter.nodes → Origin filter field operand.toJson
  | range {field : String} {conditions : List Condition} (bounds : Members Json) :
      .leaf field conditions ∈ filter.nodes → conditions ≠ [] →
      (∀ condition ∈ conditions, condition.comparison ≠ .equals) →
        Origin filter field (.obj [("$range", .obj bounds)])
  | alternatives {filters : List Filter} {parts : List (Members Json)} :
      .any filters ∈ filter.nodes → CompileTo filters parts →
        Origin filter "$or" (.arr (parts.map .obj))

theorem Origin.of_mem_nodes {filter inner : Filter} (hinner : inner ∈ filter.nodes) {name : String}
    {value : Json} (h : Origin inner name value) : Origin filter name value := by
  cases h with
  | equality operand hleaf => exact .equality operand (mem_nodes_trans hinner hleaf)
  | range bounds hleaf hne hrange => exact .range bounds (mem_nodes_trans hinner hleaf) hne hrange
  | alternatives hany hparts => exact .alternatives (mem_nodes_trans hinner hany) hparts

/-- A list in a query is a list of alternatives. -/
theorem Origin.of_arr {filter : Filter} {name : String} {items : List Json}
    (h : Origin filter name (.arr items)) :
    ∃ filters parts, .any filters ∈ filter.nodes ∧ CompileTo filters parts ∧
      items = parts.map .obj := by
  generalize hvalue : Json.arr items = value at h
  cases h with
  | equality operand => exact absurd hvalue.symm (operand.toJson_ne_arr items)
  | range => contradiction
  | alternatives hany hparts => exact ⟨_, _, hany, hparts, Json.arr.inj hvalue⟩

/-- A range in a query is one that a leaf without an equality asks for. -/
theorem Origin.of_isRange {filter : Filter} {name : String} {value : Json}
    (h : Origin filter name value) (hvalue : value.isRange = true) :
    ∃ conditions, .leaf name conditions ∈ filter.nodes ∧ conditions ≠ [] ∧
      ∀ condition ∈ conditions, condition.comparison ≠ .equals := by
  cases h with
  | equality operand =>
    rw [operand.isRange_toJson] at hvalue
    contradiction
  | range bounds hleaf hne hrange => exact ⟨_, hleaf, hne, hrange⟩
  | alternatives => contradiction

/-- Every member of the query of a filter has an origin in the filter. -/
theorem origin_of_mem_query {filter : Filter} {members : Members Json}
    (h : filter.query = .ok members) {name : String} {value : Json}
    (hmem : (name, value) ∈ members) : Origin filter name value := by
  induction filter using Filter.induction generalizing members with
  | leaf field conditions =>
    have hleaf := mem_nodes_self (.leaf field conditions)
    rw [query] at h
    obtain ⟨_, operand, _, _, rfl⟩ | ⟨hne, hrange, _, rfl⟩ := queryLeaf_cases h
    · obtain ⟨rfl, rfl⟩ : name = field ∧ value = operand.toJson := by simpa using hmem
      exact .equality operand hleaf
    · obtain ⟨rfl, rfl⟩ : name = field ∧ value = .obj _ := by simpa using hmem
      exact .range _ hleaf hne hrange
  | any filters ih =>
    obtain ⟨parts, hparts, rfl⟩ := query_any_eq_ok_iff.mp h
    obtain ⟨rfl, rfl⟩ : name = "$or" ∧ value = .arr (parts.map .obj) := by simpa using hmem
    exact .alternatives (mem_nodes_self (.any filters)) hparts
  | all filters ih =>
    obtain ⟨parts, hparts, rfl⟩ := query_all_eq_ok_iff.mp h
    -- Merging drops members but makes none of its own.
    rcases Members.mem_of_mem_putAll hmem with hnil | hflat
    · simp at hnil
    · obtain ⟨part, hpart, hmem⟩ := List.mem_flatten.mp hflat
      obtain ⟨filter, hfilter, hquery⟩ := hparts.exists_of_mem hpart
      exact (ih filter hfilter hquery hmem).of_mem_nodes
        (mem_nodes_all hfilter (mem_nodes_self filter))

/-- Every query inside a compiled one is the query of a filter inside the one compiled. -/
theorem exists_node_of_queryIn {filter : Filter} {document inner : Json}
    (h : filter.toQuery = .ok document) (hin : Json.QueryIn inner document) :
    ∃ node ∈ filter.nodes, node.toQuery = .ok inner := by
  induction hin generalizing filter with
  | self => exact ⟨filter, mem_nodes_self filter, h⟩
  | alternative hmem hitem _ ih =>
    obtain ⟨members, hquery, heq⟩ := toQuery_eq_ok_iff.mp h
    obtain rfl := Json.obj.inj heq
    obtain ⟨filters, parts, hany, hparts, rfl⟩ := (origin_of_mem_query hquery hmem).of_arr
    obtain ⟨part, hpart, rfl⟩ := List.mem_map.mp hitem
    obtain ⟨filter, hfilter, hpartQuery⟩ := hparts.exists_of_mem hpart
    obtain ⟨node, hnode, hinner⟩ := ih (toQuery_eq_ok_iff.mpr ⟨part, hpartQuery, rfl⟩)
    exact ⟨node, mem_nodes_trans hany (mem_nodes_any hfilter hnode), hinner⟩

/-! ## Ranges in the query of a filter that was accepted -/

/-- Of declared fields with different paths, each is found under its own. -/
theorem declared?_of_nodup {leaves : List Leaf} (hnodup : (leaves.map Leaf.path).Nodup)
    {leaf : Leaf} (hmem : leaf ∈ leaves) : declared? leaves leaf.path = some leaf := by
  cases hdeclared : declared? leaves leaf.path with
  | none => simpa using List.find?_eq_none.mp hdeclared leaf hmem
  | some first =>
    have hpath : first.path = leaf.path := by simpa using List.find?_some hdeclared
    rw [List.inj_on_of_nodup_map hnodup (List.mem_of_find?_eq_some hdeclared) hmem hpath]

/-- In a filter that was accepted, no condition on a field without order is a range. -/
theorem isRange_eq_false_of_mem_constraints {leaves : List Leaf}
    (hnodup : (leaves.map Leaf.path).Nodup) {filter : Filter}
    (hvalid : validate leaves filter = .ok ()) {leaf : Leaf} (hleaf : leaf ∈ leaves)
    (hunordered : leaf.spec.kind.isOrdered = false) {conditions : List Condition}
    (hconstraint : (leaf.path, conditions) ∈ filter.constraints) :
    ∀ condition ∈ conditions, condition.comparison.isRange = false := by
  rw [validate_eq, outcomeOf_eq_ok_iff, List.findSome?_eq_none_iff] at hvalid
  have hfault := hvalid (leaf.path, conditions) hconstraint
  rw [constraintFault?, validateLeaf, declared?_of_nodup hnodup hleaf] at hfault
  cases hfirst : conditions.find? (·.comparison.isRange) with
  | none => simpa using hfirst
  | some condition => simp [hfirst, hunordered] at hfault

/-- Once a filter was held against declared fields with different paths and accepted, its query
asks nowhere for a range of a field that is declared as text or as a truth value. -/
theorem isRange_eq_false_of_validate {leaves : List Leaf} (hnodup : (leaves.map Leaf.path).Nodup)
    {filter : Filter} (hvalid : validate leaves filter = .ok ()) {document : Json}
    (hquery : filter.toQuery = .ok document) {members : List (String × Json)}
    (hin : Json.QueryIn (.obj members) document) {leaf : Leaf} (hleaf : leaf ∈ leaves)
    (hkind : leaf.spec.kind = .text ∨ leaf.spec.kind = .bool) {value : Json}
    (hmem : (leaf.path, value) ∈ members) : value.isRange = false := by
  obtain ⟨node, hnode, hinner⟩ := exists_node_of_queryIn hquery hin
  obtain ⟨own, hown, heq⟩ := toQuery_eq_ok_iff.mp hinner
  obtain rfl := Json.obj.inj heq
  have horigin := (origin_of_mem_query hown hmem).of_mem_nodes hnode
  by_contra hvalue
  obtain ⟨conditions, hconstraint, hne, hrange⟩ := horigin.of_isRange (by simpa using hvalue)
  obtain ⟨condition, hcondition⟩ := List.exists_mem_of_ne_nil conditions hne
  have hunordered := (isOrdered_eq_false_iff leaf.spec.kind).mpr hkind
  have hequals := isRange_eq_false_of_mem_constraints hnodup hvalid hleaf hunordered
    (mem_constraints_iff.mpr hconstraint) condition hcondition
  exact hrange condition hcondition ((Comparison.isRange_eq_false_iff _).mp hequals)

theorem isRange_eq_false_of_validate_overwritten :
    let leaves : List Leaf := [⟨"n", ⟨.unsigned, {}⟩⟩, ⟨"a.t", ⟨.text, {}⟩⟩, ⟨"b", ⟨.bool, {}⟩⟩]
    let older := Filter.leaf "n" [⟨.less, some (.number (.int 3))⟩, ⟨.greater, none⟩,
      ⟨.equals, some (.number (.int 1))⟩]
    let named := Filter.compare "a.t" .equals (.text "x")
    let filter := Filter.all [.any [.compare "b" .equals (.bool true)],
      .any [.all [older, named, .between "n" (.number (.int 1)) (.number (.int 2))]]]
    let inner : Members Json :=
      [("n", .obj [("$range", .obj [("$gte", .int 1), ("$lte", .int 2)])]), ("a.t", .str "x")]
    ((leaves.map Leaf.path).Nodup ∧ validate leaves filter = .ok () ∧
      filter.toQuery = .ok (.obj [("$or", .arr [.obj inner])]) ∧
      Json.QueryIn (.obj inner) (.obj [("$or", .arr [.obj inner])]) ∧
      ("a.t", .str "x") ∈ inner) ∧
    (Json.str "x").isRange = false := by
  intro leaves older named filter inner
  have hnodup : (leaves.map Leaf.path).Nodup := by decide
  have hvalid : validate leaves filter = .ok () := rfl
  have hquery : filter.toQuery = .ok (.obj [("$or", .arr [.obj inner])]) := rfl
  have hin : Json.QueryIn (.obj inner) (.obj [("$or", .arr [.obj inner])]) :=
    .alternative List.mem_cons_self List.mem_cons_self .self
  have hmem : ("a.t", Json.str "x") ∈ inner := by simp [inner]
  have hleaf : (⟨"a.t", ⟨.text, {}⟩⟩ : Leaf) ∈ leaves := by simp [leaves]
  exact ⟨⟨hnodup, hvalid, hquery, hin, hmem⟩,
    isRange_eq_false_of_validate hnodup hvalid hquery hin hleaf (.inl rfl) hmem⟩

end Filter

end DocumentSearch
