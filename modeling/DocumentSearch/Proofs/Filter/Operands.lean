import DocumentSearch.Proofs.Filter.Alternatives
import DocumentSearch.Proofs.Filter.Document
import DocumentSearch.Proofs.Filter.Meaning

/-! The operands that a query sends, and where null stands among them. A float that is not finite
has no JSON number, so null stands in a query exactly where such an operand was neither passed over
nor overwritten; what was read from a document has no such operands. -/

namespace DocumentSearch

namespace Json

mutual

/-- Whether null stands anywhere in a value. -/
def hasNull : Json → Bool
  | .null => true
  | .bool _ | .num _ | .str _ => false
  | .arr items => itemHasNull items
  | .obj members => memberHasNull members

def itemHasNull : List Json → Bool
  | [] => false
  | item :: rest => hasNull item || itemHasNull rest

def memberHasNull : List (String × Json) → Bool
  | [] => false
  | (_, value) :: rest => hasNull value || memberHasNull rest

end

theorem hasNull_arr_iff (items : List Json) :
    hasNull (.arr items) = true ↔ ∃ item ∈ items, item.hasNull = true := by
  rw [hasNull]
  induction items with
  | nil => simp [itemHasNull]
  | cons item rest ih => simp [itemHasNull, ih]

theorem hasNull_obj_iff (members : Members Json) :
    hasNull (.obj members) = true ↔
      ∃ name value, (name, value) ∈ members ∧ value.hasNull = true := by
  rw [hasNull]
  induction members with
  | nil => simp [memberHasNull]
  | cons member rest ih =>
    obtain ⟨name, value⟩ := member
    rw [memberHasNull, Bool.or_eq_true, ih]
    constructor
    · intro h
      rcases h with hvalue | ⟨other, inner, hmem, hinner⟩
      · exact ⟨name, value, List.mem_cons_self, hvalue⟩
      · exact ⟨other, inner, List.mem_cons_of_mem _ hmem, hinner⟩
    · intro h
      obtain ⟨other, inner, hmem, hinner⟩ := h
      rcases List.mem_cons.mp hmem with heq | hmem
      · obtain ⟨-, rfl⟩ := Prod.mk.inj heq
        exact .inl hinner
      · exact .inr ⟨other, inner, hmem, hinner⟩

end Json

/-- Only a float that is not finite is sent as null. -/
theorem Operand.hasNull_toJson_iff (operand : Operand) :
    operand.toJson.hasNull = true ↔ ∃ x, operand = .float x ∧ x.isFinite = false := by
  cases operand with
  | float x =>
    rcases Json.ofBinary64_eq_null_or_num x with hnull | ⟨hfinite, hnum⟩
    · have hinfinite := (Json.ofBinary64_eq_null_iff x).mp hnull
      simp [toJson, hnull, hinfinite, Json.hasNull]
    · simp [toJson, hnum, hfinite, Json.hasNull]
  | text | number | bool | date => simp [toJson, Json.hasNull]

theorem Condition.bound?_eq_some_iff {condition : Condition} {bound : String} {value : Json} :
    condition.bound? = some (bound, value) ↔
      ∃ operand, condition.operand? = some operand ∧ condition.comparison.bound? = some bound ∧
        operand.toJson = value := by
  cases hbound : condition.comparison.bound? <;> cases hoperand : condition.operand? <;>
    simp [bound?, hbound, hoperand]

theorem Comparison.eq_of_bound?_eq {comparison other : Comparison} {bound : String}
    (h : comparison.bound? = some bound) (h' : other.bound? = some bound) : comparison = other :=
  Option.some.inj ((ofBound?_of_bound? h).symm.trans (ofBound?_of_bound? h'))

theorem Comparison.exists_bound {comparison : Comparison} (h : comparison ≠ .equals) :
    ∃ bound, comparison.bound? = some bound := by
  cases comparison with
  | equals => contradiction
  | less | lessOrEqual | greater | greaterOrEqual => exact ⟨_, rfl⟩

namespace Filter

/-! ## The operands of a leaf -/

/-- An operand counts in a leaf: it is that of the first equality or, where there is no equality,
that of the last condition with its comparison. -/
inductive Counts (operand : Operand) (conditions : List Condition) : Prop where
  | equality {equality : Condition} :
      conditions.find? (·.comparison == .equals) = some equality →
      equality.operand? = some operand → Counts operand conditions
  | bound {before after : List Condition} {condition : Condition} :
      (∀ other ∈ conditions, other.comparison ≠ .equals) →
      conditions = before ++ condition :: after →
      (∀ later ∈ after, later.comparison ≠ condition.comparison) →
      condition.operand? = some operand → Counts operand conditions

theorem Counts.exists_condition {operand : Operand} {conditions : List Condition}
    (h : Counts operand conditions) :
    ∃ condition ∈ conditions, condition.operand? = some operand := by
  cases h with
  | equality hfind hoperand => exact ⟨_, List.mem_of_find?_eq_some hfind, hoperand⟩
  | bound _ hsplit _ hoperand => exact ⟨_, by simp [hsplit], hoperand⟩

theorem counts_iff_of_equality {operand : Operand} {conditions : List Condition}
    {equality : Condition} (hfind : conditions.find? (·.comparison == .equals) = some equality) :
    Counts operand conditions ↔ equality.operand? = some operand := by
  constructor
  · intro h
    cases h with
    | equality hfind' hoperand =>
      obtain rfl := Option.some.inj (hfind.symm.trans hfind')
      exact hoperand
    | bound hrange _ _ _ =>
      have hequals : equality.comparison = .equals := by simpa using List.find?_some hfind
      exact absurd hequals (hrange equality (List.mem_of_find?_eq_some hfind))
  · exact .equality hfind

theorem counts_iff_of_range {operand : Operand} {conditions : List Condition}
    (hrange : ∀ condition ∈ conditions, condition.comparison ≠ .equals) :
    Counts operand conditions ↔
      ∃ before condition after, conditions = before ++ condition :: after ∧
        (∀ later ∈ after, later.comparison ≠ condition.comparison) ∧
        condition.operand? = some operand := by
  constructor
  · intro h
    cases h with
    | @equality equality hfind _ =>
      have hequals : equality.comparison = .equals := by simpa using List.find?_some hfind
      exact absurd hequals (hrange equality (List.mem_of_find?_eq_some hfind))
    | bound _ hsplit hlast hoperand => exact ⟨_, _, _, hsplit, hlast, hoperand⟩
  · rintro ⟨before, condition, after, hsplit, hlast, hoperand⟩
    exact .bound hrange hsplit hlast hoperand

/-- The range of conditions that all have their operands binds each operator to the operand of the
last condition with it. -/
theorem mem_range_iff {conditions : List Condition}
    (hoperands : ∀ condition ∈ conditions, condition.operand?.isSome) {bound : String}
    {value : Json} :
    (bound, value) ∈ Members.ofPairs (conditions.filterMap Condition.bound?) ↔
      ∃ before condition after operand, conditions = before ++ condition :: after ∧
        (∀ later ∈ after, later.comparison ≠ condition.comparison) ∧
        condition.operand? = some operand ∧ condition.comparison.bound? = some bound ∧
        operand.toJson = value := by
  rw [Members.mem_ofPairs_iff]
  constructor
  · rintro ⟨first, second, hsplit, hlast⟩
    obtain ⟨before, rest, rfl, -, hrest⟩ := List.filterMap_eq_append_iff.mp hsplit
    obtain ⟨between, condition, after, rfl, -, hbound, rfl⟩ :=
      List.filterMap_eq_cons_iff.mp hrest
    obtain ⟨operand, hoperand, hcomparison, hvalue⟩ := Condition.bound?_eq_some_iff.mp hbound
    refine ⟨before ++ between, condition, after, operand, by simp, ?_, hoperand, hcomparison,
      hvalue⟩
    intro later hlater hsame
    apply hlast
    obtain ⟨own, hown⟩ := Option.isSome_iff_exists.mp (hoperands later (by simp [hlater]))
    have hlaterBound : later.bound? = some (bound, own.toJson) :=
      Condition.bound?_eq_some_iff.mpr ⟨own, hown, hsame ▸ hcomparison, rfl⟩
    exact Members.mem_keys_of_mem (List.mem_filterMap.mpr ⟨later, hlater, hlaterBound⟩)
  · rintro ⟨before, condition, after, operand, rfl, hlast, hoperand, hcomparison, hvalue⟩
    have hbound : condition.bound? = some (bound, value) :=
      Condition.bound?_eq_some_iff.mpr ⟨operand, hoperand, hcomparison, hvalue⟩
    refine ⟨before.filterMap Condition.bound?, after.filterMap Condition.bound?, ?_, ?_⟩
    · rw [List.filterMap_append, List.filterMap_cons, hbound]
    · intro hmem
      obtain ⟨⟨_, _⟩, hpair, rfl⟩ := List.mem_map.mp hmem
      obtain ⟨later, hlater, hlaterBound⟩ := List.mem_filterMap.mp hpair
      obtain ⟨_, _, hcomparison', _⟩ := Condition.bound?_eq_some_iff.mp hlaterBound
      exact hlast later hlater (Comparison.eq_of_bound?_eq hcomparison' hcomparison)

/-- Null stands in a range for the operands that count and are not finite. -/
theorem hasNull_range_iff {conditions : List Condition}
    (hrange : ∀ condition ∈ conditions, condition.comparison ≠ .equals)
    (hoperands : ∀ condition ∈ conditions, condition.operand?.isSome) :
    (Json.obj (Members.ofPairs (conditions.filterMap Condition.bound?))).hasNull = true ↔
      ∃ x, Counts (.float x) conditions ∧ x.isFinite = false := by
  rw [Json.hasNull_obj_iff]
  simp only [mem_range_iff hoperands, counts_iff_of_range hrange]
  constructor
  · rintro ⟨_, _, ⟨before, condition, after, operand, hsplit, hlast, hoperand, _, rfl⟩, hnull⟩
    obtain ⟨x, rfl, hfinite⟩ := operand.hasNull_toJson_iff.mp hnull
    exact ⟨x, ⟨before, condition, after, hsplit, hlast, hoperand⟩, hfinite⟩
  · rintro ⟨x, ⟨before, condition, after, hsplit, hlast, hoperand⟩, hfinite⟩
    have hmem : condition ∈ conditions := by simp [hsplit]
    obtain ⟨bound, hbound⟩ := Comparison.exists_bound (hrange condition hmem)
    have hnull : (Operand.float x).toJson.hasNull = true :=
      (Operand.hasNull_toJson_iff _).mpr ⟨x, rfl, hfinite⟩
    exact ⟨bound, _, ⟨before, condition, after, .float x, hsplit, hlast, hoperand, hbound, rfl⟩,
      hnull⟩

/-- Null stands in the query of a leaf for the operands that count and are not finite. -/
theorem exists_null_queryLeaf_iff {field : String} {conditions : List Condition}
    {members : Members Json} (h : queryLeaf field conditions = .ok members) {name : String} :
    (∃ value, (name, value) ∈ members ∧ value.hasNull = true) ↔
      name = field ∧ ∃ x, Counts (.float x) conditions ∧ x.isFinite = false := by
  obtain ⟨equality, operand, hfind, hoperand, rfl⟩ | ⟨_, hrange, hoperands, rfl⟩ :=
    queryLeaf_cases h
  · have hcounts : ∀ x, Counts (.float x) conditions ↔ operand = .float x := fun x => by
      rw [counts_iff_of_equality hfind, hoperand, Option.some.injEq]
    simp only [hcounts, ← operand.hasNull_toJson_iff]
    simp
  · rw [← hasNull_range_iff hrange hoperands]
    simp [Json.hasNull_obj_iff]

/-! ## The operands of a filter -/

/-- A filter sends an operand, under a name that its query binds: a leaf the operands that count in
it, alternatives what each of them sends, and filters that are all asked for what each of them sends
under a name that no later one binds. -/
inductive Sends (operand : Operand) : Filter → String → Prop where
  | leaf {field : String} {conditions : List Condition} :
      Counts operand conditions → Sends operand (.leaf field conditions) field
  | any {filters : List Filter} {filter : Filter} {name : String} :
      filter ∈ filters → Sends operand filter name → Sends operand (.any filters) "$or"
  | all {before after : List Filter} {filter : Filter} {name : String} :
      Sends operand filter name → (∀ later ∈ after, later.binds name = false) →
        Sends operand (.all (before ++ filter :: after)) name

/-- What a filter sends are operands of its leaves. -/
theorem Sends.exists_leaf {operand : Operand} {filter : Filter} {name : String}
    (h : Sends operand filter name) :
    ∃ field conditions condition, .leaf field conditions ∈ filter.nodes ∧
      condition ∈ conditions ∧ condition.operand? = some operand := by
  induction h with
  | leaf hcounts =>
    obtain ⟨condition, hmem, hoperand⟩ := hcounts.exists_condition
    exact ⟨_, _, condition, mem_nodes_self _, hmem, hoperand⟩
  | any hfilter _ ih =>
    obtain ⟨field, conditions, condition, hleaf, hcondition⟩ := ih
    exact ⟨field, conditions, condition, mem_nodes_any hfilter hleaf, hcondition⟩
  | all _ _ ih =>
    obtain ⟨field, conditions, condition, hleaf, hcondition⟩ := ih
    exact ⟨field, conditions, condition, mem_nodes_all (by simp) hleaf, hcondition⟩

/-- Null stands under a name of a query for the operands that are sent there and are not finite. -/
theorem exists_null_query_iff {filter : Filter} {members : Members Json}
    (h : filter.query = .ok members) {name : String} :
    (∃ value, (name, value) ∈ members ∧ value.hasNull = true) ↔
      ∃ x, Sends (.float x) filter name ∧ x.isFinite = false := by
  induction filter using Filter.induction generalizing members name with
  | leaf field conditions =>
    rw [query] at h
    rw [exists_null_queryLeaf_iff h]
    constructor
    · rintro ⟨rfl, x, hcounts, hfinite⟩
      exact ⟨x, .leaf hcounts, hfinite⟩
    · rintro ⟨x, hsends, hfinite⟩
      cases hsends with
      | leaf hcounts => exact ⟨rfl, x, hcounts, hfinite⟩
  | any filters ih =>
    obtain ⟨parts, hparts, rfl⟩ := query_any_eq_ok_iff.mp h
    constructor
    · rintro ⟨value, hmem, hnull⟩
      obtain ⟨rfl, rfl⟩ := Prod.mk.inj (List.mem_singleton.mp hmem)
      obtain ⟨item, hitem, hnull⟩ := (Json.hasNull_arr_iff _).mp hnull
      obtain ⟨part, hpart, rfl⟩ := List.mem_map.mp hitem
      obtain ⟨inner, hinner⟩ := (Json.hasNull_obj_iff part).mp hnull
      obtain ⟨filter, hfilter, hquery⟩ := hparts.exists_of_mem hpart
      obtain ⟨x, hsends, hfinite⟩ := (ih filter hfilter hquery).mp hinner
      exact ⟨x, .any hfilter hsends, hfinite⟩
    · rintro ⟨x, hsends, hfinite⟩
      cases hsends with
      | @any _ filter inner hfilter hsends =>
        obtain ⟨part, hpart, hquery⟩ := hparts.exists_part hfilter
        have hinner := (ih filter hfilter hquery).mpr ⟨x, hsends, hfinite⟩
        have hnull : (Json.obj part).hasNull = true :=
          (Json.hasNull_obj_iff part).mpr ⟨inner, hinner⟩
        refine ⟨_, List.mem_cons_self, (Json.hasNull_arr_iff _).mpr ?_⟩
        exact ⟨.obj part, List.mem_map_of_mem hpart, hnull⟩
  | all filters ih =>
    constructor
    · rintro ⟨value, hmem, hnull⟩
      obtain ⟨before, filter, after, part, rfl, hquery, hmem, hafter⟩ :=
        (mem_query_all_iff h).mp hmem
      obtain ⟨x, hsends, hfinite⟩ := (ih filter (by simp) hquery).mp ⟨value, hmem, hnull⟩
      exact ⟨x, .all hsends hafter, hfinite⟩
    · rintro ⟨x, hsends, hfinite⟩
      cases hsends with
      | @all before after filter _ hsends hafter =>
        obtain ⟨parts, hparts, -⟩ := query_all_eq_ok_iff.mp h
        have hfilter : filter ∈ before ++ filter :: after := by simp
        obtain ⟨part, -, hquery⟩ := hparts.exists_part hfilter
        obtain ⟨value, hmem, hnull⟩ := (ih filter hfilter hquery).mpr ⟨x, hsends, hfinite⟩
        exact ⟨value, (mem_query_all_iff h).mpr ⟨before, filter, after, part, rfl, hquery, hmem,
          hafter⟩, hnull⟩

/-! ## Filters that were read -/

theorem exists_written_of_mem_children {document : Json} {filter inner : Filter}
    (h : Written document filter) (hinner : inner ∈ filter.children) :
    ∃ own, Written own inner := by
  cases h with
  | leaf => contradiction
  | any hwritten | all hwritten =>
    obtain ⟨own, -, hown⟩ := exists_left_of_forall₂ hwritten hinner
    exact ⟨own, hown⟩

/-- Every filter inside one that is written in a document is written somewhere. -/
theorem exists_written_of_mem_nodes {document : Json} {filter node : Filter}
    (h : Written document filter) (hnode : node ∈ filter.nodes) : ∃ own, Written own node := by
  induction filter using Filter.induction generalizing document with
  | leaf field conditions =>
    obtain rfl : node = .leaf field conditions := by simpa [nodes] using hnode
    exact ⟨document, h⟩
  | any filters ih | all filters ih =>
    rw [nodes, nodesAll_eq_flatMap, List.mem_cons, List.mem_flatMap] at hnode
    rcases hnode with rfl | ⟨inner, hinner, hnode⟩
    · exact ⟨document, h⟩
    · obtain ⟨own, hown⟩ := exists_written_of_mem_children h hinner
      exact ih inner hinner hown hnode

/-- The floats of a document are read as numbers, which are finite. -/
theorem operand_ne_float_of_written {document : Json} {filter : Filter}
    (h : Written document filter) {field : String} {conditions : List Condition}
    (hleaf : .leaf field conditions ∈ filter.nodes) {condition : Condition}
    (hmem : condition ∈ conditions) (x : Binary64) : condition.operand? ≠ some (.float x) := by
  intro hoperand
  obtain ⟨inner, hinner⟩ := exists_written_of_mem_nodes h hleaf
  cases hinner with
  | leaf _ _ hconditions =>
    obtain ⟨⟨_, value⟩, -, hwritten⟩ := exists_left_of_forall₂ hconditions hmem
    have hvalue : Operand.Written value condition.operand? := hwritten.operand
    rw [hoperand] at hvalue
    cases hvalue

/-- Null stands in the query of a filter exactly if the filter sends an operand that is not finite.
There is none if all floats among the operands are finite, as they are in a filter that was read
from a document. -/
theorem hasNull_toQuery_iff {filter : Filter} {query : Json} (h : filter.toQuery = .ok query) :
    (query.hasNull = true ↔ ∃ name x, Sends (.float x) filter name ∧ x.isFinite = false) ∧
    ((∀ field conditions condition x, .leaf field conditions ∈ filter.nodes →
      condition ∈ conditions → condition.operand? = some (.float x) → x.isFinite = true) →
      query.hasNull = false) ∧
    (∀ document, ofJson document = .ok filter → query.hasNull = false) := by
  obtain ⟨members, hmembers, rfl⟩ := toQuery_eq_ok_iff.mp h
  have hnull : (Json.obj members).hasNull = true ↔
      ∃ name x, Sends (.float x) filter name ∧ x.isFinite = false := by
    rw [Json.hasNull_obj_iff]
    exact exists_congr fun name => exists_null_query_iff hmembers
  have hfinite : (∀ field conditions condition x, .leaf field conditions ∈ filter.nodes →
      condition ∈ conditions → condition.operand? = some (.float x) → x.isFinite = true) →
      (Json.obj members).hasNull = false := by
    intro hfloats
    by_contra hother
    obtain ⟨name, x, hsends, hx⟩ := hnull.mp (by simpa using hother)
    obtain ⟨field, conditions, condition, hleaf, hmem, hoperand⟩ := hsends.exists_leaf
    rw [hfloats field conditions condition x hleaf hmem hoperand] at hx
    contradiction
  refine ⟨hnull, hfinite, ?_⟩
  intro document hread
  apply hfinite
  intro field conditions condition x hleaf hmem hoperand
  exact absurd hoperand (operand_ne_float_of_written (ofJson_eq_ok_iff.mp hread) hleaf hmem x)

theorem hasNull_toQuery_iff_overwritten :
    let passedOver := Filter.compare "a" .equals (.float (.infinity true))
    let later := Filter.leaf "a" [⟨.less, some (.float .nan)⟩, ⟨.greater, some (.bool true)⟩,
      ⟨.less, some (.number (.int 3))⟩]
    let filter := Filter.all [.any [.all [passedOver, later]], .compare "b" .greater (.float .nan)]
    let query := Json.obj [
      ("$or", .arr [.obj [("a", .obj [("$range", .obj [("$lt", .int 3), ("$gt", .bool true)])])]]),
      ("b", .obj [("$range", .obj [("$gt", .null)])])]
    let document := Json.obj [("OR", .arr [.obj [("a", .obj [("lessThan", .int 3)])]])]
    let read := Filter.any [.compare "a" .less (.number (.int 3))]
    let readQuery :=
      Json.obj [("$or", .arr [.obj [("a", .obj [("$range", .obj [("$lt", .int 3)])])]])]
    ((filter.toQuery = .ok query ∧ query.hasNull = true) ∧
      ∃ name x, Sends (.float x) filter name ∧ x.isFinite = false) ∧
    (read.toQuery = .ok readQuery ∧ ofJson document = .ok read) ∧ readQuery.hasNull = false := by
  intro passedOver later filter query document read readQuery
  have hquery : filter.toQuery = .ok query := rfl
  have hnull : query.hasNull = true := rfl
  have hreadQuery : read.toQuery = .ok readQuery := rfl
  have hread : ofJson document = .ok read := rfl
  exact ⟨⟨⟨hquery, hnull⟩, (hasNull_toQuery_iff hquery).1.mp hnull⟩, ⟨hreadQuery, hread⟩,
    (hasNull_toQuery_iff hreadQuery).2.2 document hread⟩

/-- An operand that is there may yet be sent as null. -/
theorem not_hasNull_toQuery :
    ¬ ∀ (filter : Filter) (query : Json), filter.toQuery = .ok query → query.hasNull = false := by
  intro hnever
  have hnull := hnever (.compare "price" .equals (.float .nan)) (.obj [("price", .null)]) rfl
  contradiction

end Filter

end DocumentSearch
