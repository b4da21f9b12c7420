import DocumentSearch.Proofs.Filter.Operands
import DocumentSearch.Proofs.Filter.Validation

/-! Which filters compile, and what the others fail for. Only leaves can fail. A filter fails for
the first of its leaves that does, from left to right, even where another filter would overwrite
what that leaf compiles to. What a leaf alone gives is told by rules that do not mention the
compiler. -/

namespace DocumentSearch.Filter

/-! ## Leaves alone -/

/-- Members are the range of conditions: one bound for each comparison among them, in the order in
which the comparisons first appear, with the operand of the last condition that has it. -/
structure RangeOf (conditions : List Condition) (range : Members Json) : Prop where
  keys : Members.keys range =
    (conditions.filterMap fun condition => condition.comparison.bound?).eraseDups
  mem_iff : ∀ bound value, (bound, value) ∈ range ↔
    ∃ before condition after operand, conditions = before ++ condition :: after ∧
      (∀ later ∈ after, later.comparison ≠ condition.comparison) ∧
      condition.operand? = some operand ∧ condition.comparison.bound? = some bound ∧
      operand.toJson = value

/-- What a leaf alone compiles to, or fails for. -/
inductive LeafOutcome (field : String) (conditions : List Condition) :
    Except Fault Json → Prop where
  | noConditions : conditions = [] → LeafOutcome field conditions (.error (.noConditions field))
  /-- The first equality counts, whatever the other conditions are. -/
  | equality {before after : List Condition} {operand : Operand} :
      conditions = before ++ ⟨.equals, some operand⟩ :: after →
      (∀ earlier ∈ before, earlier.comparison ≠ .equals) →
      LeafOutcome field conditions (.ok (.obj [(field, operand.toJson)]))
  | openEquality {before after : List Condition} :
      conditions = before ++ ⟨.equals, none⟩ :: after →
      (∀ earlier ∈ before, earlier.comparison ≠ .equals) →
      LeafOutcome field conditions (.error (.missingOperand field))
  /-- Without an equality every condition counts. -/
  | range {range : Members Json} : conditions ≠ [] →
      (∀ condition ∈ conditions, condition.comparison ≠ .equals) →
      (∀ condition ∈ conditions, condition.operand?.isSome) → RangeOf conditions range →
      LeafOutcome field conditions (.ok (.obj [(field, .obj [("$range", .obj range)])]))
  | openRange : (∀ condition ∈ conditions, condition.comparison ≠ .equals) →
      (∃ condition ∈ conditions, condition.operand? = none) →
      LeafOutcome field conditions (.error (.missingOperand field))

theorem keys_bounds {conditions : List Condition}
    (hoperands : ∀ condition ∈ conditions, condition.operand?.isSome) :
    Members.keys (conditions.filterMap Condition.bound?) =
      conditions.filterMap fun condition => condition.comparison.bound? := by
  rw [Members.keys, List.map_filterMap]
  refine List.filterMap_congr fun condition hmem => ?_
  obtain ⟨operand, hoperand⟩ := Option.isSome_iff_exists.mp (hoperands condition hmem)
  rw [Condition.bound?, hoperand]
  cases condition.comparison.bound? <;> rfl

theorem rangeOf_ofPairs {conditions : List Condition}
    (hoperands : ∀ condition ∈ conditions, condition.operand?.isSome) :
    RangeOf conditions (Members.ofPairs (conditions.filterMap Condition.bound?)) := by
  refine ⟨?_, fun bound value => mem_range_iff hoperands⟩
  rw [Members.keys_ofPairs, keys_bounds hoperands]

/-- Conditions have one range. -/
theorem RangeOf.eq_ofPairs {conditions : List Condition} {range : Members Json}
    (h : RangeOf conditions range)
    (hoperands : ∀ condition ∈ conditions, condition.operand?.isSome) :
    range = Members.ofPairs (conditions.filterMap Condition.bound?) := by
  have hbound := rangeOf_ofPairs hoperands
  have hkeys := hbound.keys.trans h.keys.symm
  refine (Members.eq_of_keys_eq (Members.distinct_ofPairs _) hkeys fun bound value => ?_).symm
  rw [hbound.mem_iff, h.mem_iff]

theorem find?_equality_iff {conditions : List Condition} {operand? : Option Operand} :
    conditions.find? (·.comparison == .equals) = some ⟨.equals, operand?⟩ ↔
      ∃ before after, conditions = before ++ ⟨.equals, operand?⟩ :: after ∧
        ∀ earlier ∈ before, earlier.comparison ≠ .equals := by
  rw [List.find?_eq_some_iff_append]
  simp

/-- A leaf compiles by these rules and by no others. -/
theorem leafOutcome_iff {field : String} {conditions : List Condition}
    {outcome : Except Fault Json} :
    LeafOutcome field conditions outcome ↔ (Filter.leaf field conditions).toQuery = outcome := by
  rw [toQuery, query]
  constructor
  · intro h
    cases h with
    | noConditions hnil => simp [hnil, queryLeaf, Except.map]
    | equality hsplit hfirst =>
      rw [queryLeaf_of_equality (find?_equality_iff.mpr ⟨_, _, hsplit, hfirst⟩)]
      rfl
    | openEquality hsplit hfirst =>
      rw [queryLeaf_of_equality (find?_equality_iff.mpr ⟨_, _, hsplit, hfirst⟩)]
      rfl
    | range hne hrange hoperands hof =>
      rw [queryLeaf_of_range hne hrange, if_pos hoperands, hof.eq_ofPairs hoperands]
      rfl
    | openRange hrange hopen =>
      obtain ⟨condition, hmem, hnone⟩ := hopen
      have hne : conditions ≠ [] := List.ne_nil_of_mem hmem
      have hmissing : ¬ ∀ condition ∈ conditions, condition.operand?.isSome := fun h => by
        simpa [hnone] using h condition hmem
      rw [queryLeaf_of_range hne hrange, if_neg hmissing]
      rfl
  · intro h
    subst h
    by_cases hne : conditions = []
    · subst hne
      exact .noConditions rfl
    cases hfind : conditions.find? (·.comparison == .equals) with
    | some equality =>
      obtain ⟨comparison, operand?⟩ := equality
      obtain rfl : comparison = .equals := by simpa using List.find?_some hfind
      obtain ⟨before, after, hsplit, hfirst⟩ := find?_equality_iff.mp hfind
      rw [queryLeaf_of_equality hfind]
      cases operand? with
      | some operand => exact .equality hsplit hfirst
      | none => exact .openEquality hsplit hfirst
    | none =>
      have hrange : ∀ condition ∈ conditions, condition.comparison ≠ .equals := by
        simpa using hfind
      rw [queryLeaf_of_range hne hrange]
      by_cases hoperands : ∀ condition ∈ conditions, condition.operand?.isSome
      · rw [if_pos hoperands]
        exact .range hne hrange hoperands (rangeOf_ofPairs hoperands)
      · rw [if_neg hoperands]
        exact .openRange hrange (by simpa using hoperands)

/-! ## The first leaf that fails -/

/-- The fault of one leaf. -/
def leafFault? (constraint : Constraint) : Option Fault :=
  (Filter.leaf constraint.1 constraint.2).fault?

theorem findSome?_constraintsAll {filters : List Filter}
    (h : ∀ filter ∈ filters, filter.fault? = filter.constraints.findSome? leafFault?) :
    (constraintsAll filters).findSome? leafFault? = filters.findSome? fault? := by
  induction filters with
  | nil => rfl
  | cons filter rest ih =>
    rw [constraintsAll, List.findSome?_append, List.findSome?_cons, h filter List.mem_cons_self,
      ih fun other hmem => h other (List.mem_cons_of_mem _ hmem)]
    cases filter.constraints.findSome? leafFault? <;> rfl

/-- A filter fails for the first of its leaves that does. -/
theorem fault?_eq (filter : Filter) :
    filter.fault? = filter.constraints.findSome? leafFault? := by
  induction filter using Filter.induction with
  | leaf field conditions => rw [constraints, List.findSome?_singleton, leafFault?]
  | any filters ih => rw [fault?_any, constraints, findSome?_constraintsAll ih]
  | all filters ih => rw [fault?_all, constraints, findSome?_constraintsAll ih]

theorem queryText_eq_error_iff {filter : Filter} {fault : Fault} :
    filter.queryText = .error fault ↔ filter.fault? = some fault := by
  rw [fault?_eq_some_iff, ← toQuery_eq_error_iff, queryText, map_eq_error_iff]

theorem exists_queryText_iff {filter : Filter} :
    (∃ text, filter.queryText = .ok text) ↔ filter.fault? = none := by
  simp only [fault?_eq_none_iff, queryText, toQuery, map_eq_ok_iff]
  simp

/-- A filter compiles exactly if each of its leaves does alone, and otherwise fails for what the
first leaf fails for that does not compile. A leaf alone compiles, or fails, by the rules of
`LeafOutcome`, and where it compiles, its text is that of the query which these give. -/
theorem queryText_of_leaves :
    (∀ filter : Filter,
      ((∃ text, filter.queryText = .ok text) ↔
        ∀ leaf ∈ filter.constraints, ∃ text, (Filter.leaf leaf.1 leaf.2).queryText = .ok text) ∧
      ∀ fault, filter.queryText = .error fault ↔
        ∃ before leaf after, filter.constraints = before ++ leaf :: after ∧
          (Filter.leaf leaf.1 leaf.2).queryText = .error fault ∧
          ∀ earlier ∈ before, ∃ text, (Filter.leaf earlier.1 earlier.2).queryText = .ok text) ∧
    (∀ (field : String) (conditions : List Condition) (outcome : Except Fault Json),
      (Filter.leaf field conditions).toQuery = outcome ↔ LeafOutcome field conditions outcome) ∧
    ∀ (field : String) (conditions : List Condition) (outcome : Except Fault Json),
      LeafOutcome field conditions outcome →
        (Filter.leaf field conditions).queryText = outcome.map Json.render := by
  refine ⟨fun filter => ⟨?_, fun fault => ?_⟩,
    fun field conditions outcome => leafOutcome_iff.symm, fun field conditions outcome h => ?_⟩
  · rw [exists_queryText_iff, fault?_eq, List.findSome?_eq_none_iff]
    simp only [exists_queryText_iff, leafFault?]
  · rw [queryText_eq_error_iff, fault?_eq, List.findSome?_eq_some_iff]
    simp only [queryText_eq_error_iff, exists_queryText_iff, leafFault?]
  · rw [queryText, leafOutcome_iff.mp h]

theorem queryText_of_leaves_overwritten :
    let repeated : List Condition := [⟨.less, some (.bool true)⟩, ⟨.greater, some (.text "x")⟩,
      ⟨.less, some (.text "y")⟩]
    let lacking : List Condition := [⟨.less, some (.bool true)⟩, ⟨.greater, none⟩]
    let filter := Filter.all [.any [.leaf "a" repeated], .leaf "n" lacking, .leaf "m" [],
      .compare "n" .equals (.text "x")]
    let query : Json := .obj
      [("a", .obj [("$range", .obj [("$lt", .str "y"), ("$gt", .str "x")])])]
    (filter.constraints = [("a", repeated)] ++ ("n", lacking) ::
        [("m", []), ("n", [⟨.equals, some (.text "x")⟩])] ∧
      (Filter.leaf "n" lacking).queryText = .error (.missingOperand "n") ∧
      ∀ earlier ∈ [("a", repeated)],
        ∃ text, (Filter.leaf earlier.1 earlier.2).queryText = .ok text) ∧
    filter.queryText = .error (.missingOperand "n") ∧
    LeafOutcome "a" repeated (.ok query) ∧
    (Filter.leaf "a" repeated).queryText = .ok query.render := by
  intro repeated lacking filter query
  have hleaves : filter.constraints = [("a", repeated)] ++ ("n", lacking) ::
      [("m", []), ("n", [⟨.equals, some (.text "x")⟩])] := rfl
  have hfault : (Filter.leaf "n" lacking).queryText = .error (.missingOperand "n") := rfl
  have hearlier : ∀ earlier ∈ [("a", repeated)],
      ∃ text, (Filter.leaf earlier.1 earlier.2).queryText = .ok text := by
    intro earlier hmem
    obtain rfl : earlier = ("a", repeated) := by simpa using hmem
    exact ⟨_, rfl⟩
  obtain ⟨hfilter, hleaf, htext⟩ := queryText_of_leaves
  have houtcome : LeafOutcome "a" repeated (.ok query) := (hleaf "a" repeated _).mp rfl
  refine ⟨⟨hleaves, hfault, hearlier⟩, ?_, houtcome, htext "a" repeated _ houtcome⟩
  exact ((hfilter filter).2 _).mpr ⟨_, _, _, hleaves, hfault, hearlier⟩

end DocumentSearch.Filter
