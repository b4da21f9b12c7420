import DocumentSearch.Proofs.Filter.Compilation

/-! Compiling a filter keeps its meaning. A filter and its query are read against the same document,
each by rules of its own, and are satisfied together as long as nothing in the filter is overwritten
while the query is put together. -/

namespace DocumentSearch

/-- Which conditions a document meets: a field, a comparison and the JSON form of an operand. -/
abbrev Assignment := String → Comparison → Json → Bool

/-! ## What a filter means -/

namespace Filter

/-- Whether a condition is met. One without an operand is not. -/
def conditionHolds (holds : Assignment) (field : String) (condition : Condition) : Bool :=
  match condition.operand? with
  | some operand => holds field condition.comparison operand.toJson
  | none => false

/-- Whether the conditions of a leaf are met. Beside an equality, the other conditions do not
count. -/
def leafSatisfied (holds : Assignment) (field : String) (conditions : List Condition) : Bool :=
  let equalities := conditions.filter (·.comparison == .equals)
  (if equalities.isEmpty then conditions else equalities).all (conditionHolds holds field)

mutual

/-- Whether a document satisfies a filter. -/
def satisfied (holds : Assignment) : Filter → Bool
  | .leaf field conditions => leafSatisfied holds field conditions
  | .any filters => anySatisfied holds filters
  | .all filters => allSatisfied holds filters

def anySatisfied (holds : Assignment) : List Filter → Bool
  | [] => false
  | filter :: rest => satisfied holds filter || anySatisfied holds rest

def allSatisfied (holds : Assignment) : List Filter → Bool
  | [] => true
  | filter :: rest => satisfied holds filter && allSatisfied holds rest

end

theorem anySatisfied_eq_any (holds : Assignment) (filters : List Filter) :
    anySatisfied holds filters = filters.any (satisfied holds) := by
  induction filters with
  | nil => rfl
  | cons filter rest ih => simp [anySatisfied, ih]

theorem allSatisfied_eq_all (holds : Assignment) (filters : List Filter) :
    allSatisfied holds filters = filters.all (satisfied holds) := by
  induction filters with
  | nil => rfl
  | cons filter rest ih => simp [allSatisfied, ih]

end Filter

/-! ## What a query means -/

/-- The comparison that an operator of a range stands for. -/
def Comparison.ofBound? (bound : String) : Option Comparison :=
  (Vocabulary.all : List Comparison).find? (·.bound? == some bound)

theorem Comparison.ofBound?_of_bound? {comparison : Comparison} {bound : String}
    (h : comparison.bound? = some bound) : ofBound? bound = some comparison := by
  cases comparison <;> simp only [bound?, Option.some.injEq, reduceCtorEq] at h <;> subst h <;> rfl

namespace Json

def boundSatisfied (holds : Assignment) (field : String) (bound : String × Json) : Bool :=
  match Comparison.ofBound? bound.1 with
  | some comparison => holds field comparison bound.2
  | none => false

/-- Whether all bounds of a range hold. -/
def rangeSatisfied (holds : Assignment) (field : String) : List (String × Json) → Bool
  | [("$range", .obj bounds)] => bounds.all (boundSatisfied holds field)
  | _ => false

mutual

/-- Whether a document satisfies a query: an object all of whose members are satisfied. -/
def satisfied (holds : Assignment) : Json → Bool
  | .obj members => membersSatisfied holds members
  | _ => false

def membersSatisfied (holds : Assignment) : List (String × Json) → Bool
  | [] => true
  | (name, value) :: rest => memberSatisfied holds name value && membersSatisfied holds rest

/-- Whether a document satisfies one member of a query: alternatives under `$or`, and the range or
the value of a field under every other name. -/
def memberSatisfied (holds : Assignment) (name : String) : Json → Bool
  | .arr alternatives => name == "$or" && someSatisfied holds alternatives
  | .obj range => name != "$or" && rangeSatisfied holds name range
  | value => name != "$or" && holds name .equals value

def someSatisfied (holds : Assignment) : List Json → Bool
  | [] => false
  | query :: rest => satisfied holds query || someSatisfied holds rest

end

theorem membersSatisfied_eq_all (holds : Assignment) (members : List (String × Json)) :
    membersSatisfied holds members =
      members.all fun member => memberSatisfied holds member.1 member.2 := by
  induction members with
  | nil => rfl
  | cons member rest ih => simp [membersSatisfied, ih]

theorem someSatisfied_eq_any (holds : Assignment) (queries : List Json) :
    someSatisfied holds queries = queries.any (satisfied holds) := by
  induction queries with
  | nil => rfl
  | cons query rest ih => simp [someSatisfied, ih]

theorem membersSatisfied_flatten (holds : Assignment) (parts : List (Members Json)) :
    membersSatisfied holds parts.flatten = parts.all (membersSatisfied holds) := by
  simp [funext (membersSatisfied_eq_all holds)]

/-- The operand of an equality is never mistaken for alternatives or for a range. -/
theorem memberSatisfied_operand (holds : Assignment) {field : String} (h : field ≠ "$or")
    (operand : Operand) :
    memberSatisfied holds field operand.toJson = holds field .equals operand.toJson := by
  cases operand with
  | float x =>
    rcases ofBinary64_eq_null_or_num x with hx | ⟨_, hx⟩ <;>
      simp [Operand.toJson, hx, memberSatisfied, h]
  | _ => simp [Operand.toJson, memberSatisfied, h]

end Json

namespace Filter

/-! ## Filters whose queries say all they say -/

/-- The queries of two filters have no name in common. -/
def NamesApart (first second : Filter) : Prop :=
  ∀ a b, first.query = .ok a → second.query = .ok b →
    List.Disjoint (Members.keys a) (Members.keys b)

/-- Nothing is overwritten while the query of a filter is put together: no field has the name under
which alternatives are listed, no leaf makes the same comparison twice, and filters that are all
asked for have names of their own. -/
structure Lossless (filter : Filter) : Prop where
  unreserved : ∀ field conditions, .leaf field conditions ∈ filter.nodes → field ≠ "$or"
  unrepeated : ∀ field conditions, .leaf field conditions ∈ filter.nodes →
    (conditions.map Condition.comparison).Nodup
  apart : ∀ filters, .all filters ∈ filter.nodes → filters.Pairwise NamesApart

theorem Lossless.of_any {filters : List Filter} {filter : Filter}
    (h : Lossless (.any filters)) (hmem : filter ∈ filters) : Lossless filter where
  unreserved field conditions hnode := h.unreserved field conditions (mem_nodes_any hmem hnode)
  unrepeated field conditions hnode := h.unrepeated field conditions (mem_nodes_any hmem hnode)
  apart filters hnode := h.apart filters (mem_nodes_any hmem hnode)

theorem Lossless.of_all {filters : List Filter} {filter : Filter}
    (h : Lossless (.all filters)) (hmem : filter ∈ filters) : Lossless filter where
  unreserved field conditions hnode := h.unreserved field conditions (mem_nodes_all hmem hnode)
  unrepeated field conditions hnode := h.unrepeated field conditions (mem_nodes_all hmem hnode)
  apart filters hnode := h.apart filters (mem_nodes_all hmem hnode)

/-- The names of filters that are all asked for stay apart when their queries are joined. -/
theorem CompileTo.distinct_flatten {filters : List Filter} {parts : List (Members Json)}
    (h : CompileTo filters parts) (hapart : filters.Pairwise NamesApart) :
    Members.Distinct parts.flatten := by
  rw [Members.Distinct, Members.keys_flatten, List.nodup_flatten, List.pairwise_map]
  constructor
  · intro keys hkeys
    obtain ⟨part, hpart, rfl⟩ := List.mem_map.mp hkeys
    obtain ⟨filter, _, hquery⟩ := h.exists_of_mem hpart
    exact distinct_query hquery
  · induction h with
    | nil => exact .nil
    | cons hquery hrest ih =>
      obtain ⟨hfirst, hothers⟩ := List.pairwise_cons.mp hapart
      refine .cons ?_ (ih hothers)
      intro part hpart
      obtain ⟨filter, hmem, hquery'⟩ := CompileTo.exists_of_mem hrest hpart
      exact hfirst filter hmem _ _ hquery hquery'

/-! ## Leaves -/

theorem filter_equals_of_nodup {conditions : List Condition} {equality : Condition}
    (hnodup : (conditions.map Condition.comparison).Nodup)
    (hfind : conditions.find? (·.comparison == .equals) = some equality) :
    conditions.filter (·.comparison == .equals) = [equality] := by
  induction conditions with
  | nil => simp at hfind
  | cons condition rest ih =>
    simp only [List.map_cons, List.nodup_cons] at hnodup
    by_cases h : condition.comparison = .equals
    · have hothers : rest.filter (·.comparison == .equals) = [] := by
        rw [List.filter_eq_nil_iff]
        intro other hmem hequals
        refine hnodup.1 (List.mem_map.mpr ⟨other, hmem, ?_⟩)
        rw [h]
        simpa using hequals
      obtain rfl : condition = equality := by simpa [List.find?_cons, h] using hfind
      simp [h, hothers]
    · have hrest : rest.find? (·.comparison == .equals) = some equality := by
        simpa [List.find?_cons, h] using hfind
      simp [h, ih hnodup.2 hrest]

/-- Comparisons that differ give bounds with different operators. -/
theorem distinct_bounds {conditions : List Condition}
    (hnodup : (conditions.map Condition.comparison).Nodup) :
    Members.Distinct (conditions.filterMap Condition.bound?) := by
  have hinj : ∀ a b bound, bound ∈ Comparison.bound? a → bound ∈ Comparison.bound? b → a = b := by
    intro a b bound ha hb
    have := (Comparison.ofBound?_of_bound? ha).symm.trans (Comparison.ofBound?_of_bound? hb)
    exact Option.some.inj this
  have hsub : (Members.keys (conditions.filterMap Condition.bound?)).Sublist
      ((conditions.map Condition.comparison).filterMap Comparison.bound?) := by
    induction conditions with
    | nil => simp
    | cons condition rest ih =>
      obtain ⟨comparison, operand?⟩ := condition
      have hrest := ih (List.nodup_cons.mp hnodup).2
      cases hbound : comparison.bound? with
      | none => simpa [Condition.bound?, hbound] using hrest
      | some bound =>
        cases operand? with
        | none => simpa [Condition.bound?, hbound] using hrest.trans (List.sublist_cons_self _ _)
        | some operand => simpa [Condition.bound?, hbound] using hrest
  exact hsub.nodup (hnodup.filterMap hinj)

/-- The bounds of a range hold exactly if the conditions do that they come from. -/
theorem all_boundSatisfied (holds : Assignment) (field : String) {conditions : List Condition}
    (hrange : ∀ condition ∈ conditions, condition.comparison ≠ .equals)
    (hoperands : ∀ condition ∈ conditions, condition.operand?.isSome) :
    (conditions.filterMap Condition.bound?).all (Json.boundSatisfied holds field) =
      conditions.all (conditionHolds holds field) := by
  induction conditions with
  | nil => rfl
  | cons condition rest ih =>
    have hrest := ih (fun other hmem => hrange other (by simp [hmem]))
      (fun other hmem => hoperands other (by simp [hmem]))
    obtain ⟨operand, hoperand⟩ := Option.isSome_iff_exists.mp (hoperands condition (by simp))
    cases hbound : condition.comparison.bound? with
    | none =>
      have hequals := (Comparison.isRange_eq_false_iff condition.comparison).mp
        (by simp [Comparison.isRange, hbound])
      exact absurd hequals (hrange condition (by simp))
    | some bound =>
      simp [Condition.bound?, hbound, hoperand, Json.boundSatisfied, conditionHolds,
        Comparison.ofBound?_of_bound? hbound, hrest]

theorem satisfied_queryLeaf (holds : Assignment) {field : String} {conditions : List Condition}
    {members : Members Json} (hfield : field ≠ "$or")
    (hnodup : (conditions.map Condition.comparison).Nodup)
    (h : queryLeaf field conditions = .ok members) :
    Json.membersSatisfied holds members = leafSatisfied holds field conditions := by
  obtain ⟨equality, operand, hfind, hoperand, rfl⟩ | ⟨_, hrange, hoperands, rfl⟩ :=
    queryLeaf_cases h
  · have hequals : equality.comparison = .equals := by simpa using List.find?_some hfind
    have honly := filter_equals_of_nodup hnodup hfind
    simp [Json.membersSatisfied, Json.memberSatisfied_operand holds hfield, leafSatisfied, honly,
      conditionHolds, hoperand, hequals]
  · have hnone : conditions.filter (·.comparison == .equals) = [] := by
      simpa [List.filter_eq_nil_iff] using hrange
    rw [Members.ofPairs_of_distinct (distinct_bounds hnodup)]
    simp [Json.membersSatisfied, Json.memberSatisfied, hfield, Json.rangeSatisfied,
      all_boundSatisfied holds field hrange hoperands, leafSatisfied, hnone]

/-! ## Whole filters -/

theorem satisfied_query (holds : Assignment) {filter : Filter} {members : Members Json}
    (hlossless : filter.Lossless) (h : filter.query = .ok members) :
    Json.membersSatisfied holds members = filter.satisfied holds := by
  induction filter using Filter.induction generalizing members with
  | leaf field conditions =>
    have hnode : Filter.leaf field conditions ∈ (Filter.leaf field conditions).nodes := by
      simp [nodes]
    rw [query] at h
    exact satisfied_queryLeaf holds (hlossless.unreserved field conditions hnode)
      (hlossless.unrepeated field conditions hnode) h
  | any filters ih =>
    obtain ⟨parts, hparts, rfl⟩ := query_any_eq_ok_iff.mp h
    have hmap := hparts.map_eq fun filter hmem part hquery =>
      ih filter hmem (hlossless.of_any hmem) hquery
    calc Json.membersSatisfied holds [("$or", .arr (parts.map .obj))]
        = (parts.map (Json.membersSatisfied holds)).any id := by
          simp [Json.membersSatisfied, Json.memberSatisfied, Json.someSatisfied_eq_any,
            Function.comp_def, Json.satisfied]
      _ = (filters.map (satisfied holds)).any id := by rw [hmap]
      _ = (Filter.any filters).satisfied holds := by
          simp [satisfied, anySatisfied_eq_any]
  | all filters ih =>
    obtain ⟨parts, hparts, rfl⟩ := query_all_eq_ok_iff.mp h
    have hmap := hparts.map_eq fun filter hmem part hquery =>
      ih filter hmem (hlossless.of_all hmem) hquery
    have hdistinct := hparts.distinct_flatten (hlossless.apart filters (by simp [nodes]))
    calc Json.membersSatisfied holds (Members.ofPairs parts.flatten)
        = (parts.map (Json.membersSatisfied holds)).all id := by
          rw [Members.ofPairs_of_distinct hdistinct, Json.membersSatisfied_flatten]
          simp
      _ = (filters.map (satisfied holds)).all id := by rw [hmap]
      _ = (Filter.all filters).satisfied holds := by
          simp [satisfied, allSatisfied_eq_all]

end Filter

end DocumentSearch
