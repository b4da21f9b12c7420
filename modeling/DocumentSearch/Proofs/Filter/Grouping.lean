import DocumentSearch.Proofs.Filter.Alternatives

/-! What filters that are all asked for are merged into, and that their grouping does not matter: a
group of them inside another may be dissolved wherever it stands. -/

namespace DocumentSearch.Filter

/-! ## Merging in parts -/

theorem merged_append (sofar : Members Json) (filters more : List Filter) :
    merged sofar (filters ++ more) =
      (merged sofar filters).bind fun members => merged members more := by
  induction filters generalizing sofar with
  | nil => rfl
  | cons filter rest ih =>
    rw [List.cons_append, merged, merged]
    cases filter.query with
    | error fault => rfl
    | ok part => exact ih (sofar.putAll part)

/-- Filters can be merged among themselves before they are merged with what came before them. -/
theorem merged_eq_map (sofar : Members Json) (filters : List Filter) :
    merged sofar filters = (merged [] filters).map fun members => sofar.putAll members := by
  induction filters generalizing sofar with
  | nil => rfl
  | cons filter rest ih =>
    rw [merged, merged]
    cases filter.query with
    | error fault => rfl
    | ok part =>
      simp only
      rw [ih (sofar.putAll part), ih (Members.putAll [] part)]
      cases merged [] rest with
      | error fault => rfl
      | ok members =>
        -- Both sides bind the same pairs, one of them after they are merged among themselves.
        have hparts : sofar.putAll (Members.putAll (Members.putAll [] part) members) =
            (sofar.putAll part).putAll members := by
          rw [← Members.putAll_append, ← Members.putAll_append]
          exact Members.putAll_ofPairs sofar (part ++ members)
        simp only [Except.map, hparts]

/-- A group at the front may be dissolved. -/
theorem merged_all_cons (sofar : Members Json) (inner rest : List Filter) :
    merged sofar (.all inner :: rest) = merged sofar (inner ++ rest) := by
  rw [merged, query, merged_append, merged_eq_map sofar inner]
  cases merged [] inner with
  | error fault => rfl
  | ok members => rfl

theorem query_all_splice (before inner after : List Filter) :
    (Filter.all (before ++ .all inner :: after)).query =
      (Filter.all (before ++ inner ++ after)).query := by
  rw [query, query, List.append_assoc, merged_append, merged_append]
  simp only [merged_all_cons]

/-! ## Positions in a filter -/

/-- A position in a filter, with all that stands around it. -/
inductive Position where
  | here
  | any (before : List Filter) (inside : Position) (after : List Filter)
  | all (before : List Filter) (inside : Position) (after : List Filter)

/-- The filter that has a given one at a position. -/
def Position.fill : Position → Filter → Filter
  | .here, filter => filter
  | .any before inside after, filter => .any (before ++ inside.fill filter :: after)
  | .all before inside after, filter => .all (before ++ inside.fill filter :: after)

theorem queries_congr {filter other : Filter} (h : filter.query = other.query)
    (before after : List Filter) :
    queries (before ++ filter :: after) = queries (before ++ other :: after) := by
  induction before with
  | nil => rw [List.nil_append, List.nil_append, queries, queries, h]
  | cons first rest ih => rw [List.cons_append, List.cons_append, queries, queries, ih]

theorem merged_congr {filter other : Filter} (h : filter.query = other.query)
    (before after : List Filter) (sofar : Members Json) :
    merged sofar (before ++ filter :: after) = merged sofar (before ++ other :: after) := by
  rw [merged_append, merged_append]
  simp only [merged, h]

/-- Filters that compile alike do so at every position. -/
theorem Position.query_fill {filter other : Filter} (position : Position)
    (h : filter.query = other.query) :
    (position.fill filter).query = (position.fill other).query := by
  induction position with
  | here => exact h
  | any before inside after ih => rw [fill, fill, query, query, queries_congr ih]
  | all before inside after ih => rw [fill, fill, query, query, merged_congr ih]

theorem queryText_congr {filter other : Filter} (h : filter.query = other.query) :
    filter.queryText = other.queryText := by
  rw [queryText, queryText, toQuery, toQuery, h]

/-! ## Merging as a whole -/

theorem toQuery_eq_obj_iff {filter : Filter} {members : Members Json} :
    filter.toQuery = .ok (.obj members) ↔ filter.query = .ok members := by
  simp [toQuery_eq_ok_iff]

/-- A name is not bound by filters that compile exactly if none of their queries has it. -/
theorem binds_eq_false_iff {filters : List Filter}
    (hcompile : ∀ filter ∈ filters, ∃ part, filter.query = .ok part) (name : String) :
    (∀ filter ∈ filters, filter.binds name = false) ↔
      ∀ filter ∈ filters, ∀ part, filter.query = .ok part → name ∉ Members.keys part := by
  constructor
  · intro h filter hmem part hquery hname
    have hbinds := (mem_keys_query_iff hquery).mp hname
    rw [h filter hmem] at hbinds
    contradiction
  · intro h filter hmem
    obtain ⟨part, hquery⟩ := hcompile filter hmem
    have hname := h filter hmem part hquery
    rwa [mem_keys_query_iff hquery, Bool.not_eq_true] at hname

/-- If filters compile one by one, each of them to an object, then asked for together they compile
to one object with all their names, in the order in which they first appear, and every name has the
value that the last filter gives it. A group among them may be dissolved, at any position of a
filter: what compiles, compiles to the same text, and what does not fails for the same reason. -/
theorem queryText_regrouped :
    (∀ filters : List Filter, (∀ filter ∈ filters, ∃ document, filter.toQuery = .ok document) →
      ∃ parts members,
        List.Forall₂ (fun filter part => filter.toQuery = .ok (.obj part)) filters parts ∧
        (Filter.all filters).toQuery = .ok (.obj members) ∧
        Members.keys members = (parts.flatMap Members.keys).eraseDups ∧
        ∀ name value, (name, value) ∈ members ↔
          ∃ before filter after part, filters = before ++ filter :: after ∧
            filter.toQuery = .ok (.obj part) ∧ (name, value) ∈ part ∧
            ∀ later ∈ after, ∀ other, later.toQuery = .ok (.obj other) →
              name ∉ Members.keys other) ∧
    (∀ (position : Position) (before inner after : List Filter),
      (position.fill (.all (before ++ .all inner :: after))).queryText =
        (position.fill (.all (before ++ inner ++ after))).queryText) ∧
    ∀ first second third : Filter,
      ((first.both second).both third).queryText = (Filter.all [first, second, third]).queryText ∧
      (first.both (second.both third)).queryText =
        (Filter.all [first, second, third]).queryText := by
  refine ⟨?_, ?_, ?_⟩
  · intro filters hcompile
    have hqueries : ∀ filter ∈ filters, ∃ part, filter.query = .ok part := fun filter hmem =>
      query_of_toQuery (hcompile filter hmem).choose_spec
    obtain ⟨parts, hparts⟩ := exists_forall₂_iff.mpr hqueries
    have hall : (Filter.all filters).query = .ok (Members.ofPairs parts.flatten) :=
      query_all_eq_ok_iff.mpr ⟨parts, hparts, rfl⟩
    simp only [toQuery_eq_obj_iff]
    refine ⟨parts, _, hparts, hall, ?_, ?_⟩
    · rw [Members.keys_ofPairs, Members.keys_flatten, List.flatMap_def]
    · intro name value
      rw [mem_query_all_iff hall]
      refine exists₄_congr fun before filter after part => and_congr_right fun hfilters => ?_
      have hafter : ∀ later ∈ after, ∃ part, later.query = .ok part := fun later hlater =>
        hqueries later (by simp [hfilters, hlater])
      rw [binds_eq_false_iff hafter name]
  · intro position before inner after
    exact queryText_congr (position.query_fill (query_all_splice before inner after))
  · intro first second third
    constructor
    · exact queryText_congr (query_all_splice [] [first, second] [third])
    · exact queryText_congr (query_all_splice [first] [second, third] [])

theorem queryText_regrouped_nested :
    let first := Filter.compare "a" .less (.text "x")
    let group := [Filter.any [first], Filter.compare "a" .equals (.bool true)]
    let last := Filter.any []
    let filters := [first] ++ group ++ [last]
    let position := Position.any [.all []] (.all [] .here [.leaf "b" []]) [last]
    (∀ filter ∈ filters, ∃ document, filter.toQuery = .ok document) ∧
    (Filter.all filters).toQuery = .ok (.obj [("a", .bool true), ("$or", .arr [])]) ∧
    (∃ parts, List.Forall₂ (fun filter part => filter.toQuery = .ok (.obj part)) filters parts ∧
      ["a", "$or"] = (parts.flatMap Members.keys).eraseDups) ∧
    (position.fill (.all ([first] ++ .all group :: [last]))).queryText =
      (position.fill (.all filters)).queryText ∧
    ((first.both last).both first).queryText = (first.both (last.both first)).queryText := by
  intro first group last filters position
  have hcompile : ∀ filter ∈ filters, ∃ document, filter.toQuery = .ok document := by
    intro filter hmem
    have hcases : filter = first ∨ filter = .any [first] ∨
        filter = .compare "a" .equals (.bool true) ∨ filter = last := by
      simpa [filters, group] using hmem
    rcases hcases with rfl | rfl | rfl | rfl <;> exact ⟨_, rfl⟩
  have hquery : (Filter.all filters).toQuery =
      .ok (.obj [("a", .bool true), ("$or", .arr [])]) := rfl
  obtain ⟨hmerged, hspliced, hboth⟩ := queryText_regrouped
  obtain ⟨parts, members, hparts, hall, hkeys, -⟩ := hmerged filters hcompile
  obtain rfl : [("a", .bool true), ("$or", .arr [])] = members := by simpa [hquery] using hall
  have hgrouped := hboth first last first
  exact ⟨hcompile, hquery, ⟨parts, hparts, hkeys⟩, hspliced position [first] group [last],
    hgrouped.1.trans hgrouped.2.symm⟩

end DocumentSearch.Filter
