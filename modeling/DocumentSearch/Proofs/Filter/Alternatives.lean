import DocumentSearch.Proofs.Filter.Compilation

/-! What becomes of a name that several filters bind when they are all asked for: the last of them
decides. All alternatives are listed under one name, so of several filters with alternatives only
the last keeps its own. -/

namespace DocumentSearch

/-- Somewhere inside a value, an object binds a name to a given value. -/
inductive Json.Holds (name : String) (value : Json) : Json → Prop where
  | here {members : List (String × Json)} :
      (name, value) ∈ members → Holds name value (.obj members)
  | member {members : List (String × Json)} {key : String} {inner : Json} :
      (key, inner) ∈ members → Holds name value inner → Holds name value (.obj members)
  | item {items : List Json} {inner : Json} :
      inner ∈ items → Holds name value inner → Holds name value (.arr items)

namespace Filter

/-! ## The names that a query binds -/

mutual

/-- Whether the query of a filter binds a name. -/
def binds (name : String) : Filter → Bool
  | .leaf field _ => field == name
  | .any _ => name == "$or"
  | .all filters => bindsSome name filters

def bindsSome (name : String) : List Filter → Bool
  | [] => false
  | filter :: rest => binds name filter || bindsSome name rest

end

theorem bindsSome_eq_any (name : String) (filters : List Filter) :
    bindsSome name filters = filters.any (binds name) := by
  induction filters with
  | nil => rfl
  | cons filter rest ih => rw [bindsSome, ih, List.any_cons]

theorem mem_keys_query_iff {filter : Filter} {members : Members Json} {name : String}
    (h : filter.query = .ok members) : name ∈ Members.keys members ↔ filter.binds name = true := by
  induction filter using Filter.induction generalizing members with
  | leaf field conditions =>
    rw [query] at h
    obtain ⟨_, _, _, _, rfl⟩ | ⟨_, _, _, rfl⟩ := queryLeaf_cases h <;>
      rw [Members.keys_cons, Members.keys_nil, List.mem_singleton, binds, beq_iff_eq, eq_comm]
  | any filters ih =>
    obtain ⟨parts, _, rfl⟩ := query_any_eq_ok_iff.mp h
    simp [binds]
  | all filters ih =>
    obtain ⟨parts, hparts, rfl⟩ := query_all_eq_ok_iff.mp h
    rw [Members.ofPairs, Members.mem_keys_putAll, Members.keys_flatten, binds, bindsSome_eq_any,
      List.any_eq_true]
    constructor
    · rintro (hnil | hmem)
      · simp at hnil
      · obtain ⟨keys, hkeys, hname⟩ := List.mem_flatten.mp hmem
        obtain ⟨part, hpart, rfl⟩ := List.mem_map.mp hkeys
        obtain ⟨filter, hfilter, hquery⟩ := hparts.exists_of_mem hpart
        exact ⟨filter, hfilter, (ih filter hfilter hquery).mp hname⟩
    · rintro ⟨filter, hfilter, hbinds⟩
      obtain ⟨part, hpart, hquery⟩ := hparts.exists_part hfilter
      refine .inr (List.mem_flatten.mpr ⟨Members.keys part, List.mem_map_of_mem hpart, ?_⟩)
      exact (ih filter hfilter hquery).mpr hbinds

/-! ## Filters that are all asked for -/

/-- A name has the value that the last of the filters gives it that bind it. -/
theorem lookup?_query_all {before after : List Filter} {filter : Filter}
    {members part : Members Json} {name : String}
    (h : (Filter.all (before ++ filter :: after)).query = .ok members)
    (hpart : filter.query = .ok part) (hbinds : filter.binds name = true)
    (hlast : ∀ later ∈ after, later.binds name = false) :
    members.lookup? name = part.lookup? name := by
  obtain ⟨parts, hparts, rfl⟩ := query_all_eq_ok_iff.mp h
  obtain ⟨first, rest, -, hrest, rfl⟩ := hparts.exists_append
  obtain ⟨part', others, hpart', hothers, rfl⟩ := List.forall₂_cons_left_iff.mp hrest
  obtain rfl : part = part' := by simpa [hpart] using hpart'
  have hunbound : name ∉ Members.keys others.flatten := by
    rw [Members.keys_flatten, List.mem_flatten]
    rintro ⟨keys, hkeys, hname⟩
    obtain ⟨other, hother, rfl⟩ := List.mem_map.mp hkeys
    obtain ⟨later, hlater, hquery⟩ := CompileTo.exists_of_mem hothers hother
    have := (mem_keys_query_iff hquery).mp hname
    rw [hlast later hlater] at this
    contradiction
  rw [List.flatten_append, List.flatten_cons, Members.ofPairs, Members.putAll_append,
    Members.putAll_append, Members.lookup?_putAll_of_not_mem _ hunbound]
  exact Members.lookup?_putAll_of_mem _ (distinct_query hpart)
    ((mem_keys_query_iff hpart).mpr hbinds)

/-- What filters that are all asked for bind a name to is what the last of them does that binds it.
-/
theorem mem_query_all_iff {filters : List Filter} {members : Members Json} {name : String}
    {value : Json} (h : (Filter.all filters).query = .ok members) :
    (name, value) ∈ members ↔
      ∃ before filter after part, filters = before ++ filter :: after ∧
        filter.query = .ok part ∧ (name, value) ∈ part ∧
        ∀ later ∈ after, later.binds name = false := by
  constructor
  · intro hmem
    have hbinds : (Filter.all filters).binds name = true :=
      (mem_keys_query_iff h).mp (Members.mem_keys_of_mem hmem)
    rw [binds, bindsSome_eq_any, List.any_eq_true] at hbinds
    obtain ⟨before, filter, after, rfl, hfilter, hlast⟩ := Members.exists_last hbinds
    obtain ⟨parts, hparts, -⟩ := query_all_eq_ok_iff.mp h
    have hchild : filter ∈ before ++ filter :: after := by simp
    obtain ⟨part, -, hpart⟩ := hparts.exists_part hchild
    have hafter : ∀ later ∈ after, later.binds name = false := by simpa using hlast
    have hlookup := (Members.lookup?_eq_some_iff (distinct_query h)).mpr hmem
    rw [lookup?_query_all h hpart hfilter hafter] at hlookup
    exact ⟨before, filter, after, part, rfl, hpart, Members.mem_of_lookup? hlookup, hafter⟩
  · rintro ⟨before, filter, after, part, rfl, hpart, hmem, hafter⟩
    have hbinds : filter.binds name = true :=
      (mem_keys_query_iff hpart).mp (Members.mem_keys_of_mem hmem)
    have hlookup := lookup?_query_all h hpart hbinds hafter
    rw [(Members.lookup?_eq_some_iff (distinct_query hpart)).mpr hmem] at hlookup
    exact Members.mem_of_lookup? hlookup

theorem query_of_toQuery {filter : Filter} {document : Json} (h : filter.toQuery = .ok document) :
    ∃ members, filter.query = .ok members := by
  obtain ⟨members, hquery, -⟩ := toQuery_eq_ok_iff.mp h
  exact ⟨members, hquery⟩

theorem exists_query_of_mem_nodesAll {filters : List Filter} {parts : List (Members Json)}
    {node : Filter} (hparts : CompileTo filters parts)
    (hinside : ∀ filter ∈ filters, ∀ members, filter.query = .ok members → node ∈ filter.nodes →
      ∃ inner, node.query = .ok inner)
    (hnode : node ∈ nodesAll filters) : ∃ inner, node.query = .ok inner := by
  rw [nodesAll_eq_flatMap] at hnode
  obtain ⟨filter, hfilter, hnode⟩ := List.mem_flatMap.mp hnode
  obtain ⟨part, -, hquery⟩ := hparts.exists_part hfilter
  exact hinside filter hfilter part hquery hnode

/-- If a filter compiles, so does every filter inside it. -/
theorem exists_query_of_mem_nodes {filter node : Filter} {members : Members Json}
    (h : filter.query = .ok members) (hnode : node ∈ filter.nodes) :
    ∃ inner, node.query = .ok inner := by
  induction filter using Filter.induction generalizing members with
  | leaf field conditions =>
    obtain rfl : node = .leaf field conditions := by simpa [nodes] using hnode
    exact ⟨members, h⟩
  | any filters ih =>
    rcases List.mem_cons.mp hnode with rfl | hnode
    · exact ⟨members, h⟩
    · obtain ⟨parts, hparts, -⟩ := query_any_eq_ok_iff.mp h
      exact exists_query_of_mem_nodesAll hparts (fun filter hmem _ => ih filter hmem) hnode
  | all filters ih =>
    rcases List.mem_cons.mp hnode with rfl | hnode
    · exact ⟨members, h⟩
    · obtain ⟨parts, hparts, -⟩ := query_all_eq_ok_iff.mp h
      exact exists_query_of_mem_nodesAll hparts (fun filter hmem _ => ih filter hmem) hnode

/-- Among filters that are all asked for, at any depth of a filter that compiles, alternatives stay
in the query if no later filter binds the name under which they are listed. Otherwise that name has
what the last filter that binds it compiles to. -/
theorem alternatives_of_last {filter : Filter} {document : Json}
    (h : filter.toQuery = .ok document) (before alternatives after : List Filter)
    (hnode : .all (before ++ .any alternatives :: after) ∈ filter.nodes) :
    ∃ members parts, (Filter.all (before ++ .any alternatives :: after)).query = .ok members ∧
      CompileTo alternatives parts ∧
      ((∀ later ∈ after, later.binds "$or" = false) →
        members.lookup? "$or" = some (.arr (parts.map .obj))) ∧
      (∀ between last rest part, after = between ++ last :: rest → last.binds "$or" = true →
        (∀ later ∈ rest, later.binds "$or" = false) → last.query = .ok part →
        members.lookup? "$or" = part.lookup? "$or") := by
  obtain ⟨whole, hwhole⟩ := query_of_toQuery h
  obtain ⟨members, hmembers⟩ := exists_query_of_mem_nodes hwhole hnode
  obtain ⟨all, hall, -⟩ := query_all_eq_ok_iff.mp hmembers
  have hmem : Filter.any alternatives ∈ before ++ Filter.any alternatives :: after := by simp
  obtain ⟨own, -, hown⟩ := hall.exists_part hmem
  obtain ⟨parts, hparts, rfl⟩ := query_any_eq_ok_iff.mp hown
  refine ⟨members, parts, hmembers, hparts, ?_, ?_⟩
  · intro hlast
    rw [lookup?_query_all hmembers hown rfl hlast]
    rfl
  · rintro between last rest part rfl hbinds hlast hpart
    have hsplit : before ++ Filter.any alternatives :: (between ++ last :: rest) =
        (before ++ Filter.any alternatives :: between) ++ last :: rest := by simp
    rw [hsplit] at hmembers
    exact lookup?_query_all hmembers hpart hbinds hlast

theorem alternatives_of_last_nested :
    let first := Filter.any [.compare "a" .equals (.bool true)]
    let alternatives := [.compare "c" .equals (.bool true), Filter.all []]
    let later := Filter.compare "b" .less (.text "x")
    let groups := Filter.all [first, .any alternatives, later]
    ((Filter.any [groups]).toQuery = .ok (.obj [("$or", .arr [.obj [
        ("$or", .arr [.obj [("c", .bool true)], .obj []]),
        ("b", .obj [("$range", .obj [("$lt", .str "x")])])]])]) ∧
      groups ∈ (Filter.any [groups]).nodes ∧ later.binds "$or" = false) ∧
    ∃ members parts, groups.query = .ok members ∧ CompileTo alternatives parts ∧
      members.lookup? "$or" = some (.arr (parts.map .obj)) := by
  intro first alternatives later groups
  have hquery : (Filter.any [groups]).toQuery = _ := rfl
  have hnode : groups ∈ (Filter.any [groups]).nodes := by
    rw [nodes, nodesAll_eq_flatMap]
    simp [groups, nodes]
  have hlater : later.binds "$or" = false := rfl
  obtain ⟨members, parts, hmembers, hparts, hlast, -⟩ :=
    alternatives_of_last hquery [first] alternatives [later] hnode
  refine ⟨⟨hquery, hnode, hlater⟩, members, parts, hmembers, hparts, hlast ?_⟩
  simpa using hlater

/-- Of two filters with alternatives that are both asked for, the first loses its own: they are
nowhere in the query. -/
theorem not_alternatives_kept :
    ¬ ∀ (filters alternatives : List Filter) (members : Members Json) (parts : List (Members Json)),
      (Filter.all filters).query = .ok members → .any alternatives ∈ filters →
      CompileTo alternatives parts →
      Json.Holds "$or" (.arr (parts.map .obj)) (.obj members) := by
  intro hkept
  have hholds := hkept
    [.any [.compare "a" .equals (.number (.int 1)), .compare "b" .equals (.number (.int 2))],
      .any [.compare "c" .equals (.number (.int 3)), .compare "d" .equals (.number (.int 4))]]
    [.compare "a" .equals (.number (.int 1)), .compare "b" .equals (.number (.int 2))]
    [("$or", .arr [.obj [("c", .int 3)], .obj [("d", .int 4)]])]
    [[("a", .int 1)], [("b", .int 2)]] rfl (by simp) (.cons rfl (.cons rfl .nil))
  cases hholds with
  | here hmem => simp [Json.int] at hmem
  | member hmem hinner =>
    obtain ⟨-, rfl⟩ : _ = "$or" ∧ _ = Json.arr _ := by simpa using hmem
    cases hinner with
    | item hitem hobject =>
      rcases List.mem_cons.mp hitem with rfl | hitem
      · cases hobject with
        | here hmem => simp at hmem
        | member hmem hinner =>
          obtain ⟨-, rfl⟩ : _ = "c" ∧ _ = Json.int 3 := by simpa using hmem
          cases hinner
      · obtain rfl := List.mem_singleton.mp hitem
        cases hobject with
        | here hmem => simp at hmem
        | member hmem hinner =>
          obtain ⟨-, rfl⟩ : _ = "d" ∧ _ = Json.int 4 := by simpa using hmem
          cases hinner

end Filter

end DocumentSearch
