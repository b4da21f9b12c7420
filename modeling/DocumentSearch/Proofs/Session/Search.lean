import DocumentSearch.Proofs.Filter.Validation
import DocumentSearch.Proofs.Session.Perform

/-! Searching an index whose schema is known. A filter is held against the schema before anything is
sent: it is refused for its first leaf that asks for a range of a field without order, and otherwise
the search ends as it would without a schema. -/

namespace DocumentSearch

/-! ## Searches -/

/-- A search on an index: a query if it has options, and a count otherwise. -/
def Request.search (index : Handle) (filter? : Option Filter) : Option SearchOptions → Request
  | some options => .query index filter? options
  | none => .count index filter?

namespace Handle

/-- The index without what is known of its schema. -/
def withoutSchema (index : Handle) : Handle := { index with schema? := none }

/-- The leaves of a filter, none where there is no filter. -/
def constraints (filter? : Option Filter) : List Filter.Constraint :=
  filter?.toList.flatMap Filter.constraints

theorem validate_eq {index : Handle} {schema : Schema} (hschema : index.schema? = some schema)
    {settings : Settings} (hon : settings.validateFilters = true) (filter? : Option Filter) :
    index.validate settings filter? = Filter.outcomeOf
      ((constraints filter?).findSome? (Filter.constraintFault? schema.leaves)) := by
  cases filter? with
  | none => rfl
  | some filter =>
    simp only [validate, hschema, hon, if_true, constraints, Option.toList_some,
      List.flatMap_singleton]
    exact Filter.validate_eq schema.leaves filter

/-- An index refuses a filter for the first of its leaves that asks for a range of an unordered
field. -/
theorem validate_eq_error_iff_rangeOffence {index : Handle} {schema : CheckedSchema}
    (hschema : index.schema? = some schema.toSchema) {settings : Settings}
    (hon : settings.validateFilters = true) {filter? : Option Filter} {fault : Fault} :
    index.validate settings filter? = .error fault ↔
      ∃ before constraint after comparison kind,
        constraints filter? = before ++ constraint :: after ∧
        (∀ earlier ∈ before, ∀ comparison kind,
          ¬ Filter.RangeOffence schema.toSchema earlier comparison kind) ∧
        Filter.RangeOffence schema.toSchema constraint comparison kind ∧
        fault = .rangeOnUnordered constraint.1 comparison.name kind.token := by
  rw [validate_eq hschema hon, Filter.outcomeOf_eq_error_iff, List.findSome?_eq_some_iff]
  simp only [Filter.constraintFault?_eq_some_iff, Filter.constraintFault?_eq_none_iff]
  constructor
  · rintro ⟨before, constraint, after, hsplit, ⟨comparison, kind, hoffence, hfault⟩, hbefore⟩
    exact ⟨before, constraint, after, comparison, kind, hsplit, hbefore, hoffence, hfault⟩
  · rintro ⟨before, constraint, after, comparison, kind, hsplit, hbefore, hoffence, hfault⟩
    exact ⟨before, constraint, after, hsplit, ⟨comparison, kind, hoffence, hfault⟩, hbefore⟩

/-- An index accepts a filter none of whose leaves asks for a range of an unordered field. -/
theorem validate_eq_ok_iff_not_rangeOffence {index : Handle} {schema : CheckedSchema}
    (hschema : index.schema? = some schema.toSchema) {settings : Settings}
    (hon : settings.validateFilters = true) {filter? : Option Filter} :
    index.validate settings filter? = .ok () ↔
      ∀ constraint ∈ constraints filter?, ∀ comparison kind,
        ¬ Filter.RangeOffence schema.toSchema constraint comparison kind := by
  rw [validate_eq hschema hon, Filter.outcomeOf_eq_ok_iff, List.findSome?_eq_none_iff]
  simp only [Filter.constraintFault?_eq_none_iff]

theorem validate_withoutSchema (index : Handle) (settings : Settings) (filter? : Option Filter) :
    index.withoutSchema.validate settings filter? = .ok () := by
  cases filter? <;> rfl

theorem validate_off (index : Handle) {settings : Settings}
    (hoff : settings.validateFilters = false) (filter? : Option Filter) :
    index.validate settings filter? = .ok () := by
  cases filter? with
  | none => rfl
  | some filter =>
    cases hschema : index.schema? with
    | none => simp only [validate, hschema]
    | some schema => simp [validate, hschema, hoff]

/-- Without a fault in the filter, the command is made without regard to the schema. -/
theorem searchCommand_of_validate {index : Handle} {settings : Settings} {filter? : Option Filter}
    (h : index.validate settings filter? = .ok ()) (purpose : Purpose) (options : SearchOptions) :
    index.searchCommand settings purpose filter? options =
      DocumentSearch.searchCommand purpose index.name filter? options settings.dialect := by
  rw [searchCommand, h]

end Handle

theorem searchCommand_eq_error_iff {purpose : Purpose} {index : String} {filter? : Option Filter}
    {options : SearchOptions} {dialect : Dialect} {fault : Fault} :
    searchCommand purpose index filter? options dialect = .error fault ↔
      ∃ filter, filter? = some filter ∧ filter.toQuery = .error fault := by
  cases filter? with
  | none => simp [searchCommand, Filter.searchText, Except.map]
  | some filter =>
    simp [searchCommand, Filter.searchText, Filter.queryText, map_eq_error_iff]

theorem searchCommand_fault {purpose : Purpose} {index : String} {filter? : Option Filter}
    {options : SearchOptions} {dialect : Dialect} {fault : Fault}
    (h : searchCommand purpose index filter? options dialect = .error fault) :
    ∃ field, fault = .missingOperand field ∨ fault = .noConditions field := by
  obtain ⟨filter, rfl, hquery⟩ := searchCommand_eq_error_iff.mp h
  exact Filter.query_fault (Filter.toQuery_eq_error_iff.mp hquery)

namespace Session

variable {ρ : Type} [Wire ρ]

/-! ## What a search comes to -/

theorem command_search (filter? : Option Filter) (options? : Option SearchOptions) :
    ∃ purpose options, ∀ (index : Handle) (settings : Settings),
      (Request.search index filter? options?).command settings =
        index.searchCommand settings purpose filter? options := by
  cases options? with
  | none => exact ⟨.count, {}, fun _ _ => rfl⟩
  | some options => exact ⟨.hits, options, fun _ _ => rfl⟩

theorem perform_search_of_refused {session : Session ρ} {index : Handle} {filter? : Option Filter}
    {fault : Fault} (h : index.validate session.settings filter? = .error fault)
    (options? : Option SearchOptions) :
    session.perform (.search index filter? options?) = (.error fault, session) := by
  obtain ⟨purpose, options, hcommand⟩ := command_search filter? options?
  apply perform_of_fault
  rw [hcommand, Handle.searchCommand, h]

/-- Two searches that differ in what they hold the filter against end alike if it is refused by
neither. -/
theorem perform_search_of_accepted {session : Session ρ} {first second : Handle}
    {settings : Settings} {filter? : Option Filter}
    (hfirst : first.validate session.settings filter? = .ok ())
    (hsecond : second.validate settings filter? = .ok ()) (hname : second.name = first.name)
    (hdialect : settings.dialect = session.settings.dialect) (options? : Option SearchOptions) :
    (session.withSettings settings).perform (.search second filter? options?) =
      ((session.perform (.search first filter? options?)).1,
        (session.perform (.search first filter? options?)).2.withSettings settings) := by
  obtain ⟨purpose, options, hcommand⟩ := command_search filter? options?
  apply perform_withSettings
  · rw [hcommand, hcommand, Handle.searchCommand_of_validate hfirst,
      Handle.searchCommand_of_validate hsecond, hname, hdialect]
  · intro reply
    cases options? <;> rfl

/-- A search that holds no filter against a schema is never refused for a range. -/
theorem perform_search_ne_rangeOnUnordered (houtside : Wire.FailsOutside ρ) {session : Session ρ}
    {index : Handle} {filter? : Option Filter}
    (h : index.validate session.settings filter? = .ok ()) (options? : Option SearchOptions)
    (field comparison kind : String) :
    (session.perform (.search index filter? options?)).1 ≠
      .error (.rangeOnUnordered field comparison kind) := by
  intro hfault
  obtain ⟨purpose, options, hcommand⟩ := command_search filter? options?
  rcases perform_fault houtside hfault with hown | hempty | ⟨text, hserver | hconnection⟩
  · rw [hcommand, Handle.searchCommand_of_validate h] at hown
    obtain ⟨field, hmissing | hnone⟩ := searchCommand_fault hown
    · contradiction
    · contradiction
  · contradiction
  · contradiction
  · contradiction

/-- The settings of a client that does not hold filters against schemas. -/
def unvalidated (session : Session ρ) : Settings :=
  { session.settings with validateFilters := false }

/-- Searching an index whose schema has usable keys fails for a range of an unordered field exactly
if the filter has a leaf that asks for one. The first such leaf is reported, and nothing is sent.
Otherwise the search ends as it does without a schema, and as it does where filters are not held
against schemas. -/
theorem perform_search_validated (houtside : Wire.FailsOutside ρ) {session : Session ρ}
    (hon : session.settings.validateFilters = true) {index : Handle} {schema : CheckedSchema}
    (hschema : index.schema? = some schema.toSchema) (filter? : Option Filter)
    (options? : Option SearchOptions) :
    ((∃ field comparison kind, (session.perform (.search index filter? options?)).1 =
        .error (.rangeOnUnordered field comparison kind)) ↔
      ∃ constraint ∈ Handle.constraints filter?, ∃ comparison kind,
        Filter.RangeOffence schema.toSchema constraint comparison kind) ∧
    (∀ before constraint after comparison kind,
      Handle.constraints filter? = before ++ constraint :: after →
      (∀ earlier ∈ before, ∀ comparison kind,
        ¬ Filter.RangeOffence schema.toSchema earlier comparison kind) →
      Filter.RangeOffence schema.toSchema constraint comparison kind →
      session.perform (.search index filter? options?) =
        (.error (.rangeOnUnordered constraint.1 comparison.name kind.token), session)) ∧
    ((∀ constraint ∈ Handle.constraints filter?, ∀ comparison kind,
        ¬ Filter.RangeOffence schema.toSchema constraint comparison kind) →
      session.perform (.search index filter? options?) =
        session.perform (.search index.withoutSchema filter? options?) ∧
      (session.withSettings session.unvalidated).perform (.search index filter? options?) =
        ((session.perform (.search index filter? options?)).1,
          (session.perform (.search index filter? options?)).2.withSettings
            session.unvalidated)) := by
  have haccepted : index.validate session.settings filter? = .ok () ↔
      ∀ constraint ∈ Handle.constraints filter?, ∀ comparison kind,
        ¬ Filter.RangeOffence schema.toSchema constraint comparison kind :=
    Handle.validate_eq_ok_iff_not_rangeOffence hschema hon
  refine ⟨⟨?_, ?_⟩, ?_, ?_⟩
  · rintro ⟨field, comparison, kind, hfault⟩
    by_contra hnone
    push Not at hnone
    exact perform_search_ne_rangeOnUnordered houtside (haccepted.mpr hnone) options? field
      comparison kind hfault
  · rintro ⟨constraint, hmem, comparison, kind, hoffence⟩
    cases hvalidate : index.validate session.settings filter? with
    | ok _ => exact absurd hoffence (haccepted.mp hvalidate constraint hmem comparison kind)
    | error fault =>
      obtain ⟨_, first, _, comparison, kind, -, -, -, rfl⟩ :=
        (Handle.validate_eq_error_iff_rangeOffence hschema hon).mp hvalidate
      exact ⟨first.1, comparison.name, kind.token,
        congrArg Prod.fst (perform_search_of_refused hvalidate options?)⟩
  · intro before constraint after comparison kind hsplit hbefore hoffence
    apply perform_search_of_refused
    exact (Handle.validate_eq_error_iff_rangeOffence hschema hon).mpr
      ⟨before, constraint, after, comparison, kind, hsplit, hbefore, hoffence, rfl⟩
  · intro hnone
    have hwith := haccepted.mpr hnone
    have hwithout : index.withoutSchema.validate session.settings filter? = .ok () :=
      Handle.validate_withoutSchema index session.settings filter?
    have hoff : index.validate session.unvalidated filter? = .ok () :=
      Handle.validate_off index rfl filter?
    refine ⟨?_, perform_search_of_accepted hwith hoff rfl rfl options?⟩
    have hsame := perform_search_of_accepted hwith hwithout rfl rfl options?
    rw [withSettings_settings rfl, withSettings_settings (perform_settings ..)] at hsame
    exact hsame.symm

theorem perform_search_validated_first :
    let schema : CheckedSchema :=
      { items := [("p", .nested [("t", .bare .text), ("n", .bare .unsigned)]),
          ("", .flagged ⟨.bool, { fast? := some true }⟩)] }
    let index : Handle := ⟨"users", some schema.toSchema⟩
    let older := Filter.compare "p.n" .less (.number (.int 3))
    let named := Filter.leaf "p.t" [⟨.equals, some (.text "x")⟩, ⟨.greaterOrEqual, none⟩]
    let refused := Filter.any
      [.leaf "p.n" [], .all [older, named], .compare "" .greater (.bool true)]
    let accepted := Filter.all [older, .compare "p" .less (.number (.int 3)), .leaf "x" []]
    let session : Session Envelope := { settings := {} }
    let linked : Session Resp := { settings := {} }
    (Filter.leaf "p.n" []).toQuery = .error (.noConditions "p.n") ∧
    session.perform (.search index (some refused) none) =
      (.error (.rangeOnUnordered "p.t" "greaterThanOrEquals" "TEXT"), session) ∧
    linked.perform (.search index (some accepted) (some {})) =
      linked.perform (.search index.withoutSchema (some accepted) (some {})) := by
  intro schema index older named refused accepted session linked
  have hschema : index.schema? = some schema.toSchema := rfl
  have holder : ∀ comparison kind,
      ¬ Filter.RangeOffence schema.toSchema ("p.n", [⟨.less, some (.number (.int 3))⟩])
        comparison kind := by
    rintro comparison kind ⟨⟨spec, hfield, rfl⟩, hunordered, -⟩
    obtain rfl : ⟨.unsigned, {}⟩ = spec := Option.some.inj hfield
    simp at hunordered
  have hnamed : Filter.RangeOffence schema.toSchema
      ("p.t", [⟨.equals, some (.text "x")⟩, ⟨.greaterOrEqual, none⟩]) .greaterOrEqual .text :=
    ⟨⟨⟨.text, {}⟩, rfl, rfl⟩, .inl rfl, rfl⟩
  refine ⟨rfl, ?_, ?_⟩
  · have hon : session.settings.validateFilters = true := rfl
    obtain ⟨-, hfirst, -⟩ :=
      perform_search_validated Envelope.failsOutside hon hschema (some refused) none
    refine hfirst [("p.n", []), ("p.n", [⟨.less, some (.number (.int 3))⟩])] _
      [("", [⟨.greater, some (.bool true)⟩])] _ _ rfl ?_ hnamed
    simp only [List.forall_mem_cons]
    refine ⟨fun _ _ hoffence => ?_, holder, List.forall_mem_nil _⟩
    simpa using hoffence.first
  · have hon : linked.settings.validateFilters = true := rfl
    obtain ⟨-, -, hpassed⟩ :=
      perform_search_validated Resp.failsOutside hon hschema (some accepted) (some {})
    have hconstraints : Handle.constraints (some accepted) =
      [("p.n", [⟨.less, some (.number (.int 3))⟩]), ("p", [⟨.less, some (.number (.int 3))⟩]),
        ("x", [])] := rfl
    refine (hpassed ?_).1
    rw [hconstraints]
    simp only [List.forall_mem_cons]
    refine ⟨holder, ?_, ?_, List.forall_mem_nil _⟩
    · rintro comparison kind ⟨⟨spec, hfield, -⟩, -, -⟩
      cases hfield
    · intro _ _ hoffence
      simpa using hoffence.first

end Session

end DocumentSearch
