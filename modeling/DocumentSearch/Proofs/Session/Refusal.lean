import DocumentSearch.Proofs.Session.Search

/-! Requests that are refused: no command can be made of them, and so nothing is sent. All others
have a command, and it has at least one word. -/

namespace DocumentSearch

namespace Handle

/-- An index refuses a filter that does not pass its schema, if it has one and filters are held
against it. -/
theorem validate_eq_error_iff {index : Handle} {settings : Settings}
    {filter? : Option Filter} {fault : Fault} :
    index.validate settings filter? = .error fault ↔
      ∃ filter schema, filter? = some filter ∧ index.schema? = some schema ∧
        settings.validateFilters = true ∧ filter.validate schema.leaves = .error fault := by
  cases filter? with
  | none => simp [validate]
  | some filter =>
    cases hschema : index.schema? with
    | none => simp [validate, hschema]
    | some schema => cases hon : settings.validateFilters <;> simp [validate, hschema, hon]

theorem searchCommand_eq_error_iff {index : Handle} {settings : Settings} {purpose : Purpose}
    {filter? : Option Filter} {options : SearchOptions} {fault : Fault} :
    index.searchCommand settings purpose filter? options = .error fault ↔
      index.validate settings filter? = .error fault ∨
        index.validate settings filter? = .ok () ∧
          ∃ filter, filter? = some filter ∧ filter.toQuery = .error fault := by
  cases hvalidate : index.validate settings filter? with
  | error own => simp [searchCommand, hvalidate]
  | ok _ =>
    rw [searchCommand_of_validate hvalidate, DocumentSearch.searchCommand_eq_error_iff]
    simp

end Handle

namespace Request

/-- Why a request is refused: a key of its schema has a dot, its filter does not pass the schema of
the index, or its filter has no query. -/
inductive Refused (settings : Settings) : Request → Fault → Prop where
  | dottedKey {definition : IndexDefinition} {fault : Fault} :
      definition.schema.checkKeys = .error fault →
        Refused settings (.create definition) fault
  | rejected {index : Handle} {filter : Filter} {schema : Schema} {fault : Fault}
      (options? : Option SearchOptions) :
      index.schema? = some schema → settings.validateFilters = true →
      filter.validate schema.leaves = .error fault →
        Refused settings (.search index (some filter) options?) fault
  | unqueried {index : Handle} {filter : Filter} {fault : Fault}
      (options? : Option SearchOptions) :
      index.validate settings (some filter) = .ok () → filter.toQuery = .error fault →
        Refused settings (.search index (some filter) options?) fault

theorem refused_of_searchCommand {settings : Settings} {index : Handle} {purpose : Purpose}
    {filter? : Option Filter} {options : SearchOptions} {fault : Fault}
    (h : index.searchCommand settings purpose filter? options = .error fault)
    (options? : Option SearchOptions) :
    Refused settings (.search index filter? options?) fault := by
  rcases Handle.searchCommand_eq_error_iff.mp h with hinvalid | ⟨hvalid, filter, rfl, hquery⟩
  · obtain ⟨filter, schema, rfl, hschema, hon, hfault⟩ :=
      Handle.validate_eq_error_iff.mp hinvalid
    exact .rejected options? hschema hon hfault
  · exact .unqueried options? hvalid hquery

/-- A request has no command exactly if it is refused. -/
theorem command_eq_error_iff {settings : Settings} {request : Request} {fault : Fault} :
    request.command settings = .error fault ↔ request.Refused settings fault := by
  constructor
  · intro h
    cases request with
    | create definition => exact .dottedKey (IndexDefinition.command_eq_error_iff.mp h)
    | query index filter? options => exact refused_of_searchCommand h (some options)
    | count index filter? => exact refused_of_searchCommand h none
    | describe | commit | drop | waitIndexing | addAlias | deleteAlias | listAliases =>
      contradiction
  · intro h
    cases h with
    | dottedKey hfault => exact IndexDefinition.command_eq_error_iff.mpr hfault
    | @rejected _ filter _ _ options? hschema hon hfault =>
      obtain ⟨purpose, options, hcommand⟩ := Session.command_search (some filter) options?
      rw [hcommand, Handle.searchCommand_eq_error_iff]
      exact .inl (Handle.validate_eq_error_iff.mpr ⟨_, _, rfl, hschema, hon, hfault⟩)
    | @unqueried _ filter _ options? hvalid hquery =>
      obtain ⟨purpose, options, hcommand⟩ := Session.command_search (some filter) options?
      rw [hcommand, Handle.searchCommand_eq_error_iff]
      exact .inr ⟨hvalid, _, rfl, hquery⟩

/-- What a request tells the engine to do. -/
def verb : Request → Verb
  | .create _ => .create
  | .query _ _ _ => .query
  | .count _ _ => .count
  | .describe _ => .describe
  | .commit _ => .commit
  | .drop _ => .drop
  | .waitIndexing _ => .waitIndexing
  | .addAlias _ _ => .addAlias
  | .deleteAlias _ => .deleteAlias
  | .listAliases => .listAliases

/-- Every command begins with the word for what it is to do. -/
theorem head?_command {settings : Settings} {request : Request} {command : Command}
    (h : request.command settings = .ok command) : command.head? = some request.verb.token := by
  have hsearch : ∀ {index : Handle} {purpose : Purpose} {filter? : Option Filter}
      {options : SearchOptions},
      index.searchCommand settings purpose filter? options = .ok command →
        command.head? = some purpose.verb.token := by
    intro index purpose filter? options h
    cases hvalid : index.validate settings filter? with
    | error fault => simp [Handle.searchCommand, hvalid] at h
    | ok _ =>
      rw [Handle.searchCommand_of_validate hvalid, searchCommand, map_eq_ok_iff] at h
      obtain ⟨text, -, rfl⟩ := h
      rfl
  cases request with
  | create definition =>
    obtain ⟨-, rfl⟩ := IndexDefinition.command_eq_ok_iff.mp h
    rfl
  | query index filter? options => exact hsearch h
  | count index filter? => exact hsearch h
  | describe | commit | drop | waitIndexing | addAlias | deleteAlias | listAliases =>
    obtain rfl := Except.ok.inj h
    rfl

theorem command_ne_nil {settings : Settings} {request : Request} {command : Command}
    (h : request.command settings = .ok command) : command ≠ [] := by
  rintro rfl
  simpa using head?_command h

end Request

end DocumentSearch
