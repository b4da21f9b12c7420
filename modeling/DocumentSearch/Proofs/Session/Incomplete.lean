import DocumentSearch.Proofs.Filter.Provenance
import DocumentSearch.Proofs.Session.Refusal

/-! Conditions without an operand. A leaf that needs one has no query, and neither has any filter
around it, so that no command is made and nothing is sent. A leaf needs the operands of all its
conditions, unless it has an equality: then only the first equality counts, and what the other
conditions lack is never noticed. -/

namespace DocumentSearch

namespace Filter

/-! ## Leaves that lack an operand -/

/-- The conditions of a leaf lack an operand: one of them has none, and the first equality, where
there is an equality, has none either. -/
structure LackOperand (conditions : List Condition) : Prop where
  missing : ∃ condition ∈ conditions, condition.operand? = none
  first : ∀ equality, conditions.find? (·.comparison == .equals) = some equality →
    equality.operand? = none

theorem lackOperand_iff_of_equality {conditions : List Condition} {equality : Condition}
    (h : conditions.find? (·.comparison == .equals) = some equality) :
    LackOperand conditions ↔ equality.operand? = none := by
  constructor
  · intro hlack
    exact hlack.first equality h
  · intro hnone
    refine ⟨⟨equality, List.mem_of_find?_eq_some h, hnone⟩, fun other hother => ?_⟩
    obtain rfl : equality = other := by simpa [h] using hother
    exact hnone

theorem lackOperand_iff_of_range {conditions : List Condition}
    (h : conditions.find? (·.comparison == .equals) = none) :
    LackOperand conditions ↔ ∃ condition ∈ conditions, condition.operand? = none := by
  constructor
  · exact LackOperand.missing
  · intro hmissing
    exact ⟨hmissing, fun equality hequality => by simp [h] at hequality⟩

/-- A leaf is refused for a missing operand exactly if its conditions lack one. -/
theorem queryLeaf_eq_missingOperand_iff {field : String} {conditions : List Condition} :
    queryLeaf field conditions = .error (.missingOperand field) ↔ LackOperand conditions := by
  by_cases hne : conditions = []
  · subst hne
    refine iff_of_false (by simp [queryLeaf]) ?_
    rintro ⟨⟨condition, hmem, -⟩, -⟩
    exact absurd hmem List.not_mem_nil
  · cases hfind : conditions.find? (·.comparison == .equals) with
    | some equality =>
      rw [queryLeaf_of_equality hfind, lackOperand_iff_of_equality hfind]
      cases equality.operand? <;> simp
    | none =>
      rw [queryLeaf_of_range hne (by simpa using hfind), lackOperand_iff_of_range hfind]
      by_cases hoperands : ∀ condition ∈ conditions, condition.operand?.isSome
      · have hnone : ¬ ∃ condition ∈ conditions, condition.operand? = none := by
          rintro ⟨condition, hmem, hmissing⟩
          simpa [hmissing] using hoperands condition hmem
        simp only [if_pos hoperands, reduceCtorEq, hnone]
      · rw [if_neg hoperands]
        exact iff_of_true rfl (by simpa using hoperands)

/-- A filter has no query if one of its leaves lacks an operand. -/
theorem exists_fault_of_lackOperand {filter : Filter} {constraint : Constraint}
    (hmem : constraint ∈ filter.constraints) (hlack : LackOperand constraint.2) :
    ∃ fault, filter.toQuery = .error fault := by
  cases hquery : filter.query with
  | error fault => exact ⟨fault, toQuery_eq_error_iff.mpr hquery⟩
  | ok members =>
    obtain ⟨own, hown⟩ := exists_query_of_mem_nodes hquery (mem_constraints_iff.mp hmem)
    rw [query, queryLeaf_eq_missingOperand_iff.mpr hlack] at hown
    contradiction

end Filter

/-- An index searched with a filter that has no query makes no command, whether or not the filter
passes its schema. -/
theorem Handle.exists_fault_of_toQuery {filter : Filter} {fault : Fault}
    (h : filter.toQuery = .error fault) (index : Handle) (settings : Settings) (purpose : Purpose)
    (options : SearchOptions) :
    ∃ own, index.searchCommand settings purpose (some filter) options = .error own := by
  cases hvalidate : index.validate settings (some filter) with
  | error own => exact ⟨own, searchCommand_eq_error_iff.mpr (.inl hvalidate)⟩
  | ok _ => exact ⟨fault, searchCommand_eq_error_iff.mpr (.inr ⟨hvalidate, filter, rfl, h⟩)⟩

namespace Session

variable {ρ : Type} [Wire ρ]

/-- A filter with a leaf that lacks an operand has no query, at any depth of the leaf and whatever
else the filter says: no command is made of it, and a search with it fails and leaves the client as
it was. -/
theorem perform_search_of_lackOperand {filter : Filter} {field : String}
    {conditions : List Condition} (hmem : (field, conditions) ∈ filter.constraints)
    (hlack : Filter.LackOperand conditions) :
    (∃ fault, filter.toQuery = .error fault) ∧
    (∀ (purpose : Purpose) (index : String) (options : SearchOptions) (dialect : Dialect),
      ∃ fault, searchCommand purpose index (some filter) options dialect = .error fault) ∧
    ∀ (session : Session ρ) (index : Handle) (options? : Option SearchOptions),
      ∃ fault,
        session.perform (.search index (some filter) options?) = (.error fault, session) := by
  obtain ⟨fault, hquery⟩ := Filter.exists_fault_of_lackOperand hmem hlack
  refine ⟨⟨fault, hquery⟩, ?_, ?_⟩
  · intro purpose index options dialect
    exact ⟨fault, searchCommand_eq_error_iff.mpr ⟨filter, rfl, hquery⟩⟩
  · intro session index options?
    obtain ⟨purpose, options, hcommand⟩ := command_search (some filter) options?
    obtain ⟨own, hown⟩ := index.exists_fault_of_toQuery hquery session.settings purpose options
    exact ⟨own, perform_of_fault (by rw [hcommand, hown])⟩

theorem perform_search_of_lackOperand_nested :
    let lacking : List Condition := [⟨.less, some (.number (.int 9))⟩, ⟨.greater, none⟩,
      ⟨.equals, none⟩, ⟨.equals, some (.number (.int 1))⟩]
    let filter := Filter.any
      [.all [.compare "a" .equals (.bool true), .leaf "n" lacking], .compare "n" .less (.text "x")]
    let session : Session Envelope := { settings := {}, pending := [.ok .null] }
    (("n", lacking) ∈ filter.constraints ∧ Filter.LackOperand lacking) ∧
    (∃ fault, filter.toQuery = .error fault) ∧
    ∃ fault, session.perform (.search ⟨"users", none⟩ (some filter) none) =
      (.error fault, session) := by
  intro lacking filter session
  have hmem : ("n", lacking) ∈ filter.constraints := by
    simp [filter, Filter.constraints, Filter.constraintsAll]
  have hlack : Filter.LackOperand lacking := ⟨⟨⟨.greater, none⟩, by simp [lacking]⟩, by
    simp [lacking]⟩
  obtain ⟨hquery, -, hperform⟩ := perform_search_of_lackOperand (ρ := Envelope) hmem hlack
  exact ⟨⟨hmem, hlack⟩, hquery, hperform session ⟨"users", none⟩ none⟩

/-- Beside an equality that has its operand, a condition without one is passed over. -/
theorem not_exists_fault_of_missing :
    ¬ ∀ (filter : Filter) (field : String) (conditions : List Condition),
      (field, conditions) ∈ filter.constraints →
      (∃ condition ∈ conditions, condition.operand? = none) →
      ∃ fault, filter.toQuery = .error fault := by
  intro hfault
  let conditions : List Condition := [⟨.equals, some (.number (.int 1))⟩, ⟨.less, none⟩]
  obtain ⟨fault, hquery⟩ := hfault (.leaf "age" conditions) "age" conditions
    List.mem_cons_self ⟨⟨.less, none⟩, by simp [conditions], rfl⟩
  contradiction

end Session

end DocumentSearch
