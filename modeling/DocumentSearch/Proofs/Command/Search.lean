import DocumentSearch.Command.Search
import DocumentSearch.Proofs.Command.Legible

/-! The command of a search says what was asked for, and only that. Every clause opens with a word
by which no clause before it could go on, lists are counted, and every free text follows the word
that announces it, so fields and marks may be any text, the engine's own words included. -/

namespace DocumentSearch

/-- The marks that are sent, which is only done in pairs. -/
def Highlight.marks? (highlight : Highlight) : Option (String × String) :=
  highlight.opening?.bind fun opening => highlight.closing?.map fun closing => (opening, closing)

theorem Purpose.token_injective {a b : Purpose} (h : a.verb.token = b.verb.token) : a = b := by
  cases a <;> cases b <;> first | rfl | exact absurd h (by decide)

namespace SearchOptions

open Command

/-! ## Options that say the same -/

/-- Two fields count for the score in the same way; numbers count as they are printed. -/
structure SameTerm (a b : ScoreTerm) : Prop where
  field : a.field = b.field
  modifier : a.modifier? = b.modifier?
  factor : a.factor?.map (Binary64.text floatLayout) = b.factor?.map (Binary64.text floatLayout)
  missing : a.missing?.map (Binary64.text floatLayout) = b.missing?.map (Binary64.text floatLayout)

/-- Two scorings agree; how to combine scores matters only where there are several. -/
structure SameScoring (a b : Scoring) : Prop where
  mode : a.mode? = b.mode?
  terms : List.Forall₂ SameTerm a.terms b.terms
  combine : 2 ≤ a.terms.length → a.combine?.getD .multiply = b.combine?.getD .multiply

/-- Two highlightings agree; one mark without the other counts as none. -/
structure SameHighlight (a b : Highlight) : Prop where
  fields : a.fields = b.fields
  marks : a.marks? = b.marks?

/-- Two sets of options ask for the same, as far as it is sent; an empty projection is none. -/
structure SameRequest (a b : SearchOptions) : Prop where
  limit : a.limit? = b.limit?
  offset : a.offset? = b.offset?
  keysOnly : a.returnsKeysOnly = b.returnsKeysOnly
  order : a.order? = b.order?
  highlight : Option.Rel SameHighlight a.highlight? b.highlight?
  projection : a.projection?.filter (!·.isEmpty) = b.projection?.filter (!·.isEmpty)
  scoring : Option.Rel SameScoring a.scoring? b.scoring?

/-! ## Order, highlighting and projection -/

theorem legible_orderWords (dialect : Dialect) :
    Legible (orderWords dialect) Eq (Avoids ["ASC", "DESC"]) := by
  have htoken : Legible (fun direction : Direction => [direction.token]) Eq (Avoids []) := by
    intro a b xs ys _ _ h
    simp only [List.cons_append, List.nil_append, List.cons.injEq] at h
    exact ⟨Vocabulary.word_injective h.1, h.2⟩
  have hopens : ∀ direction : Direction, Opens ["ASC", "DESC"] [direction.token] :=
    fun direction => ⟨direction.token, by cases direction <;> simp [Direction.token], [], rfl⟩
  have hfield := legible_pair dialect.orderWord SortKey.field (Avoids [])
  have horder := hfield.thenPart htoken SortKey.direction? hopens (by simp)
  have hwords : orderWords dialect = fun order : SortKey => [dialect.orderWord, order.field] ++
      order.direction?.toList.flatMap fun direction => [direction.token] := by
    funext order
    cases h : order.direction? <;> simp [orderWords, h]
  rw [hwords]
  refine horder.weaken ?_
  rintro ⟨field, direction?⟩ ⟨field', direction?'⟩ ⟨hfield, hdirection⟩
  simp only at hfield hdirection
  rw [hfield, eq_of_option_rel hdirection]

theorem highlightWords_eq (highlight : Highlight) :
    highlightWords highlight = ["HIGHLIGHT", "FIELDS"] ++ counted highlight.fields ++
      highlight.marks?.toList.flatMap fun marks => ["TAGS", marks.1, marks.2] := by
  obtain ⟨fields, opening?, closing?⟩ := highlight
  cases opening? <;> cases closing? <;> simp [highlightWords, Highlight.marks?]

theorem legible_highlightWords : Legible highlightWords SameHighlight (Avoids ["TAGS"]) := by
  have hstart := legible_pair "HIGHLIGHT" (fun _ : Highlight => "FIELDS") (Avoids [])
  have hfields := hstart.append (legible_counted Highlight.fields (Avoids [])) (by simp [Avoids])
  have hpair : Legible (fun marks : String × String => ["TAGS", marks.1, marks.2]) Eq
      (Avoids []) := by
    intro a b xs ys _ _ h
    simp only [List.cons_append, List.nil_append, List.cons.injEq, true_and] at h
    exact ⟨Prod.ext h.1 h.2.1, h.2.2⟩
  have hmarks := hfields.thenPart hpair Highlight.marks? (fun _ => opens_cons _ _) (by simp)
  have hwords : highlightWords = fun highlight => _ := funext highlightWords_eq
  rw [hwords]
  refine hmarks.weaken ?_
  rintro a b ⟨⟨-, hfields⟩, hmarks⟩
  exact ⟨hfields, eq_of_option_rel hmarks⟩

theorem projection_words_eq (dialect : Dialect) (projection? : Option (List String)) :
    projection?.toList.flatMap (projectionWords dialect) =
      (projection?.filter (!·.isEmpty)).toList.flatMap
        fun fields => [dialect.projectionWord] ++ counted fields := by
  cases projection? with
  | none => rfl
  | some fields => cases fields <;> simp [projectionWords, Option.filter]

theorem legible_projection (dialect : Dialect) :
    Legible (fun fields => [dialect.projectionWord] ++ counted fields) Eq (Avoids []) := by
  have hword := legible_word (α := List String) dialect.projectionWord (Avoids [])
  refine (hword.append (legible_counted id (Avoids [])) (by simp [Avoids])).weaken ?_
  exact fun _ _ h => h.2

/-! ## Scoring -/

theorem legible_termWords :
    Legible termWords SameTerm (Avoids ["MODIFIER", "FACTOR", "MISSING"]) := by
  have hfield := legible_pair "FIELDVALUE" ScoreTerm.field (Avoids [])
  have hmodifier := hfield.thenClause (fun term => term.modifier?.map Modifier.token)
    (show "MODIFIER" ∉ [] by simp)
  have hfactor := hmodifier.thenClause
    (fun term => term.factor?.map (Binary64.text floatLayout)) (show "FACTOR" ∉ _ by simp)
  have hmissing := hfactor.thenClause
    (fun term => term.missing?.map (Binary64.text floatLayout)) (show "MISSING" ∉ _ by simp)
  refine hmissing.weaken ?_
  rintro a b ⟨⟨⟨hfield, hmodifier⟩, hfactor⟩, hmissing⟩
  exact ⟨hfield, eq_of_map_word_eq hmodifier, hfactor, hmissing⟩

/-- The word for how to combine scores, if it is sent. -/
def combineToken? (scoring : Scoring) : Option String :=
  if 2 ≤ scoring.terms.length then some (scoring.combine?.getD .multiply).token else none

theorem scoringWords_eq (scoring : Scoring) :
    scoringWords scoring = ["SCOREFUNC"] ++ clause "COMBINEMODE" (combineToken? scoring) ++
      clause "SCOREMODE" (scoring.mode?.map ScoreMode.token) ++
      scoring.terms.flatMap termWords := by
  unfold scoringWords combineToken?
  split <;> split <;> first | rfl | omega

theorem sameScoring_of_words_eq {a b : Scoring} (h : scoringWords a = scoringWords b) :
    SameScoring a b := by
  have hterms : ∀ terms : List ScoreTerm, ∀ term ∈ terms, ∀ words : List String,
      "FIELDVALUE" ∉ words → ∃ first rest, termWords term = first :: rest ∧ first ∉ words :=
    fun _ term _ words hword => ⟨"FIELDVALUE", _, rfl, hword⟩
  have hstart := legible_word (α := Scoring) "SCOREFUNC" (Avoids [])
  have hcombine := hstart.thenClause combineToken? (show "COMBINEMODE" ∉ [] by simp)
  have hmode := hcombine.thenClause (fun scoring => scoring.mode?.map ScoreMode.token)
    (show "SCOREMODE" ∉ _ by simp)
  rw [scoringWords_eq, scoringWords_eq] at h
  obtain ⟨⟨⟨-, hcombine⟩, hmode⟩, hrest⟩ := hmode
    (avoids_flatMap fun term hmem => hterms a.terms term hmem _ (by simp))
    (avoids_flatMap fun term hmem => hterms b.terms term hmem _ (by simp)) h
  have hsame : List.Forall₂ SameTerm a.terms b.terms := legible_termWords.forall₂_of_flatMap_eq
    (fun term hmem => hterms a.terms term hmem _ (by simp))
    (fun term hmem => hterms b.terms term hmem _ (by simp)) hrest
  refine ⟨eq_of_map_word_eq hmode, hsame, ?_⟩
  intro hseveral
  have hseveral' : 2 ≤ b.terms.length := hsame.length_eq ▸ hseveral
  simp only [combineToken?, if_pos hseveral, if_pos hseveral', Option.some.injEq] at hcombine
  exact Vocabulary.word_injective hcombine

/-! ## The whole command -/

theorem sameRequest_of_words_eq {dialect : Dialect} {a b : SearchOptions}
    (h : a.words dialect = b.words dialect) : SameRequest a b := by
  have hlimit := legible_clause "LIMIT" fun options : SearchOptions => options.limit?.map toString
  have hoffset := hlimit.thenClause (fun options => options.offset?.map toString)
    (show "OFFSET" ∉ _ by simp)
  have hkeysOnly := hoffset.thenWordIf returnsKeysOnly (show "NOCONTENT" ∉ _ by simp)
  have horder := hkeysOnly.thenPart (legible_orderWords dialect) SearchOptions.order?
    (fun _ => opens_cons _ _) (by cases dialect <;> simp [Dialect.orderWord])
  have hhighlight := horder.thenPart legible_highlightWords SearchOptions.highlight?
    (fun _ => opens_cons _ _) (by cases dialect <;> simp [Dialect.orderWord])
  have hprojection := hhighlight.thenPart (legible_projection dialect)
    (fun options => options.projection?.filter (!·.isEmpty)) (fun _ => opens_cons _ _)
    (by cases dialect <;> simp [Dialect.orderWord, Dialect.projectionWord])
  have hscoring : ∀ words : List String, "SCOREFUNC" ∉ words → ∀ options : SearchOptions,
      Avoids words (options.scoring?.toList.flatMap scoringWords) :=
    fun words hword options => avoids_flatMap fun scoring _ => ⟨"SCOREFUNC", _, rfl, hword⟩
  simp only [words, projection_words_eq] at h
  obtain ⟨⟨⟨⟨⟨⟨hlimit, hoffset⟩, hkeysOnly⟩, horder⟩, hhighlight⟩, hprojection⟩, hrest⟩ :=
    hprojection
      (hscoring _ (by cases dialect <;> simp [Dialect.orderWord, Dialect.projectionWord]) a)
      (hscoring _ (by cases dialect <;> simp [Dialect.orderWord, Dialect.projectionWord]) b) h
  refine ⟨Option.map_injective (fun _ _ => toString_nat_injective) hlimit,
    Option.map_injective (fun _ _ => toString_nat_injective) hoffset, hkeysOnly,
    eq_of_option_rel horder, hhighlight, eq_of_option_rel hprojection, ?_⟩
  cases ha : a.scoring? with
  | none =>
    cases hb : b.scoring? with
    | none => exact .none
    | some scoring' => simp [ha, hb, scoringWords] at hrest
  | some scoring =>
    cases hb : b.scoring? with
    | none => simp [ha, hb, scoringWords] at hrest
    | some scoring' => exact .some (sameScoring_of_words_eq (by simpa [ha, hb] using hrest))

/-- Searches in one dialect with the same words are for the same purpose, on the same index, with
the same query, and their options ask for the same. -/
theorem sameRequest_of_searchCommand_eq {dialect : Dialect} {purpose purpose' : Purpose}
    {index index' : String} {filter? filter?' : Option Filter} {options options' : SearchOptions}
    {command : Command} (h : searchCommand purpose index filter? options dialect = .ok command)
    (h' : searchCommand purpose' index' filter?' options' dialect = .ok command) :
    purpose = purpose' ∧ index = index' ∧
      (∃ text, Filter.searchText filter? = .ok text ∧ Filter.searchText filter?' = .ok text) ∧
      SameRequest options options' := by
  cases htext : Filter.searchText filter? with
  | error fault => simp [searchCommand, htext, Except.map] at h
  | ok text =>
    cases htext' : Filter.searchText filter?' with
    | error fault => simp [searchCommand, htext', Except.map] at h'
    | ok text' =>
      simp only [searchCommand, htext, htext', Except.map, Except.ok.injEq] at h h'
      have heq := h.trans h'.symm
      simp only [List.cons_append, List.nil_append, List.cons.injEq] at heq
      obtain ⟨hverb, hindex, rfl, hwords⟩ := heq
      exact ⟨Purpose.token_injective hverb, hindex, ⟨text, rfl, rfl⟩,
        sameRequest_of_words_eq hwords⟩

theorem sameRequest_of_searchCommand_eq_keywords :
    let options : SearchOptions :=
      { order? := some ⟨"ASC", none⟩, highlight? := some ⟨["TAGS"], some "SELECT", none⟩
        projection? := some ["SCOREFUNC"]
        scoring? := some ⟨[⟨"MODIFIER", some .log, none, none⟩], some .sum, none⟩ }
    let options' : SearchOptions :=
      { order? := some ⟨"ASC", none⟩, highlight? := some ⟨["TAGS"], none, some "SELECT"⟩
        projection? := some ["SCOREFUNC"]
        scoring? := some ⟨[⟨"MODIFIER", some .log, none, none⟩], none, none⟩ }
    let command := ["SEARCH.QUERY", "LIMIT", "\x7b\x7d", "ORDERBY", "ASC",
      "HIGHLIGHT", "FIELDS", "1", "TAGS", "SELECT", "1", "SCOREFUNC",
      "SCOREFUNC", "FIELDVALUE", "MODIFIER", "MODIFIER", "LOG"]
    (searchCommand .hits "LIMIT" none options .current = .ok command ∧
      searchCommand .hits "LIMIT" (some (.all [])) options' .current = .ok command) ∧
    Purpose.hits = .hits ∧ "LIMIT" = "LIMIT" ∧
      (∃ text, Filter.searchText none = .ok text ∧
        Filter.searchText (some (.all [])) = .ok text) ∧
      SameRequest options options' := by
  intro options options' command
  have h : searchCommand .hits "LIMIT" none options .current = .ok command := rfl
  have h' : searchCommand .hits "LIMIT" (some (.all [])) options' .current = .ok command := rfl
  exact ⟨⟨h, h'⟩, sameRequest_of_searchCommand_eq h h'⟩

end SearchOptions

end DocumentSearch
