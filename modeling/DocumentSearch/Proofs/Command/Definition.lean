import DocumentSearch.Command.Definition
import DocumentSearch.Proofs.Command.Legible

/-! The command that creates an index says what was asked for, and only that. Names, prefixes and
sources may be any text, the engine's own words included, since each stands at a place of its own; a
path must not be one of the words that say more about the field before it. -/

namespace DocumentSearch

theorem Storage.token_injective {a b : Storage} (h : a.token = b.token) : a = b := by
  cases a <;> cases b <;> first | rfl | exact absurd h (by decide)

namespace IndexDefinition

open Command

/-- The words that say more about a field than its kind. -/
def flagWords : List String := ["FAST", "NOTOKENIZE", "NOSTEM", "FROM"]

/-- Two leaves stand for the same field as far as the engine is told. -/
structure SameField (a b : Leaf) : Prop where
  path : a.path = b.path
  kind : a.spec.kind = b.spec.kind
  fast : (a.spec.flags.fast? = some true ∨ a.spec.kind = .unsigned ∨ a.spec.kind = .signed ∨
      a.spec.kind = .float) ↔
    (b.spec.flags.fast? = some true ∨ b.spec.kind = .unsigned ∨ b.spec.kind = .signed ∨
      b.spec.kind = .float)
  noTokenize : a.spec.flags.noTokenize? = some true ↔ b.spec.flags.noTokenize? = some true
  noStem : a.spec.flags.noStem? = some true ↔ b.spec.flags.noStem? = some true
  source : a.spec.flags.source? = b.spec.flags.source?

/-- Two definitions ask for the same index, field by field. -/
structure SameIndex (a b : IndexDefinition) : Prop where
  name : a.name = b.name
  skipInitialScan : a.skipInitialScan = b.skipInitialScan
  existsOk : a.existsOk = b.existsOk
  storage : a.storage = b.storage
  prefixes : a.prefixes = b.prefixes
  language : a.language? = b.language?
  fields : List.Forall₂ SameField a.schema.leaves b.schema.leaves

/-! ## Fields -/

/-- Fields are sent as fast where the schema asks for it, and numbers always are. -/
theorem sentFast_eq_true_iff (spec : FieldSpec) :
    sentFast spec = true ↔
      spec.flags.fast? = some true ∨ spec.kind = .unsigned ∨ spec.kind = .signed ∨
        spec.kind = .float := by
  rw [sentFast, Bool.or_eq_true, beq_iff_eq]
  cases spec.kind <;> simp [FieldKind.isNumeric]

theorem legible_leafWords : Legible leafWords SameField (Avoids flagWords) := by
  have hstart : Legible (fun leaf : Leaf => [leaf.path, leaf.spec.kind.token])
      (fun a b => a.path = b.path ∧ a.spec.kind = b.spec.kind) (Avoids []) := by
    intro a b xs ys _ _ h
    simp only [List.cons_append, List.nil_append, List.cons.injEq] at h
    exact ⟨⟨h.1, Vocabulary.word_injective h.2.1⟩, h.2.2⟩
  have hfast := hstart.thenWordIf (fun leaf => sentFast leaf.spec)
    (show "FAST" ∉ [] by simp)
  have hnoTokenize := hfast.thenWordIf (fun leaf => leaf.spec.flags.noTokenize? == some true)
    (show "NOTOKENIZE" ∉ _ by simp)
  have hnoStem := hnoTokenize.thenWordIf (fun leaf => leaf.spec.flags.noStem? == some true)
    (show "NOSTEM" ∉ _ by simp)
  have hsource := hnoStem.thenClause (fun leaf => leaf.spec.flags.source?)
    (show "FROM" ∉ _ by simp)
  refine hsource.weaken ?_
  rintro a b ⟨⟨⟨⟨⟨hpath, hkind⟩, hfast⟩, hnoTokenize⟩, hnoStem⟩, hsource⟩
  refine ⟨hpath, hkind, ?_, ?_, ?_, hsource⟩
  · rw [← sentFast_eq_true_iff, ← sentFast_eq_true_iff, hfast]
  · simpa using congrArg (· = true) hnoTokenize
  · simpa using congrArg (· = true) hnoStem

/-! ## The whole command -/

/-- What comes before the fields is told apart, and so is where it ends. -/
theorem sameStart_of_words_eq {a b : IndexDefinition} (h : a.words = b.words) :
    (a.name = b.name ∧ a.skipInitialScan = b.skipInitialScan ∧ a.existsOk = b.existsOk ∧
      a.storage = b.storage ∧ a.prefixes = b.prefixes ∧ a.language? = b.language?) ∧
    a.schema.leaves.flatMap leafWords = b.schema.leaves.flatMap leafWords := by
  have hname := legible_pair Verb.create.token IndexDefinition.name (Avoids [])
  have hskip := hname.thenWordIf IndexDefinition.skipInitialScan
    (show "SKIPINITIALSCAN" ∉ [] by simp)
  have hexists := hskip.thenWordIf IndexDefinition.existsOk (show "EXISTSOK" ∉ _ by simp)
  have hstorage := hexists.then
    (legible_pair "ON" (fun definition => definition.storage.token) (Avoids []))
    (fun _ => ⟨_, rfl⟩) (by simp)
  have hprefix := hstorage.then (legible_word "PREFIX" (Avoids [])) (fun _ => ⟨_, rfl⟩) (by simp)
  have hprefixes := hprefix.append
    (legible_counted IndexDefinition.prefixes (Avoids [])) (by simp [counted])
  have hlanguage := hprefixes.thenClause
    (fun definition => definition.language?.map Language.name) (show "LANGUAGE" ∉ [] by simp)
  have hschema := hlanguage.then (legible_word "SCHEMA" (Avoids [])) (fun _ => ⟨_, rfl⟩) (by simp)
  have hleaves : ∀ definition : IndexDefinition,
      Avoids [] (definition.schema.leaves.flatMap leafWords) := by simp [Avoids]
  obtain ⟨⟨⟨⟨⟨⟨⟨⟨hname, hskip⟩, hexists⟩, hstorage⟩, -⟩, hprefixes⟩, hlanguage⟩, -⟩, hrest⟩ :=
    hschema (hleaves a) (hleaves b) h
  exact ⟨⟨hname, hskip, hexists, Storage.token_injective hstorage, hprefixes,
    eq_of_map_word_eq hlanguage⟩, hrest⟩

/-- Definitions with usable keys that give the same command ask for the same index, unless a path is
one of the words that say more about a field. -/
theorem sameIndex_of_command_eq {a b : IndexDefinition}
    (hchecked : a.schema.checkKeys = .ok ()) (hchecked' : b.schema.checkKeys = .ok ())
    (hpaths : ∀ leaf ∈ a.schema.leaves, leaf.path ∉ flagWords)
    (hpaths' : ∀ leaf ∈ b.schema.leaves, leaf.path ∉ flagWords)
    (h : a.command = b.command) : SameIndex a b := by
  have hwords : a.words = b.words := by simpa [command, hchecked, hchecked'] using h
  obtain ⟨⟨hname, hskip, hexists, hstorage, hprefixes, hlanguage⟩, hleaves⟩ :=
    sameStart_of_words_eq hwords
  refine ⟨hname, hskip, hexists, hstorage, hprefixes, hlanguage, ?_⟩
  exact legible_leafWords.forall₂_of_flatMap_eq
    (fun leaf hmem => ⟨leaf.path, _, rfl, hpaths leaf hmem⟩)
    (fun leaf hmem => ⟨leaf.path, _, rfl, hpaths' leaf hmem⟩) hleaves

theorem sameIndex_of_command_eq_keywords :
    let definition : SchemaItem → SchemaItem → IndexDefinition := fun count since =>
      { name := "ON", prefixes := ["SCHEMA", "TEXT"]
        schema := .ofPairs [("TEXT", count), ("since", since),
          ("on", .flagged ⟨.text, { source? := some "FAST" }⟩)] }
    let a := definition (.bare .unsigned) (.flagged ⟨.date, { fast? := some true }⟩)
    let b := definition (.flagged ⟨.unsigned, { fast? := some false, noStem? := some false }⟩)
      (.flagged ⟨.date, { fast? := some true, noTokenize? := some false }⟩)
    (a.schema.checkKeys = .ok () ∧ b.schema.checkKeys = .ok () ∧
      (∀ leaf ∈ a.schema.leaves, leaf.path ∉ flagWords) ∧
      (∀ leaf ∈ b.schema.leaves, leaf.path ∉ flagWords) ∧ a.command = b.command) ∧
    SameIndex a b := by
  intro definition a b
  have hpaths : ∀ leaf ∈ a.schema.leaves, leaf.path ∉ flagWords := by decide
  have hpaths' : ∀ leaf ∈ b.schema.leaves, leaf.path ∉ flagWords := by decide
  have hcommand : a.command = b.command := rfl
  exact ⟨⟨rfl, rfl, hpaths, hpaths', hcommand⟩,
    sameIndex_of_command_eq rfl rfl hpaths hpaths' hcommand⟩

end IndexDefinition

end DocumentSearch
