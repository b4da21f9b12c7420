import Mathlib.Data.List.Induction
import DocumentSearch.Proofs.Schema.RoundTrip
import DocumentSearch.Schema.Builder

/-! Fields from the calls of their builders. A draft that takes any option for any kind ends up with
what was called for, and every builder is such a draft with the options of its kind alone: what it
finishes depends on the flags that were called for and on the last source, and on nothing else. -/

namespace DocumentSearch

/-! ## What was called for -/

namespace FieldOption

def source? : FieldOption → Option String
  | .source path => some path
  | .fast | .noTokenize | .noStem => none

/-- The sources among the options, in order. -/
def sources (options : List FieldOption) : List String := options.filterMap source?

/-- Repeating an option keeps the last source, if no other stands between. -/
theorem getLast?_sources_repeated (before between after : List FieldOption) (option : FieldOption)
    (h : option.source? = none ∨ sources between = []) :
    (sources (before ++ option :: (between ++ option :: after))).getLast? =
      (sources (before ++ option :: (between ++ after))).getLast? := by
  cases hsource : option.source? with
  | none => simp [sources, hsource]
  | some path =>
    have hbetween : between.filterMap source? = [] := h.resolve_left (by simp [hsource])
    simp [sources, hsource, hbetween]

end FieldOption

open FieldOption

/-- The flags that were called for, each set, and the last source; whatever was not called for is
left out. -/
def Flags.calledFor (options : List FieldOption) : Flags where
  fast? := if .fast ∈ options then some true else none
  noTokenize? := if .noTokenize ∈ options then some true else none
  noStem? := if .noStem ∈ options then some true else none
  source? := (sources options).getLast?

/-- A bare kind if nothing was called for, and otherwise a field with what was. -/
def SchemaItem.calledFor (kind : FieldKind) (options : List FieldOption) : SchemaItem :=
  if options = [] then .bare kind else .flagged ⟨kind, Flags.calledFor options⟩

/-- It only counts which options there are and which source is the last. -/
theorem Flags.calledFor_congr {options others : List FieldOption}
    (hmem : ∀ option, option ∈ options ↔ option ∈ others)
    (hsource : (sources options).getLast? = (sources others).getLast?) :
    calledFor options = calledFor others := by
  simp only [calledFor, hmem, hsource]

/-! ## Drafts -/

namespace FieldSpec

/-- One more option sets its flag, or takes the place of the source. -/
theorem withOption_calledFor (kind : FieldKind) (options : List FieldOption)
    (option : FieldOption) :
    withOption ⟨kind, Flags.calledFor options⟩ option =
      ⟨kind, Flags.calledFor (options ++ [option])⟩ := by
  cases option <;> simp [withOption, Flags.calledFor, sources, source?]

theorem withOptions_start (kind : FieldKind) (options : List FieldOption) :
    (start kind).withOptions options = ⟨kind, Flags.calledFor options⟩ := by
  induction options using List.reverseRecOn with
  | nil => rfl
  | append_singleton options option ih =>
    have hstep : (start kind).withOptions (options ++ [option]) =
        ((start kind).withOptions options).withOption option := List.foldl_append
    rw [hstep, ih, withOption_calledFor]

theorem any_withOption (spec : FieldSpec) (option : FieldOption) :
    (spec.withOption option).flags.any = true := by
  cases option <;> simp [withOption, Flags.any]

/-- A draft is finished as what was called for. -/
theorem finish_withOptions (kind : FieldKind) (options : List FieldOption) :
    ((start kind).withOptions options).finish = SchemaItem.calledFor kind options := by
  rw [withOptions_start, finish, SchemaItem.calledFor]
  cases options using List.reverseRecOn with
  | nil => rfl
  | append_singleton options option =>
    have hany := any_withOption ⟨kind, Flags.calledFor options⟩ option
    rw [withOption_calledFor] at hany
    rw [if_pos hany, if_neg (by simp)]

end FieldSpec

/-! ## Builders are drafts -/

section Builders

variable {β Call : Type} (kind : FieldKind) (start : β) (call : β → Call → β)
  (finish : β → SchemaItem) (option : Call → FieldOption)

/-- A builder can be read as a draft: its calls are options of the draft, and it finishes what the
draft does. -/
structure Drafts (spec : β → FieldSpec) : Prop where
  spec_start : spec start = FieldSpec.start kind
  spec_call : ∀ builder made, spec (call builder made) = (spec builder).withOption (option made)
  finish_eq : ∀ builder, finish builder = (spec builder).finish
  spec_injective : Function.Injective spec

/-- What calls on a new builder lead to. The field is just what was called for. Calls may change
places, the sources aside, and be repeated, a source as long as no other stands between. Wrapping
the builder changes nothing, and the field reads back from its JSON form. -/
structure Materializes (wrap : β → FieldBuilder) : Prop where
  calledFor : ∀ calls : List Call,
    finish (calls.foldl call start) = SchemaItem.calledFor kind (calls.map option)
  reordered : ∀ calls others : List Call, calls.Perm others →
    sources (calls.map option) = sources (others.map option) →
    calls.foldl call start = others.foldl call start
  repeated : ∀ (before between after : List Call) (made : Call),
    (option made).source? = none ∨ sources (between.map option) = [] →
    (before ++ made :: (between ++ made :: after)).foldl call start =
      (before ++ made :: (between ++ after)).foldl call start
  wrapped : ∀ builder, (wrap builder).finish = finish builder
  readBack : ∀ calls : List Call,
    Schema.itemOfJson (finish (calls.foldl call start)).toJson =
      .ok (finish (calls.foldl call start))

variable {kind start call finish option}

namespace Drafts

variable {spec : β → FieldSpec}

theorem spec_foldl (h : Drafts kind start call finish option spec) (calls : List Call) :
    spec (calls.foldl call start) = (FieldSpec.start kind).withOptions (calls.map option) := by
  rw [FieldSpec.withOptions, List.foldl_map, ← h.spec_start]
  exact (List.foldl_hom spec fun builder made => (h.spec_call builder made).symm).symm

theorem finish_foldl (h : Drafts kind start call finish option spec) (calls : List Call) :
    finish (calls.foldl call start) = SchemaItem.calledFor kind (calls.map option) := by
  rw [h.finish_eq, h.spec_foldl, FieldSpec.finish_withOptions]

theorem foldl_congr (h : Drafts kind start call finish option spec) {calls others : List Call}
    (hmem : ∀ made, made ∈ calls ↔ made ∈ others)
    (hsource : (sources (calls.map option)).getLast? = (sources (others.map option)).getLast?) :
    calls.foldl call start = others.foldl call start := by
  have hoptions : ∀ wanted, wanted ∈ calls.map option ↔ wanted ∈ others.map option := by
    simp only [List.mem_map, hmem, implies_true]
  apply h.spec_injective
  rw [h.spec_foldl, h.spec_foldl, FieldSpec.withOptions_start, FieldSpec.withOptions_start,
    Flags.calledFor_congr hoptions hsource]

theorem materializes (h : Drafts kind start call finish option spec) (wrap : β → FieldBuilder)
    (hwrap : ∀ builder, (wrap builder).finish = finish builder) :
    Materializes kind start call finish option wrap where
  calledFor := h.finish_foldl
  reordered calls others hperm hsources := h.foldl_congr (fun _ => hperm.mem_iff) (by rw [hsources])
  repeated before between after made hmade := by
    refine h.foldl_congr (fun other => ?_) ?_
    · simp only [List.mem_append, List.mem_cons]
      tauto
    · simp only [List.map_append, List.map_cons]
      exact getLast?_sources_repeated _ _ _ _ hmade
  wrapped := hwrap
  readBack calls := by
    rw [h.finish_foldl, SchemaItem.calledFor]
    split
    · exact Schema.itemOfJson_toJson nofun
    · exact Schema.itemOfJson_flagged _

end Drafts

end Builders

namespace TextBuilder

/-- The option of a draft that a call stands for. -/
def Call.option : Call → FieldOption
  | .noTokenize => .noTokenize
  | .noStem => .noStem
  | .source path => .source path

def spec (builder : TextBuilder) : FieldSpec where
  kind := .text
  flags :=
    { noTokenize? := Flags.raised builder.noTokenize
      noStem? := Flags.raised builder.noStem
      source? := builder.source? }

theorem drafts : Drafts .text start call finish Call.option spec where
  spec_start := rfl
  spec_call builder made := by cases made <;> rfl
  finish_eq builder := by
    obtain ⟨noTokenize, noStem, source?⟩ := builder
    cases noTokenize <;> cases noStem <;> cases source? <;> rfl
  spec_injective a b hspec := by
    obtain ⟨noTokenize, noStem, source?⟩ := a
    obtain ⟨noTokenize', noStem', source?'⟩ := b
    simpa [spec] using hspec

end TextBuilder

namespace ValueBuilder

/-- The option of a draft that a call stands for. -/
def Call.option : Call → FieldOption
  | .fast => .fast
  | .source path => .source path

def spec {kind : FieldKind} (builder : ValueBuilder kind) : FieldSpec where
  kind
  flags := { fast? := Flags.raised builder.fast, source? := builder.source? }

theorem drafts (kind : FieldKind) : Drafts kind (start kind) call finish Call.option spec where
  spec_start := rfl
  spec_call builder made := by cases made <;> rfl
  finish_eq builder := by
    obtain ⟨fast, source?⟩ := builder
    cases fast <;> cases source? <;> rfl
  spec_injective a b hspec := by
    obtain ⟨fast, source?⟩ := a
    obtain ⟨fast', source?'⟩ := b
    simpa [spec] using hspec

end ValueBuilder

/-- The builders of all fields make just what is called for, from text to dates. -/
theorem FieldBuilder.materialize_calls :
    Materializes .text TextBuilder.start TextBuilder.call TextBuilder.finish
      TextBuilder.Call.option .text ∧
    (∀ kind, Materializes kind (ValueBuilder.start kind) ValueBuilder.call ValueBuilder.finish
      ValueBuilder.Call.option .numeric) ∧
    Materializes .bool (ValueBuilder.start .bool) ValueBuilder.call ValueBuilder.finish
      ValueBuilder.Call.option .bool ∧
    Materializes .date (ValueBuilder.start .date) ValueBuilder.call ValueBuilder.finish
      ValueBuilder.Call.option .date := by
  refine ⟨?text, fun kind => ?numeric, ?bool, ?date⟩
  case text => exact TextBuilder.drafts.materializes _ fun _ => rfl
  case numeric => exact (ValueBuilder.drafts kind).materializes _ fun _ => rfl
  case bool => exact (ValueBuilder.drafts .bool).materializes _ fun _ => rfl
  case date => exact (ValueBuilder.drafts .date).materializes _ fun _ => rfl

theorem FieldBuilder.materialize_calls_reordered :
    let calls : List TextBuilder.Call := [.noStem, .source "a", .source "b", .noStem]
    let others : List TextBuilder.Call := [.source "a", .noStem, .noStem, .source "b"]
    let once : List TextBuilder.Call := [.source "a", .noStem, .source "b"]
    let finished (made : List TextBuilder.Call) : SchemaItem :=
      (made.foldl TextBuilder.call TextBuilder.start).finish
    (calls.Perm others ∧ sources (calls.map TextBuilder.Call.option) =
        sources (others.map TextBuilder.Call.option)) ∧
      finished calls = finished others ∧ finished others = finished once ∧
      finished once = .flagged ⟨.text, { noStem? := some true, source? := some "b" }⟩ := by
  intro calls others once finished
  have hperm : calls.Perm others := by decide
  obtain ⟨htext, -⟩ := FieldBuilder.materialize_calls
  have hreordered := htext.reordered calls others hperm rfl
  have hrepeated := htext.repeated [.source "a"] [] [.source "b"] .noStem (.inl rfl)
  exact ⟨⟨hperm, rfl⟩, congrArg TextBuilder.finish hreordered,
    congrArg TextBuilder.finish hrepeated, htext.calledFor once⟩

end DocumentSearch
