import Mathlib.Data.List.Induction
import DocumentSearch.Proofs.Command.Search

/-! Options set one at a time. Whatever the order and the number of the calls, the last call of each
setter is what counts, and the clauses of a command come in one order. -/

namespace DocumentSearch

/-- What a setting sets. -/
inductive Setter where
  | limit
  | offset
  | keysOnly
  | order
  | highlight
  | projection
  | scoring
deriving DecidableEq

namespace Setter

/-- The setters in the order of their clauses. -/
def inOrder : List Setter :=
  [.limit, .offset, .keysOnly, .order, .highlight, .projection, .scoring]

/-- The word that opens the clause of a setter. -/
def keyword (dialect : Dialect) : Setter → String
  | .limit => "LIMIT"
  | .offset => "OFFSET"
  | .keysOnly => "NOCONTENT"
  | .order => dialect.orderWord
  | .highlight => "HIGHLIGHT"
  | .projection => dialect.projectionWord
  | .scoring => "SCOREFUNC"

end Setter

namespace Setting

def setter : Setting → Setter
  | .limit _ => .limit
  | .offset _ => .offset
  | .keysOnly => .keysOnly
  | .order _ => .order
  | .highlight _ => .highlight
  | .projection _ => .projection
  | .scoring _ => .scoring

/-- The clause that says one setting, if it needs one. -/
def words (dialect : Dialect) : Setting → List String
  | .limit count => ["LIMIT", toString count]
  | .offset count => ["OFFSET", toString count]
  | .keysOnly => ["NOCONTENT"]
  | .order key => SearchOptions.orderWords dialect key
  | .highlight marking => SearchOptions.highlightWords marking
  | .projection fields => SearchOptions.projectionWords dialect fields
  | .scoring formula => SearchOptions.scoringWords formula

theorem words_opens (dialect : Dialect) (setting : Setting) :
    setting.words dialect = [] ∨
      ∃ rest, setting.words dialect = setting.setter.keyword dialect :: rest := by
  cases setting with
  | projection fields =>
    cases fields with
    | nil => exact .inl rfl
    | cons field rest => exact .inr ⟨_, rfl⟩
  | limit | offset | keysOnly | order | highlight | scoring => exact .inr ⟨_, rfl⟩

end Setting

/-! ## Last calls -/

/-- The last of the settings with a setter. -/
def lastCall? (settings : List Setting) (setter : Setter) : Option Setting :=
  (settings.filter (·.setter = setter)).getLast?

theorem lastCall?_append_singleton (settings : List Setting) (setting : Setting) (setter : Setter) :
    lastCall? (settings ++ [setting]) setter =
      if setting.setter = setter then some setting else lastCall? settings setter := by
  rw [lastCall?, List.filter_append]
  by_cases h : setting.setter = setter <;> simp [h, lastCall?]

theorem setter_of_lastCall? {settings : List Setting} {setter : Setter} {setting : Setting}
    (h : lastCall? settings setter = some setting) : setting.setter = setter := by
  have hmem : setting ∈ settings.filter (·.setter = setter) := List.mem_of_getLast? h
  simpa using (List.mem_filter.mp hmem).2

theorem lastCall?_keysOnly (settings : List Setting) :
    lastCall? settings .keysOnly = if .keysOnly ∈ settings then some .keysOnly else none := by
  induction settings using List.reverseRecOn with
  | nil => rfl
  | append_singleton settings setting ih =>
    rw [lastCall?_append_singleton, ih]
    cases setting <;> simp [Setting.setter]

namespace SearchOptions

/-- The call by which options have what they have for a setter. -/
def call? (options : SearchOptions) : Setter → Option Setting
  | .limit => options.limit?.map .limit
  | .offset => options.offset?.map .offset
  | .keysOnly => if options.keysOnly then some .keysOnly else none
  | .order => options.order?.map .order
  | .highlight => options.highlight?.map .highlight
  | .projection => options.projection?.map .projection
  | .scoring => options.scoring?.map .scoring

/-- A call replaces what was there for its setter and leaves the rest. -/
theorem call?_withSetting (options : SearchOptions) (setting : Setting) (setter : Setter) :
    (options.withSetting setting).call? setter =
      if setting.setter = setter then some setting else options.call? setter := by
  cases setting <;> cases setter <;> rfl

theorem call?_withSettings (settings : List Setting) (setter : Setter) :
    (withSettings {} settings).call? setter = lastCall? settings setter := by
  induction settings using List.reverseRecOn with
  | nil => cases setter <;> rfl
  | append_singleton settings setting ih =>
    rw [withSettings, List.foldl_append, lastCall?_append_singleton, ← ih]
    exact call?_withSetting _ setting setter

theorem isSome_call?_keysOnly (options : SearchOptions) :
    (options.call? .keysOnly).isSome = options.keysOnly := by
  cases h : options.keysOnly <;> simp [call?, h]

/-- Options are what their calls say. -/
theorem eq_of_call?_eq {a b : SearchOptions} (h : ∀ setter, a.call? setter = b.call? setter) :
    a = b := by
  have hlimit : a.limit? = b.limit? :=
    Option.map_injective (fun _ _ => Setting.limit.inj) (h .limit)
  have hoffset : a.offset? = b.offset? :=
    Option.map_injective (fun _ _ => Setting.offset.inj) (h .offset)
  have hkeysOnly : a.keysOnly = b.keysOnly := by
    rw [← isSome_call?_keysOnly, h, isSome_call?_keysOnly]
  have horder : a.order? = b.order? :=
    Option.map_injective (fun _ _ => Setting.order.inj) (h .order)
  have hhighlight : a.highlight? = b.highlight? :=
    Option.map_injective (fun _ _ => Setting.highlight.inj) (h .highlight)
  have hprojection : a.projection? = b.projection? :=
    Option.map_injective (fun _ _ => Setting.projection.inj) (h .projection)
  have hscoring : a.scoring? = b.scoring? :=
    Option.map_injective (fun _ _ => Setting.scoring.inj) (h .scoring)
  obtain ⟨limit?, offset?, keysOnly, order?, highlight?, projection?, scoring?⟩ := a
  rw [SearchOptions.mk.injEq]
  exact ⟨hlimit, hoffset, hkeysOnly, horder, hhighlight, hprojection, hscoring⟩

/-! ## Clauses -/

open Command

/-- The clause of a setter, from the calls. That hits come without fields is said if this was called
for or if the fields called for are none. -/
def clauseOf (dialect : Dialect) (calls : Setter → Option Setting) : Setter → List String
  | .keysOnly =>
    wordIf ((calls .keysOnly).isSome || calls .projection == some (.projection [])) "NOCONTENT"
  | setter => (calls setter).toList.flatMap (Setting.words dialect)

theorem words_eq_clauses (dialect : Dialect) (options : SearchOptions) :
    options.words dialect = Setter.inOrder.flatMap (clauseOf dialect options.call?) := by
  have hcalled : ∀ {α : Type} (value? : Option α) (call : α → Setting),
      (value?.map call).toList.flatMap (Setting.words dialect) =
        value?.toList.flatMap fun value => (call value).words dialect := by
    intro α value? call
    cases value? <;> rfl
  have hclause : ∀ (word : String) (value? : Option Nat), clause word (value?.map toString) =
      value?.toList.flatMap fun value => [word, toString value] := by
    intro word value?
    cases value? <;> rfl
  have hnone : (options.call? .projection == some (.projection [])) =
      (options.projection? == some []) := by
    rw [Bool.eq_iff_iff]
    simp [call?]
  have hkeysOnly : ((options.call? .keysOnly).isSome ||
      options.call? .projection == some (.projection [])) = options.returnsKeysOnly := by
    rw [isSome_call?_keysOnly, hnone, returnsKeysOnly]
  simp only [words, Setter.inOrder, List.flatMap_cons, List.flatMap_nil, clauseOf, hkeysOnly]
  simp only [call?, hcalled, hclause, Setting.words, List.append_assoc, List.append_nil]

/-- A clause is left out, or opens with the word of its setter. -/
theorem clauseOf_opens (dialect : Dialect) (settings : List Setting) (setter : Setter) :
    clauseOf dialect (lastCall? settings) setter = [] ∨
      ∃ rest, clauseOf dialect (lastCall? settings) setter = setter.keyword dialect :: rest := by
  by_cases hkeysOnly : setter = .keysOnly
  · subst hkeysOnly
    rw [clauseOf, wordIf]
    split
    · exact .inr ⟨[], rfl⟩
    · exact .inl rfl
  · rw [clauseOf.eq_2 _ _ _ hkeysOnly]
    cases hlast : lastCall? settings setter with
    | none => exact .inl rfl
    | some setting =>
      obtain rfl := setter_of_lastCall? hlast
      simpa using setting.words_opens dialect

/-! ## Calls in any order -/

/-- Each setter with an argument has the same last call in both lists, or none in either, and keys
only are called for in both or in neither. -/
structure SameCalls (settings others : List Setting) : Prop where
  last : ∀ setter, setter ≠ .keysOnly → lastCall? settings setter = lastCall? others setter
  keysOnly : .keysOnly ∈ settings ↔ .keysOnly ∈ others

theorem SameCalls.lastCall?_eq {settings others : List Setting} (h : SameCalls settings others)
    (setter : Setter) : lastCall? settings setter = lastCall? others setter := by
  by_cases hsetter : setter = .keysOnly
  · rw [hsetter, lastCall?_keysOnly, lastCall?_keysOnly]
    simp only [h.keysOnly]
  · exact h.last setter hsetter

theorem withSettings_of_sameCalls {settings others : List Setting} (h : SameCalls settings others) :
    withSettings {} settings = withSettings {} others := by
  apply eq_of_call?_eq
  intro setter
  rw [call?_withSettings, call?_withSettings, h.lastCall?_eq]

/-- Options that were set by the same last calls give the same result, whatever came before and
between. What a command says after its query are the clauses of the last calls, in the order of
`Setter.inOrder`, each opened by its own word. -/
theorem searchCommand_of_sameCalls {settings others : List Setting} (h : SameCalls settings others)
    (purpose : Purpose) (index : String) (filter? : Option Filter) (dialect : Dialect) :
    searchCommand purpose index filter? (withSettings {} settings) dialect =
      searchCommand purpose index filter? (withSettings {} others) dialect ∧
    searchCommand purpose index filter? (withSettings {} settings) dialect =
      ((Filter.searchText filter?).map fun text => [purpose.verb.token, index, text] ++
        Setter.inOrder.flatMap (clauseOf dialect (lastCall? settings))) ∧
    ∀ setter, clauseOf dialect (lastCall? settings) setter = [] ∨
      ∃ rest, clauseOf dialect (lastCall? settings) setter = setter.keyword dialect :: rest := by
  refine ⟨by rw [withSettings_of_sameCalls h], ?_, clauseOf_opens dialect settings⟩
  have hcalls : (withSettings {} settings).call? = lastCall? settings :=
    funext (call?_withSettings settings)
  rw [searchCommand]
  simp only [words_eq_clauses, hcalls]

theorem searchCommand_of_sameCalls_repeated :
    let settings : List Setting := [.projection [], .limit 5, .scoring ⟨[], none, none⟩, .keysOnly,
      .projection ["LIMIT"], .order ⟨"price", none⟩, .limit 3]
    let others : List Setting := [.limit 3, .order ⟨"name", some .descending⟩, .keysOnly,
      .order ⟨"price", none⟩, .keysOnly, .scoring ⟨[], none, none⟩, .projection ["LIMIT"]]
    SameCalls settings others ∧
    searchCommand .hits "users" none (withSettings {} settings) .legacy =
      searchCommand .hits "users" none (withSettings {} others) .legacy ∧
    searchCommand .hits "users" none (withSettings {} settings) .legacy =
      .ok ["SEARCH.QUERY", "users", "\x7b\x7d", "LIMIT", "3", "NOCONTENT", "SORTBY", "price",
        "RETURN", "1", "LIMIT", "SCOREFUNC"] := by
  intro settings others
  have h : SameCalls settings others := by
    refine ⟨fun setter _ => ?_, by decide⟩
    cases setter <;> rfl
  obtain ⟨hsame, hwords, -⟩ := searchCommand_of_sameCalls h .hits "users" none .legacy
  exact ⟨h, hsame, hwords⟩

end SearchOptions

end DocumentSearch
