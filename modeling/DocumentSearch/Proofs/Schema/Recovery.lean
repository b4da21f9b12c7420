import DocumentSearch.Proofs.Schema.Preorder

/-! What the leaves of a schema tell about it. Leaves of one nested schema stand next to each other
and their paths start alike, so where every nested schema has leaves, these give the tree back. All
that they hide is whether a field without flags was written as its kind alone. -/

namespace DocumentSearch

/-- The parts of a list are known from the whole if they hold entries of different sorts. -/
theorem append_inj_of_forall {α : Type} {p : α → Bool} {first second first' second' : List α}
    (hfirst : ∀ x ∈ first, p x = true) (hsecond : ∀ x ∈ second, p x = false)
    (hfirst' : ∀ x ∈ first', p x = true) (hsecond' : ∀ x ∈ second', p x = false)
    (h : first ++ second = first' ++ second') : first = first' ∧ second = second' := by
  have hfilter : first = first' := by
    have hparts := congrArg (List.filter p) h
    rwa [List.filter_append, List.filter_append, List.filter_eq_self.mpr hfirst,
      List.filter_eq_self.mpr hfirst', List.filter_eq_nil_iff.mpr (by simpa using hsecond),
      List.filter_eq_nil_iff.mpr (by simpa using hsecond'), List.append_nil,
      List.append_nil] at hparts
  subst hfilter
  exact ⟨rfl, List.append_cancel_left h⟩

namespace SchemaTree

/-! ## Schemas in their plainest form -/

mutual

/-- A tree in its plainest form, where a field that has no flags is its kind alone. -/
def plain : SchemaTree → SchemaTree
  | .bare kind => .bare kind
  | .flagged spec => if spec.flags.any then .flagged spec else .bare spec.kind
  | .nested items => .nested (plainItems items)

def plainItems : List (String × SchemaTree) → List (String × SchemaTree)
  | [] => []
  | (key, tree) :: rest => (key, plain tree) :: plainItems rest

end

mutual

/-- A tree is no empty schema, and holds none. -/
def Filled : SchemaTree → Prop
  | .nested items => items ≠ [] ∧ FilledItems items
  | .bare _ | .flagged _ => True

def FilledItems : List (String × SchemaTree) → Prop
  | [] => True
  | (_, tree) :: rest => Filled tree ∧ FilledItems rest

end

theorem filledItems_iff (items : List (String × SchemaTree)) :
    FilledItems items ↔ ∀ pair ∈ items, pair.2.Filled := by
  induction items with
  | nil => simp [FilledItems]
  | cons pair rest ih => simp [FilledItems, ih]

theorem Filled.chains_ne_nil {tree : SchemaTree} (h : tree.Filled) : chains tree ≠ [] := by
  induction tree using SchemaTree.induction with
  | bare kind => simp [chains]
  | flagged spec => simp [chains]
  | nested items ih =>
    obtain ⟨hne, hfilled⟩ := h
    cases items with
    | nil => contradiction
    | cons pair rest =>
      have hfirst := ih pair List.mem_cons_self hfilled.1
      simp [chains, chainsOf, hfirst]

/-- A field that has no flags is told like its kind alone, and nothing else changes. -/
theorem chains_plain (tree : SchemaTree) : chains tree.plain = chains tree := by
  induction tree using SchemaTree.induction with
  | bare kind => rfl
  | flagged spec =>
    rw [plain]
    by_cases hany : spec.flags.any = true
    · rw [if_pos hany]
    · rw [if_neg hany]
      have hflags : spec.flags = {} := (Flags.any_eq_false_iff _).mp (by simpa using hany)
      rw [chains, chains, ← hflags]
  | nested items ih =>
    rw [plain, chains, chains]
    induction items with
    | nil => rfl
    | cons pair rest ihrest =>
      rw [plainItems, chainsOf, chainsOf, ih pair List.mem_cons_self,
        ihrest fun other hmem => ih other (List.mem_cons_of_mem pair hmem)]

/-! ## The tree from its fields -/

/-- Whether the way to a field starts with a key. -/
def startsWith (key : String) (chain : List String × FieldSpec) : Bool := chain.1.head? == some key

theorem startsWith_under {key : String} {inner : List (List String × FieldSpec)} :
    ∀ chain ∈ inner.map (fun chain => (key :: chain.1, chain.2)), startsWith key chain = true := by
  intro chain hmem
  obtain ⟨own, -, rfl⟩ := List.mem_map.mp hmem
  simp [startsWith]

theorem startsWith_eq_false {key : String} {items : List (String × SchemaTree)}
    (h : key ∉ Members.keys items) : ∀ chain ∈ chainsOf items, startsWith key chain = false := by
  intro chain hmem
  obtain ⟨other, hother, rest, hchain⟩ := exists_key_of_mem_chainsOf hmem
  have hne : other ≠ key := fun heq => h (heq ▸ hother)
  simpa [startsWith, hchain] using hne

/-- A tree that is told as one field is that field. -/
theorem plain_eq_of_chains {tree : SchemaTree} {spec : FieldSpec}
    (h : chains tree = [([], spec)]) :
    tree.plain = if spec.flags.any then .flagged spec else .bare spec.kind := by
  cases tree with
  | bare kind =>
    obtain rfl : ⟨kind, {}⟩ = spec := by simpa [chains] using h
    rfl
  | flagged own =>
    obtain rfl : own = spec := by simpa [chains] using h
    rfl
  | nested items =>
    have hmem : ([], spec) ∈ chainsOf items := by
      rw [chains] at h
      simp [h]
    obtain ⟨key, -, rest, hchain⟩ := exists_key_of_mem_chainsOf hmem
    contradiction

/-- The first items of two lists that tell the same fields have the same key and tell the same
fields, and so do the others. -/
theorem chainsOf_cons_inj {key key' : String} {tree tree' : SchemaTree}
    {rest rest' : List (String × SchemaTree)} (hkeys : Members.Distinct ((key, tree) :: rest))
    (hkeys' : Members.Distinct ((key', tree') :: rest')) (hfilled : tree.Filled)
    (hfilled' : tree'.Filled)
    (h : chainsOf ((key, tree) :: rest) = chainsOf ((key', tree') :: rest')) :
    key = key' ∧ chains tree = chains tree' ∧ chainsOf rest = chainsOf rest' := by
  obtain ⟨hnew, -⟩ := List.nodup_cons.mp hkeys
  obtain ⟨hnew', -⟩ := List.nodup_cons.mp hkeys'
  have hkey : key = key' := by
    obtain ⟨chain, others, heq⟩ := List.exists_cons_of_ne_nil hfilled.chains_ne_nil
    obtain ⟨chain', others', heq'⟩ := List.exists_cons_of_ne_nil hfilled'.chains_ne_nil
    rw [chainsOf, chainsOf, heq, heq'] at h
    have hhead := (List.cons.inj h).1
    exact (List.cons.inj (congrArg Prod.fst hhead)).1
  subst hkey
  rw [chainsOf, chainsOf] at h
  obtain ⟨hunder, hrest⟩ := append_inj_of_forall startsWith_under (startsWith_eq_false hnew)
    startsWith_under (startsWith_eq_false hnew') h
  refine ⟨rfl, ?_, hrest⟩
  apply List.map_injective_iff.mpr _ hunder
  intro chain chain' heq
  simpa [Prod.ext_iff] using heq

/-- If trees are known from their fields, so is a list of them. -/
theorem plainItems_eq_of_chainsOf_eq {items others : List (String × SchemaTree)}
    (hkeys : Members.Distinct items) (hkeys' : Members.Distinct others)
    (hfilled : ∀ pair ∈ items, pair.2.Filled) (hfilled' : ∀ pair ∈ others, pair.2.Filled)
    (hitems : ∀ pair ∈ items, ∀ other ∈ others,
      chains pair.2 = chains other.2 → pair.2.plain = other.2.plain)
    (h : chainsOf items = chainsOf others) : plainItems items = plainItems others := by
  induction items generalizing others with
  | nil =>
    cases others with
    | nil => rfl
    | cons other rest' =>
      have hne := (hfilled' other List.mem_cons_self).chains_ne_nil
      simp [chainsOf, hne] at h
  | cons pair rest ih =>
    cases others with
    | nil =>
      have hne := (hfilled pair List.mem_cons_self).chains_ne_nil
      simp [chainsOf, hne] at h
    | cons other rest' =>
      obtain ⟨hkey, hfirst, hrest⟩ := chainsOf_cons_inj hkeys hkeys'
        (hfilled pair List.mem_cons_self) (hfilled' other List.mem_cons_self) h
      have hplain := hitems pair List.mem_cons_self other List.mem_cons_self hfirst
      have hplains : plainItems rest = plainItems rest' := by
        apply ih (List.nodup_cons.mp hkeys).2 (List.nodup_cons.mp hkeys').2
        · exact fun later hmem => hfilled later (List.mem_cons_of_mem pair hmem)
        · exact fun later hmem => hfilled' later (List.mem_cons_of_mem other hmem)
        · intro later hmem later' hmem'
          exact hitems later (List.mem_cons_of_mem pair hmem) later'
            (List.mem_cons_of_mem other hmem')
        · exact hrest
      rw [plainItems, plainItems, hkey, hplain, hplains]

/-- Two trees that tell the same fields are the same in their plainest form. -/
theorem plain_eq_of_chains_eq {tree other : SchemaTree} (hdistinct : tree.Distinct)
    (hdistinct' : other.Distinct) (hfilled : tree.Filled) (hfilled' : other.Filled)
    (h : chains tree = chains other) : tree.plain = other.plain := by
  induction tree using SchemaTree.induction generalizing other with
  | bare kind => exact (plain_eq_of_chains rfl).trans (plain_eq_of_chains h.symm).symm
  | flagged spec => exact (plain_eq_of_chains rfl).trans (plain_eq_of_chains h.symm).symm
  | nested items ih =>
    cases other with
    | bare kind => exact (plain_eq_of_chains h).trans (plain_eq_of_chains rfl).symm
    | flagged spec => exact (plain_eq_of_chains h).trans (plain_eq_of_chains rfl).symm
    | nested others =>
      obtain ⟨hkeys, hinside⟩ := (distinct_nested_iff items).mp hdistinct
      obtain ⟨hkeys', hinside'⟩ := (distinct_nested_iff others).mp hdistinct'
      have hitems := (filledItems_iff items).mp hfilled.2
      have hothers := (filledItems_iff others).mp hfilled'.2
      rw [plain, plain, plainItems_eq_of_chainsOf_eq hkeys hkeys' hitems hothers _ h]
      intro pair hmem pair' hmem'
      exact ih pair hmem (hinside pair hmem) (hinside' pair' hmem') (hitems pair hmem)
        (hothers pair' hmem')

end SchemaTree

namespace Schema

open SchemaTree

/-- Two schemas with usable keys, neither of which holds an empty schema, have the same leaves
exactly if they are the same once every field without flags is written as its kind alone. -/
theorem leaves_eq_iff_plainItems_eq {schema other : CheckedSchema}
    (hfilled : FilledItems schema.items) (hfilled' : FilledItems other.items) :
    schema.leaves = other.leaves ↔ plainItems schema.items = plainItems other.items := by
  constructor
  · intro h
    have hchains : schema.tree.chains = other.tree.chains := by
      rw [← schema.map_split_leaves, ← other.map_split_leaves, h]
    obtain ⟨hkeys, hinside⟩ := (distinct_nested_iff schema.items).mp schema.distinct
    obtain ⟨hkeys', hinside'⟩ := (distinct_nested_iff other.items).mp other.distinct
    have hitems := (filledItems_iff schema.items).mp hfilled
    have hothers := (filledItems_iff other.items).mp hfilled'
    refine plainItems_eq_of_chainsOf_eq hkeys hkeys' hitems hothers ?_ hchains
    intro pair hmem pair' hmem'
    exact plain_eq_of_chains_eq (hinside pair hmem) (hinside' pair' hmem') (hitems pair hmem)
      (hothers pair' hmem')
  · intro h
    have hplain : schema.tree.plain = other.tree.plain := congrArg SchemaTree.nested h
    have hchains : schema.tree.chains = other.tree.chains := by
      rw [← chains_plain, hplain, chains_plain]
    rw [leaves, leaves, hchains]

theorem leaves_eq_iff_plainItems_eq_empty_keys :
    let schema : CheckedSchema :=
      { items := [("", .nested [("a", .bare .text), ("", .flagged ⟨.bool, {}⟩)]),
          ("a", .nested [("", .nested [("a", .flagged ⟨.date, { fast? := some false }⟩)])])] }
    let other : CheckedSchema :=
      { items := [("", .nested [("a", .flagged ⟨.text, {}⟩), ("", .bare .bool)]),
          ("a", .nested [("", .nested [("a", .flagged ⟨.date, { fast? := some false }⟩)])])] }
    (FilledItems schema.items ∧ FilledItems other.items ∧ schema.leaves = other.leaves) ∧
    plainItems schema.items = plainItems other.items := by
  intro schema other
  have hfilled : FilledItems schema.items ∧ FilledItems other.items := by
    simp [schema, other, FilledItems, Filled]
  have hleaves : schema.leaves = other.leaves := rfl
  exact ⟨⟨hfilled.1, hfilled.2, hleaves⟩,
    (leaves_eq_iff_plainItems_eq hfilled.1 hfilled.2).mp hleaves⟩

end Schema

end DocumentSearch
