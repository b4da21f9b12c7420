import Mathlib.Data.List.Lex
import DocumentSearch.Command.Definition
import DocumentSearch.Proofs.Schema.Tree

/-! The check of the keys of a schema. Every key has an address, which counts the items before it at
every level, and the order of the addresses is the order of the document: a key stands before those
nested under it, and these before the next key of its own schema. The check misses no key that holds
a dot and reports the first one. -/

namespace DocumentSearch

namespace SchemaTree

/-- A schema, or one nested in it, binds a key at an address. -/
inductive KeyAt : SchemaTree → List Nat → String → Prop where
  | own {items index key tree} : items[index]? = some (key, tree) →
      KeyAt (.nested items) [index] key
  | inside {items index name tree address key} : items[index]? = some (name, tree) →
      KeyAt tree address key → KeyAt (.nested items) (index :: address) key

/-- No key inside a tree holds a dot. -/
def Undotted (tree : SchemaTree) : Prop :=
  ∀ address key, tree.KeyAt address key → '.' ∉ key.toList

/-- A key inside a tree holds a dot, and no key with an earlier address does. -/
structure FirstDotted (tree : SchemaTree) (address : List Nat) (key : String) : Prop where
  keyAt : tree.KeyAt address key
  dotted : '.' ∈ key.toList
  first : ∀ earlier name, tree.KeyAt earlier name → List.Lex (· < ·) earlier address →
    '.' ∉ name.toList

/-! ## Keys and their addresses -/

theorem KeyAt.key_unique {tree : SchemaTree} {address : List Nat} {key name : String}
    (h : tree.KeyAt address key) (h' : tree.KeyAt address name) : name = key := by
  induction h with
  | own hitem =>
    cases h' with
    | own hitem' => exact (Prod.mk.inj (Option.some.inj (hitem'.symm.trans hitem))).1
    | inside _ hinner => cases hinner
  | inside hitem hinner ih =>
    cases h' with
    | own => cases hinner
    | inside hitem' hinner' =>
      cases Option.some.inj (hitem'.symm.trans hitem)
      exact ih hinner'

/-- The first dotted key is one key. -/
theorem FirstDotted.key_unique {tree : SchemaTree} {address other : List Nat} {key name : String}
    (h : tree.FirstDotted address key) (h' : tree.FirstDotted other name) : name = key := by
  rcases trichotomous_of (List.Lex (· < ·)) address other with hlt | rfl | hlt
  · exact absurd h.dotted (h'.first _ _ h.keyAt hlt)
  · exact h.keyAt.key_unique h'.keyAt
  · exact absurd h'.dotted (h.first _ _ h'.keyAt hlt)

variable {name : String} {tree : SchemaTree} {rest : List (String × SchemaTree)}

/-- A key of a schema is its first key, one inside its first item, or one of the others. -/
theorem keyAt_cons_iff {address : List Nat} {key : String} :
    KeyAt (.nested ((name, tree) :: rest)) address key ↔
      (address = [0] ∧ key = name) ∨
      (∃ below, address = 0 :: below ∧ tree.KeyAt below key) ∨
      ∃ index below, address = (index + 1) :: below ∧
        KeyAt (.nested rest) (index :: below) key := by
  constructor
  · intro h
    cases h with
    | @own _ index _ _ hitem =>
      cases index with
      | zero =>
        cases Option.some.inj hitem
        exact .inl ⟨rfl, rfl⟩
      | succ index => exact .inr (.inr ⟨index, [], rfl, .own hitem⟩)
    | @inside _ index _ _ below _ hitem hinner =>
      cases index with
      | zero =>
        cases Option.some.inj hitem
        exact .inr (.inl ⟨below, rfl, hinner⟩)
      | succ index => exact .inr (.inr ⟨index, below, rfl, .inside hitem hinner⟩)
  · rintro (⟨rfl, rfl⟩ | ⟨below, rfl, hinner⟩ | ⟨index, below, rfl, hrest⟩)
    · exact .own rfl
    · exact .inside rfl hinner
    · cases hrest with
      | own hitem => exact .own hitem
      | inside hitem hinner => exact .inside hitem hinner

/-! ## Where the first dotted key is -/

theorem undotted_nil : Undotted (.nested []) := by
  intro address key h
  cases h with
  | own hitem => simp at hitem
  | inside hitem => simp at hitem

theorem Undotted.cons (hname : '.' ∉ name.toList) (hitem : tree.Undotted)
    (hrest : Undotted (.nested rest)) : Undotted (.nested ((name, tree) :: rest)) := by
  intro address key h
  rcases keyAt_cons_iff.mp h with ⟨-, rfl⟩ | ⟨below, -, hinner⟩ | ⟨index, below, -, hlater⟩
  · exact hname
  · exact hitem _ _ hinner
  · exact hrest _ _ hlater

/-- Nothing stands before the first key. -/
theorem firstDotted_head (hname : '.' ∈ name.toList) :
    FirstDotted (.nested ((name, tree) :: rest)) [0] name := by
  refine ⟨.own rfl, hname, fun earlier key h hlt => ?_⟩
  rcases keyAt_cons_iff.mp h with ⟨rfl, -⟩ | ⟨below, rfl, -⟩ | ⟨index, below, rfl, -⟩
  · exact absurd hlt (List.lex_irrefl Nat.lt_irrefl [0])
  · exact absurd (List.lex_cons_iff.mp hlt) List.not_lex_nil
  · exact absurd (List.head_le_of_lt hlt) (Nat.not_succ_le_zero index)

/-- Before the keys under the first one stands that key alone. -/
theorem FirstDotted.inside {below : List Nat} {key : String} (hname : '.' ∉ name.toList)
    (h : tree.FirstDotted below key) :
    FirstDotted (.nested ((name, tree) :: rest)) (0 :: below) key := by
  refine ⟨.inside rfl h.keyAt, h.dotted, fun earlier other hother hlt => ?_⟩
  rcases keyAt_cons_iff.mp hother with ⟨-, rfl⟩ | ⟨before, rfl, hinner⟩ | ⟨index, before, rfl, -⟩
  · exact hname
  · exact h.first _ _ hinner (List.lex_cons_iff.mp hlt)
  · exact absurd (List.head_le_of_lt hlt) (Nat.not_succ_le_zero index)

/-- Before the keys of later items stand the first key and all keys under it. -/
theorem FirstDotted.later {index : Nat} {below : List Nat} {key : String}
    (hname : '.' ∉ name.toList) (hitem : tree.Undotted)
    (h : FirstDotted (.nested rest) (index :: below) key) :
    FirstDotted (.nested ((name, tree) :: rest)) ((index + 1) :: below) key := by
  refine ⟨keyAt_cons_iff.mpr (.inr (.inr ⟨_, _, rfl, h.keyAt⟩)), h.dotted, ?_⟩
  intro earlier other hother hlt
  rcases keyAt_cons_iff.mp hother with ⟨-, rfl⟩ | ⟨before, -, hinner⟩ | ⟨place, before, rfl, hlater⟩
  · exact hname
  · exact hitem _ _ hinner
  · refine h.first _ _ hlater (List.cons_lex_cons_iff.mpr ?_)
    rcases List.cons_lex_cons_iff.mp hlt with hplace | ⟨hplace, hbelow⟩
    · exact .inl (Nat.lt_of_succ_lt_succ hplace)
    · exact .inr ⟨Nat.succ.inj hplace, hbelow⟩

/-! ## The check -/

/-- What a check has to say about the keys inside a tree. -/
inductive KeyReport (tree : SchemaTree) : Except Fault Unit → Prop where
  | usable : tree.Undotted → KeyReport tree (.ok ())
  | dotted {address key} : tree.FirstDotted address key →
      KeyReport tree (.error (Schema.Flaw.dottedKey key).fault)

/-- If the check of everything that the keys stand for says what it has to, so does the check of the
schema. -/
theorem keyReport_checkItems {items : List (String × SchemaTree)}
    (h : ∀ pair ∈ items, KeyReport pair.2 (checkKeys pair.2)) :
    KeyReport (.nested items) (checkItems items) := by
  induction items with
  | nil => exact .usable undotted_nil
  | cons pair rest ih =>
    obtain ⟨name, tree⟩ := pair
    have hitem := h (name, tree) List.mem_cons_self
    have hrest := ih fun other hmem => h other (List.mem_cons_of_mem _ hmem)
    rw [checkItems]
    by_cases hname : '.' ∈ name.toList
    · rw [if_pos (by simpa [Path.dotted] using hname)]
      exact .dotted (firstDotted_head hname)
    rw [if_neg (by simpa [Path.dotted] using hname)]
    cases hcheck : checkKeys tree with
    | error fault =>
      simp only [hcheck] at hitem
      cases hitem with
      | dotted hfirst => exact .dotted (hfirst.inside hname)
    | ok passed =>
      simp only [hcheck] at hitem
      cases hitem with
      | usable hundotted =>
        generalize checkItems rest = result at hrest
        cases hrest with
        | usable hothers => exact .usable (hundotted.cons hname hothers)
        | @dotted address key hfirst =>
          cases address with
          | nil => cases hfirst.keyAt
          | cons index below => exact .dotted (hfirst.later hname hundotted)

theorem keyReport_checkKeys (tree : SchemaTree) : KeyReport tree (checkKeys tree) := by
  induction tree using SchemaTree.induction with
  | bare kind => exact .usable nofun
  | flagged spec => exact .usable nofun
  | nested items ih =>
    rw [checkKeys]
    exact keyReport_checkItems ih

namespace KeyReport

variable {tree : SchemaTree} {result : Except Fault Unit}

theorem eq_ok_iff (h : KeyReport tree result) : result = .ok () ↔ tree.Undotted := by
  cases h with
  | usable hundotted => exact iff_of_true rfl hundotted
  | dotted hfirst =>
    exact iff_of_false nofun fun hundotted => hundotted _ _ hfirst.keyAt hfirst.dotted

theorem eq_error_iff (h : KeyReport tree result) {fault : Fault} :
    result = .error fault ↔ ∃ address key, tree.FirstDotted address key ∧
      fault = (Schema.Flaw.dottedKey key).fault := by
  cases h with
  | usable hundotted =>
    refine iff_of_false nofun ?_
    rintro ⟨address, key, hfirst, -⟩
    exact hundotted _ _ hfirst.keyAt hfirst.dotted
  | @dotted address key hfirst =>
    constructor
    · intro heq
      exact ⟨address, key, hfirst, (Except.error.inj heq).symm⟩
    · rintro ⟨other, name, hother, rfl⟩
      rw [hfirst.key_unique hother]

end KeyReport

end SchemaTree

namespace Schema

open SchemaTree

/-- The check of a schema passes exactly if no key in it holds a dot, at any depth, and otherwise
names the first key that does. The command that creates an index is refused in just these cases and
for this fault, whatever else is asked for. -/
theorem checkKeys_firstDotted (schema : Schema) :
    (schema.checkKeys = .ok () ↔
      ∀ address key, KeyAt schema.tree address key → '.' ∉ key.toList) ∧
    (∀ fault, schema.checkKeys = .error fault ↔ ∃ address key,
      FirstDotted schema.tree address key ∧
        fault = .badSchema s!"key '{key}' must not contain '.'") ∧
    ∀ (definition : IndexDefinition) (fault : Fault),
      { definition with schema }.command = .error fault ↔ schema.checkKeys = .error fault := by
  have hreport : KeyReport schema.tree schema.checkKeys := keyReport_checkKeys schema.tree
  refine ⟨hreport.eq_ok_iff, fun fault => hreport.eq_error_iff, fun definition fault => ?_⟩
  exact IndexDefinition.command_eq_error_iff

theorem checkKeys_firstDotted_nested :
    let schema : Schema :=
      { items := [("clean", .nested [("", .bare .text)]),
          ("outer", .nested [("inner", .nested [("a.b", .nested [])]), ("c.d", .bare .bool)])] }
    let fault : Fault := .badSchema "key 'a.b' must not contain '.'"
    FirstDotted schema.tree [1, 0, 0] "a.b" ∧ schema.checkKeys = .error fault ∧
      ({ name := "index", schema, existsOk := true } : IndexDefinition).command = .error fault := by
  intro schema fault
  have hclean : Undotted (.nested [("", .bare .text)]) := .cons (by decide) nofun undotted_nil
  have hfirst : FirstDotted schema.tree [1, 0, 0] "a.b" :=
    .later (by decide) hclean
      (.inside (by decide) (.inside (by decide) (firstDotted_head (by decide))))
  obtain ⟨-, hfault, hcommand⟩ := checkKeys_firstDotted schema
  have hcheck : schema.checkKeys = .error fault := (hfault fault).mpr ⟨_, _, hfirst, rfl⟩
  exact ⟨hfirst, hcheck,
    (hcommand { name := "index", schema, existsOk := true } fault).mpr hcheck⟩

end Schema

end DocumentSearch
