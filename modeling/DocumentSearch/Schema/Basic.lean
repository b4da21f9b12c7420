import DocumentSearch.Fault
import DocumentSearch.Path

/-!
Index schemas: which fields of a document are indexed, and how. A schema binds keys to fields or to
further schemas, and the order of the keys is kept because the engine is told the fields in it.

Fields come bare, as a kind alone, or with flags; a flag that is absent differs from one that is set
to false, though the engine is told the same.

A tree nests lists of keys, which cannot say of themselves that no key comes twice. A `Schema` is a
tree with the proof of it, at every depth, and is only built by operations that keep it so.
-/

namespace DocumentSearch

inductive FieldKind where
  | text
  | unsigned
  | signed
  | float
  | bool
  | date
deriving DecidableEq

namespace FieldKind

/-- The engine's word for a kind. -/
def token : FieldKind → String
  | .text => "TEXT"
  | .unsigned => "U64"
  | .signed => "I64"
  | .float => "F64"
  | .bool => "BOOL"
  | .date => "DATE"

instance : Vocabulary FieldKind where
  all := [.text, .unsigned, .signed, .float, .bool, .date]
  word := token

def isNumeric : FieldKind → Bool
  | .unsigned | .signed | .float => true
  | _ => false

/-- Whether the values can be asked for by range: numbers and dates. -/
def isOrdered (kind : FieldKind) : Bool := kind.isNumeric || kind == .date

@[simp] theorem ofWord?_token (kind : FieldKind) : Vocabulary.ofWord? kind.token = some kind :=
  Vocabulary.ofWord?_word kind

end FieldKind

/-- What a schema may say about a field beside its kind; each part may be left out. -/
structure Flags where
  /-- Stored so that it can be sorted and asked for by range. -/
  fast? : Option Bool := none
  /-- Matched as a whole, not word by word. -/
  noTokenize? : Option Bool := none
  /-- Words are not reduced to their stems. -/
  noStem? : Option Bool := none
  /-- The attribute of the document that the value is taken from. -/
  source? : Option String := none
deriving DecidableEq

def Flags.any (flags : Flags) : Bool :=
  flags.fast?.isSome || flags.noTokenize?.isSome || flags.noStem?.isSome || flags.source?.isSome

theorem Flags.any_eq_false_iff (flags : Flags) : flags.any = false ↔ flags = {} := by
  obtain ⟨fast, noTokenize, noStem, source⟩ := flags
  simp [Flags.any, and_assoc]

/-- A kind with flags. -/
structure FieldSpec where
  kind : FieldKind
  flags : Flags := {}
deriving DecidableEq

/-- What a key of a schema stands for, as a tree. The keys in it may be any. -/
inductive SchemaTree where
  | bare (kind : FieldKind)
  | flagged (spec : FieldSpec)
  | nested (items : List (String × SchemaTree))

namespace SchemaTree

mutual

def decEq : (a b : SchemaTree) → Decidable (a = b)
  | .bare a, .bare b => decidable_of_iff (a = b) (by simp)
  | .flagged a, .flagged b => decidable_of_iff (a = b) (by simp)
  | .nested a, .nested b => @decidable_of_iff _ (a = b) (by simp) (decEqAll a b)
  | .bare _, .flagged _ | .bare _, .nested _ | .flagged _, .bare _ | .flagged _, .nested _
  | .nested _, .bare _ | .nested _, .flagged _ => .isFalse (by simp)

def decEqAll : (a b : List (String × SchemaTree)) → Decidable (a = b)
  | [], [] => .isTrue rfl
  | [], _ :: _ | _ :: _, [] => .isFalse (by simp)
  | (j, a) :: as, (k, b) :: bs =>
    if hk : j = k then
      match decEq a b, decEqAll as bs with
      | .isTrue h, .isTrue hs => .isTrue (by rw [hk, h, hs])
      | .isFalse h, _ => .isFalse (by simp [h])
      | _, .isFalse hs => .isFalse (by simp [hs])
    else .isFalse (by simp [hk])

end

instance : DecidableEq SchemaTree := decEq

mutual

/-- No key inside a tree is bound twice in one schema. -/
def Distinct : SchemaTree → Prop
  | .nested items => Members.Distinct items ∧ DistinctItems items
  | .bare _ | .flagged _ => True

def DistinctItems : List (String × SchemaTree) → Prop
  | [] => True
  | (_, tree) :: rest => Distinct tree ∧ DistinctItems rest

end

mutual

def decDistinct : (tree : SchemaTree) → Decidable (Distinct tree)
  | .nested items => @instDecidableAnd _ _ inferInstance (decDistinctItems items)
  | .bare _ | .flagged _ => .isTrue trivial

def decDistinctItems : (items : List (String × SchemaTree)) → Decidable (DistinctItems items)
  | [] => .isTrue trivial
  | (_, tree) :: rest => @instDecidableAnd _ _ (decDistinct tree) (decDistinctItems rest)

end

instance (tree : SchemaTree) : Decidable (Distinct tree) := decDistinct tree

theorem distinctItems_iff (items : List (String × SchemaTree)) :
    DistinctItems items ↔ ∀ pair ∈ items, pair.2.Distinct := by
  induction items with
  | nil => simp [DistinctItems]
  | cons pair rest ih => simp [DistinctItems, ih]

theorem distinct_nested_iff (items : List (String × SchemaTree)) :
    Distinct (.nested items) ↔ Members.Distinct items ∧ ∀ pair ∈ items, pair.2.Distinct := by
  rw [Distinct, distinctItems_iff]

/-- Binding a key keeps the keys apart, at every depth. -/
theorem Distinct.put {items : Members SchemaTree} {tree : SchemaTree}
    (h : Distinct (.nested items)) (htree : tree.Distinct) (key : String) :
    Distinct (.nested (items.put key tree)) := by
  rw [distinct_nested_iff] at h ⊢
  refine ⟨h.1.put key tree, fun pair hmem => ?_⟩
  rcases Members.mem_of_mem_put hmem with hold | rfl
  · exact h.2 pair hold
  · exact htree

end SchemaTree

/-- An index schema: keys bound to fields and nested schemas, no key twice in one of them. -/
@[ext]
structure Schema where
  items : Members SchemaTree := []
  distinct : SchemaTree.Distinct (.nested items) := by decide
deriving DecidableEq

/-- What a key of a schema stands for: a field or a nested schema. -/
@[ext]
structure SchemaItem where
  tree : SchemaTree
  distinct : tree.Distinct
deriving DecidableEq

namespace SchemaItem

/-- A field without flags. -/
def bare (kind : FieldKind) : SchemaItem := ⟨.bare kind, trivial⟩

def flagged (spec : FieldSpec) : SchemaItem := ⟨.flagged spec, trivial⟩

def nested (schema : Schema) : SchemaItem := ⟨.nested schema.items, schema.distinct⟩

@[simp] theorem tree_bare (kind : FieldKind) : (bare kind).tree = .bare kind := rfl

@[simp] theorem tree_flagged (spec : FieldSpec) : (flagged spec).tree = .flagged spec := rfl

@[simp] theorem tree_nested (schema : Schema) : (nested schema).tree = .nested schema.items := rfl

theorem nested_injective {schema other : Schema} (h : nested schema = nested other) :
    schema = other :=
  Schema.ext (SchemaTree.nested.inj (congrArg tree h))

end SchemaItem

namespace Schema

/-- The schema as the tree that it is to a schema around it. -/
def tree (schema : Schema) : SchemaTree := .nested schema.items

/-- Binds a key: in place where it is bound already, at the end otherwise. -/
def put (schema : Schema) (key : String) (item : SchemaItem) : Schema where
  items := schema.items.put key item.tree
  distinct := schema.distinct.put item.distinct key

/-- The schema that a list of pairs describes, a later pair winning over an earlier one. -/
def ofPairs (pairs : List (String × SchemaItem)) : Schema :=
  pairs.foldl (fun schema pair => schema.put pair.1 pair.2) {}

/-- A schema whose only key stands for the whole of another schema. -/
def under (schema : Schema) (key : String) : Schema := ofPairs [(key, .nested schema)]

/-- Keys with the trees of the items that they stand for. -/
def treesOf (pairs : List (String × SchemaItem)) : Members SchemaTree :=
  pairs.map fun pair => (pair.1, pair.2.tree)

theorem items_ofPairs (pairs : List (String × SchemaItem)) :
    (ofPairs pairs).items = Members.ofPairs (treesOf pairs) := by
  suffices h : ∀ schema : Schema,
      (pairs.foldl (fun schema pair => schema.put pair.1 pair.2) schema).items =
        schema.items.putAll (treesOf pairs) from h {}
  induction pairs with
  | nil => exact fun _ => rfl
  | cons pair rest ih => exact fun schema => ih (schema.put pair.1 pair.2)

/-- Why a document is not a schema, or a schema not usable. -/
inductive Flaw where
  /-- A key holds the separator of paths. -/
  | dottedKey (key : String)
  | unknownKind (word : String)
  /-- A document that stands for a whole schema is no object. -/
  | notSchema (found : Json)
  /-- A document that stands for a field or a nested schema is neither a word nor an object. -/
  | notItem (found : Json)
  /-- A field with flags has a member of the wrong shape. -/
  | badField (cause : Json.Mismatch)

def Flaw.reason : Flaw → String
  | .dottedKey key => s!"key '{key}' must not contain '.'"
  | .unknownKind word => s!"unknown field type '{word}'"
  | .notSchema found => "schema must be an object, got " ++ found.render
  | .notItem found => "expected a field type or an object, got " ++ found.render
  | .badField cause => cause.message

def Flaw.fault (flaw : Flaw) : Fault := .badSchema flaw.reason

end Schema

namespace SchemaTree

open Schema

mutual

/-- Succeeds if no key inside a tree holds a dot: such a key would look like a path. The first one
in document order is reported, a key before those nested under it. -/
def checkKeys : SchemaTree → Except Fault Unit
  | .nested items => checkItems items
  | .bare _ | .flagged _ => .ok ()

def checkItems : List (String × SchemaTree) → Except Fault Unit
  | [] => .ok ()
  | (key, tree) :: rest =>
    if Path.dotted key then .error (Flaw.dottedKey key).fault
    else match checkKeys tree with
      | .ok () => checkItems rest
      | .error fault => .error fault

end

end SchemaTree

/-- Succeeds if no key of a schema, at any depth, holds a dot, and reports the first one that does.
-/
def Schema.checkKeys (schema : Schema) : Except Fault Unit := schema.tree.checkKeys

/-- A schema whose keys passed the check, so that none of them looks like a path. -/
structure CheckedSchema extends Schema where
  checked : toSchema.checkKeys = .ok () := by rfl

end DocumentSearch
