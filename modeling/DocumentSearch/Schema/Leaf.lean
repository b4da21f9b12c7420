import DocumentSearch.Schema.Document

/-!
The leaves of a schema: its fields, each addressed by the path of keys that leads to it. The
engine is told leaves only, in the order of the document.
-/

namespace DocumentSearch

/-- A field of a schema with its path, the keys that lead to it joined by dots. -/
structure Leaf where
  path : String
  spec : FieldSpec
deriving DecidableEq

def Leaf.toJson (leaf : Leaf) : Json := .obj (("path", .str leaf.path) :: leaf.spec.members)

namespace SchemaTree

mutual

/-- The fields of a tree, each with the keys that lead to it from there. -/
def chains : SchemaTree → List (List String × FieldSpec)
  | .bare kind => [([], ⟨kind, {}⟩)]
  | .flagged spec => [([], spec)]
  | .nested items => chainsOf items

/-- The fields below the keys of a schema, each with the keys that lead to it, in document order. -/
def chainsOf : List (String × SchemaTree) → List (List String × FieldSpec)
  | [] => []
  | (key, tree) :: rest =>
    (chains tree).map (fun chain => (key :: chain.1, chain.2)) ++ chainsOf rest

end

end SchemaTree

/-- The leaves of a schema, in document order; those of a nested schema stand where its key does. -/
def Schema.leaves (schema : Schema) : List Leaf :=
  schema.tree.chains.map fun chain => ⟨Path.join chain.1, chain.2⟩

end DocumentSearch
