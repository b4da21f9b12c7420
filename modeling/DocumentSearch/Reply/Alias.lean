import DocumentSearch.Json.Text

/-!
The aliases of a reply: a list of pairs, alias and index. Entries of another length are passed over,
and a reply of another shape lists none.
-/

namespace DocumentSearch.Reply

/-- The alias that one entry is, with its index. -/
def aliasOfJson? : Json → Option (String × String)
  | .arr [name, index] => some (name.plainText, index.plainText)
  | _ => none

/-- The aliases that a reply lists, each with its index. -/
def aliases : Json → Record String
  | .arr entries => Record.ofPairs (entries.filterMap aliasOfJson?)
  | _ => {}

def aliasesToJson (bound : Record String) : Json :=
  .obj (bound.members.map fun binding => (binding.1, .str binding.2))

end DocumentSearch.Reply
