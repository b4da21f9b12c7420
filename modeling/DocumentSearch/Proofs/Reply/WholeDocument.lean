import DocumentSearch.Proofs.Reply.Rebuild

/-! What becomes of one name when values are put where their paths lead: the values below the name
decide, in their order, and those below other names have no say. So the name that stands for a whole
document has the value of its field only while no later path leads through it, and every path that
does takes the place of the document itself. -/

namespace DocumentSearch.Hit

/-! ## Below one name -/

/-- A placement as it is seen from the value of a name, if it leads there. -/
def Placement.below? (name : String) : Placement → Option Placement
  | ([], _) => none
  | (key :: rest, value) => if key = name then some (rest, value) else none

theorem Placement.below?_eq_some_iff {name : String} {placement inner : Placement} :
    placement.below? name = some inner ↔ inner.under name = placement := by
  obtain ⟨keys, value⟩ := placement
  cases keys with
  | nil => simp [below?, under]
  | cons key rest =>
    by_cases hkey : key = name
    · subst hkey
      simp [below?, under, Prod.ext_iff, eq_comm]
    · simp [below?, under, hkey, Ne.symm hkey]

/-- The placements that lead to a name or through it. -/
def below (name : String) (placements : List Placement) : List Placement :=
  placements.filterMap (Placement.below? name)

theorem below_append (name : String) (placements more : List Placement) :
    below name (placements ++ more) = below name placements ++ below name more :=
  List.filterMap_append

theorem mem_below_iff {name : String} {placements : List Placement} {placement : Placement} :
    placement ∈ below name placements ↔ placement.under name ∈ placements := by
  simp [below, List.mem_filterMap, Placement.below?_eq_some_iff]

theorem below_eq_nil_iff {name : String} {placements : List Placement} :
    below name placements = [] ↔ ∀ p ∈ placements, p.1.head? ≠ some name := by
  rw [List.eq_nil_iff_forall_not_mem]
  constructor
  · intro h p hmem hhead
    obtain ⟨rest, hkeys⟩ := List.head?_eq_some_iff.mp hhead
    have hunder : Placement.under name (rest, p.2) = p := by rw [Placement.under, ← hkeys]
    exact h (rest, p.2) (mem_below_iff.mpr (hunder ▸ hmem))
  · intro h p hmem
    exact h _ (mem_below_iff.mp hmem) rfl

/-- What values put one after another make of a place that all their keys start from. -/
def settle (placements : List Placement) (slot? : Option Json) : Option Json :=
  placements.foldl (fun slot? p => some (placeAt p.2 p.1 slot?)) slot?

theorem settle_append (placements more : List Placement) (slot? : Option Json) :
    settle (placements ++ more) slot? = settle more (settle placements slot?) :=
  List.foldl_append

/-- Values below a place make it an object, with the members it has as an object so far. -/
theorem settle_of_nonempty {placements : List Placement} (hne : placements ≠ [])
    (hkeys : ∀ p ∈ placements, p.1 ≠ []) (slot? : Option Json) :
    settle placements slot? = some (.obj (placeAll placements (membersOf slot?))) := by
  induction placements generalizing slot? with
  | nil => contradiction
  | cons first rest ih =>
    rw [settle, List.foldl_cons, placeAt_of_ne_nil _ (hkeys first List.mem_cons_self)]
    by_cases hrest : rest = []
    · subst hrest
      rfl
    · exact ih hrest (fun p hmem => hkeys p (List.mem_cons_of_mem _ hmem)) _

/-- Under a name there is in the end what the values make of it that are put there or below. -/
theorem lookup?_placeAll (name : String) (placements : List Placement) (document : Members Json) :
    (placeAll placements document).lookup? name =
      settle (below name placements) (document.lookup? name) := by
  induction placements generalizing document with
  | nil => rfl
  | cons first rest ih =>
    obtain ⟨keys, value⟩ := first
    have hrest := ih (place value keys document)
    -- A placement under another name is not among those below this one, and leaves its value alone.
    cases keys with
    | nil => exact hrest
    | cons key keys =>
      rw [place_cons, Members.lookup?_put] at hrest
      by_cases hkey : key = name
      · subst hkey
        simpa [placeAll, place_cons, below, Placement.below?, settle] using hrest
      · simpa [placeAll, place_cons, below, Placement.below?, settle, hkey] using hrest

/-- The names at the top are those that the paths start with, in the order in which they first do.
-/
theorem keys_placeAll (placements : List Placement) :
    Members.keys (placeAll placements []) =
      (placements.filterMap fun p => p.1.head?).eraseDups := by
  induction placements using List.reverseRecOn with
  | nil => rfl
  | append_singleton placements last ih =>
    obtain ⟨keys, value⟩ := last
    have hlast : placeAll (placements ++ [(keys, value)]) [] =
        place value keys (placeAll placements []) := placeAll_append placements _ []
    rw [hlast, List.filterMap_append]
    cases keys with
    | nil => simpa [place, List.filterMap_cons] using ih
    | cons key rest =>
      rw [place_cons]
      exact Members.keys_put_eq_eraseDups ih key _

/-! ## The name of the whole document -/

/-- The fields that hold the whole document or a part of it, each with the keys that lead to it from
there. -/
def inWhole (fields : Members Json) : List Placement :=
  below wholeDocument (fields.map Placement.ofField)

theorem inWhole_append (fields more : Members Json) :
    inWhole (fields ++ more) = inWhole fields ++ inWhole more := by
  rw [inWhole, List.map_append, below_append]
  rfl

theorem inWhole_eq_nil_iff {fields : Members Json} :
    inWhole fields = [] ↔ ∀ field ∈ fields, (Path.split field.1).head? ≠ some wholeDocument := by
  rw [inWhole, below_eq_nil_iff, List.forall_mem_map]
  rfl

theorem split_wholeDocument : Path.split wholeDocument = [wholeDocument] := by decide

theorem inWhole_cons_whole (value : Json) (rest : Members Json) :
    inWhole ((wholeDocument, value) :: rest) = ([], value) :: inWhole rest := by
  have hfield : Placement.ofField (wholeDocument, value) = ([wholeDocument], value) := by
    rw [Placement.ofField, split_wholeDocument]
  rw [inWhole, List.map_cons, hfield]
  simp [below, Placement.below?, inWhole]

/-- Only the field with the very name holds the whole document; the others hold parts of it. -/
theorem ne_nil_of_mem_inWhole {fields : Members Json} (h : wholeDocument ∉ Members.keys fields)
    {placement : Placement} (hmem : placement ∈ inWhole fields) : placement.1 ≠ [] := by
  intro hnil
  obtain ⟨field, hfield, heq⟩ := List.mem_map.mp (mem_below_iff.mp hmem)
  have hsplit : Path.split field.1 = [wholeDocument] :=
    (congrArg Prod.fst heq).trans (congrArg (wholeDocument :: ·) hnil)
  have hname : field.1 = wholeDocument := by
    rw [← Path.join_split field.1, hsplit]
    rfl
  exact h (hname ▸ List.mem_map_of_mem hfield)

theorem document?_eq_settle {hit : Hit} {fields : Record Json} (hhit : hit.fields? = some fields) :
    hit.document? =
      some ((settle (inWhole fields.members) none).getD (.obj (rebuild fields.members))) := by
  have hlookup : (rebuild fields.members).lookup? wholeDocument =
      settle (inWhole fields.members) none := by
    rw [rebuild_eq_placeAll]
    exact lookup?_placeAll wholeDocument _ []
  rw [document?, hhit, Option.map_some]
  simp only [hlookup]

theorem document?_of_inWhole_eq_nil {hit : Hit} {fields : Record Json}
    (hhit : hit.fields? = some fields)
    (hnone : ∀ field ∈ fields.members, (Path.split field.1).head? ≠ some wholeDocument) :
    hit.document? = some (.obj (rebuild fields.members)) := by
  rw [document?_eq_settle hhit, inWhole_eq_nil_iff.mpr hnone]
  rfl

/-- What comes before a field that holds the whole document does not count. -/
theorem settle_inWhole (before : Members Json) (value : Json) (after : Members Json) :
    settle (inWhole (before ++ (wholeDocument, value) :: after)) none =
      settle (inWhole after) (some value) := by
  rw [inWhole_append, inWhole_cons_whole, settle_append]
  rfl

/-- Where no path starts with the name of the whole document, a hit rebuilds to an object with the
names that its paths start with, in the order in which they first do. A field of that very name is
the document, unless a later path goes through the name. Then the document is the object that the
later values make, put one after another into the value of the field if there is one and it is an
object. -/
theorem document?_of_whole {hit : Hit} {fields : Record Json} (hhit : hit.fields? = some fields) :
    ((∀ field ∈ fields.members, (Path.split field.1).head? ≠ some wholeDocument) →
      ∃ members, hit.document? = some (.obj members) ∧
        Members.keys members =
          (fields.members.filterMap fun field => (Path.split field.1).head?).eraseDups) ∧
    (∀ before value after, fields.members = before ++ (wholeDocument, value) :: after →
      (∀ later ∈ after, (Path.split later.1).head? ≠ some wholeDocument) →
      hit.document? = some value) ∧
    (∀ before value after, fields.members = before ++ (wholeDocument, value) :: after →
      wholeDocument ∉ Members.keys after → inWhole after ≠ [] →
      hit.document? = some (.obj (placeAll (inWhole after) (membersOf (some value))))) ∧
    (wholeDocument ∉ Members.keys fields.members → inWhole fields.members ≠ [] →
      hit.document? = some (.obj (placeAll (inWhole fields.members) []))) := by
  have hsettle := document?_eq_settle hhit
  refine ⟨?_, ?_, ?_, ?_⟩
  · intro hnone
    refine ⟨rebuild fields.members, document?_of_inWhole_eq_nil hhit hnone, ?_⟩
    rw [rebuild_eq_placeAll, keys_placeAll, List.filterMap_map]
    rfl
  · intro before value after hfields hlast
    rw [hsettle, hfields, settle_inWhole, inWhole_eq_nil_iff.mpr hlast]
    rfl
  · intro before value after hfields hlast hparts
    rw [hsettle, hfields, settle_inWhole,
      settle_of_nonempty hparts fun p => ne_nil_of_mem_inWhole hlast]
    rfl
  · intro hnone hparts
    rw [hsettle, settle_of_nonempty hparts fun p => ne_nil_of_mem_inWhole hnone]
    rfl

theorem document?_of_whole_parts :
    let before : Members Json := [("a.b", .null), ("$.x", .bool true)]
    let after : Members Json := [("d", .null), ("$.c", .int 2)]
    let fields : Record Json :=
      { members := [("a.b", .null), ("$.x", .bool true), ("$", .obj [("e", .int 1)]),
          ("d", .null), ("$.c", .int 2)] }
    (fields.members = before ++ (wholeDocument, .obj [("e", .int 1)]) :: after ∧
      wholeDocument ∉ Members.keys after ∧ inWhole after = [(["c"], .int 2)]) ∧
      Hit.document? ⟨"k", "1", some fields⟩ = some (.obj [("e", .int 1), ("c", .int 2)]) := by
  intro before after fields
  have hfields : fields.members = before ++ (wholeDocument, .obj [("e", .int 1)]) :: after := rfl
  have hlast : wholeDocument ∉ Members.keys after := by decide
  have hparts : inWhole after = [(["c"], .int 2)] := by decide
  refine ⟨⟨hfields, hlast, hparts⟩, ?_⟩
  have hhit : Hit.fields? ⟨"k", "1", some fields⟩ = some fields := rfl
  obtain ⟨-, -, hdocument, -⟩ := document?_of_whole hhit
  rw [hdocument before _ after hfields hlast (by simp [hparts]), hparts]
  rfl

/-- A part that comes after the field for the whole document takes its place, and a part without
such a field leaves nothing of the fields beside it. -/
theorem not_document?_of_whole :
    (¬ ∀ (hit : Hit) (fields : Record Json) (value : Json), hit.fields? = some fields →
      (wholeDocument, value) ∈ fields.members → hit.document? = some value) ∧
    ¬ ∀ (hit : Hit) (fields : Record Json), hit.fields? = some fields →
      wholeDocument ∉ Members.keys fields.members →
      ∃ members, hit.document? = some (.obj members) ∧
        ∀ name, name ∈ Members.keys members ↔
          ∃ field ∈ fields.members, (Path.split field.1).head? = some name := by
  constructor
  · intro hwhole
    have hdocument := hwhole ⟨"k", "1", some { members := [("$", .str "x"), ("$.a", .int 2)] }⟩ _
      (.str "x") rfl (by decide)
    exact absurd hdocument (by decide)
  · intro hnames
    let hit : Hit := ⟨"k", "1", some { members := [("b", .int 1), ("$.a", .int 2)] }⟩
    have hlost : hit.document? = some (.obj [("a", .int 2)]) := rfl
    obtain ⟨members, hdocument, hkeys⟩ := hnames hit _ rfl (by decide)
    have hmembers : members = [("a", .int 2)] := by simpa [hlost, eq_comm] using hdocument
    have hb := (hkeys "b").mpr ⟨("b", .int 1), by decide, by decide⟩
    rw [hmembers] at hb
    exact absurd hb (by decide)

end DocumentSearch.Hit
