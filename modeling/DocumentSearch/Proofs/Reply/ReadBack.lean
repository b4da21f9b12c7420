import Mathlib.Algebra.Order.BigOperators.Group.List
import Mathlib.Algebra.Order.Group.Nat
import DocumentSearch.Proofs.Reply.WholeDocument

/-! Reading fields back from a rebuilt document. A value stays where it was put until another is put
at a place that its keys lead through, or that lies below it. Where no two fields get in the way of
each other, all of them can be read back, and the order in which they came shows only in the order
of the members. -/

namespace DocumentSearch

namespace Json

/-- The value that keys lead to, from object to object. -/
def follow? : Json → List String → Option Json
  | value, [] => some value
  | value, key :: rest => (value.member? key).bind fun inner => follow? inner rest

/-- Two values are the same but for the order of the members of objects, at any depth. -/
inductive Reordered : Json → Json → Prop where
  | refl (value : Json) : Reordered value value
  | obj {members sorted others : List (String × Json)} :
      members.Perm sorted → Members.keys sorted = Members.keys others →
      List.Forall₂ Reordered (sorted.map Prod.snd) (others.map Prod.snd) →
      Reordered (.obj members) (.obj others)

def isObject : Json → Bool
  | .obj _ => true
  | _ => false

end Json

namespace Hit

/-! ## Keys that get in the way of others -/

/-- Neither of two lists of keys begins with the other. -/
def Apart (keys others : List String) : Prop := ¬ keys <+: others ∧ ¬ others <+: keys

instance (keys others : List String) : Decidable (Apart keys others) :=
  inferInstanceAs (Decidable (¬ keys <+: others ∧ ¬ others <+: keys))

/-- One of two lists of keys goes on from where the other ends. -/
def Crosses (keys others : List String) : Prop :=
  keys ≠ others ∧ (keys <+: others ∨ others <+: keys)

instance (keys others : List String) : Decidable (Crosses keys others) :=
  inferInstanceAs (Decidable (keys ≠ others ∧ (keys <+: others ∨ others <+: keys)))

theorem apart_cons_iff {key : String} {keys others : List String} :
    Apart (key :: keys) (key :: others) ↔ Apart keys others := by
  simp [Apart, List.cons_prefix_cons]

theorem Apart.left_ne_nil {keys others : List String} (h : Apart keys others) : keys ≠ [] := by
  rintro rfl
  exact h.1 List.nil_prefix

theorem Apart.right_ne_nil {keys others : List String} (h : Apart keys others) : others ≠ [] := by
  rintro rfl
  exact h.2 List.nil_prefix

/-- The paths of two fields with different names are apart if neither goes on from the other. -/
theorem apart_of_not_crosses {path other : String} (hne : other ≠ path)
    (h : ¬ Crosses (Path.split other) (Path.split path)) :
    Apart (Path.split path) (Path.split other) := by
  have hsplit : Path.split other ≠ Path.split path := by
    intro heq
    rw [← Path.join_split other, heq, Path.join_split] at hne
    exact hne rfl
  constructor
  · intro hprefix
    exact h ⟨hsplit, .inr hprefix⟩
  · intro hprefix
    exact h ⟨hsplit, .inl hprefix⟩

/-! ## Ways to get stuck -/

/-- Puts a value where a path leads, as `place` does, but step by step. It gets stuck where there is
no key to put the value under, and where the way leads into something that is no object even though
an object was made of it. -/
def tryPlace (value : Json) : List String → Members Json → Option (Members Json)
  | [], _ => none
  | [key], document => some (document.put key value)
  | key :: next :: rest, document =>
    let found := (document.lookup? key).getD (.obj [])
    match if found.isObject then found else .obj [] with
    | .obj members =>
      (tryPlace value (next :: rest) members).map fun inside => document.put key (.obj inside)
    | _ => none

/-- The object that fields make, step by step. -/
def tryRebuild (fields : Members Json) : Option (Members Json) :=
  fields.foldlM (fun document field => tryPlace field.2 (Path.split field.1) document) []

theorem tryPlace_eq (value : Json) {keys : List String} (h : keys ≠ []) (document : Members Json) :
    tryPlace value keys document = some (place value keys document) := by
  induction keys generalizing document with
  | nil => contradiction
  | cons key rest ih =>
    cases rest with
    | nil => rfl
    | cons next rest =>
      have hobject : (if ((document.lookup? key).getD (.obj [])).isObject
          then (document.lookup? key).getD (.obj []) else .obj []) =
            .obj (membersOf (document.lookup? key)) := by
        cases document.lookup? key with
        | none => rfl
        | some value => cases value <;> rfl
      rw [tryPlace, hobject, place]
      simp only [ih (List.cons_ne_nil next rest), Option.map_some]

/-- The steps never get stuck. -/
theorem tryRebuild_eq (fields : Members Json) : tryRebuild fields = some (rebuild fields) := by
  have hall : ∀ document : Members Json,
      fields.foldlM (fun document field => tryPlace field.2 (Path.split field.1) document)
        document = some (placeAll (fields.map Placement.ofField) document) := by
    induction fields with
    | nil => intro document; rfl
    | cons field rest ih =>
      intro document
      rw [List.foldlM_cons, tryPlace_eq field.2 (Path.split_ne_nil field.1)]
      exact ih _
  rw [tryRebuild, hall, rebuild_eq_placeAll]

/-! ## One value -/

theorem follow?_place_self (value : Json) {keys : List String} (h : keys ≠ [])
    (document : Members Json) :
    (Json.obj (place value keys document)).follow? keys = some value := by
  induction keys generalizing document with
  | nil => contradiction
  | cons key rest ih =>
    rw [place_cons, Json.follow?, Json.member?, Members.lookup?_put, if_pos rfl, Option.bind_some]
    cases rest with
    | nil => rfl
    | cons next rest => exact ih (List.cons_ne_nil next rest) _

/-- Nothing is lost below a place when it is taken for an object. -/
theorem follow?_membersOf (slot? : Option Json) {keys : List String} (h : keys ≠ []) :
    (Json.obj (membersOf slot?)).follow? keys = slot?.bind fun value => value.follow? keys := by
  cases keys with
  | nil => contradiction
  | cons key rest =>
    cases slot? with
    | none => rfl
    | some value => cases value <;> rfl

/-- Putting a value somewhere changes nothing for keys apart from those that lead there. -/
theorem follow?_place_of_apart {keys others : List String} (h : Apart keys others) (value : Json)
    (document : Members Json) :
    (Json.obj (place value others document)).follow? keys = (Json.obj document).follow? keys := by
  induction keys generalizing others document with
  | nil => exact absurd rfl h.left_ne_nil
  | cons key keys ih =>
    cases others with
    | nil => exact absurd rfl h.right_ne_nil
    | cons other others =>
      rw [place_cons, Json.follow?, Json.follow?, Json.member?, Json.member?, Members.lookup?_put]
      by_cases hkey : other = key
      · -- Both ways go on below the name. What was no object there had nothing below it to lose.
        subst hkey
        have hrest : Apart keys others := apart_cons_iff.mp h
        rw [if_pos rfl, Option.bind_some, placeAt_of_ne_nil value hrest.right_ne_nil, ih hrest]
        exact follow?_membersOf _ hrest.left_ne_nil
      · rw [if_neg hkey]

/-! ## All values -/

theorem follow?_placeAll_of_apart {keys : List String} {placements : List Placement}
    (h : ∀ p ∈ placements, Apart keys p.1) (document : Members Json) :
    (Json.obj (placeAll placements document)).follow? keys = (Json.obj document).follow? keys := by
  induction placements generalizing document with
  | nil => rfl
  | cons first rest ih =>
    have hlater : ∀ p ∈ rest, Apart keys p.1 := fun p hmem => h p (List.mem_cons_of_mem _ hmem)
    have hrest := ih hlater (place first.2 first.1 document)
    rw [follow?_place_of_apart (h first List.mem_cons_self)] at hrest
    exact hrest

/-- A field can be read back if the later fields are apart from it. -/
theorem follow?_rebuild {before after : Members Json} {path : String} {value : Json}
    (h : ∀ later ∈ after, Apart (Path.split path) (Path.split later.1)) :
    (Json.obj (rebuild (before ++ (path, value) :: after))).follow? (Path.split path) =
      some value := by
  have hafter : ∀ p ∈ after.map Placement.ofField, Apart (Path.split path) p.1 :=
    List.forall_mem_map.mpr h
  have hplaced : rebuild (before ++ (path, value) :: after) =
      placeAll (after.map Placement.ofField) (place value (Path.split path) (rebuild before)) := by
    rw [rebuild, List.foldl_append, List.foldl_cons, placeAll, List.foldl_map]
    rfl
  rw [hplaced, follow?_placeAll_of_apart hafter]
  exact follow?_place_self value (Path.split_ne_nil path) _

/-! ## The order of the values -/

theorem distinct_place {document : Members Json} (h : Members.Distinct document) (value : Json)
    (keys : List String) : Members.Distinct (place value keys document) := by
  cases keys with
  | nil => exact h
  | cons key rest =>
    rw [place_cons]
    exact h.put key _

theorem distinct_placeAll (placements : List Placement) :
    Members.Distinct (placeAll placements []) := by
  induction placements using List.reverseRecOn with
  | nil => exact List.nodup_nil
  | append_singleton placements last ih =>
    rw [placeAll_append]
    exact distinct_place ih last.2 last.1

theorem pairwise_apart_below (name : String) {placements : List Placement}
    (h : placements.Pairwise fun p q => Apart p.1 q.1) :
    (below name placements).Pairwise fun p q => Apart p.1 q.1 := by
  apply List.Pairwise.filterMap (Placement.below? name) _ h
  intro p q hapart p' hp q' hq
  obtain rfl := Placement.below?_eq_some_iff.mp hp
  obtain rfl := Placement.below?_eq_some_iff.mp hq
  exact apart_cons_iff.mp hapart

/-- Where a value is put in a place itself, no other value that is apart is put there or below. -/
theorem eq_singleton_of_apart {placements : List Placement}
    (h : placements.Pairwise fun p q => Apart p.1 q.1) {placement : Placement}
    (hmem : placement ∈ placements) (hnil : placement.1 = []) : placements = [placement] := by
  obtain ⟨before, after, rfl⟩ := List.append_of_mem hmem
  obtain ⟨-, hafter, hbefore⟩ := List.pairwise_append.mp h
  have hnone : ∀ p ∈ before, False := fun p hp =>
    (hbefore p hp placement List.mem_cons_self).right_ne_nil hnil
  have hlater : ∀ p ∈ after, False := fun p hp =>
    ((List.pairwise_cons.mp hafter).1 p hp).left_ne_nil hnil
  rw [List.eq_nil_iff_forall_not_mem.mpr hnone, List.eq_nil_iff_forall_not_mem.mpr hlater]
  rfl

/-- Values apart from each other that all start from one place: either a single one is put there, or
they make an object. -/
theorem rel_settle_of_perm {placements others : List Placement} (hperm : placements.Perm others)
    (hapart : placements.Pairwise fun p q => Apart p.1 q.1)
    (hinside : (∀ p ∈ placements, p.1 ≠ []) →
      Json.Reordered (.obj (placeAll placements [])) (.obj (placeAll others []))) :
    Option.Rel Json.Reordered (settle placements none) (settle others none) := by
  by_cases hexact : ∃ p ∈ placements, p.1 = []
  · obtain ⟨p, hmem, hnil⟩ := hexact
    obtain rfl := eq_singleton_of_apart hapart hmem hnil
    obtain rfl := List.singleton_perm.mp hperm
    exact .some (Json.Reordered.refl _)
  · have hkeys : ∀ p ∈ placements, p.1 ≠ [] := fun p hmem hnil => hexact ⟨p, hmem, hnil⟩
    by_cases hnone : placements = []
    · subst hnone
      obtain rfl := List.nil_perm.mp hperm
      exact .none
    · have hothers : others ≠ [] := fun hnil => hnone (List.perm_nil.mp (hnil ▸ hperm))
      rw [settle_of_nonempty hnone hkeys,
        settle_of_nonempty hothers fun p hmem => hkeys p (hperm.mem_iff.mpr hmem)]
      exact .some (hinside hkeys)

/-- The order in which values apart from each other are put shows only in the order of members. The
induction is on a bound for the lengths of the keys: what a name holds is made by the values below
it, whose keys are shorter by one. -/
theorem reordered_placeAll (bound : Nat) {placements others : List Placement}
    (hperm : placements.Perm others) (hapart : placements.Pairwise fun p q => Apart p.1 q.1)
    (hbound : ∀ p ∈ placements, p.1.length ≤ bound) (hkeys : ∀ p ∈ placements, p.1 ≠ []) :
    Json.Reordered (.obj (placeAll placements [])) (.obj (placeAll others [])) := by
  induction bound generalizing placements others with
  | zero =>
    have hnone : ∀ p ∈ placements, False := fun p hmem =>
      hkeys p hmem (List.eq_nil_of_length_eq_zero (Nat.le_zero.mp (hbound p hmem)))
    obtain rfl := List.eq_nil_iff_forall_not_mem.mpr hnone
    obtain rfl := List.nil_perm.mp hperm
    exact .refl _
  | succ bound ih =>
    have hrel : ∀ name, Option.Rel Json.Reordered ((placeAll placements []).lookup? name)
        ((placeAll others []).lookup? name) := by
      intro name
      have hbelow : (below name placements).Perm (below name others) := hperm.filterMap _
      have hshorter : ∀ p ∈ below name placements, p.1.length ≤ bound := by
        intro p hmem
        exact Nat.le_of_succ_le_succ (hbound _ (mem_below_iff.mp hmem))
      have hinside := pairwise_apart_below name hapart
      rw [lookup?_placeAll, lookup?_placeAll]
      exact rel_settle_of_perm hbelow hinside (ih hbelow hinside hshorter)
    obtain ⟨sorted, hsorted, hnames, hvalues⟩ :=
      Members.exists_perm_of_rel (distinct_placeAll placements) (distinct_placeAll others) hrel
    exact Json.Reordered.obj hsorted hnames hvalues

/-! ## Hits -/

theorem reordered_rebuild {fields others : Members Json} (hperm : fields.Perm others)
    (hapart : fields.Pairwise fun field other =>
      Apart (Path.split field.1) (Path.split other.1)) :
    Json.Reordered (.obj (rebuild fields)) (.obj (rebuild others)) := by
  let placements := fields.map Placement.ofField
  let bound := (placements.map fun p => p.1.length).sum
  have hbound : ∀ p ∈ placements, p.1.length ≤ bound := fun p hmem =>
    List.le_sum_of_mem (List.mem_map_of_mem hmem)
  have hkeys : ∀ p ∈ placements, p.1 ≠ [] :=
    List.forall_mem_map.mpr fun field _ => Path.split_ne_nil field.1
  have hplacements : placements.Pairwise fun p q => Apart p.1 q.1 := List.pairwise_map.mpr hapart
  rw [rebuild_eq_placeAll, rebuild_eq_placeAll]
  exact reordered_placeAll bound (hperm.map _) hplacements hbound hkeys

/-- A hit with no field in the whole document rebuilds to an object, without getting stuck. A field
can be read back from it unless a later field leads to a place on the way to it or below it. If no
two fields are in each other's way, all fields can be read back, and any order of them makes the
same document but for the order of the members. -/
theorem document?_of_fields {hit : Hit} {fields : Record Json} (hhit : hit.fields? = some fields)
    (hnone : ∀ field ∈ fields.members, (Path.split field.1).head? ≠ some wholeDocument) :
    ∃ members, tryRebuild fields.members = some members ∧ hit.document? = some (.obj members) ∧
      (∀ before path value after, fields.members = before ++ (path, value) :: after →
        (∀ later ∈ after, ¬ Crosses (Path.split later.1) (Path.split path)) →
        (Json.obj members).follow? (Path.split path) = some value) ∧
      ((fields.members.Pairwise fun field other =>
          Apart (Path.split field.1) (Path.split other.1)) →
        (∀ field ∈ fields.members,
          (Json.obj members).follow? (Path.split field.1) = some field.2) ∧
        ∀ (other : Hit) (others : Record Json), other.fields? = some others →
          fields.members.Perm others.members →
          ∃ document, other.document? = some document ∧ (Json.obj members).Reordered document) := by
  refine ⟨rebuild fields.members, tryRebuild_eq _, document?_of_inWhole_eq_nil hhit hnone, ?_, ?_⟩
  · intro before path value after hfields hlater
    have hnew : path ∉ Members.keys after := by
      have hdistinct := fields.distinct
      rw [hfields, Members.Distinct, Members.keys_append, Members.keys_cons] at hdistinct
      exact (List.nodup_cons.mp (List.nodup_append.mp hdistinct).2.1).1
    rw [hfields]
    apply follow?_rebuild
    intro later hmem
    have hne : later.1 ≠ path := fun heq => hnew (heq ▸ List.mem_map_of_mem hmem)
    exact apart_of_not_crosses hne (hlater later hmem)
  · intro hapart
    constructor
    · intro field hmem
      obtain ⟨before, after, hfields⟩ := List.append_of_mem hmem
      rw [hfields] at hapart ⊢
      apply follow?_rebuild
      exact (List.pairwise_cons.mp (List.pairwise_append.mp hapart).2.1).1
    · intro other others hother hperm
      have hothers : ∀ field ∈ others.members, (Path.split field.1).head? ≠ some wholeDocument :=
        fun field hmem => hnone field (hperm.mem_iff.mpr hmem)
      exact ⟨_, document?_of_inWhole_eq_nil hother hothers, reordered_rebuild hperm hapart⟩

theorem document?_of_fields_crossing :
    let after : Members Json := [("a", .null), ("", .bool true), ("b.d", .int 3)]
    let fields : Record Json :=
      { members := [("a.b", .int 1), ("b.c", .obj [("$", .int 2)]), ("a", .null), ("", .bool true),
          ("b.d", .int 3)] }
    let apart : Record Json := { members := [("p.x", .int 1), (".$", .null), ("p.y", .int 2)] }
    let others : Record Json := { members := [("p.y", .int 2), ("p.x", .int 1), (".$", .null)] }
    ((∀ field ∈ fields.members, (Path.split field.1).head? ≠ some wholeDocument) ∧
      fields.members = [("a.b", .int 1)] ++ ("b.c", .obj [("$", .int 2)]) :: after ∧
      ∀ later ∈ after, ¬ Crosses (Path.split later.1) (Path.split "b.c")) ∧
    ((∀ field ∈ apart.members, (Path.split field.1).head? ≠ some wholeDocument) ∧
      (apart.members.Pairwise fun field other =>
        Apart (Path.split field.1) (Path.split other.1)) ∧
      apart.members.Perm others.members) ∧
    (∃ members, Hit.document? ⟨"k", "1", some fields⟩ = some (.obj members) ∧
      (Json.obj members).follow? ["b", "c"] = some (.obj [("$", .int 2)])) ∧
    ∃ members document, Hit.document? ⟨"k", "1", some apart⟩ = some (.obj members) ∧
      Hit.document? ⟨"k", "1", some others⟩ = some document ∧
      (Json.obj members).Reordered document := by
  intro after fields apart others
  have hnone : ∀ field ∈ fields.members, (Path.split field.1).head? ≠ some wholeDocument := by
    decide
  have hfields : fields.members = [("a.b", .int 1)] ++ ("b.c", .obj [("$", .int 2)]) :: after := rfl
  have hlater : ∀ later ∈ after, ¬ Crosses (Path.split later.1) (Path.split "b.c") := by decide
  have hnone' : ∀ field ∈ apart.members, (Path.split field.1).head? ≠ some wholeDocument := by
    decide
  have hapart : apart.members.Pairwise fun field other =>
      Apart (Path.split field.1) (Path.split other.1) := by decide
  have hperm : apart.members.Perm others.members := by decide
  have hhit : Hit.fields? ⟨"k", "1", some fields⟩ = some fields := rfl
  have hhit' : Hit.fields? ⟨"k", "1", some apart⟩ = some apart := rfl
  have hother : Hit.fields? ⟨"k", "1", some others⟩ = some others := rfl
  obtain ⟨members, -, hdocument, hread, -⟩ := document?_of_fields hhit hnone
  obtain ⟨members', -, hdocument', -, horder⟩ := document?_of_fields hhit' hnone'
  obtain ⟨document, hreordered⟩ := (horder hapart).2 _ others hother hperm
  exact ⟨⟨hnone, hfields, hlater⟩, ⟨hnone', hapart, hperm⟩,
    ⟨members, hdocument, hread _ "b.c" _ after hfields hlater⟩,
    ⟨members', document, hdocument', hreordered⟩⟩

end Hit

end DocumentSearch
