import Mathlib.Data.List.Induction
import Mathlib.Data.List.Nodup
import DocumentSearch.Members
import DocumentSearch.Proofs.Pointwise

/-! Members whose names are all different: binding them one after another lists them, and a look-up
finds exactly the bindings that are listed. Of pairs with one name, the first decides on the place
and the last on the value, however the pairs are grouped. -/

namespace DocumentSearch.Members

variable {α : Type}

theorem keys_append (members more : Members α) :
    keys (members ++ more) = keys members ++ keys more := by
  simp [keys]

theorem keys_flatten (parts : List (Members α)) :
    keys parts.flatten = (parts.map keys).flatten := by
  induction parts with
  | nil => rfl
  | cons part rest ih => simp [keys_append, ih]

/-! ## Binding new names -/

/-- A name that is not bound yet comes last. -/
theorem put_of_not_mem {members : Members α} {key : String} (h : key ∉ keys members) (value : α) :
    put members key value = members ++ [(key, value)] := by
  induction members with
  | nil => rfl
  | cons pair rest ih =>
    obtain ⟨name, old⟩ := pair
    simp only [keys_cons, List.mem_cons, not_or] at h
    simp [put, Ne.symm h.1, ih h.2]

theorem put_append_of_not_mem {members : Members α} {key : String} (h : key ∉ keys members)
    (old value : α) : put (members ++ [(key, old)]) key value = members ++ [(key, value)] := by
  induction members with
  | nil => simp [put]
  | cons pair rest ih =>
    obtain ⟨name, first⟩ := pair
    simp only [keys_cons, List.mem_cons, not_or] at h
    simp [put, Ne.symm h.1, ih h.2]

theorem put_ne_nil (members : Members α) (key : String) (value : α) :
    put members key value ≠ [] := by
  cases members with
  | nil => simp [put]
  | cons pair rest =>
    obtain ⟨name, old⟩ := pair
    rw [put]
    split <;> simp

theorem mem_of_mem_putAll {members : Members α} {pairs : List (String × α)} {pair : String × α}
    (h : pair ∈ putAll members pairs) : pair ∈ members ∨ pair ∈ pairs := by
  induction pairs generalizing members with
  | nil => exact .inl h
  | cons first rest ih =>
    rcases ih h with hput | hrest
    · rcases mem_of_mem_put hput with hmem | rfl
      · exact .inl hmem
      · exact .inr List.mem_cons_self
    · exact .inr (List.mem_cons_of_mem first hrest)

theorem mem_keys_putAll {members : Members α} {pairs : List (String × α)} {key : String} :
    key ∈ keys (putAll members pairs) ↔ key ∈ keys members ∨ key ∈ keys pairs := by
  induction pairs generalizing members with
  | nil => simp
  | cons pair rest ih =>
    rw [putAll_cons, ih, keys_put, keys_cons, List.mem_cons]
    by_cases hbound : pair.1 ∈ keys members
    · rw [if_pos hbound]
      constructor
      · exact Or.imp_right Or.inr
      · rintro (hmem | rfl | hmem)
        · exact .inl hmem
        · exact .inl hbound
        · exact .inr hmem
    · rw [if_neg hbound, List.mem_append, List.mem_singleton, or_assoc]

theorem putAll_append (members : Members α) (pairs more : List (String × α)) :
    putAll members (pairs ++ more) = putAll (putAll members pairs) more :=
  List.foldl_append

/-- Binding names that are all new, and all different, appends them. -/
theorem putAll_of_distinct {members pairs : Members α} (h : Distinct (members ++ pairs)) :
    putAll members pairs = members ++ pairs := by
  induction pairs generalizing members with
  | nil => simp
  | cons pair rest ih =>
    have hnew : pair.1 ∉ keys members := by
      have hd : (keys members ++ pair.1 :: keys rest).Nodup := by
        simpa [Distinct, keys_append] using h
      exact fun hmem => (List.nodup_append.mp hd).2.2 _ hmem _ (by simp) rfl
    rw [putAll_cons, put_of_not_mem hnew]
    rw [ih (by simpa using h)]
    simp

theorem ofPairs_of_distinct {pairs : Members α} (h : Distinct pairs) : ofPairs pairs = pairs := by
  have hd : Distinct ([] ++ pairs : Members α) := by simpa using h
  exact putAll_of_distinct hd

theorem mem_keys_of_mem {members : Members α} {key : String} {value : α}
    (h : (key, value) ∈ members) : key ∈ keys members :=
  List.mem_map.mpr ⟨(key, value), h, rfl⟩

/-! ## Looking up -/

/-- A look-up finds a binding exactly if it is listed. -/
theorem lookup?_eq_some_iff {members : Members α} (h : Distinct members) {key : String}
    {value : α} : lookup? members key = some value ↔ (key, value) ∈ members := by
  induction members with
  | nil => simp [lookup?]
  | cons pair rest ih =>
    obtain ⟨name, first⟩ := pair
    obtain ⟨hnew, hrest⟩ := List.nodup_cons.mp h
    by_cases hname : name = key
    · subst hname
      have hnot : (name, value) ∉ rest := fun hmem =>
        hnew (List.mem_map.mpr ⟨_, hmem, rfl⟩)
      simp [lookup?, hnot, eq_comm]
    · simp [lookup?, hname, Ne.symm hname, ih hrest]

theorem mem_of_lookup? {members : Members α} {key : String} {value : α}
    (h : lookup? members key = some value) : (key, value) ∈ members := by
  induction members with
  | nil => simp [lookup?] at h
  | cons pair rest ih =>
    obtain ⟨name, first⟩ := pair
    by_cases hname : name = key
    · subst hname
      obtain rfl : first = value := by simpa [lookup?] using h
      exact List.mem_cons_self
    · rw [lookup?, if_neg hname] at h
      exact List.mem_cons_of_mem _ (ih h)

theorem lookup?_eq_none_iff {members : Members α} {key : String} :
    lookup? members key = none ↔ key ∉ keys members := by
  induction members with
  | nil => simp [lookup?]
  | cons pair rest ih =>
    obtain ⟨name, first⟩ := pair
    by_cases hname : name = key
    · simp [lookup?, hname]
    · simp [lookup?, hname, Ne.symm hname, ih]

/-- A name is looked up in the second list only if the first does not bind it. -/
theorem lookup?_append_of_not_mem {members : Members α} {key : String} (h : key ∉ keys members)
    (more : Members α) : lookup? (members ++ more) key = lookup? more key := by
  induction members with
  | nil => rfl
  | cons pair rest ih =>
    obtain ⟨name, first⟩ := pair
    simp only [keys_cons, List.mem_cons, not_or] at h
    rw [List.cons_append, lookup?, if_neg (Ne.symm h.1), ih h.2]

/-- Members that bind some of a list of names, in the order of the list, are those names with their
values. -/
theorem eq_filterMap_of_sublist {names : List String} {members : Members α} (hnodup : names.Nodup)
    (h : (keys members).Sublist names) :
    members =
      names.filterMap fun name => (lookup? members name).map fun value => (name, value) := by
  induction names generalizing members with
  | nil =>
    have hnil : members = [] := by simpa [keys] using h
    simp [hnil]
  | cons name names ih =>
    obtain ⟨hnew, hnames⟩ := List.nodup_cons.mp hnodup
    rcases List.sublist_cons_iff.mp h with hskip | ⟨others, heq, hothers⟩
    · have hunbound : lookup? members name = none :=
        lookup?_eq_none_iff.mpr fun hmem => hnew (hskip.subset hmem)
      rw [List.filterMap_cons, hunbound]
      exact ih hnames hskip
    · cases members with
      | nil => simp at heq
      | cons pair rest =>
        obtain ⟨first, value⟩ := pair
        obtain ⟨rfl, rfl⟩ : first = name ∧ keys rest = others := by simpa using heq
        have hrest : (names.filterMap fun other =>
              (lookup? ((first, value) :: rest) other).map fun value => (other, value)) =
            names.filterMap fun other => (lookup? rest other).map fun value => (other, value) := by
          refine List.filterMap_congr fun other hother => ?_
          have hne : first ≠ other := fun heq => hnew (heq ▸ hother)
          rw [lookup?, if_neg hne]
        rw [List.filterMap_cons, hrest, ← ih hnames hothers]
        simp [lookup?]

/-- Members with the same names in the same order and the same bindings are the same. -/
theorem eq_of_keys_eq {members others : Members α} (hdistinct : Distinct members)
    (hkeys : keys members = keys others)
    (hmem : ∀ key value, (key, value) ∈ members ↔ (key, value) ∈ others) : members = others := by
  have hothers : Distinct others := by rwa [Distinct, ← hkeys]
  have hlookup : ∀ key, lookup? members key = lookup? others key := by
    intro key
    apply Option.ext
    intro value
    rw [lookup?_eq_some_iff hdistinct, lookup?_eq_some_iff hothers, hmem]
  calc members
      = (keys others).filterMap fun name => (lookup? members name).map fun value => (name, value) :=
        eq_filterMap_of_sublist hothers (hkeys ▸ List.Sublist.refl (keys members))
    _ = (keys others).filterMap fun name =>
          (lookup? others name).map fun value => (name, value) := by simp only [hlookup]
    _ = others := (eq_filterMap_of_sublist hothers (List.Sublist.refl (keys others))).symm

/-- Binding other names changes nothing for a name. -/
theorem lookup?_putAll_of_not_mem (members : Members α) {pairs : List (String × α)} {key : String}
    (h : key ∉ keys pairs) : lookup? (putAll members pairs) key = lookup? members key := by
  induction pairs generalizing members with
  | nil => rfl
  | cons pair rest ih =>
    simp only [keys_cons, List.mem_cons, not_or] at h
    rw [putAll_cons, ih _ h.2, lookup?_put, if_neg (Ne.symm h.1)]

/-- Binding different names one after another replaces what was bound to them. -/
theorem lookup?_putAll_of_mem (members : Members α) {pairs : Members α} (hdistinct : Distinct pairs)
    {key : String} (h : key ∈ keys pairs) :
    lookup? (putAll members pairs) key = lookup? pairs key := by
  induction pairs generalizing members with
  | nil => simp at h
  | cons pair rest ih =>
    obtain ⟨name, value⟩ := pair
    obtain ⟨hnew, hrest⟩ := List.nodup_cons.mp hdistinct
    rw [putAll_cons]
    by_cases hname : name = key
    · subst hname
      rw [lookup?_putAll_of_not_mem _ hnew, lookup?_put, lookup?, if_pos rfl, if_pos rfl]
    · have hmem : key ∈ keys rest := by simpa [Ne.symm hname] using h
      rw [ih _ hrest hmem, lookup?, if_neg hname]

/-- Members that agree name by name have the same names and agree value by value, once they are put
in the same order. -/
theorem exists_perm_of_rel {β : Type} {r : α → β → Prop} {members : Members α} {others : Members β}
    (hdistinct : Distinct members) (hothers : Distinct others)
    (hrel : ∀ key, Option.Rel r (lookup? members key) (lookup? others key)) :
    ∃ sorted, members.Perm sorted ∧ keys sorted = keys others ∧
      List.Forall₂ r (sorted.map Prod.snd) (others.map Prod.snd) := by
  have hpartner : ∀ other ∈ others, ∃ pair : String × α,
      pair.1 = other.1 ∧ lookup? members other.1 = some pair.2 ∧ r pair.2 other.2 := by
    intro other hmem
    have hsome := hrel other.1
    rw [(lookup?_eq_some_iff hothers).mpr hmem] at hsome
    cases hlookup : lookup? members other.1 with
    | none => simp [hlookup] at hsome
    | some value => exact ⟨(other.1, value), rfl, rfl, by simpa [hlookup] using hsome⟩
  obtain ⟨sorted, hsorted⟩ := exists_forall₂_iff.mpr hpartner
  have hkeys : keys others = keys sorted := map_eq_of_forall₂ hsorted fun _ _ _ h => h.1.symm
  have hvalues : List.Forall₂ r (sorted.map Prod.snd) (others.map Prod.snd) := by
    rw [List.forall₂_map_left_iff, List.forall₂_map_right_iff]
    exact List.Forall₂.flip (forall₂_of_forall₂ hsorted fun _ _ _ _ h => h.2.2)
  refine ⟨sorted, ?_, hkeys.symm, hvalues⟩
  have hnodup : sorted.Nodup := List.Nodup.of_map Prod.fst (hkeys ▸ hothers : (keys sorted).Nodup)
  rw [List.perm_ext_iff_of_nodup (List.Nodup.of_map Prod.fst hdistinct) hnodup]
  intro pair
  constructor
  · intro hmem
    have hvalue := (lookup?_eq_some_iff hdistinct).mpr hmem
    have hsome := hrel pair.1
    rw [hvalue] at hsome
    cases hother : lookup? others pair.1 with
    | none => simp [hother] at hsome
    | some value =>
      obtain ⟨found, hfound, hname, hlookup, -⟩ :=
        exists_right_of_forall₂ hsorted (mem_of_lookup? hother)
      have heq : found = pair := by
        apply Prod.ext hname
        simpa [hvalue, eq_comm] using hlookup
      exact heq ▸ hfound
  · intro hmem
    obtain ⟨other, -, hname, hlookup, -⟩ := exists_left_of_forall₂ hsorted hmem
    rw [← hname] at hlookup
    exact mem_of_lookup? hlookup

/-! ## The last binding of a name -/

/-- If some entry of a list has a property, one of them is the last that has it. -/
theorem exists_last {β : Type} {p : β → Prop} {list : List β} (h : ∃ x ∈ list, p x) :
    ∃ before x after, list = before ++ x :: after ∧ p x ∧ ∀ later ∈ after, ¬ p later := by
  induction list with
  | nil =>
    obtain ⟨x, hmem, -⟩ := h
    contradiction
  | cons first rest ih =>
    by_cases hrest : ∃ x ∈ rest, p x
    · obtain ⟨before, x, after, rfl, hx, hlast⟩ := ih hrest
      exact ⟨first :: before, x, after, rfl, hx, hlast⟩
    · have hnone : ∀ later ∈ rest, ¬ p later := fun later hmem hlater => hrest ⟨later, hmem, hlater⟩
      have hfirst : p first := by
        obtain ⟨x, hmem, hx⟩ := h
        rcases List.mem_cons.mp hmem with rfl | hmem
        · exact hx
        · exact absurd hx (hnone x hmem)
      exact ⟨[], first, rest, rfl, hfirst, hnone⟩

theorem lookup?_ofPairs_of_last (before : List (String × α)) {after : List (String × α)}
    {key : String} (value : α) (h : key ∉ keys after) :
    lookup? (ofPairs (before ++ (key, value) :: after)) key = some value := by
  rw [ofPairs, putAll_append, putAll_cons, lookup?_putAll_of_not_mem _ h, lookup?_put, if_pos rfl]

/-- Of the pairs with one name, the last is bound. -/
theorem mem_ofPairs_iff {pairs : List (String × α)} {key : String} {value : α} :
    (key, value) ∈ ofPairs pairs ↔
      ∃ before after, pairs = before ++ (key, value) :: after ∧ key ∉ keys after := by
  rw [← lookup?_eq_some_iff (distinct_ofPairs pairs)]
  constructor
  · intro hlookup
    have hkey : key ∈ keys ([] : Members α) ∨ key ∈ keys pairs :=
      mem_keys_putAll.mp (mem_keys_of_mem (mem_of_lookup? hlookup))
    have hpair : ∃ pair ∈ pairs, pair.1 = key := by simpa [keys] using hkey
    obtain ⟨before, ⟨name, last⟩, after, rfl, rfl, hlast⟩ := exists_last hpair
    have hnew : name ∉ keys after := by
      intro hmem
      obtain ⟨later, hlater, heq⟩ := List.mem_map.mp hmem
      exact hlast later hlater heq
    obtain rfl : last = value := by simpa [lookup?_ofPairs_of_last _ _ hnew] using hlookup
    exact ⟨before, after, rfl, hnew⟩
  · rintro ⟨before, after, rfl, hnew⟩
    exact lookup?_ofPairs_of_last before value hnew

/-- Where pairs are read from the entries of a list, the last entry with a name decides. -/
theorem mem_ofPairs_filterMap_iff {β : Type} {read : β → Option (String × α)} {entries : List β}
    {key : String} {value : α} :
    (key, value) ∈ ofPairs (entries.filterMap read) ↔
      ∃ before entry after, entries = before ++ entry :: after ∧ read entry = some (key, value) ∧
        ∀ later ∈ after, (read later).map Prod.fst ≠ some key := by
  have hnew : ∀ after : List β, key ∉ keys (after.filterMap read) ↔
      ∀ later ∈ after, (read later).map Prod.fst ≠ some key := by
    intro after
    simp [keys, List.map_filterMap]
  rw [mem_ofPairs_iff]
  constructor
  · rintro ⟨first, rest, hpairs, hlast⟩
    obtain ⟨start, others, rfl, -, hothers⟩ := List.filterMap_eq_append_iff.mp hpairs
    obtain ⟨skipped, entry, after, rfl, -, hentry, rfl⟩ := List.filterMap_eq_cons_iff.mp hothers
    refine ⟨start ++ skipped, entry, after, by simp, hentry, (hnew after).mp hlast⟩
  · rintro ⟨before, entry, after, rfl, hentry, hlast⟩
    refine ⟨before.filterMap read, after.filterMap read, ?_, (hnew after).mpr hlast⟩
    rw [List.filterMap_append, List.filterMap_cons_some hentry]

/-! ## Binding again -/

theorem put_put (members : Members α) (key : String) (old value : α) :
    put (put members key old) key value = put members key value := by
  induction members with
  | nil => simp [put]
  | cons pair rest ih =>
    obtain ⟨name, first⟩ := pair
    by_cases hname : name = key
    · simp [put, hname]
    · simp [put, hname, ih]

/-- A name that is bound already keeps its place, so another name can be bound before or after. -/
theorem put_comm_of_mem {members : Members α} {key other : String} (hkey : key ∈ keys members)
    (hne : key ≠ other) (value new : α) :
    put (put members key value) other new = put (put members other new) key value := by
  induction members with
  | nil => simp at hkey
  | cons pair rest ih =>
    obtain ⟨name, first⟩ := pair
    by_cases hname : name = key
    · subst hname
      simp [put, hne]
    · have hrest : key ∈ keys rest := by simpa [Ne.symm hname] using hkey
      by_cases hother : name = other
      · subst hother
        simp [put, hname]
      · simp [put, hname, hother, ih hrest]

theorem putAll_put_of_not_mem {members : Members α} {pairs : List (String × α)} {key : String}
    (hkey : key ∈ keys members) (hnew : key ∉ keys pairs) (value : α) :
    putAll (put members key value) pairs = put (putAll members pairs) key value := by
  induction pairs generalizing members with
  | nil => rfl
  | cons pair rest ih =>
    simp only [keys_cons, List.mem_cons, not_or] at hnew
    have hbound : key ∈ keys (put members pair.1 pair.2) := by
      have hall : key ∈ keys (putAll members [pair]) := mem_keys_putAll.mpr (.inl hkey)
      exact hall
    rw [putAll_cons, putAll_cons, put_comm_of_mem hkey hnew.1]
    exact ih hbound hnew.2

/-- Binding a name in a list of members and then binding all of them is binding all of them and
then the name. -/
theorem putAll_put (members : Members α) {bound : Members α} (hdistinct : Distinct bound)
    (key : String) (value : α) :
    putAll members (put bound key value) = put (putAll members bound) key value := by
  induction bound generalizing members with
  | nil => rfl
  | cons pair rest ih =>
    obtain ⟨name, old⟩ := pair
    obtain ⟨hnew, hrest⟩ := List.nodup_cons.mp hdistinct
    by_cases hname : name = key
    · subst hname
      -- The name has its place before the rest is bound, so its new value can wait until after it.
      have hbound : name ∈ keys (put members name old) := by
        rw [keys_put]
        by_cases hmem : name ∈ keys members <;> simp [hmem]
      rw [put, if_pos rfl, putAll_cons, putAll_cons, ← putAll_put_of_not_mem hbound hnew, put_put]
    · rw [put, if_neg hname, putAll_cons, putAll_cons]
      exact ih _ hrest

/-- Pairs can be merged among themselves first. -/
theorem putAll_ofPairs (members : Members α) (pairs : List (String × α)) :
    putAll members (ofPairs pairs) = putAll members pairs := by
  induction pairs using List.reverseRecOn with
  | nil => rfl
  | append_singleton pairs pair ih =>
    have hlast : ofPairs (pairs ++ [pair]) = put (ofPairs pairs) pair.1 pair.2 :=
      putAll_append [] pairs [pair]
    rw [hlast, putAll_put members (distinct_ofPairs pairs), ih, putAll_append, putAll_cons,
      putAll_nil]

/-! ## Names in the order in which they first appear -/

theorem keys_put_eq_eraseDups {members : Members α} {names : List String}
    (h : keys members = names.eraseDups) (key : String) (value : α) :
    keys (put members key value) = (names ++ [key]).eraseDups := by
  rw [keys_put, h, List.eraseDups_append]
  by_cases hmem : key ∈ names <;> simp [hmem, List.removeAll, List.eraseDups_cons]

theorem keys_ofPairs (pairs : List (String × α)) :
    keys (ofPairs pairs) = (keys pairs).eraseDups := by
  induction pairs using List.reverseRecOn with
  | nil => rfl
  | append_singleton pairs pair ih =>
    rw [ofPairs, putAll_append, keys_append]
    exact keys_put_eq_eraseDups ih pair.1 pair.2

end DocumentSearch.Members

namespace DocumentSearch.Record

/-- The members of a record describe it. -/
theorem ofPairs_members {α : Type} (record : Record α) : ofPairs record.members = record :=
  Record.ext (Members.ofPairs_of_distinct record.distinct)

end DocumentSearch.Record
