import Mathlib.Data.List.Forall2

/-! Lists whose elements belong together, one by one and in order. -/

namespace DocumentSearch

variable {α β γ : Type} {r : α → β → Prop} {as : List α} {bs : List β}

/-- Where the elements of two lists belong together, each of the second belongs to one of the first.
-/
theorem exists_left_of_forall₂ {b : β} (h : List.Forall₂ r as bs) (hmem : b ∈ bs) :
    ∃ a ∈ as, r a b := by
  induction h with
  | nil => simp at hmem
  | cons hr hrest ih =>
    rcases List.mem_cons.mp hmem with rfl | hmem
    · exact ⟨_, List.mem_cons_self, hr⟩
    · obtain ⟨a, ha, hab⟩ := ih hmem
      exact ⟨a, List.mem_cons_of_mem _ ha, hab⟩

theorem exists_right_of_forall₂ {a : α} (h : List.Forall₂ r as bs) (hmem : a ∈ as) :
    ∃ b ∈ bs, r a b :=
  exists_left_of_forall₂ (List.Forall₂.flip h) hmem

/-- A list has a partner exactly if each of its elements has one. -/
theorem exists_forall₂_iff : (∃ bs, List.Forall₂ r as bs) ↔ ∀ a ∈ as, ∃ b, r a b := by
  induction as with
  | nil => simp
  | cons a rest ih =>
    rw [List.forall_mem_cons, ← ih]
    constructor
    · rintro ⟨bs, h⟩
      cases h with
      | cons hab hrest => exact ⟨⟨_, hab⟩, _, hrest⟩
    · rintro ⟨⟨b, hab⟩, bs, hrest⟩
      exact ⟨b :: bs, .cons hab hrest⟩

/-- What relates the elements of one list to those of another may be replaced by what follows from
it for each element. -/
theorem forall₂_of_forall₂ {s : α → β → Prop} (h : List.Forall₂ r as bs)
    (hrs : ∀ a ∈ as, ∀ b ∈ bs, r a b → s a b) : List.Forall₂ s as bs := by
  induction h with
  | nil => exact .nil
  | cons hab _ ih =>
    exact .cons (hrs _ List.mem_cons_self _ List.mem_cons_self hab) (ih fun a ha b hb =>
      hrs a (List.mem_cons_of_mem _ ha) b (List.mem_cons_of_mem _ hb))

/-- What is the same for elements that belong together is the same for the lists. -/
theorem map_eq_of_forall₂ {f : α → γ} {g : β → γ} (h : List.Forall₂ r as bs)
    (heq : ∀ a ∈ as, ∀ b, r a b → f a = g b) : as.map f = bs.map g := by
  induction h with
  | nil => rfl
  | cons hab _ ih =>
    rw [List.map_cons, List.map_cons, heq _ List.mem_cons_self _ hab,
      ih fun a hmem => heq a (List.mem_cons_of_mem _ hmem)]

theorem filterMap_eq_of_forall₂ {f : α → Option γ} {g : β → Option γ} (h : List.Forall₂ r as bs)
    (heq : ∀ a ∈ as, ∀ b, r a b → f a = g b) : as.filterMap f = bs.filterMap g := by
  have hmap := congrArg (List.filterMap id) (map_eq_of_forall₂ h heq)
  rwa [List.filterMap_map, List.filterMap_map] at hmap

/-- Lists that are read element by element are read exactly if each of their elements is. -/
theorem eq_ok_iff_forall₂ {ε : Type} {one : α → Except ε β} {each : List α → Except ε (List β)}
    (hnil : each [] = .ok [])
    (hcons : ∀ a rest, each (a :: rest) = (one a).bind fun b => (each rest).map (b :: ·)) :
    each as = .ok bs ↔ List.Forall₂ (fun a b => one a = .ok b) as bs := by
  induction as generalizing bs with
  | nil => simp [hnil, eq_comm]
  | cons a rest ih =>
    rw [hcons, List.forall₂_cons_left_iff]
    cases hone : one a with
    | error fault => simp [Except.bind]
    | ok b =>
      cases hrest : each rest with
      | error fault => simp [Except.bind, Except.map, ← ih, hrest]
      | ok others => simp [Except.bind, Except.map, ← ih, hrest, eq_comm]

end DocumentSearch
