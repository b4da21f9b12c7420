import Mathlib.Data.List.Forall2
import DocumentSearch.Command.Verb

/-! Words that can be read back. A command is a sequence of clauses without separators, so where a
clause ends shows only by what comes next. What is written is legible before some continuations if
equal texts mean the same and end at the same word; clauses put one after another stay legible as
long as the word that opens a clause is not one by which the clauses before it could go on. -/

namespace DocumentSearch.Command

variable {α β : Type} {first second : α → List String} {same same' : α → α → Prop}
  {next next' : List String → Prop}

/-- The texts of `write`, each followed by one of the continuations `next`, tell what they were
written for, up to `same`, and where they end. -/
def Legible (write : α → List String) (same : α → α → Prop) (next : List String → Prop) : Prop :=
  ∀ ⦃a b xs ys⦄, next xs → next ys → write a ++ xs = write b ++ ys → same a b ∧ xs = ys

/-- None of the words comes first. -/
def Avoids (words rest : List String) : Prop := ∀ word ∈ rest.head?, word ∉ words

/-- A text begins with one of the words. -/
def Opens (openers text : List String) : Prop := ∃ word ∈ openers, ∃ rest, text = word :: rest

theorem Legible.weaken (h : Legible first same next) (hsame : ∀ a b, same a b → same' a b) :
    Legible first same' next := by
  intro a b xs ys hx hy heq
  obtain ⟨hab, hrest⟩ := h hx hy heq
  exact ⟨hsame a b hab, hrest⟩

theorem Legible.append (hfirst : Legible first same next) (hsecond : Legible second same' next')
    (hnext : ∀ a xs, next' xs → next (second a ++ xs)) :
    Legible (fun a => first a ++ second a) (fun a b => same a b ∧ same' a b) next' := by
  intro a b xs ys hx hy h
  simp only [List.append_assoc] at h
  obtain ⟨hab, hrest⟩ := hfirst (hnext a xs hx) (hnext b ys hy) h
  obtain ⟨hab', hend⟩ := hsecond hx hy hrest
  exact ⟨⟨hab, hab'⟩, hend⟩

/-! ## Continuations -/

@[simp] theorem avoids_nil (words : List String) : Avoids words [] := by simp [Avoids]

@[simp] theorem avoids_cons (words : List String) (word : String) (rest : List String) :
    Avoids words (word :: rest) ↔ word ∉ words := by
  simp [Avoids]

theorem avoids_append_iff (words more rest : List String) :
    Avoids (words ++ more) rest ↔ Avoids words rest ∧ Avoids more rest := by
  cases rest <;> simp

theorem Avoids.append {words openers rest text : List String} (h : Avoids words rest)
    (hopens : text = [] ∨ Opens openers text) (hapart : List.Disjoint openers words) :
    Avoids words (text ++ rest) := by
  rcases hopens with rfl | ⟨word, hmem, tail, rfl⟩
  · exact h
  · simpa using hapart hmem

theorem opens_cons (word : String) (rest : List String) : Opens [word] (word :: rest) :=
  ⟨word, by simp, rest, rfl⟩

/-! ## Single clauses -/

/-- Numbers are told apart by their digits. -/
theorem toString_nat_injective {m n : Nat} (h : toString m = toString n) : m = n := by
  have hdigits : Nat.toDigits 10 m = Nat.toDigits 10 n := by
    simpa using congrArg String.toList h
  have := congrArg (fun digits => Nat.ofDigitChars 10 digits 0) hdigits
  simpa using this

/-- Options whose words agree are equal. -/
theorem eq_of_map_word_eq [Vocabulary α] {a b : Option α}
    (h : a.map Vocabulary.word = b.map Vocabulary.word) : a = b :=
  Option.map_injective (fun _ _ => Vocabulary.word_injective) h

theorem legible_word (word : String) (next : List String → Prop) :
    Legible (fun _ : α => [word]) (fun _ _ => True) next := by
  intro a b xs ys _ _ h
  simpa using h

theorem legible_pair (word : String) (argument : α → String) (next : List String → Prop) :
    Legible (fun a => [word, argument a]) (fun a b => argument a = argument b) next := by
  intro a b xs ys _ _ h
  simpa using h

theorem legible_counted (words : α → List String) (next : List String → Prop) :
    Legible (fun a => counted (words a)) (fun a b => words a = words b) next := by
  intro a b xs ys _ _ h
  simp only [counted, List.cons_append, List.cons.injEq] at h
  exact List.append_inj h.2 (toString_nat_injective h.1)

/-! ## Clauses that may be left out -/

theorem opens_option {openers : List String} {write : β → List String}
    (hopens : ∀ b, Opens openers (write b)) (part? : Option β) :
    part?.toList.flatMap write = [] ∨ Opens openers (part?.toList.flatMap write) := by
  cases part? with
  | none => exact .inl rfl
  | some b => exact .inr (by simpa using hopens b)

/-- Whether a clause was left out shows by the first word, unless what follows opens like it. -/
theorem legible_option {openers words : List String} {write : β → List String}
    {same : β → β → Prop} (hlegible : Legible write same (Avoids words))
    (hopens : ∀ b, Opens openers (write b)) (part? : α → Option β) :
    Legible (fun a => (part? a).toList.flatMap write)
      (fun a b => Option.Rel same (part? a) (part? b)) (Avoids (openers ++ words)) := by
  intro a b xs ys hx hy h
  obtain ⟨hxopeners, hxwords⟩ := (avoids_append_iff openers words xs).mp hx
  obtain ⟨hyopeners, hywords⟩ := (avoids_append_iff openers words ys).mp hy
  change Option.Rel same (part? a) (part? b) ∧ xs = ys
  cases ha : part? a with
  | none =>
    cases hb : part? b with
    | none => exact ⟨.none, by simpa [ha, hb] using h⟩
    | some d =>
      obtain ⟨word, hword, rest, hrest⟩ := hopens d
      have hxs : xs = word :: (rest ++ ys) := by simpa [ha, hb, hrest] using h
      simp [hxs, hword] at hxopeners
  | some c =>
    cases hb : part? b with
    | none =>
      obtain ⟨word, hword, rest, hrest⟩ := hopens c
      have hys : word :: (rest ++ xs) = ys := by simpa [ha, hb, hrest] using h
      simp [← hys, hword] at hyopeners
    | some d =>
      have hcd : write c ++ xs = write d ++ ys := by simpa [ha, hb] using h
      obtain ⟨hsame, hrest⟩ := hlegible hxwords hywords hcd
      exact ⟨.some hsame, hrest⟩

theorem eq_of_option_rel {a b : Option β} (h : Option.Rel Eq a b) : a = b := by
  cases h with
  | none => rfl
  | some h => rw [h]

theorem legible_wordIf (word : String) (condition : α → Bool) :
    Legible (fun a => wordIf (condition a) word) (fun a b => condition a = condition b)
      (Avoids [word]) := by
  have hword : ∀ condition : Bool, wordIf condition word =
      (if condition then some () else none).toList.flatMap fun _ => [word] := by
    intro condition
    cases condition <;> rfl
  simp only [hword]
  refine (legible_option (legible_word word (Avoids [])) (fun _ => opens_cons word [])
    (fun a => if condition a then some () else none)).weaken ?_
  intro a b h
  cases ha : condition a <;> cases hb : condition b <;> simp [ha, hb] at h ⊢

theorem legible_clause (word : String) (argument? : α → Option String) :
    Legible (fun a => clause word (argument? a)) (fun a b => argument? a = argument? b)
      (Avoids [word]) := by
  have hclause : ∀ argument? : Option String, clause word argument? =
      argument?.toList.flatMap fun argument => [word, argument] := by
    intro argument?
    cases argument? <;> rfl
  simp only [hclause]
  exact (legible_option (legible_pair word id (Avoids []))
    (fun argument => opens_cons word [argument]) argument?).weaken fun _ _ => eq_of_option_rel

theorem opens_wordIf (word : String) (condition : Bool) :
    wordIf condition word = [] ∨ Opens [word] (wordIf condition word) := by
  cases condition
  · exact .inl rfl
  · exact .inr (opens_cons word [])

theorem opens_clause (word : String) (argument? : Option String) :
    clause word argument? = [] ∨ Opens [word] (clause word argument?) := by
  cases argument? with
  | none => exact .inl rfl
  | some argument => exact .inr (opens_cons word [argument])

/-! ## Clauses one after another -/

variable {word : String} {words more openers : List String}

/-- A clause that is always there: what comes after it need not regard those before it. -/
theorem Legible.then (hfirst : Legible first same (Avoids words))
    (hsecond : Legible second same' next) (hopens : ∀ a, ∃ rest, second a = word :: rest)
    (hword : word ∉ words) :
    Legible (fun a => first a ++ second a) (fun a b => same a b ∧ same' a b) next := by
  refine hfirst.append hsecond ?_
  intro a xs _
  obtain ⟨rest, hrest⟩ := hopens a
  simpa [hrest] using hword

/-- A clause that may be left out: what comes after it must not go on with those before it. -/
theorem Legible.thenOption (hfirst : Legible first same (Avoids words))
    (hsecond : Legible second same' (Avoids more))
    (hopens : ∀ a, second a = [] ∨ Opens openers (second a))
    (hapart : List.Disjoint openers words) :
    Legible (fun a => first a ++ second a) (fun a b => same a b ∧ same' a b)
      (Avoids (words ++ more)) := by
  intro a b xs ys hx hy h
  obtain ⟨hxwords, hxmore⟩ := (avoids_append_iff words more xs).mp hx
  obtain ⟨hywords, hymore⟩ := (avoids_append_iff words more ys).mp hy
  simp only [List.append_assoc] at h
  obtain ⟨hab, hrest⟩ :=
    hfirst (hxwords.append (hopens a) hapart) (hywords.append (hopens b) hapart) h
  obtain ⟨hab', hend⟩ := hsecond hxmore hymore hrest
  exact ⟨⟨hab, hab'⟩, hend⟩

theorem Legible.thenWordIf (hfirst : Legible first same (Avoids words)) (condition : α → Bool)
    (hword : word ∉ words) :
    Legible (fun a => first a ++ wordIf (condition a) word)
      (fun a b => same a b ∧ condition a = condition b) (Avoids (words ++ [word])) :=
  hfirst.thenOption (legible_wordIf word condition) (fun a => opens_wordIf word (condition a))
    (by simpa using hword)

theorem Legible.thenClause (hfirst : Legible first same (Avoids words))
    (argument? : α → Option String) (hword : word ∉ words) :
    Legible (fun a => first a ++ clause word (argument? a))
      (fun a b => same a b ∧ argument? a = argument? b) (Avoids (words ++ [word])) :=
  hfirst.thenOption (legible_clause word argument?) (fun a => opens_clause word (argument? a))
    (by simpa using hword)

theorem Legible.thenPart {write : β → List String} {samePart : β → β → Prop}
    (hfirst : Legible first same (Avoids words)) (hpart : Legible write samePart (Avoids more))
    (part? : α → Option β) (hopens : ∀ b, Opens openers (write b))
    (hapart : List.Disjoint openers words) :
    Legible (fun a => first a ++ (part? a).toList.flatMap write)
      (fun a b => same a b ∧ Option.Rel samePart (part? a) (part? b))
      (Avoids (words ++ (openers ++ more))) :=
  hfirst.thenOption (legible_option hpart hopens part?) (fun a => opens_option hopens (part? a))
    hapart

/-! ## Groups up to the end -/

theorem avoids_flatMap {write : α → List String} {words : List String} {as : List α}
    (has : ∀ a ∈ as, ∃ first rest, write a = first :: rest ∧ first ∉ words) :
    Avoids words (as.flatMap write) := by
  cases as with
  | nil => simp
  | cons a as =>
    obtain ⟨first, rest, hwrite, hfirst⟩ := has a (by simp)
    simp [hwrite, hfirst]

/-- Groups that are written one after another up to the end are told apart, if none of them looks
like a continuation of the one before it. -/
theorem Legible.forall₂_of_flatMap_eq {write : α → List String} {same : α → α → Prop}
    {words : List String} (h : Legible write same (Avoids words)) {as bs : List α}
    (has : ∀ a ∈ as, ∃ first rest, write a = first :: rest ∧ first ∉ words)
    (hbs : ∀ b ∈ bs, ∃ first rest, write b = first :: rest ∧ first ∉ words)
    (heq : as.flatMap write = bs.flatMap write) : List.Forall₂ same as bs := by
  induction as generalizing bs with
  | nil =>
    cases bs with
    | nil => exact .nil
    | cons b bs =>
      obtain ⟨first, rest, hwrite, _⟩ := hbs b (by simp)
      simp [hwrite] at heq
  | cons a as ih =>
    cases bs with
    | nil =>
      obtain ⟨first, rest, hwrite, _⟩ := has a (by simp)
      simp [hwrite] at heq
    | cons b bs =>
      have has' := fun c hmem => has c (List.mem_cons_of_mem a hmem)
      have hbs' := fun c hmem => hbs c (List.mem_cons_of_mem b hmem)
      simp only [List.flatMap_cons] at heq
      obtain ⟨hsame, hrest⟩ := h (avoids_flatMap has') (avoids_flatMap hbs') heq
      exact .cons hsame (ih has' hbs' hrest)

end DocumentSearch.Command
