import Mathlib.Data.List.TakeWhile
import DocumentSearch.Reply.Count

/-! Counts given as texts. A text is white space, a sign, digits and a rest, and only the sign and
the digits decide what is counted. The reader that cuts the text at byte offsets finds the same
number and never cuts inside a character. Every signed 64-bit number is read back, as a number and
as a text. -/

namespace DocumentSearch.Reply

/-! ## The parts of a text -/

/-- A text is white space, at most one sign, digits and a rest, each part as long as it can be. -/
structure Parted (s : String) (blanks sign digits rest : List Char) : Prop where
  text : s.toList = blanks ++ (sign ++ (digits ++ rest))
  isBlank : ∀ c ∈ blanks, Text.isBlank c = true
  blanks_end : ∀ c ∈ (sign ++ (digits ++ rest)).head?, Text.isBlank c = false
  isSign : sign = [] ∨ sign = ['-'] ∨ sign = ['+']
  sign_end : sign = [] → ∀ c ∈ (digits ++ rest).head?, c ≠ '-' ∧ c ≠ '+'
  isDigit : ∀ c ∈ digits, c.isDigit = true
  digits_end : ∀ c ∈ rest.head?, c.isDigit = false

/-- The number that a sign and decimal digits write. -/
def decimal (sign digits : List Char) : Int :=
  if sign = ['-'] then -(Nat.ofDigitChars 10 digits 0 : Int) else Nat.ofDigitChars 10 digits 0

/-- A run ends where it is said to end, if what follows does not go on with it. -/
theorem span_append {p : Char → Bool} {run rest : List Char} (hrun : ∀ c ∈ run, p c = true)
    (hend : ∀ c ∈ rest.head?, p c = false) :
    (run ++ rest).takeWhile p = run ∧ (run ++ rest).dropWhile p = rest := by
  rw [List.takeWhile_append_of_pos hrun, List.dropWhile_append_of_pos hrun]
  cases rest with
  | nil => simp
  | cons c rest =>
    have hc : p c = false := hend c rfl
    simp [hc]

theorem eq_false_of_head?_dropWhile {p : Char → Bool} {chars : List Char} {c : Char}
    (h : c ∈ (chars.dropWhile p).head?) : p c = false := by
  have hhead := List.head?_dropWhile_not p chars
  rw [Option.mem_def.mp h] at hhead
  exact hhead

theorem exists_sign (chars : List Char) :
    ∃ sign rest, chars = sign ++ rest ∧ (sign = [] ∨ sign = ['-'] ∨ sign = ['+']) ∧
      (sign = [] → ∀ c ∈ rest.head?, c ≠ '-' ∧ c ≠ '+') := by
  by_cases hsign : ∃ c ∈ chars.head?, c = '-' ∨ c = '+'
  · obtain ⟨c, hhead, hc⟩ := hsign
    obtain ⟨rest, rfl⟩ := List.head?_eq_some_iff.mp hhead
    exact ⟨[c], rest, rfl, .inr (by simpa using hc), by simp⟩
  · refine ⟨[], chars, rfl, .inl rfl, fun _ c hhead => ?_⟩
    exact not_or.mp fun hc => hsign ⟨c, hhead, hc⟩

/-- Every text has its parts. -/
theorem exists_parted (s : String) :
    ∃ blanks sign digits rest, Parted s blanks sign digits rest := by
  obtain ⟨sign, after, hafter, hsign, hend⟩ := exists_sign (s.toList.dropWhile Text.isBlank)
  have hdigits : after.takeWhile Char.isDigit ++ after.dropWhile Char.isDigit = after :=
    List.takeWhile_append_dropWhile
  refine ⟨s.toList.takeWhile Text.isBlank, sign, after.takeWhile Char.isDigit,
    after.dropWhile Char.isDigit, ?_, ?_, ?_, hsign, ?_, ?_, ?_⟩
  · rw [hdigits, ← hafter, List.takeWhile_append_dropWhile]
  · exact fun c => List.mem_takeWhile_imp
  · rw [hdigits, ← hafter]
    exact fun c => eq_false_of_head?_dropWhile
  · rw [hdigits]
    exact hend
  · exact fun c => List.mem_takeWhile_imp
  · exact fun c => eq_false_of_head?_dropWhile

/-! ## What is counted -/

theorem fitsInt64_iff (n : Int) :
    fitsInt64 n = true ↔ Int64.minValue.toInt ≤ n ∧ n ≤ Int64.maxValue.toInt := by
  rw [fitsInt64, Bool.and_eq_true, decide_eq_true_iff, decide_eq_true_iff]
  exact and_congr_right fun _ => (Int.le_sub_one_iff).symm

theorem clampInt64_of_fits {n : Int} (h : fitsInt64 n = true) : clampInt64 n = n := by
  simp only [fitsInt64, Bool.and_eq_true, decide_eq_true_iff] at h
  rw [clampInt64]
  omega

theorem splitSign_append {sign more : List Char}
    (hsign : sign = [] ∨ sign = ['-'] ∨ sign = ['+'])
    (hend : sign = [] → ∀ c ∈ more.head?, c ≠ '-' ∧ c ≠ '+') :
    Text.splitSign (sign ++ more) = (decide (sign = ['-']), more) := by
  rcases hsign with rfl | rfl | rfl
  · cases more with
    | nil => rfl
    | cons c more =>
      obtain ⟨hminus, hplus⟩ := hend rfl c rfl
      rw [List.nil_append, Text.splitSign.eq_def]
      split
      · next heq => exact absurd (List.cons.inj heq).1 hminus
      · next heq => exact absurd (List.cons.inj heq).1 hplus
      · rfl
  · rfl
  · rfl

theorem signed_digitsValue (sign digits : List Char) :
    Text.signed (decide (sign = ['-'])) (Text.digitsValue digits) = decimal sign digits := by
  simp only [Text.signed, decide_eq_true_iff]
  rfl

section Parted

variable {s : String} {blanks sign digits rest : List Char}

theorem Parted.dropWhile_isBlank (h : Parted s blanks sign digits rest) :
    s.toList.dropWhile Text.isBlank = sign ++ (digits ++ rest) := by
  rw [h.text]
  exact (span_append h.isBlank h.blanks_end).2

/-- A text is counted by its sign and digits alone. -/
theorem leadingInt?_of_parted (h : Parted s blanks sign digits rest) :
    leadingInt? s =
      if digits ≠ [] ∧ fitsInt64 (decimal sign digits) = true then some (decimal sign digits)
      else none := by
  have hdigits : (digits ++ rest).takeWhile Char.isDigit = digits :=
    (span_append h.isDigit h.digits_end).1
  simp only [leadingInt?, h.dropWhile_isBlank, splitSign_append h.isSign h.sign_end, hdigits,
    signed_digitsValue]
  by_cases hempty : digits = []
  · simp [hempty]
  · cases hfits : fitsInt64 (decimal sign digits) <;> simp [hempty]

end Parted

/-! ## Cutting at byte offsets -/

/-- What is before and after a byte offset of a text. There is no cut past the end of the text, and
none inside a character. -/
def cutAt? (text : String) (offset : Nat) : Option (String × String) :=
  if h : (String.Pos.Raw.mk offset).IsValid text then
    some ((text.sliceTo (text.pos ⟨offset⟩ h)).copy, (text.sliceFrom (text.pos ⟨offset⟩ h)).copy)
  else none

/-- How many bytes the sign in front of a text takes. -/
def signWidth (text : String) : Nat :=
  if text.toList.head? = some '-' ∨ text.toList.head? = some '+' then 1 else 0

/-- The byte offset in a text at which its number ends: the first character that is no digit is
looked for after the sign, and its offset is counted from there. -/
def numberEnd (text unsigned : String) : Nat :=
  match unsigned.find? fun c : Char => !c.isDigit with
  | some pos => pos.offset.byteIdx + signWidth text
  | none => text.utf8ByteSize

/-- The signed 64-bit number that a text is as a whole. -/
def wholeInt? (text : String) : Option Int :=
  let (negative, digits) := Text.splitSign text.toList
  let n := Text.signed negative (Text.digitsValue digits)
  if digits.isEmpty || !digits.all Char.isDigit || !fitsInt64 n then none else some n

/-- The number that a text begins with, cut out at byte offsets. There is no result if an offset is
inside a character. -/
def cutInt? (s : String) : Option (Option Int) :=
  let text := String.ofList (s.toList.dropWhile Text.isBlank)
  (cutAt? text (signWidth text)).bind fun parts =>
    (cutAt? text (numberEnd text parts.2)).map fun cut => wholeInt? cut.1

theorem cutAt?_append (first second : String) :
    cutAt? (first ++ second) first.utf8ByteSize = some (first, second) := by
  have hvalid : (String.Pos.Raw.mk first.utf8ByteSize).IsValid (first ++ second) :=
    String.Pos.Raw.isValid_iff_exists_append.mpr ⟨first, second, rfl, rfl⟩
  have hsplits : ((first ++ second).pos ⟨first.utf8ByteSize⟩ hvalid).Splits first second :=
    String.Pos.splits_append_rawEndPos
  rw [cutAt?, dif_pos hvalid, hsplits.copy_sliceTo_eq, hsplits.copy_sliceFrom_eq]

theorem signWidth_append {sign more : List Char} (hsign : sign = [] ∨ sign = ['-'] ∨ sign = ['+'])
    (hend : sign = [] → ∀ c ∈ more.head?, c ≠ '-' ∧ c ≠ '+') :
    signWidth (String.ofList (sign ++ more)) = (String.ofList sign).utf8ByteSize := by
  rw [signWidth, String.toList_ofList]
  rcases hsign with rfl | rfl | rfl
  · apply if_neg
    intro hhead
    rcases hhead with hminus | hplus
    · exact (hend rfl '-' hminus).1 rfl
    · exact (hend rfl '+' hplus).2 rfl
  · rfl
  · rfl

/-- The first character that is no digit is right after the digits, if there is one. -/
theorem find?_not_isDigit {digits rest : List Char} (hdigits : ∀ c ∈ digits, c.isDigit = true)
    (hend : ∀ c ∈ rest.head?, c.isDigit = false) :
    ((String.ofList (digits ++ rest)).find? fun c : Char => !c.isDigit).map (·.offset.byteIdx) =
      if rest = [] then none else some (String.ofList digits).utf8ByteSize := by
  cases rest with
  | nil =>
    rw [if_pos rfl, Option.map_eq_none_iff, Option.eq_none_iff_forall_ne_some]
    intro pos hfind
    obtain ⟨before, c, after, hsplits, hc, -⟩ := String.find?_bool_eq_some_iff_splits.mp hfind
    have htext : digits = before.toList ++ c :: after.toList := by
      simpa using congrArg String.toList hsplits.eq_append
    have hdigit : c.isDigit = true := hdigits c (by simp [htext])
    simp [hdigit] at hc
  | cons c after =>
    have htext : String.ofList (digits ++ c :: after) =
        String.ofList digits ++ (String.singleton c ++ String.ofList after) := by
      apply String.toList_injective
      simp
    have hc : (!c.isDigit) = true := by simpa using hend c rfl
    have hbefore : ∀ d ∈ (String.ofList digits).toList, (!d.isDigit) = false := by
      simpa using hdigits
    rw [htext, if_neg (List.cons_ne_nil c after),
      String.find?_bool_eq_some_iff_splits.mpr
        ⟨_, c, _, String.Pos.splits_append_rawEndPos, hc, hbefore⟩]
    rfl

theorem numberEnd_append {sign digits rest : List Char}
    (hwidth : signWidth (String.ofList (sign ++ (digits ++ rest))) =
      (String.ofList sign).utf8ByteSize)
    (hdigits : ∀ c ∈ digits, c.isDigit = true) (hend : ∀ c ∈ rest.head?, c.isDigit = false) :
    numberEnd (String.ofList (sign ++ (digits ++ rest))) (String.ofList (digits ++ rest)) =
      (String.ofList (sign ++ digits)).utf8ByteSize := by
  have hfind := find?_not_isDigit hdigits hend
  rw [numberEnd]
  cases hpos : (String.ofList (digits ++ rest)).find? fun c : Char => !c.isDigit with
  | none =>
    have hrest : rest = [] := by simpa [hpos] using hfind
    rw [hrest, List.append_nil]
  | some pos =>
    have hoffset : pos.offset.byteIdx = (String.ofList digits).utf8ByteSize := by
      by_cases hrest : rest = []
      · simp [hpos, hrest] at hfind
      · simpa [hpos, hrest] using hfind
    simp only [hoffset]
    rw [hwidth, String.ofList_append, String.utf8ByteSize_append, Nat.add_comm]

theorem wholeInt?_of_parted {s : String} {blanks sign digits rest : List Char}
    (h : Parted s blanks sign digits rest) :
    wholeInt? (String.ofList (sign ++ digits)) = leadingInt? s := by
  have hend : sign = [] → ∀ c ∈ digits.head?, c ≠ '-' ∧ c ≠ '+' := by
    intro hsign c hc
    apply h.sign_end hsign
    rw [List.head?_append, Option.mem_def.mp hc]
    rfl
  have hall : digits.all Char.isDigit = true := List.all_eq_true.mpr h.isDigit
  rw [leadingInt?_of_parted h, wholeInt?, String.toList_ofList,
    splitSign_append h.isSign hend]
  simp only [hall, signed_digitsValue]
  by_cases hempty : digits = []
  · simp [hempty]
  · cases hfits : fitsInt64 (decimal sign digits) <;> simp [hempty]

/-- Cutting at byte offsets never fails, and finds the number that the text begins with. -/
theorem cutInt?_eq (s : String) : cutInt? s = some (leadingInt? s) := by
  obtain ⟨blanks, sign, digits, rest, h⟩ := exists_parted s
  have hwidth := signWidth_append h.isSign h.sign_end
  have hstop := numberEnd_append hwidth h.isDigit h.digits_end
  have hsign : cutAt? (String.ofList (sign ++ (digits ++ rest))) (String.ofList sign).utf8ByteSize =
      some (String.ofList sign, String.ofList (digits ++ rest)) := by
    rw [String.ofList_append, cutAt?_append]
  have hnumber : cutAt? (String.ofList (sign ++ (digits ++ rest)))
      (String.ofList (sign ++ digits)).utf8ByteSize =
      some (String.ofList (sign ++ digits), String.ofList rest) := by
    rw [← List.append_assoc, String.ofList_append, cutAt?_append]
  simp only [cutInt?, h.dropWhile_isBlank, hwidth, hsign, Option.bind_some, hstop, hnumber,
    Option.map_some, wholeInt?_of_parted h]

/-! ## Every signed 64-bit number -/

theorem fitsInt64_toInt (n : Int64) : fitsInt64 n.toInt = true :=
  (fitsInt64_iff n.toInt).mpr ⟨n.minValue_le_toInt, n.toInt_le⟩

theorem isBlank_eq_false_of_isDigit {c : Char} (h : c.isDigit = true) :
    Text.isBlank c = false := by
  have hdigit : 48 ≤ c.toNat ∧ c.toNat ≤ 57 := by
    simpa [Char.isDigit, UInt32.le_iff_toNat_le] using h
  have hapart : ∀ range ∈ Text.blanks, range.2 < 48 ∨ 57 < range.1 := by decide
  rw [Text.isBlank, Text.CharSet.contains, List.any_eq_false]
  intro range hmem
  have := hapart range hmem
  simp only [Bool.and_eq_true, decide_eq_true_iff]
  omega

/-- A number is written as a minus sign, if it needs one, and its decimal digits. -/
theorem exists_toString (n : Int) :
    ∃ sign digits, (toString n).toList = sign ++ digits ∧ (sign = [] ∨ sign = ['-']) ∧
      digits ≠ [] ∧ (∀ c ∈ digits, c.isDigit = true) ∧ decimal sign digits = n := by
  have hdigits : ∀ m : Nat, Nat.toDigits 10 m ≠ [] ∧ (∀ c ∈ Nat.toDigits 10 m, c.isDigit = true) ∧
      Nat.ofDigitChars 10 (Nat.toDigits 10 m) 0 = m := fun m =>
    ⟨Nat.toDigits_ne_nil, fun c => Nat.isDigit_of_mem_toDigits (by decide) (by decide),
      Nat.ofDigitChars_toDigits (by decide) (by decide)⟩
  rw [Int.toString_eq_repr, Int.repr_eq_if]
  by_cases hn : 0 ≤ n
  · obtain ⟨hne, hall, hvalue⟩ := hdigits n.toNat
    refine ⟨[], Nat.toDigits 10 n.toNat, by simp [hn], .inl rfl, hne, hall, ?_⟩
    rw [decimal, if_neg (List.cons_ne_nil '-' []).symm, hvalue]
    exact Int.toNat_of_nonneg hn
  · obtain ⟨hne, hall, hvalue⟩ := hdigits (-n).toNat
    refine ⟨['-'], Nat.toDigits 10 (-n).toNat, by simp [hn], .inr rfl, hne, hall, ?_⟩
    rw [decimal, if_pos rfl, hvalue]
    omega

/-- A number in a text is read whatever white space is before it and whatever follows its digits. -/
theorem parted_toString (n : Int) {blanks rest : String}
    (hblanks : ∀ c ∈ blanks.toList, Text.isBlank c = true)
    (hrest : ∀ c ∈ rest.toList.head?, c.isDigit = false) :
    ∃ sign digits, Parted (blanks ++ toString n ++ rest) blanks.toList sign digits rest.toList ∧
      digits ≠ [] ∧ decimal sign digits = n := by
  obtain ⟨sign, digits, htext, hsign, hne, hdigits, hvalue⟩ := exists_toString n
  obtain ⟨first, others, rfl⟩ := List.exists_cons_of_ne_nil hne
  have hfirst : first.isDigit = true := hdigits first List.mem_cons_self
  refine ⟨sign, first :: others, ⟨?_, hblanks, ?_, ?_, ?_, hdigits, hrest⟩, hne, hvalue⟩
  · rw [String.toList_append, String.toList_append, htext]
    simp
  · rcases hsign with rfl | rfl
    · simpa using isBlank_eq_false_of_isDigit hfirst
    · intro c hc
      obtain rfl : '-' = c := by simpa using hc
      rfl
  · exact hsign.imp_right .inl
  · intro _ c hc
    obtain rfl : first = c := by simpa using hc
    have hne : ∀ other : Char, other.isDigit = false → first ≠ other := by
      intro other hother heq
      rw [heq, hother] at hfirst
      contradiction
    exact ⟨hne '-' rfl, hne '+' rfl⟩

/-- A text is white space, at most one sign, digits and a rest, and is counted as the number that
the sign and the digits write, if there is a digit and the number has 64 bits; otherwise it is no
count. The same comes out by cutting the text at byte offsets, and none of them is inside a
character. Every signed 64-bit number is counted as itself, as a number and as a text, with any
white space before it and anything but a digit after it. -/
theorem count?_eq_of_parted :
    (∀ s : String, ∃ blanks sign digits rest, Parted s blanks sign digits rest) ∧
    (∀ (s : String) (blanks sign digits rest : List Char), Parted s blanks sign digits rest →
      count? (.str s) =
        if digits ≠ [] ∧ Int64.minValue.toInt ≤ decimal sign digits ∧
            decimal sign digits ≤ Int64.maxValue.toInt then
          some (decimal sign digits)
        else none) ∧
    (∀ s : String, cutInt? s = some (count? (.str s))) ∧
    ∀ n : Int64, count? (.num (.int n.toInt)) = some n.toInt ∧
      ∀ blanks rest : String, (∀ c ∈ blanks.toList, Text.isBlank c = true) →
        (∀ c ∈ rest.toList.head?, c.isDigit = false) →
        count? (.str (blanks ++ toString n.toInt ++ rest)) = some n.toInt := by
  refine ⟨exists_parted, ?_, cutInt?_eq, fun n => ⟨?_, ?_⟩⟩
  · intro s blanks sign digits rest h
    rw [count?, leadingInt?_of_parted h]
    simp only [fitsInt64_iff]
  · rw [count?, clampInt64_of_fits (fitsInt64_toInt n)]
  · intro blanks rest hblanks hrest
    obtain ⟨sign, digits, h, hne, hvalue⟩ := parted_toString n.toInt hblanks hrest
    rw [count?, leadingInt?_of_parted h, hvalue, if_pos ⟨hne, fitsInt64_toInt n⟩]

theorem count?_eq_of_parted_multibyte :
    let parts := Parted "\u2003-007é8" ['\u2003'] ['-'] ['0', '0', '7'] ['é', '8']
    (parts ∧ (∀ c ∈ "\u2003".toList, Text.isBlank c = true) ∧
      ∀ c ∈ "é8".toList.head?, c.isDigit = false) ∧
    count? (.str "\u2003-007é8") = some (-7) ∧
    cutInt? "\u2003-007é8" = some (some (-7)) ∧
    count? (.str ("\u2003" ++ toString Int64.minValue.toInt ++ "é8")) =
      some Int64.minValue.toInt := by
  intro parts
  have hblanks : ∀ c ∈ "\u2003".toList, Text.isBlank c = true :=
    List.forall_mem_singleton.mpr (by decide)
  have hrest : ∀ c ∈ "é8".toList.head?, c.isDigit = false := by
    intro c hc
    cases hc
    rfl
  have hminus : ∀ c ∈ ['-', '0', '0', '7', 'é', '8'].head?, Text.isBlank c = false := by
    intro c hc
    cases hc
    rfl
  have hparts : parts := ⟨rfl, hblanks, hminus, .inr (.inl rfl), by simp, by simp, hrest⟩
  obtain ⟨-, hcount, hcut, hwritten⟩ := count?_eq_of_parted
  have hseven : count? (.str "\u2003-007é8") = some (-7) := hcount _ _ _ _ _ hparts
  refine ⟨⟨hparts, hblanks, hrest⟩, hseven, ?_, ?_⟩
  · rw [hcut, hseven]
  · exact (hwritten Int64.minValue).2 _ _ hblanks hrest

end DocumentSearch.Reply
