import WifiSelection.Toml.Reader

/-!
Integers written in decimal at the end of a line are read back. Their digits go on up to the line
feed, so nothing there is taken for a date or a time, which go on behind their first digits with a
hyphen or a colon. Only zero starts with the digit zero.
-/

namespace WifiSelection

namespace Toml

open Reader

section Digits

variable {character mark : Char} {digits input rest tail : List Char}

theorem decimalDigit?_of_isDigit (digit : character.isDigit) :
    Text.decimalDigit? character = some (character.toNat - '0'.toNat) := by
  simp only [Char.isDigit, Bool.and_eq_true, decide_eq_true_eq] at digit
  exact if_pos digit

theorem isDigit_of_decimalDigit? (found : (Text.decimalDigit? character).isSome) :
    character.isDigit := by
  unfold Text.decimalDigit? at found
  split at found
  next between =>
    simp only [Char.isDigit, Bool.and_eq_true, decide_eq_true_eq]
    exact between
  next => cases found

theorem head?_dropWhile_digits (digit : ∀ character ∈ digits, character.isDigit)
    (ends : mark.isDigit = false) :
    ((digits ++ mark :: rest).dropWhile Char.isDigit).head? = some mark := by
  rw [List.dropWhile_append_of_pos digit]
  simp [ends]

theorem head?_of_startsDate (starts : startsDate input) :
    input.head? ≠ some '-' ∧ (input.dropWhile Char.isDigit).head? = some '-' := by
  simp only [startsDate, Bool.and_eq_true, decide_eq_true_eq] at starts
  obtain ⟨four, hyphen⟩ := starts
  have taken := List.length_take_le 4 input
  have found := List.length_filterMap_le Text.decimalDigit? (input.take 4)
  have digit : ∀ character ∈ input.take 4, character.isDigit := fun character mem =>
    isDigit_of_decimalDigit? (List.filterMap_length_eq_length.1 (by omega) character mem)
  obtain ⟨tail, rest⟩ : ∃ tail, input.drop 4 = '-' :: tail := by
    exact List.head?_eq_some_iff.1 hyphen
  have parts := List.take_append_drop 4 input
  rw [rest] at parts
  constructor
  · intro head
    obtain ⟨tail, rfl⟩ := List.head?_eq_some_iff.1 head
    cases digit '-' List.mem_cons_self
  · rw [← parts]
    exact head?_dropWhile_digits digit rfl

theorem head?_of_hour? (read : hour? input = some rest) :
    input.head? ≠ some '-' ∧ (input.dropWhile Char.isDigit).head? = some ':' := by
  match input with
  | [] => cases read
  | [first] => cases read
  | first :: second :: tail => 
      simp only [hour?, twoDigits?, Option.bind_eq_bind, Option.bind_eq_some_iff] at read
      obtain ⟨after, ⟨tens, first_digit, units, second_digit, between⟩, colon⟩ := read
      split at between
      next =>
        cases between
        have first_isDigit := isDigit_of_decimalDigit? (Option.isSome_of_eq_some first_digit)
        have second_isDigit := isDigit_of_decimalDigit? (Option.isSome_of_eq_some second_digit)
        have ends : tail = ':' :: rest := by
          cases tail with
          | nil => cases colon
          | cons mark tail => simpa [after?] using colon
        subst ends
        constructor
        · simp only [List.head?_cons, ne_eq, Option.some.injEq]
          rintro rfl
          cases first_isDigit
        · have digit : ∀ character ∈ [first, second], character.isDigit := by
            simp [first_isDigit, second_isDigit]
          exact head?_dropWhile_digits digit rfl
      next => cases between

theorem moreDigits_append (rest : List Char) (digit : ∀ character ∈ digits, character.isDigit) :
    moreDigits Text.decimalDigit? (digits ++ '\n' :: rest) =
      some (digits.map (·.toNat - '0'.toNat), '\n' :: rest) := by
  induction digits with
  | nil => rfl
  | cons character digits ih =>
      have first := digit character List.mem_cons_self
      have others := ih fun other mem => digit other (List.mem_cons_of_mem character mem)
      have different : character ≠ '_' := by
        rintro rfl
        cases first
      rw [List.cons_append, moreDigits]
      · simp [different, decimalDigit?_of_isDigit first, others]
      · simp [different]

theorem toDigits_head {number : Nat} (positive : 0 < number) :
    ∃ first others, Nat.toDigits 10 number = first :: others ∧ first ≠ '0' := by
  induction number using Nat.strongRecOn with
  | ind number ih =>
      rw [Nat.toDigits_eq_if (by decide)]
      split
      next small =>
        have all : ∀ number < 10, 0 < number → number.digitChar ≠ '0' := by decide
        exact ⟨_, [], rfl, all number small positive⟩
      next large =>
        obtain ⟨first, others, digits, notZero⟩ := ih (number / 10) (by omega) (by omega)
        exact ⟨first, others ++ [(number % 10).digitChar], by rw [digits]; rfl, notZero⟩

theorem digitsValue_map (start : Nat) :
    (digits.map (·.toNat - '0'.toNat)).foldl (fun total digit => total * 10 + digit) start =
      Nat.ofDigitChars 10 digits start := by
  simp [Nat.ofDigitChars, List.foldl_map, Nat.mul_comm]

theorem isDigit_of_mem_toDigits {number : Nat} (mem : character ∈ Nat.toDigits 10 number) :
    character.isDigit :=
  Nat.isDigit_of_mem_toDigits (by decide) (by decide) mem

theorem decimal?_toDigits {number : Nat} {value : Toml} (negative : Bool) (positive : 0 < number)
    (fits : integerValue? negative number = some value) :
    decimal? negative (Nat.toDigits 10 number ++ '\n' :: rest) = some (value, '\n' :: rest) := by
  obtain ⟨first, others, digits, notZero⟩ := toDigits_head positive
  have digit : ∀ character ∈ first :: others, character.isDigit := fun character mem =>
    isDigit_of_mem_toDigits (digits ▸ mem)
  have number_eq :
      Text.digitsValue 10 ((first :: others).map (·.toNat - '0'.toNat)) = number := by
    rw [Text.digitsValue, digitsValue_map, ← digits, Nat.ofDigitChars_ten_toDigits]
  have whole : whole? (first :: others ++ '\n' :: rest) =
      some ((first :: others).map (·.toNat - '0'.toNat), '\n' :: rest) := by
    have more := moreDigits_append rest fun other mem =>
      digit other (List.mem_cons_of_mem first mem)
    rw [List.cons_append, whole?]
    · simp [digits?, decimalDigit?_of_isDigit (digit first List.mem_cons_self), more]
    · intro tail same
      exact notZero (List.cons.inj same).1
  rw [digits, decimal?, whole]
  simp only [Option.bind_eq_bind, Option.bind_some, fraction?, exponent?, number_eq, fits]
  rfl

theorem number?_cons (digit : character.isDigit) (notZero : character ≠ '0') :
    number? (character :: tail) = decimal? false (character :: tail) ∧
      number? ('-' :: character :: tail) = decimal? true (character :: tail) := by
  have other : ∀ mark : Char, mark.isDigit = false → character ≠ mark := by
    rintro mark none rfl
    rw [none] at digit
    cases digit
  have plus := other '+' rfl
  have minus := other '-' rfl
  have infinity := other 'i' rfl
  have nan := other 'n' rfl
  simp [number?, sign, *]

theorem number?_toDigits {number : Nat} (positive : 0 < number) :
    number? (Nat.toDigits 10 number ++ rest) = decimal? false (Nat.toDigits 10 number ++ rest) ∧
      number? ('-' :: (Nat.toDigits 10 number ++ rest)) =
        decimal? true (Nat.toDigits 10 number ++ rest) := by
  obtain ⟨first, others, digits, notZero⟩ := toDigits_head positive
  have digit := isDigit_of_mem_toDigits (digits ▸ List.mem_cons_self)
  rw [digits]
  exact number?_cons digit notZero

theorem numberOrMoment?_of_digits (digit : ∀ character ∈ digits, character.isDigit) :
    numberOrMoment? (digits ++ '\n' :: rest) = number? (digits ++ '\n' :: rest) := by
  have mark : ((digits ++ '\n' :: rest).dropWhile Char.isDigit).head? = some '\n' :=
    head?_dropWhile_digits digit rfl
  have noDate : startsDate (digits ++ '\n' :: rest) = false := by
    rw [← Bool.not_eq_true]
    intro starts
    cases mark.symm.trans (head?_of_startsDate starts).2
  have noTime : hour? (digits ++ '\n' :: rest) = none := by
    rw [Option.eq_none_iff_forall_ne_some]
    intro after read
    cases mark.symm.trans (head?_of_hour? read).2
  simp [numberOrMoment?, noDate, noTime]

theorem numberOrMoment?_hyphen : numberOrMoment? ('-' :: tail) = number? ('-' :: tail) := by
  have noDate : startsDate ('-' :: tail) = false := by
    rw [← Bool.not_eq_true]
    intro starts
    exact (head?_of_startsDate starts).1 rfl
  have noTime : hour? ('-' :: tail) = none := by
    rw [Option.eq_none_iff_forall_ne_some]
    intro after read
    exact (head?_of_hour? read).1 rfl
  simp [numberOrMoment?, noDate, noTime]

end Digits

theorem toList_toString (number : Int) :
    (toString number).toList =
      if number < 0 then '-' :: Nat.toDigits 10 number.natAbs
      else Nat.toDigits 10 number.natAbs := by
  rw [Int.toString_eq_repr, Int.repr_eq_if]
  by_cases negative : number < 0
  · have size : (-number).toNat = number.natAbs := by omega
    simp [negative, Int.not_le.2 negative, size, Nat.repr_eq_ofList_toDigits]
  · have size : number.toNat = number.natAbs := by omega
    simp [negative, Int.not_lt.1 negative, size, Nat.repr_eq_ofList_toDigits]

theorem toList_toString_head (number : Int) :
    ∃ first others, (toString number).toList = first :: others ∧
      (first = '-' ∨ first.isDigit) := by
  rw [toList_toString]
  split
  next negative => exact ⟨'-', _, rfl, Or.inl rfl⟩
  next positive =>
    cases digits : Nat.toDigits 10 number.natAbs with
    | nil => exact absurd digits Nat.toDigits_ne_nil
    | cons first others =>
        have digit := isDigit_of_mem_toDigits (digits ▸ List.mem_cons_self)
        exact ⟨first, others, rfl, Or.inr digit⟩

theorem numberOrMoment?_toString {number : Int} (fits : (Width.int64? number).isSome)
    (rest : List Char) :
    numberOrMoment? ((toString number).toList ++ '\n' :: rest) =
      some (.integer number, '\n' :: rest) := by
  unfold Width.int64? at fits
  split at fits
  next range =>
    rw [toList_toString]
    rcases Int.lt_trichotomy number 0 with negative | zero | positive
    · have value : integerValue? true number.natAbs = some (.integer number) := by
        have size : number.natAbs ≤ Width.maxSigned64 + 1 := by omega
        have same : -(number.natAbs : Int) = number := by omega
        rw [integerValue?, if_pos rfl, if_pos size, same]
      rw [if_pos negative, List.cons_append, numberOrMoment?_hyphen,
        (number?_toDigits (by omega)).2]
      exact decimal?_toDigits true (by omega) value
    · subst zero
      have digit : ∀ character ∈ ['0'], character.isDigit := by simp
      exact numberOrMoment?_of_digits digit
    · have value : integerValue? false number.natAbs = some (.integer number) := by
        have size : number.natAbs ≤ Width.maxSigned64 := by omega
        have same : (number.natAbs : Int) = number := by omega
        rw [integerValue?, if_neg (by decide), if_pos size, same]
      rw [if_neg (by omega), numberOrMoment?_of_digits fun character => isDigit_of_mem_toDigits,
        (number?_toDigits (by omega)).1]
      exact decimal?_toDigits false (by omega) value
  next outside => cases fits

end Toml

end WifiSelection
