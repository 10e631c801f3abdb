import Mathlib.Tactic.SplitIfs
import WifiSelection.Proofs.MacAddress
import WifiSelection.Toml.Reader
import WifiSelection.Toml.Writer

/-!
Strings of TOML read back as they were written, in whichever of the four styles. A basic string
escapes whatever it cannot hold, and the escapes are undone one by one. Over several lines the
delimiter may also occur inside, so what counts there is how long a run of it can become: the
writers leave runs of two at most, but for one that the closing delimiters continue.
-/

namespace WifiSelection

namespace Toml

open Reader Writer

structure IsPlain (character : Char) : Prop where
  printable : isPrintable character = true
  ne_quote : character ≠ '"'
  ne_backslash : character ≠ '\\'

structure IsEscape (character : Char) (code : List Char) : Prop where
  escaped : ∀ rest, escaped? (code ++ rest) = some (character, rest)
  noJoin : ∀ rest, joinedLine? (code ++ rest) = none

theorem hexDigit?_upperHexDigit {value : Nat} (small : value < 16) :
    Text.hexDigit? (upperHexDigit value) = some value := by
  have all : ∀ value < 16, Text.hexDigit? (upperHexDigit value) = some value := by decide
  exact all value small

theorem codePoint?_low {code : Nat} (small : code < 256) (rest : List Char) :
    codePoint? 4 ('0' :: '0' :: upperHexDigit (code / 16) :: upperHexDigit (code % 16) :: rest) =
      some (Char.ofNat code, rest) := by
  have zero : Text.hexDigit? '0' = some 0 := rfl
  have high := hexDigit?_upperHexDigit (show code / 16 < 16 by omega)
  have low := hexDigit?_upperHexDigit (show code % 16 < 16 by omega)
  have whole : Text.digitsValue 16 [0, 0, code / 16, code % 16] = code := by
    simp [Text.digitsValue]
    omega
  have valid : code.isValidChar := Or.inl (by omega)
  simp [codePoint?, zero, high, low, whole, valid]

theorem isPrintable_of_unescaped {character : Char} (unescaped : needsEscape character = false)
    (notLineFeed : character ≠ '\n') : isPrintable character = true := by
  revert unescaped notLineFeed
  revert character
  apply Text.forall_of_ascii
  · decide
  · intro character beyond _ _
    simp [isPrintable, beyond]

theorem escape_cases (character : Char) :
    (escape character = [character] ∧ IsPlain character) ∨
      ∃ code, escape character = '\\' :: code ∧ IsEscape character code := by
  rw [escape.eq_def]
  split
  case h_8 notBackspace notTab notLineFeed notFormFeed notReturn notQuote notBackslash =>
    split
    next escaped =>
      have small : character.toNat < 256 := by
        simp [needsEscape] at escaped
        omega
      refine Or.inr ⟨_, rfl, fun rest => ?_, fun rest => rfl⟩
      have read := codePoint?_low small rest
      rwa [Char.ofNat_toNat] at read
    next unescaped =>
      rw [Bool.not_eq_true] at unescaped
      have printable := isPrintable_of_unescaped unescaped notLineFeed
      exact Or.inl ⟨rfl, printable, notQuote, notBackslash⟩
  all_goals exact Or.inr ⟨_, rfl, fun rest => rfl, fun rest => rfl⟩

/-! ### Strings of one line -/

section OneLine

variable {fuel run : Nat} {found rest characters : List Char} {character : Char}

theorem basic_quote : basic (fuel + 1) found ('"' :: rest) = some (found, rest) := by
  simp [basic]

theorem basic_plain (plain : IsPlain character) :
    basic (fuel + 1) found (character :: rest) = basic fuel (character :: found) rest := by
  simp [basic, plain.ne_quote, plain.ne_backslash, plain.printable]

theorem basic_escape {code : List Char} (escape : IsEscape character code) :
    basic (fuel + 1) found ('\\' :: (code ++ rest)) = basic fuel (character :: found) rest := by
  simp [basic, escape.escaped]

theorem basicBody_oneLine :
    basicBody false run (character :: characters) =
      escape character ++ basicBody false 0 characters := by
  by_cases quote : character = '"'
  · subst quote
    rfl
  · simp [basicBody, quote]

theorem basic_basicBody (enough : (basicBody false run characters).length < fuel) :
    basic fuel found (basicBody false run characters ++ '"' :: rest) =
      some (characters.reverse ++ found, rest) := by
  induction characters generalizing fuel found run with
  | nil =>
      obtain ⟨fuel, rfl⟩ := Nat.exists_eq_add_one.2 enough
      exact basic_quote
  | cons character characters ih =>
      obtain ⟨fuel, rfl⟩ := Nat.exists_eq_add_one.2 (Nat.zero_lt_of_lt enough)
      rw [basicBody_oneLine] at enough ⊢
      rcases escape_cases character with ⟨written, plain⟩ | ⟨code, written, escape⟩
      · rw [written] at enough ⊢
        simp only [List.cons_append, List.nil_append, List.length_cons] at enough ⊢
        rw [basic_plain plain, ih (by omega)]
        simp
      · rw [written] at enough ⊢
        simp only [List.cons_append, List.append_assoc, List.length_cons, List.length_append]
          at enough ⊢
        rw [basic_escape escape, ih (by omega)]
        simp

theorem literal_append (unescaped : ∀ character ∈ characters, needsEscape character = false)
    (oneLine : '\n' ∉ characters) (noApostrophe : '\'' ∉ characters) :
    literal found (characters ++ '\'' :: rest) = some (characters.reverse ++ found, rest) := by
  induction characters generalizing found with
  | nil => simp [literal]
  | cons character characters ih =>
      simp only [List.mem_cons, not_or] at oneLine noApostrophe
      have printable : isPrintable character = true :=
        isPrintable_of_unescaped (unescaped character (by simp)) (Ne.symm oneLine.1)
      have next : literal found (character :: (characters ++ '\'' :: rest)) =
          literal (character :: found) (characters ++ '\'' :: rest) := by
        rw [literal]
        · simp [printable]
        · rintro rfl
          exact noApostrophe.1 rfl
      rw [List.cons_append, next, ih (fun other mem => unescaped other (by simp [mem])) oneLine.2
        noApostrophe.2]
      simp

end OneLine

/-! ### Strings of several lines -/

/-- How characters may be written in a string of several lines, behind so many delimiters in a row.
A delimiter is written as it is if it makes no third one. Between quotes a character may have an
escape. -/
inductive Inside (delimiter : Char) : Nat → List Char → List Char → Prop
  | nil (run : Nat) : Inside delimiter run [] []
  | delimiter {run : Nat} {characters body : List Char} (few : run < 2)
      (after : Inside delimiter (run + 1) characters body) :
      Inside delimiter run (delimiter :: characters) (delimiter :: body)
  | lineFeed {run : Nat} {characters body : List Char} (other : '\n' ≠ delimiter)
      (after : Inside delimiter 0 characters body) :
      Inside delimiter run ('\n' :: characters) ('\n' :: body)
  | printable {run : Nat} {character : Char} {characters body : List Char}
      (other : character ≠ delimiter) (noBackslash : character = '\\' → delimiter ≠ '"')
      (printable : isPrintable character = true) (after : Inside delimiter 0 characters body) :
      Inside delimiter run (character :: characters) (character :: body)
  | escape {run : Nat} {character : Char} {code characters body : List Char}
      (quote : delimiter = '"') (escape : IsEscape character code)
      (after : Inside delimiter 0 characters body) :
      Inside delimiter run (character :: characters) ('\\' :: (code ++ body))

section SeveralLines

variable {delimiter character : Char} {run kept fuel : Nat}
  {characters body found rest tail : List Char}

theorem closing?_of_few (few : kept < 3) (other : character ≠ delimiter) :
    closing? delimiter (List.replicate kept delimiter ++ character :: tail) = none := by
  simp [closing?, other, few]

theorem closing?_of_end (few : kept ≤ 2) (other : rest.head? ≠ some delimiter) :
    closing? delimiter (List.replicate (kept + 3) delimiter ++ rest) = some (kept, rest) := by
  have none : rest.takeWhile (· = delimiter) = [] := by
    cases rest with
    | nil => rfl
    | cons head tail =>
        have different : head ≠ delimiter := by simpa using other
        simp [different]
  simp [closing?, none, few]

theorem Inside.run_cases (inside : Inside delimiter run characters body) (few : run ≤ 2) :
    (∃ kept, run + kept ≤ 2 ∧ body = List.replicate kept delimiter ∧
      characters = List.replicate kept delimiter) ∨
    ∃ kept character tail, run + kept ≤ 2 ∧ character ≠ delimiter ∧
      body = List.replicate kept delimiter ++ character :: tail := by
  induction inside with
  | nil run => exact Or.inl ⟨0, few, rfl, rfl⟩
  | delimiter fewer after ih =>
      rcases ih (by omega) with
        ⟨kept, bound, rfl, rfl⟩ | ⟨kept, character, tail, bound, other, rfl⟩
      · exact Or.inl ⟨kept + 1, by omega, rfl, rfl⟩
      · exact Or.inr ⟨kept + 1, character, tail, by omega, other, rfl⟩
  | lineFeed other after ih => exact Or.inr ⟨0, _, _, few, other, rfl⟩
  | printable other noBackslash printable after ih => exact Or.inr ⟨0, _, _, few, other, rfl⟩
  | escape quote escape after ih => exact Or.inr ⟨0, _, _, few, by simp [quote], rfl⟩

theorem multiline_delimiter (goesOn : closing? delimiter (delimiter :: rest) = none) :
    multiline delimiter (fuel + 1) found (delimiter :: rest) =
      multiline delimiter fuel (delimiter :: found) rest := by
  simp [multiline, goesOn]

theorem multiline_end (few : kept ≤ 2) (other : rest.head? ≠ some delimiter) :
    multiline delimiter (fuel + 1) found (List.replicate (kept + 3) delimiter ++ rest) =
      some (List.replicate kept delimiter ++ found, rest) := by
  have closing := closing?_of_end few other
  rw [List.replicate_succ, List.cons_append] at closing ⊢
  simp [multiline, closing]

theorem multiline_lineFeed (other : '\n' ≠ delimiter) :
    multiline delimiter (fuel + 1) found ('\n' :: rest) =
      multiline delimiter fuel ('\n' :: found) rest := by
  simp [multiline, other, newline?]

theorem newline?_of_printable (printable : isPrintable character = true) :
    newline? (character :: rest) = none := by
  unfold newline?
  split
  next same =>
    cases same
    cases printable
  next same =>
    cases same
    cases printable
  next => rfl

theorem multiline_printable (other : character ≠ delimiter)
    (noBackslash : character = '\\' → delimiter ≠ '"') (printable : isPrintable character = true) :
    multiline delimiter (fuel + 1) found (character :: rest) =
      multiline delimiter fuel (character :: found) rest := by
  simp [multiline, other, newline?_of_printable printable, printable]
  intro backslash quote
  exact absurd quote (noBackslash backslash)

theorem multiline_escape {code : List Char} (escape : IsEscape character code) :
    multiline '"' (fuel + 1) found ('\\' :: (code ++ rest)) =
      multiline '"' fuel (character :: found) rest := by
  simp [multiline, escape.noJoin, escape.escaped]

theorem multiline_inside (inside : Inside delimiter run characters body)
    (enough : body.length < fuel) (other : rest.head? ≠ some delimiter) :
    multiline delimiter fuel found (body ++ (List.replicate 3 delimiter ++ rest)) =
      some (characters.reverse ++ found, rest) := by
  -- On the steps, since an escape takes one of them for several characters.
  induction fuel generalizing run characters body found with
  | zero => exact absurd enough (Nat.not_lt_zero _)
  | succ fuel ih =>
      cases inside with
      | nil run => exact multiline_end (Nat.zero_le 2) other
      | delimiter few after =>
          -- The whole run that it starts decides whether this delimiter is a closing one.
          rcases after.run_cases few with
            ⟨kept, bound, rfl, rfl⟩ | ⟨kept, head, tail, bound, different, rfl⟩
          · rw [← List.replicate_succ, ← List.append_assoc, List.replicate_append_replicate,
              multiline_end (by omega) other, List.reverse_replicate]
          · have goesOn : closing? delimiter (delimiter :: (List.replicate kept delimiter ++
                head :: tail ++ (List.replicate 3 delimiter ++ rest))) = none := by
              rw [List.append_assoc, ← List.cons_append, ← List.replicate_succ]
              exact closing?_of_few (by omega) different
            rw [List.cons_append, multiline_delimiter goesOn,
              ih after (Nat.lt_of_succ_lt_succ enough)]
            simp
      | lineFeed different after =>
          rw [List.cons_append, multiline_lineFeed different,
            ih after (Nat.lt_of_succ_lt_succ enough)]
          simp
      | printable different noBackslash printable after =>
          rw [List.cons_append, multiline_printable different noBackslash printable,
            ih after (Nat.lt_of_succ_lt_succ enough)]
          simp
      | escape quote escape after =>
          subst quote
          simp only [List.length_cons, List.length_append] at enough
          rw [List.cons_append, List.append_assoc, multiline_escape escape, ih after (by omega)]
          simp

theorem newline?_inside (rest : List Char) (inside : Inside delimiter run characters body)
    (oneLine : '\n' ∉ characters) (ends : isPrintable delimiter = true) :
    newline? (body ++ delimiter :: rest) = none := by
  cases inside with
  | nil run => exact newline?_of_printable ends
  | delimiter few after => exact newline?_of_printable ends
  | lineFeed different after => exact absurd List.mem_cons_self oneLine
  | printable different noBackslash printable after => exact newline?_of_printable printable
  | escape quote escape after => exact newline?_of_printable rfl

theorem inside_basicBody (characters : List Char) (few : run ≤ 2) :
    Inside '"' run characters (basicBody true run characters) := by
  induction characters generalizing run with
  | nil => exact .nil run
  | cons character characters ih =>
      have after := ih (Nat.zero_le 2)
      by_cases lineFeed : character = '\n'
      · subst lineFeed
        exact .lineFeed (by decide) after
      by_cases quote : character = '"'
      · subst quote
        by_cases fewer : run + 1 < 3
        · have after := ih (show run + 1 ≤ 2 by omega)
          simpa [basicBody, fewer] using Inside.delimiter (by omega) after
        · have escape : IsEscape '"' ['"'] := ⟨fun rest => rfl, fun rest => rfl⟩
          simpa [basicBody, fewer] using Inside.escape rfl escape after
      · have written : basicBody true run (character :: characters) =
            escape character ++ basicBody true 0 characters := by
          simp [basicBody, lineFeed, quote]
        rw [written]
        rcases escape_cases character with ⟨same, plain⟩ | ⟨code, escaped, escape⟩
        · rw [same]
          exact .printable quote (fun backslash => absurd backslash plain.ne_backslash)
            plain.printable after
        · rw [escaped]
          exact .escape rfl escape after

theorem le_longestRun {longest current : Nat} :
    longest ≤ longestRun character longest current characters := by
  induction characters generalizing longest current with
  | nil => exact Nat.le_refl _
  | cons head characters ih =>
      rw [longestRun]
      split
      · exact Nat.le_trans (Nat.le_max_left _ _) ih
      · exact ih

theorem inside_self {longest : Nat}
    (unescaped : ∀ character ∈ characters, needsEscape character = false)
    (few : longestRun '\'' longest run characters ≤ 2) :
    Inside '\'' run characters characters := by
  induction characters generalizing longest run with
  | nil => exact .nil run
  | cons head characters ih =>
      have others : ∀ character ∈ characters, needsEscape character = false :=
        fun character mem => unescaped character (List.mem_cons_of_mem head mem)
      rw [longestRun] at few
      split at few
      next apostrophe =>
        subst apostrophe
        have bound : max longest (run + 1) ≤ 2 := Nat.le_trans le_longestRun few
        exact .delimiter (by omega) (ih others few)
      next different =>
        by_cases lineFeed : head = '\n'
        · subst lineFeed
          exact .lineFeed different (ih others few)
        · have printable := isPrintable_of_unescaped (unescaped head List.mem_cons_self) lineFeed
          exact .printable different (fun _ => by decide) printable (ih others few)

end SeveralLines

/-! ### Strings in any style -/

section AnyStyle

variable {delimiter : Char} {characters body rest : List Char}

theorem basicBody_ne_quotes (other : rest.head? ≠ some '"') :
    ∀ tail, basicBody false 0 characters ++ '"' :: rest ≠ '"' :: '"' :: tail := by
  intro tail same
  cases characters with
  | nil => simp_all [basicBody]
  | cons character characters =>
      rw [basicBody_oneLine] at same
      rcases escape_cases character with ⟨written, plain⟩ | ⟨code, written, escape⟩
      · exact plain.ne_quote (by simp_all)
      · simp_all

theorem string?_basic (characters : List Char) (other : rest.head? ≠ some '"') :
    string? ('"' :: (basicBody false 0 characters ++ '"' :: rest)) =
      some (String.ofList characters, rest) := by
  rw [string?]
  · have enough : (basicBody false 0 characters).length <
        (basicBody false 0 characters ++ '"' :: rest).length + 1 := by
      rw [List.length_append]
      omega
    rw [basic_basicBody enough]
    simp [finish]
  · exact basicBody_ne_quotes other

theorem string?_literal (unescaped : ∀ character ∈ characters, needsEscape character = false)
    (oneLine : '\n' ∉ characters) (noApostrophe : '\'' ∉ characters)
    (other : rest.head? ≠ some '\'') :
    string? ('\'' :: (characters ++ '\'' :: rest)) = some (String.ofList characters, rest) := by
  rw [string?]
  · rw [literal_append unescaped oneLine noApostrophe]
    simp [finish]
  · intro tail same
    cases characters with
    | nil => simp_all
    | cons character characters => simp_all

theorem finish_multiline (inside : Inside delimiter 0 characters body)
    (ends : isPrintable delimiter = true) (other : rest.head? ≠ some delimiter) :
    let input := skipNewline ((if characters.contains '\n' then ['\n'] else []) ++
      (body ++ (List.replicate 3 delimiter ++ rest)))
    finish (multiline delimiter (input.length + 1) [] input) =
      some (String.ofList characters, rest) := by
  have skipped : skipNewline ((if characters.contains '\n' then ['\n'] else []) ++
      (body ++ (List.replicate 3 delimiter ++ rest))) =
        body ++ (List.replicate 3 delimiter ++ rest) := by
    split
    next lines => rfl
    next oneLine =>
      -- Without the extra line feed nothing may be skipped.
      have none := newline?_inside (delimiter :: delimiter :: rest) inside
        (by simpa using oneLine) ends
      simp [skipNewline, List.replicate_succ, none]
  simp only [skipped]
  have enough : body.length < (body ++ (List.replicate 3 delimiter ++ rest)).length + 1 := by
    rw [List.length_append]
    omega
  rw [multiline_inside inside enough other]
  simp [finish]

theorem not_mem_of_longestRun {character : Char} {longest current : Nat}
    (none : longestRun character longest current characters = 0) : character ∉ characters := by
  induction characters generalizing longest current with
  | nil => simp
  | cons head characters ih =>
      rw [longestRun] at none
      split at none
      next same =>
        have bound : max longest (current + 1) ≤ 0 := none ▸ le_longestRun
        omega
      next different =>
        simp [Ne.symm different, ih none]

theorem style_literal (literal : style characters = .literal) :
    (∀ character ∈ characters, needsEscape character = false) ∧ '\n' ∉ characters ∧
      '\'' ∉ characters := by
  simp only [style] at literal
  split_ifs at literal with basic quiet
  simp only [Bool.and_eq_true, Bool.not_eq_true', decide_eq_true_eq, List.any_eq_false] at quiet
  obtain ⟨⟨unescaped, none⟩, oneLine⟩ := quiet
  exact ⟨by simpa using unescaped, by simpa using oneLine, not_mem_of_longestRun none⟩

theorem style_multilineLiteral (literal : style characters = .multilineLiteral) :
    (∀ character ∈ characters, needsEscape character = false) ∧
      longestRun '\'' 0 0 characters ≤ 2 := by
  simp only [style] at literal
  split_ifs at literal with basic quiet fewQuotes fewApostrophes
  simp only [Bool.and_eq_true, Bool.not_eq_true', decide_eq_true_eq, List.any_eq_false]
    at fewApostrophes
  exact ⟨by simpa using fewApostrophes.1, fewApostrophes.2⟩

/-- A string in the style that its writer chooses is read as it was, if no delimiter follows. -/
theorem string?_string (text : String) (noQuote : rest.head? ≠ some '"')
    (noApostrophe : rest.head? ≠ some '\'') :
    string? ((Writer.string text).toList ++ rest) = some (text, rest) := by
  have opening : (if text.toList.contains '\n' then "\n" else "").toList =
      if text.toList.contains '\n' then ['\n'] else [] := by
    split <;> rfl
  rw [Writer.string.eq_def]
  cases chosen : style text.toList with
  | basic =>
      have read := string?_basic text.toList noQuote
      simpa [chosen] using read
  | literal =>
      obtain ⟨unescaped, oneLine, none⟩ := style_literal chosen
      have read := string?_literal unescaped oneLine none noApostrophe
      simpa [chosen] using read
  | multilineBasic =>
      have inside := inside_basicBody text.toList (Nat.zero_le 2)
      have read := finish_multiline inside rfl noQuote
      simp only [chosen, String.toList_append, opening, List.append_assoc, String.toList_ofList]
      rw [String.ofList_toList] at read
      exact read
  | multilineLiteral =>
      obtain ⟨unescaped, few⟩ := style_multilineLiteral chosen
      have read := finish_multiline (inside_self unescaped few) rfl noApostrophe
      simp only [chosen, String.toList_append, opening, List.append_assoc]
      rw [String.ofList_toList] at read
      exact read

end AnyStyle

end Toml

end WifiSelection
