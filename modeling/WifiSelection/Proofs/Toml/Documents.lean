import WifiSelection.Proofs.Regrouping
import WifiSelection.Proofs.Toml.Integers
import WifiSelection.Proofs.Toml.Strings

/-!
Documents of plain chapters are read back: headings with bare names, and under each a line `name =
value` for everything in it. A reader of lines needs no more steps than there are characters, so a
document is read line by line with any number of steps that covers what is left.
-/

namespace WifiSelection

namespace Toml

open Reader

/-! ### Values and names -/

structure IsValue (written : List Char) (value : Toml) : Prop where
  starts : ∀ rest, skipSpace (written ++ '\n' :: rest) = written ++ '\n' :: rest
  reads : ∀ fuel depth rest,
    Reader.value (fuel + 1) depth (written ++ '\n' :: rest) = some (value, '\n' :: rest)

theorem delimited_of_string? {input : List Char} {result : String × List Char}
    (read : string? input = some result) :
    ∃ inner, input = '"' :: inner ∨ input = '\'' :: inner := by
  unfold string? at read
  split at read
  · exact ⟨_, Or.inl rfl⟩
  · exact ⟨_, Or.inl rfl⟩
  · exact ⟨_, Or.inr rfl⟩
  · exact ⟨_, Or.inr rfl⟩
  · cases read

theorem isValue_string (text : String) : IsValue (Writer.string text).toList (.text text) := by
  have read : ∀ rest, string? ((Writer.string text).toList ++ '\n' :: rest) =
      some (text, '\n' :: rest) := fun rest => string?_string text (by simp) (by simp)
  constructor
  · intro rest
    obtain ⟨inner, input | input⟩ := delimited_of_string? (read rest)
    all_goals
      rw [input]
      rfl
  · intro fuel depth rest
    have read := read rest
    obtain ⟨inner, input | input⟩ := delimited_of_string? read
    all_goals
      rw [input] at read ⊢
      exact congrArg (Option.map _) read

theorem isValue_integer {number : Int} (fits : (Width.int64? number).isSome) :
    IsValue (toString number).toList (.integer number) := by
  have read := numberOrMoment?_toString fits
  obtain ⟨first, others, written, starts⟩ := toList_toString_head number
  have other : ∀ mark : Char, mark ≠ '-' → mark.isDigit = false → first ≠ mark := by
    rintro mark noHyphen noDigit rfl
    simp_all
  rw [written] at read ⊢
  constructor
  · intro rest
    have noSpace : isSpace first = false := by simp [isSpace, other]
    simp [skipSpace, noSpace]
  · intro fuel depth rest
    -- No value of another kind starts with a hyphen or a digit.
    rw [← read rest, List.cons_append, Reader.value]
    all_goals simp [other]

abbrev IsBareName (name : String) : Prop :=
  name.toList ≠ [] ∧ name.toList.all isBare

section Names

variable {name : String} {mark : Char} {rest tail : List Char}

theorem IsBareName.isBare_of_mem (bare : IsBareName name) :
    ∀ character ∈ name.toList, isBare character :=
  List.all_eq_true.1 bare.2

theorem IsBareName.exists_cons (bare : IsBareName name) :
    ∃ first others, name.toList = first :: others ∧ isBare first := by
  obtain ⟨first, others, written⟩ := List.exists_cons_of_ne_nil bare.1
  exact ⟨first, others, written, bare.isBare_of_mem first (written ▸ List.mem_cons_self)⟩

theorem ne_of_isBare {character : Char} (bare : isBare character) (mark : Char)
    (ends : isBare mark = false) : character ≠ mark := by
  rintro rfl
  rw [ends] at bare
  cases bare

theorem skipSpace_bare (rest : List Char) (bare : IsBareName name) :
    skipSpace (name.toList ++ rest) = name.toList ++ rest := by
  obtain ⟨first, others, written, first_bare⟩ := bare.exists_cons
  have noSpace : isSpace first = false := by
    simp [isSpace, ne_of_isBare first_bare ' ' rfl, ne_of_isBare first_bare '\t' rfl]
  simp [written, skipSpace, noSpace]

theorem name?_bare (bare : IsBareName name) (ends : isBare mark = false) :
    name? (name.toList ++ mark :: rest) = some (name, mark :: rest) := by
  obtain ⟨first, others, written, first_bare⟩ := bare.exists_cons
  have taken : (name.toList ++ mark :: rest).takeWhile isBare = name.toList := by
    rw [List.takeWhile_append_of_pos bare.isBare_of_mem]
    simp [ends]
  have dropped : (name.toList ++ mark :: rest).dropWhile isBare = mark :: rest := by
    rw [List.dropWhile_append_of_pos bare.isBare_of_mem]
    simp [ends]
  have noQuote := ne_of_isBare first_bare '"' rfl
  have noApostrophe := ne_of_isBare first_bare '\'' rfl
  have nonempty : name.toList.isEmpty = false := by simp [bare.1]
  rw [name?, taken, dropped, nonempty, if_neg (by decide), String.ofList_toList]
  · simp [written, noQuote]
  · simp [written, noApostrophe]

theorem key?_bare (mark : Char) (rest : List Char) (bare : IsBareName name)
    (ends : isBare mark = false) (after : skipSpace (mark :: rest) = tail)
    (noDot : tail.head? ≠ some '.') :
    key? (name.toList ++ mark :: rest) = some ([name], tail) := by
  have names : names? ((name.toList ++ mark :: rest).length + 1) (name.toList ++ mark :: rest) =
      some ([name], tail) := by
    simp only [names?, skipSpace_bare _ bare, name?_bare bare ends, after, Option.bind_eq_bind,
      Option.bind_some]
    split
    next => exact absurd rfl noDot
    next => rfl
  rw [key?, names]
  rfl

theorem heading?_bare (rest : List Char) (bare : IsBareName name) :
    heading? ('[' :: (name.toList ++ ']' :: '\n' :: rest)) =
      some (⟨[name], false, []⟩, rest) := by
  have key := key?_bare ']' ('\n' :: rest) bare rfl rfl (by simp [skipSpace, isSpace])
  obtain ⟨first, others, written, first_bare⟩ := bare.exists_cons
  have noBracket := ne_of_isBare first_bare '[' rfl
  rw [written, List.cons_append] at key ⊢
  simp [heading?, noBracket, key]
  rfl

theorem lineEnd?_bare (bare : IsBareName name) : lineEnd? (name.toList ++ rest) = none := by
  have starts := skipSpace_bare rest bare
  obtain ⟨first, others, written, first_bare⟩ := bare.exists_cons
  have noComment := ne_of_isBare first_bare '#' rfl
  have noLineFeed := ne_of_isBare first_bare '\n' rfl
  have noReturn := ne_of_isBare first_bare '\r' rfl
  rw [lineEnd?, starts, written]
  simp [skipComment, newline?, noComment, noLineFeed, noReturn]

end Names

/-! ### Documents -/

structure Line where
  name : String
  written : List Char
  value : Toml
  isName : IsBareName name
  isValue : IsValue written value

namespace Line

def characters (line : Line) : List Char :=
  line.name.toList ++ ' ' :: '=' :: ' ' :: (line.written ++ ['\n'])

def member (line : Line) : String × Toml := (line.name, line.value)

def entry (line : Line) : Entry := ([line.name], line.value)

theorem characters_append (line : Line) (rest : List Char) : line.characters ++ rest =
    line.name.toList ++ ' ' :: '=' :: ' ' :: (line.written ++ '\n' :: rest) := by
  simp [characters]

theorem entry?_characters (line : Line) (rest : List Char) :
    entry? (line.characters ++ rest) = some (line.entry, rest) := by
  have blank : skipSpace (' ' :: '=' :: ' ' :: (line.written ++ '\n' :: rest)) =
      '=' :: ' ' :: (line.written ++ '\n' :: rest) := rfl
  have key := key?_bare ' ' ('=' :: ' ' :: (line.written ++ '\n' :: rest)) line.isName rfl blank
    (by simp)
  have starts : skipSpace (' ' :: (line.written ++ '\n' :: rest)) = line.written ++ '\n' :: rest :=
    line.isValue.starts rest
  rw [characters_append, entry?, key]
  simp only [starts, line.isValue.reads]
  rfl

end Line

structure Chapter where
  name : String
  lines : List Line
  isName : IsBareName name
  distinct : (lines.map Line.name).Nodup

namespace Chapter

def characters (chapter : Chapter) : List Char :=
  '[' :: (chapter.name.toList ++ ']' :: '\n' :: chapter.lines.flatMap Line.characters)

def toSection (chapter : Chapter) : Section :=
  ⟨[chapter.name], false, chapter.lines.map Line.entry⟩

def collected (chapter : Chapter) : Section :=
  ⟨[chapter.name], false, (chapter.lines.map Line.entry).reverse⟩

def member (chapter : Chapter) : String × Toml :=
  (chapter.name, table .heading (chapter.lines.map Line.member))

theorem lookup_name (chapter : Chapter) : ∀ line ∈ chapter.lines,
    (chapter.lines.map Line.member).lookup line.name = some line.value :=
  fun _ mem => lookup_map_of_nodup chapter.distinct mem Line.value

end Chapter

abbrev Section.inOrder (part : Section) : Section :=
  { part with entries := part.entries.reverse }

/-- What is read from an input in as many steps as it has characters. -/
def ReadsAs (part : Section) (input : List Char) (parts : List Section) : Prop :=
  ∀ fuel, input.length < fuel → sections fuel part input = some parts

section Reading

variable {part : Section} {parts : List Section} {rest : List Char}

theorem readsAs_nil : ReadsAs part [] [part.inOrder] := by
  intro fuel enough
  obtain ⟨fuel, rfl⟩ := Nat.exists_eq_add_one.2 enough
  rfl

theorem readsAs_lineFeed (after : ReadsAs part rest parts) : ReadsAs part ('\n' :: rest) parts := by
  intro fuel enough
  obtain ⟨fuel, rfl⟩ := Nat.exists_eq_add_one.2 (Nat.zero_lt_of_lt enough)
  exact after fuel (Nat.lt_of_succ_lt_succ enough)

theorem readsAs_line (line : Line)
    (after : ReadsAs { part with entries := line.entry :: part.entries } rest parts) :
    ReadsAs part (line.characters ++ rest) parts := by
  intro fuel enough
  obtain ⟨fuel, rfl⟩ := Nat.exists_eq_add_one.2 (Nat.zero_lt_of_lt enough)
  have next := after fuel (by simp [Line.characters] at enough; omega)
  have entry := line.entry?_characters rest
  have noEnd : lineEnd? (line.characters ++ rest) = none := by
    rw [Line.characters_append]
    exact lineEnd?_bare line.isName
  have starts : skipSpace (line.characters ++ rest) = line.characters ++ rest := by
    rw [Line.characters_append]
    exact skipSpace_bare _ line.isName
  obtain ⟨first, others, written, first_bare⟩ := line.isName.exists_cons
  have input : ∃ tail, line.characters ++ rest = first :: tail := by
    rw [Line.characters_append, written]
    exact ⟨_, rfl⟩
  obtain ⟨tail, input⟩ := input
  have noBracket := ne_of_isBare first_bare '[' rfl
  rw [input] at entry noEnd starts ⊢
  simp [sections, starts, noBracket, noEnd, entry, next]

theorem readsAs_heading (chapter : Chapter)
    (after : ReadsAs ⟨[chapter.name], false, []⟩ rest parts) :
    ReadsAs part ('[' :: (chapter.name.toList ++ ']' :: '\n' :: rest)) (part.inOrder :: parts) := by
  intro fuel enough
  obtain ⟨fuel, rfl⟩ := Nat.exists_eq_add_one.2 (Nat.zero_lt_of_lt enough)
  have next := after fuel (by simp at enough; omega)
  have heading := heading?_bare rest chapter.isName
  have starts : skipSpace ('[' :: (chapter.name.toList ++ ']' :: '\n' :: rest)) =
      '[' :: (chapter.name.toList ++ ']' :: '\n' :: rest) := rfl
  simp only [sections, starts, heading, next, Option.map_some]

theorem readsAs_lines {lines : List Line}
    (after : ReadsAs { part with entries := (lines.map Line.entry).reverse ++ part.entries }
      rest parts) :
    ReadsAs part (lines.flatMap Line.characters ++ rest) parts := by
  induction lines generalizing part with
  | nil => exact after
  | cons line lines ih =>
      rw [List.flatMap_cons, List.append_assoc]
      exact readsAs_line line (ih (by simpa using after))

theorem readsAs_chapter (part : Section) (chapter : Chapter)
    (after : ReadsAs chapter.collected rest parts) :
    ReadsAs part (chapter.characters ++ rest) (part.inOrder :: parts) := by
  have lines : ReadsAs ⟨[chapter.name], false, []⟩
      (chapter.lines.flatMap Line.characters ++ rest) parts :=
    readsAs_lines (by simpa [Chapter.collected] using after)
  simpa [Chapter.characters] using readsAs_heading chapter lines

theorem inOrder_collected (chapter : Chapter) : chapter.collected.inOrder = chapter.toSection := by
  simp [Section.inOrder, Chapter.collected, Chapter.toSection]

theorem readsAs_chapters (part : Section) (chapters : List Chapter) :
    ReadsAs part (chapters.flatMap fun chapter => '\n' :: chapter.characters)
      (part.inOrder :: chapters.map Chapter.toSection) := by
  induction chapters generalizing part with
  | nil => exact readsAs_nil
  | cons chapter chapters ih =>
      have after := ih chapter.collected
      rw [inOrder_collected] at after
      rw [List.flatMap_cons, List.cons_append]
      exact readsAs_lineFeed (readsAs_chapter part chapter after)

end Reading

section Tables

variable {members : Members} {name : String}

theorem lookup_eq_none (new : name ∉ members.map Prod.fst) : members.lookup name = none := by
  rw [List.lookup_eq_none_iff]
  intro member mem
  simp only [bne_iff_ne, ne_eq]
  rintro rfl
  exact new (List.mem_map_of_mem mem)

theorem defineAll_lines (members : Members) (lines : List Line)
    (distinct : (members.map Prod.fst ++ lines.map Line.name).Nodup) :
    members.defineAll (lines.map Line.entry) = some (members ++ lines.map Line.member) := by
  induction lines generalizing members with
  | nil => simp [Members.defineAll]
  | cons line lines ih =>
      have new : line.name ∉ members.map Prod.fst := fun mem =>
        (List.nodup_append.1 distinct).2.2 _ mem _ List.mem_cons_self rfl
      have defined : members.define line.value [line.name] = some (members ++ [line.member]) := by
        simp [Members.define, lookup_eq_none new, Line.member]
      have next := ih (members ++ [line.member]) (by simpa [Line.member] using distinct)
      simp only [Members.defineAll, List.map_cons, List.foldlM_cons, Line.entry, defined]
        at next ⊢
      simpa using next

theorem addSection_toSection {chapter : Chapter} (new : chapter.name ∉ members.map Prod.fst) :
    members.addSection chapter.toSection = some (members ++ [chapter.member]) := by
  have lines := defineAll_lines [] chapter.lines (by simpa using chapter.distinct)
  simp [Members.addSection, Members.modify, Chapter.toSection, Section.table?, lookup_eq_none new,
    lines, Members.set, Chapter.member]

theorem foldlM_addSection (members : Members) (chapters : List Chapter)
    (distinct : (members.map Prod.fst ++ chapters.map Chapter.name).Nodup) :
    (chapters.map Chapter.toSection).foldlM Members.addSection members =
      some (members ++ chapters.map Chapter.member) := by
  induction chapters generalizing members with
  | nil => simp
  | cons chapter chapters ih =>
      have new : chapter.name ∉ members.map Prod.fst := fun mem =>
        (List.nodup_append.1 distinct).2.2 _ mem _ List.mem_cons_self rfl
      have next := ih (members ++ [chapter.member]) (by simpa [Chapter.member] using distinct)
      rw [List.map_cons, List.foldlM_cons, addSection_toSection new]
      simpa using next

end Tables

theorem ofText?_chapters (first : Chapter) (others : List Chapter)
    (distinct : ((first :: others).map Chapter.name).Nodup) {text : String}
    (written : text.toList =
      first.characters ++ others.flatMap fun chapter => '\n' :: chapter.characters) :
    ofText? text = some (table .heading ((first :: others).map Chapter.member)) := by
  have after := readsAs_chapters first.collected others
  rw [inOrder_collected] at after
  have read : sections (text.toList.length + 2) ⟨[], false, []⟩ text.toList =
      some (⟨[], false, []⟩ :: (first :: others).map Chapter.toSection) := by
    rw [written]
    exact readsAs_chapter ⟨[], false, []⟩ first after _ (by omega)
  have noMark : text.toList.head? ≠ some '\ufeff' := by
    rw [written]
    simp [Chapter.characters]
  have tables := foldlM_addSection [] (first :: others) (by simpa using distinct)
  have start : Members.addSection [] ⟨[], false, []⟩ = some [] := rfl
  simp only [ofText?, if_neg noMark, read, ofSections?, List.foldlM_cons, start]
  simpa using congrArg (Option.map (table .heading)) tables

end Toml

end WifiSelection
