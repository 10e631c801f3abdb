import WifiSelection.Scan
import WifiSelection.Text

/-!
Radio addresses as texts. The text that an address is written as reads back as the address, texts
that differ only in the case of letters read as the same address, and no other text reads as it. A
hexadecimal digit is read back as its value, whatever the case of its letter.
-/

namespace WifiSelection

namespace Text

def lowerHexDigits : List Char :=
  ['0', '1', '2', '3', '4', '5', '6', '7', '8', '9', 'a', 'b', 'c', 'd', 'e', 'f']

def anyHexDigits : List Char :=
  lowerHexDigits ++ ['A', 'B', 'C', 'D', 'E', 'F']

theorem hexDigit?_hexDigit {value : Nat} (small : value < 16) :
    hexDigit? (hexDigit value) = some value := by
  have all : ∀ value < 16, hexDigit? (hexDigit value) = some value := by decide
  exact all value small

theorem forall_of_ascii {property : Char → Prop}
    (ascii : ∀ code < 128, property (Char.ofNat code))
    (beyond : ∀ character : Char, 128 ≤ character.toNat → property character)
    (character : Char) : property character := by
  by_cases below : character.toNat < 128
  · have tried := ascii character.toNat below
    rwa [Char.ofNat_toNat] at tried
  · exact beyond character (by omega)

theorem toLower_of_beyond_ascii {character : Char} (beyond : 128 ≤ character.toNat) :
    character.toLower = character := by
  have above : ¬character.val ≤ 'Z'.val := by
    intro below
    have bound : character.toNat ≤ 90 := UInt32.le_iff_toNat_le.mp below
    omega
  exact dif_neg fun upper => above upper.2

theorem hexDigit?_toLower (character : Char) :
    hexDigit? character.toLower = hexDigit? character := by
  revert character
  apply forall_of_ascii
  · decide
  · intro character beyond
    rw [toLower_of_beyond_ascii beyond]

theorem toLower_eq_colon_iff (character : Char) : character.toLower = ':' ↔ character = ':' := by
  revert character
  apply forall_of_ascii
  · decide
  · intro character beyond
    rw [toLower_of_beyond_ascii beyond]

theorem hexDigit?_of_beyond_ascii {character : Char} (beyond : 128 ≤ character.toNat) :
    hexDigit? character = none := by
  have above : ∀ last : Char, last.toNat < 128 → ¬character ≤ last := by
    intro last ascii below
    have bound : character.toNat ≤ last.toNat := UInt32.le_iff_toNat_le.mp below
    omega
  rw [hexDigit?, if_neg fun digit => above '9' (by decide) digit.2,
    if_neg fun digit => above 'f' (by decide) digit.2,
    if_neg fun digit => above 'F' (by decide) digit.2]

theorem toLower_of_hexDigit? {character : Char} {value : Nat}
    (read : hexDigit? character = some value) :
    value < 16 ∧ character.toLower = hexDigit value := by
  have all : ∀ character : Char, ∀ value ∈ hexDigit? character,
      value < 16 ∧ character.toLower = hexDigit value := by
    apply forall_of_ascii
    · decide
    · intro character beyond value read
      rw [hexDigit?_of_beyond_ascii beyond] at read
      cases read
  exact all character value read

theorem hexDigit?_isSome_iff (character : Char) :
    (hexDigit? character).isSome = true ↔ character ∈ anyHexDigits := by
  revert character
  apply forall_of_ascii
  · decide
  · intro character beyond
    have ascii : anyHexDigits.all (fun digit => digit.toNat < 128) = true := rfl
    have absent : character ∉ anyHexDigits := fun member =>
      absurd (of_decide_eq_true (List.all_eq_true.mp ascii character member)) (by omega)
    simp [hexDigit?_of_beyond_ascii beyond, absent]

theorem hexDigit_mem {value : Nat} (small : value < 16) : hexDigit value ∈ lowerHexDigits := by
  have all : ∀ value < 16, hexDigit value ∈ lowerHexDigits := by decide
  exact all value small

variable {separator : Char} {piece : List Char}

theorem split_of_not_mem (absent : separator ∉ piece) : split separator piece = [piece] := by
  induction piece with
  | nil => rfl
  | cons head tail ih =>
      rw [List.mem_cons, not_or] at absent
      rw [split, if_neg (Ne.symm absent.1), ih absent.2]

theorem split_append_separator (absent : separator ∉ piece) (rest : List Char) :
    split separator (piece ++ separator :: rest) = piece :: split separator rest := by
  induction piece with
  | nil => simp only [List.nil_append, split, if_true]
  | cons head tail ih =>
      rw [List.mem_cons, not_or] at absent
      rw [List.cons_append, split, if_neg (Ne.symm absent.1), ih absent.2]

theorem split_intercalate {pieces : List (List Char)} (nonempty : pieces ≠ [])
    (absent : ∀ piece ∈ pieces, separator ∉ piece) :
    split separator ([separator].intercalate pieces) = pieces := by
  induction pieces with
  | nil => exact (nonempty rfl).elim
  | cons head tail ih =>
      have headAbsent := absent head (by simp)
      cases tail with
      | nil => simp [split_of_not_mem headAbsent]
      | cons next rest =>
          have later := ih (by simp) fun piece member =>
            absent piece (List.mem_cons_of_mem _ member)
          rw [List.intercalate_cons_cons, List.append_assoc, List.singleton_append,
            split_append_separator headAbsent, later]

theorem split_map {change : Char → Char} (kept : ∀ character, change character = separator ↔
    character = separator) (text : List Char) :
    split separator (text.map change) = (split separator text).map (List.map change) := by
  induction text with
  | nil => rfl
  | cons head tail ih =>
      by_cases isSeparator : head = separator
      · simp [split, isSeparator, (kept separator).mpr rfl, ih]
      · simp only [List.map_cons, split, mt (kept head).mp isSeparator, isSeparator, if_false, ih]
        cases split separator tail <;> rfl

theorem split_ne_nil (separator : Char) (text : List Char) : split separator text ≠ [] := by
  cases text with
  | nil => simp [split]
  | cons head tail =>
      rw [split]
      split
      · simp
      · split <;> simp

theorem intercalate_split (separator : Char) (text : List Char) :
    [separator].intercalate (split separator text) = text := by
  induction text with
  | nil => rfl
  | cons head tail ih =>
      rw [split]
      cases pieces : split separator tail with
      | nil => exact (split_ne_nil separator tail pieces).elim
      | cons piece rest =>
          rw [pieces] at ih
          by_cases isSeparator : head = separator
          · rw [if_pos isSeparator, List.intercalate_cons_cons, ih, isSeparator]
            rfl
          · rw [if_neg isSeparator, ← ih]
            cases rest with
            | nil => simp
            | cons next later => simp [List.intercalate_cons_cons]

theorem toList_toLower (text : String) :
    text.toLower.toList = text.toList.map Char.toLower :=
  String.toList_map

def SameButCase (left right : String) : Prop :=
  left.toList.map Char.toLower = right.toList.map Char.toLower

instance (left right : String) : Decidable (SameButCase left right) :=
  inferInstanceAs (Decidable (left.toList.map Char.toLower = right.toList.map Char.toLower))

end Text

namespace MacAddress

open Text

theorem octet?_hexDigits (octet : UInt8) :
    octet? (Text.hexDigits 2 octet.toNat) = some octet := by
  have bound := octet.toNat_lt
  have high := Text.hexDigit?_hexDigit (show octet.toNat / 16 % 16 < 16 by omega)
  have low := Text.hexDigit?_hexDigit (show octet.toNat % 16 < 16 by omega)
  have whole : octet.toNat / 16 % 16 * 16 + octet.toNat % 16 = octet.toNat := by omega
  change (do
    let high ← Text.hexDigit? (Text.hexDigit (octet.toNat / 16 % 16))
    let low ← Text.hexDigit? (Text.hexDigit (octet.toNat % 16))
    return UInt8.ofNat (high * 16 + low)) = some octet
  simp only [high, low, Option.bind_eq_bind, Option.bind_some, whole, UInt8.ofNat_toNat]
  rfl

theorem colon_not_mem_hexDigits (octet : UInt8) : ':' ∉ Text.hexDigits 2 octet.toNat := by
  have digit : ∀ value < 16, Text.hexDigit value ≠ ':' := by decide
  have high := digit (octet.toNat / 16 % 16) (by omega)
  have low := digit (octet.toNat % 16) (by omega)
  simp [Text.hexDigits, high.symm, low.symm]

theorem mapM_octet?_hexDigits (octets : List UInt8) :
    (octets.map fun octet => Text.hexDigits 2 octet.toNat).mapM octet? = some octets := by
  induction octets with
  | nil => rfl
  | cons head tail ih => simp [octet?_hexDigits, ih]

theorem parse_eq_ok_iff {text : String} {address : MacAddress} : parse text = .ok address ↔
    (Text.split ':' text.toList).mapM octet? = some address.octets := by
  obtain ⟨octets, length⟩ := address
  rw [parse]
  cases (Text.split ':' text.toList).mapM octet? with
  | none => simp
  | some found =>
      by_cases six : found.length = 6
      · simp [six]
      · have different : found ≠ octets := fun same => six (same ▸ length)
        simp [six, different]

theorem parse_display (address : MacAddress) : parse address.display = .ok address := by
  have nonempty : (address.octets.map fun octet => Text.hexDigits 2 octet.toNat) ≠ [] := by
    rw [ne_eq, List.map_eq_nil_iff]
    intro empty
    have length := address.length_eq
    rw [empty] at length
    cases length
  have pieces := @Text.split_intercalate ':' _ nonempty (by
    intro piece member
    obtain ⟨octet, -, rfl⟩ := List.mem_map.mp member
    exact colon_not_mem_hexDigits octet)
  rw [parse_eq_ok_iff, display, String.toList_ofList, pieces, mapM_octet?_hexDigits]

theorem octet?_toLower (piece : List Char) : octet? (piece.map Char.toLower) = octet? piece := by
  match piece with
  | [] | [_] | _ :: _ :: _ :: _ => rfl
  | [high, low] => simp [octet?, Text.hexDigit?_toLower]

theorem mapM_octet?_toLower (text : List Char) :
    (Text.split ':' (text.map Char.toLower)).mapM octet? = (Text.split ':' text).mapM octet? := by
  rw [Text.split_map Text.toLower_eq_colon_iff]
  induction Text.split ':' text with
  | nil => rfl
  | cons head tail ih => simp [octet?_toLower, ih]

theorem parse_of_sameButCase {left right : String} (same : Text.SameButCase left right)
    {address : MacAddress} (read : parse left = .ok address) : parse right = .ok address := by
  rw [parse_eq_ok_iff] at read ⊢
  rw [← mapM_octet?_toLower, ← same, mapM_octet?_toLower, read]

theorem octet?_eq_some_iff {piece : List Char} {octet : UInt8} :
    octet? piece = some octet ↔ piece.map Char.toLower = hexDigits 2 octet.toNat := by
  constructor
  · intro read
    match piece with
    | [] | [_] | _ :: _ :: _ :: _ => cases read
    | [high, low] =>
        obtain ⟨highValue, highRead, rest⟩ := Option.bind_eq_some_iff.mp read
        obtain ⟨lowValue, lowRead, whole⟩ := Option.bind_eq_some_iff.mp rest
        obtain ⟨highSmall, highLower⟩ := toLower_of_hexDigit? highRead
        obtain ⟨lowSmall, lowLower⟩ := toLower_of_hexDigit? lowRead
        cases whole
        have value : (UInt8.ofNat (highValue * 16 + lowValue)).toNat =
            highValue * 16 + lowValue := by
          rw [UInt8.toNat_ofNat', Nat.mod_eq_of_lt (by omega)]
        have highDigit : (highValue * 16 + lowValue) / 16 % 16 = highValue := by omega
        have lowDigit : (highValue * 16 + lowValue) % 16 = lowValue := by omega
        simp only [List.map_cons, List.map_nil, hexDigits, value, highDigit, lowDigit, highLower,
          lowLower, List.nil_append, List.cons_append]
  · intro lower
    rw [← octet?_toLower, lower, octet?_hexDigits]

theorem map_toLower_of_mapM_octet? {pieces : List (List Char)} {octets : List UInt8}
    (read : pieces.mapM octet? = some octets) :
    pieces.map (List.map Char.toLower) = octets.map fun octet => hexDigits 2 octet.toNat := by
  induction pieces generalizing octets with
  | nil =>
      cases read
      rfl
  | cons head tail ih =>
      rw [List.mapM_cons] at read
      obtain ⟨octet, headRead, rest⟩ := Option.bind_eq_some_iff.mp read
      obtain ⟨others, tailRead, whole⟩ := Option.bind_eq_some_iff.mp rest
      cases whole
      rw [List.map_cons, List.map_cons, octet?_eq_some_iff.mp headRead, ih tailRead]

theorem parse_eq_ok_iff_toLower {text : String} {address : MacAddress} :
    parse text = .ok address ↔ text.toLower = address.display := by
  rw [← String.toList_inj, toList_toLower, display, String.toList_ofList]
  constructor
  · intro read
    have pieces := map_toLower_of_mapM_octet? (parse_eq_ok_iff.mp read)
    rw [← pieces, ← split_map toLower_eq_colon_iff, intercalate_split]
  · intro lower
    have written := parse_eq_ok_iff.mp (parse_display address)
    rw [display, String.toList_ofList, ← lower, mapM_octet?_toLower] at written
    exact parse_eq_ok_iff.mpr written

/-- Six groups of two of some digits, with single colons between them. -/
def IsSixGroups (digits : List Char) (text : String) : Prop :=
  ∃ groups : List (List Char), groups.length = 6 ∧
    (∀ group ∈ groups, group.length = 2 ∧ ∀ character ∈ group, character ∈ digits) ∧
    text.toList = [':'].intercalate groups

theorem octet?_isSome_iff (piece : List Char) : (octet? piece).isSome = true ↔
    piece.length = 2 ∧ ∀ character ∈ piece, character ∈ anyHexDigits := by
  match piece with
  | [] | [_] | _ :: _ :: _ :: _ => simp [octet?]
  | [high, low] =>
      simp only [octet?, Option.bind_eq_bind, Option.isSome_bind, List.forall_mem_cons,
        ← hexDigit?_isSome_iff]
      cases hexDigit? high <;> cases hexDigit? low <;> simp

theorem exists_octets {pieces : List (List Char)}
    (readable : ∀ piece ∈ pieces, (octet? piece).isSome = true) :
    ∃ octets, pieces.mapM octet? = some octets ∧ octets.length = pieces.length := by
  induction pieces with
  | nil => exact ⟨[], rfl, rfl⟩
  | cons head tail ih =>
      rw [List.forall_mem_cons] at readable
      obtain ⟨octet, headRead⟩ := Option.isSome_iff_exists.mp readable.1
      obtain ⟨octets, tailRead, length⟩ := ih readable.2
      refine ⟨octet :: octets, ?_, by rw [List.length_cons, List.length_cons, length]⟩
      simp [headRead, tailRead]

theorem exists_parse_iff {text : String} :
    (∃ address, parse text = .ok address) ↔ IsSixGroups anyHexDigits text := by
  constructor
  · rintro ⟨address, read⟩
    have lower := map_toLower_of_mapM_octet? (parse_eq_ok_iff.mp read)
    refine ⟨split ':' text.toList, ?_, ?_, (intercalate_split ':' text.toList).symm⟩
    · have lengths := congrArg List.length lower
      rwa [List.length_map, List.length_map, address.length_eq] at lengths
    · intro group member
      have mapped := List.mem_map_of_mem (f := List.map Char.toLower) member
      rw [lower] at mapped
      obtain ⟨octet, -, written⟩ := List.mem_map.mp mapped
      rw [← octet?_isSome_iff, octet?_eq_some_iff.mpr written.symm]
      rfl
  · rintro ⟨groups, six, digits, joined⟩
    obtain ⟨octets, read, length⟩ := exists_octets fun group member =>
      (octet?_isSome_iff group).mpr (digits group member)
    have nonempty : groups ≠ [] := by
      rintro rfl
      cases six
    have colonFree : ∀ group ∈ groups, ':' ∉ group := fun group member colon =>
      absurd ((digits group member).2 ':' colon) (by decide)
    refine ⟨⟨octets, length.trans six⟩, ?_⟩
    rw [parse_eq_ok_iff, joined, split_intercalate nonempty colonFree, read]

theorem parse_refuses (text : String) :
    (∃ address, parse text = .ok address) ∨ parse text = .error ⟨text⟩ := by
  rw [parse]
  split
  · split
    · exact Or.inl ⟨_, rfl⟩
    · exact Or.inr rfl
  · exact Or.inr rfl

theorem display_isSixGroups (address : MacAddress) :
    IsSixGroups lowerHexDigits address.display := by
  refine ⟨address.octets.map fun octet => hexDigits 2 octet.toNat, ?_, ?_, ?_⟩
  · rw [List.length_map, address.length_eq]
  · intro group member
    obtain ⟨octet, -, rfl⟩ := List.mem_map.mp member
    refine ⟨rfl, ?_⟩
    have high := hexDigit_mem (show octet.toNat / 16 % 16 < 16 by omega)
    have low := hexDigit_mem (show octet.toNat % 16 < 16 by omega)
    simp [hexDigits, high, low]
  · rw [display, String.toList_ofList]

/-- An address is read from exactly the texts whose lower case is what the address is written as:
six groups of two hexadecimal digits in either case, with single colons between them. Every other
text is refused with an error that carries it unchanged. -/
theorem parse_inverts_display (text : String) (address : MacAddress) :
    (parse text = .ok address ↔ text.toLower = address.display) ∧
      parse address.display = .ok address ∧
      IsSixGroups lowerHexDigits address.display ∧
      ((∃ read, parse text = .ok read) ↔ IsSixGroups anyHexDigits text) ∧
      (parse text = .error ⟨text⟩ ↔ ¬IsSixGroups anyHexDigits text) := by
  refine ⟨parse_eq_ok_iff_toLower, parse_display address, display_isSixGroups address,
    exists_parse_iff, ?_⟩
  rw [← exists_parse_iff]
  constructor
  · rintro refused ⟨read, accepted⟩
    rw [refused] at accepted
    cases accepted
  · exact (parse_refuses text).resolve_left

end MacAddress

end WifiSelection
