import CrossDriver.Proofs.Json.Members
import CrossDriver.Proofs.Json.WrittenText

namespace CrossDriver

namespace Text

/-! ## Quoted texts -/

theorem isPrintable_of_standsFor? {c : Char} {half : Nat} (stands : standsFor? c = some half) :
    isPrintable c = false := by
  have code := toNat_eq_of_standsFor? stands
  have bounds := isHalf_iff.mp (isHalf_of_standsFor? stands)
  have outside : ∀ b ∈ unprintable.boundaries, b ≤ 201547 ∨ 917759 < b := by decide +kernel
  have on : switchedOn unprintable.boundaries 201547 = true := by decide +kernel
  unfold planeSize standInPlane at code
  have within : unprintable.contains c = true :=
    (switchedOn_between outside (by omega) (by omega)).trans on
  rw [isPrintable, within]
  rfl

theorem proper_of_visible {c : Char} (visible : Json.Visible c) : Proper c :=
  proper_of_lt (by have := visible.2; omega)

theorem proper_of_isPrintable {c : Char} (printable : isPrintable c = true) : Proper c := by
  cases stands : standsFor? c with
  | none => exact stands
  | some half =>
    rw [isPrintable_of_standsFor? stands] at printable
    cases printable

theorem proper_escapeCode (n : Nat) : ∀ c ∈ escapeCode n, Proper c := by
  intro c mem
  apply proper_of_visible
  unfold escapeCode at mem
  split_ifs at mem
  all_goals
    rcases List.mem_cons.mp mem with rfl | mem
    · simp [Json.Visible]
    · rcases List.mem_cons.mp mem with rfl | mem
      · simp [Json.Visible]
      · exact Json.visible_of_mem_hex mem

theorem proper_quoteChar {mark : Char} (visible : Proper mark) (c : Char) :
    ∀ d ∈ quoteChar mark c, Proper d := by
  have backslash : Proper '\\' := rfl
  intro d mem
  unfold quoteChar at mem
  split_ifs at mem with special tab line return_ printable
  · rcases List.mem_pair.mp mem with rfl | rfl
    · exact backslash
    · rcases special with rfl | rfl
      · exact visible
      · exact backslash
  · rcases List.mem_pair.mp mem with rfl | rfl <;> rfl
  · rcases List.mem_pair.mp mem with rfl | rfl <;> rfl
  · rcases List.mem_pair.mp mem with rfl | rfl <;> rfl
  · exact List.mem_singleton.mp mem ▸ proper_of_isPrintable printable
  · exact proper_escapeCode _ d mem

theorem proper_quoted (s : String) : ∀ c ∈ (quoted s).toList, Proper c := by
  have mark : Proper (quoteMark s.toList) := by
    rw [quoteMark]
    split <;> rfl
  intro c mem
  rw [quoted, String.toList_ofList] at mem
  rcases List.mem_append.mp mem with before | last
  · rcases List.mem_cons.mp before with rfl | inside
    · exact mark
    · obtain ⟨code, -, written⟩ := List.mem_flatMap.mp inside
      rw [quoteCode] at written
      split at written
      · exact proper_escapeCode _ c written
      · exact proper_quoteChar mark _ c written
  · exact List.mem_singleton.mp last ▸ mark

end Text

/-! ## Numbers -/

namespace Number

open Json (Visible)

theorem visible_digitsOf (n : Nat) : ∀ c ∈ digitsOf n, Visible c := by
  intro c mem
  have digit := Nat.isDigit_of_mem_toDigits (by omega) (by omega) mem
  simp only [Char.isDigit, Bool.and_eq_true, decide_eq_true_eq, UInt32.le_iff_toNat_le] at digit
  have low : 48 ≤ c.toNat := digit.1
  have high : c.toNat ≤ 57 := digit.2
  exact ⟨by omega, by omega⟩

section
variable {digits : List Char} (given : ∀ c ∈ digits, Visible c)
include given

theorem visible_positional (point : Int) : ∀ c ∈ positional digits point, Visible c := by
  intro c mem
  unfold positional at mem
  split at mem
  · simp only [List.mem_append, List.mem_cons, List.mem_replicate] at mem
    rcases mem with (rfl | rfl | ⟨-, rfl⟩) | own
    · simp [Visible]
    · simp [Visible]
    · simp [Visible]
    · exact given c own
  · simp only [List.mem_append, List.mem_cons, List.mem_replicate] at mem
    rcases mem with (whole | ⟨-, rfl⟩) | rfl | fraction
    · exact given c (List.mem_of_mem_take whole)
    · simp [Visible]
    · simp [Visible]
    · split at fraction
      · rw [List.mem_singleton.mp fraction]
        simp [Visible]
      · exact given c (List.mem_of_mem_drop fraction)

theorem visible_scientific (exponent : Int) : ∀ c ∈ scientific digits exponent, Visible c := by
  intro c mem
  simp only [scientific, List.mem_append, List.mem_cons] at mem
  rcases mem with (whole | fraction) | rfl | sign | power
  · exact given c (List.mem_of_mem_take whole)
  · split at fraction
    · cases fraction
    · rcases List.mem_cons.mp fraction with rfl | own
      · simp [Visible]
      · exact given c (List.mem_of_mem_drop own)
  · simp [Visible]
  · split at sign <;> subst sign <;> simp [Visible]
  · split at power
    · rcases List.mem_cons.mp power with rfl | own
      · simp [Visible]
      · exact visible_digitsOf _ c own
    · exact visible_digitsOf _ c power

end

theorem visible_text (x : Binary64) : ∀ c ∈ x.text.toList, Visible c := by
  intro c mem
  cases x with
  | finite negative coefficient exponent =>
    rw [Binary64.text, String.toList_ofList] at mem
    rcases List.mem_append.mp mem with sign | own
    · split at sign
      · rw [List.mem_singleton.mp sign]
        simp [Visible]
      · cases sign
    · unfold Decimal.chars at own
      dsimp only at own
      split at own
      · exact visible_positional (visible_digitsOf _) _ c own
      · exact visible_scientific (visible_digitsOf _) _ c own
  | infinite negative => cases negative <;> revert c <;> simp [Binary64.text, Visible]
  | nan => revert c; simp [Binary64.text, Visible]

end Number

/-! ## Values -/

namespace Json

open Text (Whole Proper proper_of_visible proper_quoted)

theorem proper_cons {c : Char} {more : List Char} (own : Proper c) (behind : ∀ d ∈ more, Proper d) :
    ∀ d ∈ c :: more, Proper d := by
  intro d mem
  rcases List.mem_cons.mp mem with rfl | later
  · exact own
  · exact behind d later

theorem proper_append {first more : List Char} (before : ∀ c ∈ first, Proper c)
    (behind : ∀ c ∈ more, Proper c) : ∀ c ∈ first ++ more, Proper c := by
  intro c mem
  exact (List.mem_append.mp mem).elim (before c) (behind c)

theorem shownItems_cons (item next : Json) (rest : List Json) :
    shownItems (item :: next :: rest) = shown item ++ ',' :: ' ' :: shownItems (next :: rest) := rfl

theorem shownMembers_singleton (key : String) (value : Json) :
    shownMembers [(key, value)] =
      (Text.quoted key).toList ++ ':' :: ' ' :: shown value ++ ['\x7d'] := rfl

theorem shownMembers_cons (key : String) (value : Json) (next : String × Json)
    (rest : List (String × Json)) :
    shownMembers ((key, value) :: next :: rest) = (Text.quoted key).toList ++
      ':' :: ' ' :: shown value ++ ',' :: ' ' :: shownMembers (next :: rest) := rfl

theorem proper_integerChars (n : Int) : ∀ c ∈ integerChars n, Proper c := by
  rw [integerChars]
  refine proper_append ?_ fun c mem => proper_of_visible (Number.visible_digitsOf _ c mem)
  split
  · exact proper_cons rfl (by simp)
  · simp

mutual

theorem proper_shown : ∀ value : Json, ∀ c ∈ shown value, Proper c
  | .null => by
    rw [shown]
    exact Text.standsFor?_eq_none_of_all (by decide)
  | .bool b => by
    rw [shown]
    cases b <;> exact Text.standsFor?_eq_none_of_all (by decide)
  | .integer n => by
    rw [shown]
    exact proper_integerChars n
  | .real x => fun c mem => proper_of_visible (Number.visible_text x c (by rwa [shown] at mem))
  | .text s => by
    rw [shown]
    exact proper_quoted s
  | .array items => by
    rw [shown]
    exact proper_cons rfl (proper_shownItems items)
  | .object members => by
    rw [shown]
    exact proper_cons rfl (proper_shownMembers members)

theorem proper_shownItems : ∀ items : List Json, ∀ c ∈ shownItems items, Proper c
  | [] => by
    rw [shownItems]
    exact proper_cons rfl (by simp)
  | [item] => by
    rw [shownItems]
    exact proper_append (proper_shown item) (proper_cons rfl (by simp))
  | item :: next :: rest => by
    rw [shownItems_cons]
    exact proper_append (proper_shown item)
      (proper_cons rfl (proper_cons rfl (proper_shownItems (next :: rest))))

theorem proper_shownMembers : ∀ members : List (String × Json), ∀ c ∈ shownMembers members, Proper c
  | [] => proper_cons (rfl : Proper '\x7d') (by simp)
  | [(key, value)] => by
    rw [shownMembers_singleton]
    exact proper_append (proper_append (proper_quoted key) (proper_cons rfl (proper_cons rfl
      (proper_shown value)))) (proper_cons rfl (by simp))
  | (key, value) :: next :: rest => by
    rw [shownMembers_cons]
    exact proper_append (proper_append (proper_quoted key) (proper_cons rfl (proper_cons rfl
      (proper_shown value)))) (proper_cons rfl (proper_cons rfl
        (proper_shownMembers (next :: rest))))

end

def WholeText : Json → Prop
  | .text s => Whole s.toList
  | _ => True

theorem whole_asText {value : Json} (whole : value.WholeText) : Whole value.asText.toList := by
  cases value with
  | text s => exact whole
  | _ =>
    rw [asText, String.toList_ofList]
    · exact Text.whole_of_no_standIn (proper_shown _)
    · intro s same
      cases same

/-! ## Values that are read -/

theorem wholeText_of_readWord {cs rest : List Char} {value : Json}
    (read : readWord cs = some (value, rest)) : value.WholeText := by
  obtain ⟨⟨word, meant⟩, mem, found⟩ := List.exists_of_findSome?_eq_some read
  have plain : ∀ entry ∈ words, entry.2.WholeText := by simp [words, WholeText]
  dsimp only at found
  split at found <;> cases found
  exact plain _ mem

theorem wholeText_of_readNumber {room : Limits} {cs rest : List Char} {value : Json}
    (read : readNumber room cs = .ok (value, rest)) : value.WholeText := by
  unfold readNumber at read
  split at read
  dsimp only at read
  split at read
  · cases read
  · split at read
    · split at read <;> cases read
      trivial
    · cases read
      trivial

theorem wholeText_of_readValue {room : Limits} {fuel : Nat} {cs rest : List Char} {value : Json}
    (read : readValue room fuel cs = .ok (value, rest)) : value.WholeText := by
  cases fuel with
  | zero => cases read
  | succ fuel =>
    rw [readValue.eq_def] at read
    dsimp only at read
    split at read
    case h_1 =>
      obtain ⟨⟨s, behind⟩, text, read⟩ := exists_of_bind_ok read
      cases read
      exact whole_of_readTextBehind text
    case h_2 =>
      split at read
      · cases read
      · split at read
        · cases read
          trivial
        · obtain ⟨⟨found, behind⟩, -, read⟩ := exists_of_bind_ok read
          cases read
          trivial
    case h_3 =>
      split at read
      · cases read
      · split at read
        · cases read
          trivial
        · obtain ⟨⟨found, behind⟩, -, read⟩ := exists_of_bind_ok read
          cases read
          trivial
    case h_4 =>
      split at read
      case h_1 word =>
        cases read
        exact wholeText_of_readWord word
      case h_2 => exact wholeText_of_readNumber read

theorem wholeText_of_readMembers {room : Limits} {fuel : Nat} {cs rest : List Char}
    {members : List (String × Json)} (read : readMembers room fuel cs = .ok (members, rest)) :
    ∀ member ∈ members, member.2.WholeText := by
  induction fuel generalizing cs members rest with
  | zero => cases read
  | succ fuel ih =>
    rw [readMembers.eq_def] at read
    dsimp only at read
    split at read
    case h_1 =>
      obtain ⟨⟨key, behind⟩, -, read⟩ := exists_of_bind_ok read
      dsimp only at read
      split at read
      case h_1 =>
        obtain ⟨⟨value, behind⟩, given, read⟩ := exists_of_bind_ok read
        have own := wholeText_of_readValue given
        dsimp only at read
        split at read
        case h_1 =>
          cases read
          intro member mem
          exact List.mem_singleton.mp mem ▸ own
        case h_2 =>
          obtain ⟨⟨others, behind⟩, later, read⟩ := exists_of_bind_ok read
          cases read
          intro member mem
          rcases List.mem_cons.mp mem with rfl | mem
          · exact own
          · exact ih later member mem
        case h_3 => cases read
      case h_2 => cases read
    case h_2 => cases read

theorem wholeText_of_read {room : Limits} {cs : List Char} {members : List (String × Json)}
    (given : read cs room = .ok (.object members)) : ∀ member ∈ members, member.2.WholeText := by
  obtain ⟨entries, written, rfl⟩ := exists_of_read_object given
  intro member mem
  obtain ⟨entry, among, same⟩ := Table.exists_of_mem_ofList mem
  rcases exists_of_membersAt? written with rfl | ⟨text, behind, read⟩
  · cases among
  · exact same ▸ wholeText_of_readMembers read entry among

end Json

end CrossDriver
