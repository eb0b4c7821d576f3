import CrossDriver.Proofs.Json.Members
import CrossDriver.Proofs.Json.WrittenText
import Mathlib.Data.List.TakeWhile

namespace CrossDriver

namespace Json

open Text (Whole)

/-! ## Values without numbers -/

mutual

/-- A value without numbers, of which the texts are whole and the objects name no member twice. -/
def Textual : Json → Prop
  | .null | .bool _ => True
  | .integer _ | .real _ => False
  | .text s => Whole s.toList
  | .array items => TextualItems items
  | .object members => (members.map Prod.fst).Nodup ∧ TextualMembers members

def TextualItems : List Json → Prop
  | [] => True
  | item :: items => Textual item ∧ TextualItems items

def TextualMembers : List (String × Json) → Prop
  | [] => True
  | (key, value) :: members => Whole key.toList ∧ Textual value ∧ TextualMembers members

end

mutual

def depth : Json → Nat
  | .array items => depthItems items + 1
  | .object members => depthMembers members + 1
  | _ => 0

def depthItems : List Json → Nat
  | [] => 0
  | item :: items => max (depth item) (depthItems items)

def depthMembers : List (String × Json) → Nat
  | [] => 0
  | (_, value) :: members => max (depth value) (depthMembers members)

end

/-! ## Between the values -/

theorem skipSpace_newLine (level : Nat) (cs : List Char) :
    skipSpace (newLine level ++ cs) = skipSpace cs := by
  have blanks (n : Nat) : skipSpace (List.replicate n ' ' ++ cs) = skipSpace cs := by
    induction n with
    | zero => rfl
    | succ n ih => exact ih
  exact blanks _

theorem skipSpace_of_start {c : Char} (solid : isSpace c = false) (cs : List Char) :
    skipSpace (c :: cs) = c :: cs := by
  rw [skipSpace, List.dropWhile_cons_of_neg (by simp [solid])]

theorem exists_writeAt {value : Json} (textual : value.Textual) (level : Nat) :
    ∃ c cs, writeAt level value = c :: cs ∧ isSpace c = false ∧ c ≠ ']' := by
  cases value with
  | null => exact ⟨_, _, rfl, rfl, by decide⟩
  | bool b => cases b <;> exact ⟨_, _, rfl, rfl, by decide⟩
  | integer n => cases textual
  | real x => cases textual
  | text s => exact ⟨_, _, rfl, rfl, by decide⟩
  | array items => cases items <;> exact ⟨_, _, rfl, rfl, by decide⟩
  | object members => cases members <;> exact ⟨_, _, rfl, rfl, by decide⟩

theorem skipSpace_writeAt {value : Json} (textual : value.Textual) (level : Nat)
    (rest : List Char) : skipSpace (writeAt level value ++ rest) = writeAt level value ++ rest := by
  obtain ⟨c, cs, start, solid, -⟩ := exists_writeAt textual level
  rw [start]
  exact skipSpace_of_start solid _

/-! ## Steps of the reader -/

section
variable {room : Limits} {fuel : Nat} {rest tail : List Char}

theorem readValue_word {word : List Char} {value : Json} (known : (word, value) ∈ words.take 3) :
    readValue room (fuel + 1) (word ++ rest) = .ok (value, rest) := by
  simp only [words, List.take, List.mem_cons, List.not_mem_nil, or_false, Prod.mk.injEq] at known
  rcases known with ⟨rfl, rfl⟩ | ⟨rfl, rfl⟩ | ⟨rfl, rfl⟩ <;> simp [readValue, readWord, words]

theorem readTextBehind_writeText {s : String} (whole : Whole s.toList) (rest : List Char) :
    ∃ behind, writeText s ++ rest = '"' :: behind ∧ readTextBehind behind = .ok (s, rest) := by
  refine ⟨s.toList.flatMap writeChar ++ '"' :: rest, ?_, readTextBehind_written whole rest⟩
  simp [writeText]

theorem readValue_writeText {s : String} (whole : Whole s.toList) :
    readValue room (fuel + 1) (writeText s ++ rest) = .ok (.text s, rest) := by
  obtain ⟨behind, start, read⟩ := readTextBehind_writeText whole rest
  rw [start, readValue, read]
  rfl

theorem readValue_items {cs : List Char} {c : Char} {items : List Json} (below : room.levels ≠ 0)
    (start : skipSpace cs = c :: rest) (open_ : c ≠ ']')
    (read : readItems room.inner fuel (c :: rest) = .ok (items, tail)) :
    readValue room (fuel + 1) ('[' :: cs) = .ok (.array items, tail) := by
  rw [readValue, if_neg below, start]
  split
  case h_1 same =>
    cases same
    exact absurd rfl open_
  case h_2 =>
    rw [read]
    rfl

theorem readValue_members {cs : List Char} {members : List (String × Json)}
    (below : room.levels ≠ 0) (start : skipSpace cs = '"' :: rest)
    (read : readMembers room.inner fuel ('"' :: rest) = .ok (members, tail)) :
    readValue room (fuel + 1) ('\x7b' :: cs) = .ok (.object (Table.ofList members), tail) := by
  rw [readValue, if_neg below, start]
  split
  case h_1 same => cases same
  case h_2 =>
    rw [read]
    rfl

theorem readItems_last {cs : List Char} {item : Json}
    (read : readValue room fuel cs = .ok (item, rest)) (stop : skipSpace rest = ']' :: tail) :
    readItems room (fuel + 1) cs = .ok ([item], tail) := by
  rw [readItems, read]
  simp only [bind, Except.bind, stop]
  rfl

theorem readItems_more {cs more : List Char} {item : Json} {items : List Json}
    (read : readValue room fuel cs = .ok (item, rest)) (go_on : skipSpace rest = ',' :: more)
    (later : readItems room fuel (skipSpace more) = .ok (items, tail)) :
    readItems room (fuel + 1) cs = .ok (item :: items, tail) := by
  rw [readItems, read]
  simp only [bind, Except.bind, go_on, later]
  rfl

theorem readMembers_last {cs colon : List Char} {key : String} {value : Json}
    (name : readTextBehind cs = .ok (key, ':' :: colon))
    (read : readValue room fuel (skipSpace colon) = .ok (value, rest))
    (stop : skipSpace rest = '\x7d' :: tail) :
    readMembers room (fuel + 1) ('"' :: cs) = .ok ([(key, value)], tail) := by
  rw [readMembers, name]
  simp only [bind, Except.bind, skipSpace_of_start (c := ':') rfl, read, stop]
  rfl

theorem readMembers_more {cs colon more : List Char} {key : String} {value : Json}
    {members : List (String × Json)} (name : readTextBehind cs = .ok (key, ':' :: colon))
    (read : readValue room fuel (skipSpace colon) = .ok (value, rest))
    (go_on : skipSpace rest = ',' :: more)
    (later : readMembers room fuel (skipSpace more) = .ok (members, tail)) :
    readMembers room (fuel + 1) ('"' :: cs) = .ok ((key, value) :: members, tail) := by
  rw [readMembers, name]
  simp only [bind, Except.bind, skipSpace_of_start (c := ':') rfl, read, go_on, later]
  rfl

end

/-! ## Values -/

def ReadsValue (fuel : Nat) : Prop :=
  ∀ {value : Json} (level : Nat) (room : Limits) (rest : List Char),
    value.Textual → value.depth ≤ room.levels → 2 * (writeAt level value).length ≤ fuel →
    readValue room fuel (writeAt level value ++ rest) = .ok (value, rest)

def ReadsItems (fuel : Nat) : Prop :=
  ∀ {item : Json} {items : List Json} (level : Nat) (room : Limits) (rest : List Char),
    TextualItems (item :: items) → depthItems (item :: items) ≤ room.levels →
    2 * (writeAt (level + 1) item ++ writeItems level items).length ≤ fuel →
    readItems room fuel (writeAt (level + 1) item ++ writeItems level items ++ rest) =
      .ok (item :: items, rest)

def ReadsMembers (fuel : Nat) : Prop :=
  ∀ {key : String} {value : Json} {members : List (String × Json)} (level : Nat) (room : Limits)
    (rest : List Char), TextualMembers ((key, value) :: members) →
    depthMembers ((key, value) :: members) ≤ room.levels →
    2 * (writeText key ++ ':' :: ' ' :: writeAt (level + 1) value ++
      writeMembers level members).length ≤ fuel →
    readMembers room fuel (writeText key ++ ':' :: ' ' :: writeAt (level + 1) value ++
      writeMembers level members ++ rest) = .ok ((key, value) :: members, rest)

theorem readsItems_succ {fuel : Nat} (value : ReadsValue fuel) (items : ReadsItems fuel) :
    ReadsItems (fuel + 1) := by
  intro item others level room rest textual shallow enough
  obtain ⟨own, later⟩ := textual
  rw [depthItems] at shallow
  rw [List.length_append] at enough
  rw [List.append_assoc]
  cases others with
  | nil =>
    have stop : skipSpace (writeItems level [] ++ rest) = ']' :: rest := by
      rw [writeItems, List.append_assoc, skipSpace_newLine]
      rfl
    have long : 1 ≤ (writeItems level []).length := by simp [writeItems]
    exact readItems_last (value _ _ _ own (by omega) (by omega)) stop
  | cons next others =>
    have behind : writeItems level (next :: others) ++ rest = ',' :: (newLine (level + 1) ++
        (writeAt (level + 1) next ++ (writeItems level others ++ rest))) := by
      simp [writeItems]
    have long : (writeAt (level + 1) next ++ writeItems level others).length + 1 ≤
        (writeItems level (next :: others)).length := by
      simp only [writeItems, List.length_append, List.length_cons]
      omega
    rw [behind]
    refine readItems_more (value _ _ _ own (by omega) (by omega)) (skipSpace_of_start rfl _) ?_
    rw [skipSpace_newLine, skipSpace_writeAt later.1, ← List.append_assoc]
    exact items _ _ rest later (by omega) (by omega)

theorem readsMembers_succ {fuel : Nat} (values : ReadsValue fuel) (members : ReadsMembers fuel) :
    ReadsMembers (fuel + 1) := by
  intro key value others level room rest textual shallow enough
  obtain ⟨whole, own, later⟩ := textual
  rw [depthMembers] at shallow
  simp only [List.length_append, List.length_cons] at enough
  rw [List.append_assoc, List.append_assoc]
  obtain ⟨behind, start, name⟩ := readTextBehind_writeText whole
    (':' :: ' ' :: writeAt (level + 1) value ++ (writeMembers level others ++ rest))
  have spaced : skipSpace (' ' :: writeAt (level + 1) value ++ (writeMembers level others ++ rest)) =
      writeAt (level + 1) value ++ (writeMembers level others ++ rest) :=
    skipSpace_writeAt own (level + 1) _
  have read : readValue room fuel (skipSpace
      (' ' :: writeAt (level + 1) value ++ (writeMembers level others ++ rest))) =
        .ok (value, writeMembers level others ++ rest) := by
    rw [spaced]
    exact values _ _ _ own (by omega) (by omega)
  rw [start]
  cases others with
  | nil =>
    refine readMembers_last name read ?_
    rw [writeMembers, List.append_assoc, skipSpace_newLine]
    rfl
  | cons next others =>
    obtain ⟨name', value'⟩ := next
    have line : writeMembers level ((name', value') :: others) ++ rest =
        ',' :: (newLine (level + 1) ++ (writeText name' ++ ':' :: ' ' :: writeAt (level + 1) value' ++
          writeMembers level others ++ rest)) := by
      simp [writeMembers]
    have long : (writeText name' ++ ':' :: ' ' :: writeAt (level + 1) value' ++
        writeMembers level others).length + 1 ≤
          (writeMembers level ((name', value') :: others)).length := by
      simp only [writeMembers, List.length_append, List.length_cons]
      omega
    refine readMembers_more name read (by rw [line]; exact skipSpace_of_start rfl _) ?_
    have solid (cs : List Char) : skipSpace (writeText name' ++ cs) = writeText name' ++ cs :=
      skipSpace_of_start rfl _
    rw [skipSpace_newLine, List.append_assoc, List.append_assoc, solid, ← List.append_assoc,
      ← List.append_assoc]
    exact members _ _ rest later (by omega) (by omega)

theorem readsValue_succ {fuel : Nat} (items : ReadsItems fuel) (members : ReadsMembers fuel) :
    ReadsValue (fuel + 1) := by
  intro value level room rest textual shallow enough
  cases value with
  | null => exact readValue_word (.head _)
  | bool b =>
    cases b
    · exact readValue_word (.tail _ (.tail _ (.head _)))
    · exact readValue_word (.tail _ (.head _))
  | integer n => cases textual
  | real x => cases textual
  | text s => exact readValue_writeText textual
  | array entries =>
    rw [depth] at shallow
    cases entries with
    | nil =>
      rw [writeAt, List.cons_append, readValue, if_neg (by omega)]
      rfl
    | cons item others =>
      rw [writeAt] at enough ⊢
      simp only [List.length_append, List.length_cons] at enough
      -- The first item starts on the spot, and not as the end of a list does.
      obtain ⟨c, cs, start, solid, open_⟩ := exists_writeAt textual.1 (level + 1)
      have inner := items level room.inner rest textual (by rw [room.levels_inner]; omega)
        (by rw [List.length_append]; omega)
      have line : '[' :: newLine (level + 1) ++ writeAt (level + 1) item ++ writeItems level others ++
          rest = '[' :: (newLine (level + 1) ++ (c :: (cs ++ writeItems level others ++ rest))) := by
        simp [start]
      rw [line]
      refine readValue_items (by omega) ?_ open_ (start ▸ inner)
      rw [skipSpace_newLine]
      exact skipSpace_of_start solid _
  | object entries =>
    obtain ⟨distinct, textual⟩ := textual
    rw [depth] at shallow
    cases entries with
    | nil =>
      rw [writeAt, List.cons_append, readValue, if_neg (by omega)]
      rfl
    | cons entry others =>
      obtain ⟨name, value⟩ := entry
      rw [writeAt] at enough ⊢
      simp only [List.length_append, List.length_cons] at enough
      have inner := members level room.inner rest textual (by rw [room.levels_inner]; omega)
        (by simp only [List.length_append, List.length_cons]; omega)
      obtain ⟨behind, start, -⟩ := readTextBehind_writeText textual.1
        (':' :: ' ' :: writeAt (level + 1) value ++ (writeMembers level others ++ rest))
      have line : '\x7b' :: newLine (level + 1) ++ writeText name ++ ':' :: ' ' ::
          writeAt (level + 1) value ++ writeMembers level others ++ rest =
            '\x7b' :: (newLine (level + 1) ++ '"' :: behind) := by
        simp [← start]
      rw [List.append_assoc, List.append_assoc, start] at inner
      have below : room.levels ≠ 0 := by omega
      rw [line, readValue_members below (skipSpace_newLine _ _) inner,
        Table.ofList_of_nodup distinct]

theorem reads_written_of_fuel (fuel : Nat) :
    ReadsValue fuel ∧ ReadsItems fuel ∧ ReadsMembers fuel := by
  induction fuel with
  | zero =>
    refine ⟨?_, ?_, ?_⟩
    · intro value level room rest textual shallow enough
      obtain ⟨c, cs, start, -⟩ := exists_writeAt textual level
      simp [start] at enough
    · intro item items level room rest textual shallow enough
      obtain ⟨c, cs, start, -⟩ := exists_writeAt textual.1 (level + 1)
      simp [start] at enough
    · intro key value members level room rest textual shallow enough
      simp [writeText] at enough
  | succ fuel ih =>
    obtain ⟨value, items, members⟩ := ih
    exact ⟨readsValue_succ items members, readsItems_succ value items,
      readsMembers_succ value members⟩

/-! ## Whole texts -/

def Plain (c : Char) : Prop :=
  Visible c ∨ c = '\n'

theorem plain_newLine (level : Nat) : ∀ c ∈ newLine level, Plain c := by
  intro c mem
  rcases List.mem_cons.mp mem with rfl | blank
  · exact .inr rfl
  · rw [List.eq_of_mem_replicate blank]
    exact .inl (by simp [Visible])

theorem plain_append {first more : List Char} (before : ∀ c ∈ first, Plain c)
    (behind : ∀ c ∈ more, Plain c) : ∀ c ∈ first ++ more, Plain c := by
  intro c mem
  exact (List.mem_append.mp mem).elim (before c) (behind c)

theorem plain_cons {c : Char} {more : List Char} (visible : Visible c) (behind : ∀ c ∈ more, Plain c) :
    ∀ d ∈ c :: more, Plain d := by
  intro d mem
  rcases List.mem_cons.mp mem with rfl | later
  · exact .inl visible
  · exact behind d later

theorem plain_writeText (s : String) : ∀ c ∈ writeText s, Plain c :=
  fun _ mem => .inl (visible_of_mem_writeText mem)

mutual

theorem plain_writeAt : ∀ {value : Json} (level : Nat), value.Textual →
    ∀ c ∈ writeAt level value, Plain c
  | .null, _, _ => by simp [writeAt, Plain, Visible]
  | .bool b, _, _ => by cases b <;> simp [writeAt, Plain, Visible]
  | .text s, _, _ => plain_writeText s
  | .array [], _, _ => by simp [writeAt, Plain, Visible]
  | .array (item :: items), level, textual => by
    rw [writeAt]
    exact plain_append (plain_append (plain_cons (by simp [Visible]) (plain_newLine _))
      (plain_writeAt _ textual.1)) (plain_writeItems _ textual.2)
  | .object [], _, _ => by simp [writeAt, Plain, Visible]
  | .object ((key, value) :: members), level, textual => by
    obtain ⟨-, -, own, later⟩ := textual
    rw [writeAt]
    exact plain_append (plain_append (plain_append (plain_cons (by simp [Visible]) (plain_newLine _))
      (plain_writeText key)) (plain_cons (by simp [Visible]) (plain_cons (by simp [Visible])
        (plain_writeAt _ own)))) (plain_writeMembers _ later)

theorem plain_writeItems : ∀ {items : List Json} (level : Nat), TextualItems items →
    ∀ c ∈ writeItems level items, Plain c
  | [], level, _ => by
    rw [writeItems]
    exact plain_append (plain_newLine _) (plain_cons (by simp [Visible]) (by simp))
  | item :: items, level, textual => by
    rw [writeItems]
    exact plain_append (plain_append (plain_cons (by simp [Visible]) (plain_newLine _))
      (plain_writeAt _ textual.1)) (plain_writeItems _ textual.2)

theorem plain_writeMembers : ∀ {members : List (String × Json)} (level : Nat),
    TextualMembers members → ∀ c ∈ writeMembers level members, Plain c
  | [], level, _ => by
    rw [writeMembers]
    exact plain_append (plain_newLine _) (plain_cons (by simp [Visible]) (by simp))
  | (key, value) :: members, level, textual => by
    obtain ⟨-, own, later⟩ := textual
    rw [writeMembers]
    exact plain_append (plain_append (plain_append (plain_cons (by simp [Visible]) (plain_newLine _))
      (plain_writeText key)) (plain_cons (by simp [Visible]) (plain_cons (by simp [Visible])
        (plain_writeAt _ own)))) (plain_writeMembers _ later)

end

theorem read_write {room : Limits} {value : Json} (textual : value.Textual)
    (shallow : value.depth ≤ room.levels) {blanks : List Char} (blank : ∀ c ∈ blanks, isSpace c) :
    read (writeAt 0 value ++ blanks) room = .ok value := by
  obtain ⟨c, cs, start, -⟩ := exists_writeAt textual 0
  have no_mark : (writeAt 0 value ++ blanks).head? ≠ some '\uFEFF' := by
    have plain := plain_writeAt 0 textual c (start ▸ List.mem_cons_self)
    rw [start]
    rintro ⟨⟩
    rcases plain with visible | line
    · exact absurd visible.2 (by decide)
    · cases line
  have value_read := (reads_written_of_fuel (2 * (writeAt 0 value ++ blanks).length + 1)).1
    0 room blanks textual shallow (by rw [List.length_append]; omega)
  have nothing : skipSpace blanks = [] := List.dropWhile_eq_nil_iff.mpr blank
  have whole : readWhole room (writeAt 0 value ++ blanks) = .ok value := by
    rw [readWhole, if_neg no_mark, skipSpace_writeAt textual, value_read]
    simp only [bind, Except.bind, nothing]
    rfl
  rw [read, whole]
  rfl

theorem read_write_line {room : Limits} {value : Json} (textual : value.Textual)
    (shallow : value.depth ≤ room.levels) : read (value.write ++ "\n").toList room = .ok value := by
  rw [write, String.toList_append, String.toList_ofList]
  refine read_write textual shallow fun c mem => ?_
  rw [List.mem_singleton.mp mem]
  rfl

end Json

end CrossDriver
