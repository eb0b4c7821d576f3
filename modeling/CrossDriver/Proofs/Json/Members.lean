import CrossDriver.Json.Reader
import CrossDriver.Proofs.Table
import CrossDriver.Proofs.Traced

namespace CrossDriver

namespace Json

theorem readWord_ne_object (cs : List Char) (members : List (String × Json)) (rest : List Char) :
    readWord cs ≠ some (.object members, rest) := by
  intro read
  obtain ⟨⟨word, value⟩, mem, found⟩ := List.exists_of_findSome?_eq_some read
  have plain : ∀ entry ∈ words, ∀ members, entry.2 ≠ .object members := by simp [words]
  dsimp only at found
  split at found <;> cases found
  exact plain _ mem members rfl

theorem readNumber_ne_object (room : Limits) (cs : List Char) (members : List (String × Json))
    (rest : List Char) :
    readNumber room cs ≠ .ok (.object members, rest) := by
  intro read
  unfold readNumber at read
  split at read
  dsimp only at read
  split at read
  · cases read
  · split at read
    · split at read <;> cases read
    · cases read

def membersAt? (room : Limits) (fuel : Nat) : List Char → Option (List (String × Json))
  | '\x7b' :: opened =>
    match skipSpace opened with
    | '\x7d' :: _ => some []
    | inner => (readMembers room.inner fuel inner).toOption.map Prod.fst
  | _ => none

def writtenMembers? (room : Limits) (cs : List Char) : Option (List (String × Json)) :=
  membersAt? room (2 * cs.length) (skipSpace cs)

theorem exists_of_membersAt? {room : Limits} {fuel : Nat} {cs : List Char}
    {entries : List (String × Json)} (written : membersAt? room fuel cs = some entries) :
    entries = [] ∨ ∃ inner rest, readMembers room.inner fuel inner = .ok (entries, rest) := by
  unfold membersAt? at written
  split at written
  · split at written
    · exact .inl (Option.some.inj written).symm
    · next opened _ _ =>
      obtain ⟨⟨found, rest⟩, read, rfl⟩ := Option.map_eq_some_iff.mp written
      cases given : readMembers room.inner fuel (skipSpace opened) with
      | error stop =>
        rw [given] at read
        cases read
      | ok answer =>
        rw [given] at read
        cases read
        exact .inr ⟨_, rest, given⟩
  · cases written

theorem membersAt?_of_closed {room : Limits} {fuel : Nat} {opened rest : List Char}
    (closed : skipSpace opened = '\x7d' :: rest) :
    membersAt? room fuel ('\x7b' :: opened) = some [] := by
  simp only [membersAt?, closed]

theorem membersAt?_of_filled {room : Limits} {fuel : Nat} {opened : List Char}
    (filled : ∀ rest, skipSpace opened = '\x7d' :: rest → False) :
    membersAt? room fuel ('\x7b' :: opened) =
      (readMembers room.inner fuel (skipSpace opened)).toOption.map Prod.fst := by
  rw [membersAt?]
  split
  · next closed => exact (filled _ closed).elim
  · rfl

theorem exists_of_readValue_brace {room : Limits} {fuel : Nat} {opened rest : List Char}
    {value : Json} (given : readValue room (fuel + 1) ('\x7b' :: opened) = .ok (value, rest)) :
    ∃ entries, membersAt? room fuel ('\x7b' :: opened) = some entries ∧
      value = .object (Table.ofList entries) := by
  rw [readValue] at given
  split at given
  · cases given
  · split at given
    · next closed =>
      cases given
      exact ⟨[], membersAt?_of_closed closed, rfl⟩
    · next filled =>
      obtain ⟨⟨entries, r⟩, read, given⟩ := exists_of_bind_ok given
      cases given
      refine ⟨entries, ?_, rfl⟩
      rw [membersAt?_of_filled filled, read]
      rfl

theorem exists_members_of_readValue {room : Limits} {fuel : Nat} {cs rest : List Char}
    {members : List (String × Json)}
    (given : readValue room (fuel + 1) cs = .ok (.object members, rest)) :
    ∃ entries, membersAt? room fuel cs = some entries ∧ members = Table.ofList entries := by
  have whole := given
  rw [readValue.eq_def] at given
  dsimp only at given
  split at given
  case h_1 =>
    obtain ⟨⟨s, r⟩, -, given⟩ := exists_of_bind_ok given
    cases given
  case h_2 =>
    obtain ⟨entries, written, same⟩ := exists_of_readValue_brace whole
    cases same
    exact ⟨entries, written, rfl⟩
  case h_3 =>
    split at given
    · cases given
    · split at given
      · cases given
      · obtain ⟨⟨s, r⟩, -, given⟩ := exists_of_bind_ok given
        cases given
  case h_4 =>
    split at given
    case h_1 read =>
      cases given
      exact absurd read (readWord_ne_object cs members rest)
    case h_2 => exact absurd given (readNumber_ne_object room cs members rest)

theorem eq_object_of_membersAt? {room : Limits} {fuel : Nat} {cs rest : List Char} {value : Json}
    {entries : List (String × Json)} (written : membersAt? room fuel cs = some entries)
    (given : readValue room (fuel + 1) cs = .ok (value, rest)) :
    ∃ members, value = .object members := by
  unfold membersAt? at written
  split at written
  · obtain ⟨found, -, object⟩ := exists_of_readValue_brace given
    exact ⟨_, object⟩
  · cases written

section
variable {room : Limits} {cs : List Char}

theorem exists_of_read {value : Json} (given : read cs room = .ok value) :
    ∃ rest, readValue room (2 * cs.length + 1) (skipSpace cs) = .ok (value, rest) := by
  rw [read] at given
  cases whole : readWhole room cs with
  | error s =>
    rw [whole] at given
    cases given
  | ok found =>
    rw [whole] at given
    obtain rfl : found = value := Except.ok.inj given
    rw [readWhole] at whole
    split at whole
    · cases whole
    · obtain ⟨⟨found, rest⟩, inner, whole⟩ := exists_of_bind_ok whole
      dsimp only at whole
      split at whole
      · cases whole
        exact ⟨rest, inner⟩
      · cases whole

theorem exists_of_read_object {members : List (String × Json)}
    (given : read cs room = .ok (.object members)) :
    ∃ entries, writtenMembers? room cs = some entries ∧ members = Table.ofList entries := by
  obtain ⟨rest, inner⟩ := exists_of_read given
  exact exists_members_of_readValue inner

theorem eq_object_of_writtenMembers? {value : Json} {entries : List (String × Json)}
    (written : writtenMembers? room cs = some entries) (given : read cs room = .ok value) :
    ∃ members, value = .object members := by
  obtain ⟨rest, inner⟩ := exists_of_read given
  exact eq_object_of_membersAt? written inner

theorem nodup_keys_of_read {members : List (String × Json)}
    (given : read cs room = .ok (.object members)) : (Table.keys members).Nodup := by
  obtain ⟨entries, -, rfl⟩ := exists_of_read_object given
  exact Table.nodup_keys_ofList entries

end

end Json

end CrossDriver
