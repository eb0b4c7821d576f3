import CrossDriver.Text.Split

namespace CrossDriver.Text

theorem firstPieces_ne_nil (sep : Char) (count : Nat) (cs : List Char) :
    firstPieces sep count cs ≠ [] := by
  fun_induction firstPieces sep count cs <;> simp

theorem joined_firstPieces (sep : Char) (count : Nat) (cs : List Char) :
    joined [sep] (firstPieces sep count cs) = cs := by
  fun_induction firstPieces sep count cs with
  | case1 cs => rfl
  | case2 => rfl
  | case3 count rest ih =>
    cases cut : firstPieces sep count rest with
    | nil => exact absurd cut (firstPieces_ne_nil sep count rest)
    | cons piece more => simpa [joined, cut] using ih
  | case4 count c rest ne none => exact absurd none (firstPieces_ne_nil sep (count + 1) rest)
  | case5 count c rest ne piece more cut ih =>
    rw [cut] at ih
    cases more <;> simp_all [joined]

theorem firstPieces_of_not_mem {sep : Char} {cs : List Char} (free : sep ∉ cs) (count : Nat) :
    firstPieces sep count cs = [cs] := by
  cases count with
  | zero => rw [firstPieces]
  | succ count =>
    induction cs with
    | nil => rw [firstPieces]
    | cons c rest ih =>
      obtain ⟨ne, free⟩ := not_or.mp (mt List.mem_cons.mpr free)
      rw [firstPieces, if_neg (Ne.symm ne), ih free]

theorem firstPieces_append_sep {sep : Char} {piece : List Char} (free : sep ∉ piece) (count : Nat)
    (rest : List Char) :
    firstPieces sep (count + 1) (piece ++ sep :: rest) = piece :: firstPieces sep count rest := by
  induction piece with
  | nil => simp [firstPieces]
  | cons c more ih =>
    obtain ⟨ne, free⟩ := not_or.mp (mt List.mem_cons.mpr free)
    rw [List.cons_append, firstPieces, if_neg (Ne.symm ne), ih free]

theorem firstPieces_joined {sep : Char} {texts : List (List Char)} (ne : texts ≠ []) {count : Nat}
    (few : texts.length ≤ count + 1) (free : ∀ piece ∈ texts.take count, sep ∉ piece) :
    firstPieces sep count (joined [sep] texts) = texts := by
  induction texts generalizing count with
  | nil => exact absurd rfl ne
  | cons piece more ih =>
    cases count with
    | zero =>
      obtain rfl : more = [] := List.eq_nil_of_length_eq_zero (by simpa using few)
      rw [firstPieces, joined]
    | succ count =>
      obtain ⟨here, later⟩ := List.forall_mem_cons.mp free
      cases more with
      | nil => exact firstPieces_of_not_mem here (count + 1)
      | cons next others =>
        have behind := ih (List.cons_ne_nil _ _) (by simpa using few) later
        rw [joined, List.append_assoc, List.singleton_append, firstPieces_append_sep here, behind]
        exact List.cons_ne_nil _ _

theorem not_mem_of_mem_take_firstPieces {sep : Char} {count : Nat} {cs piece : List Char}
    (mem : piece ∈ (firstPieces sep count cs).take count) : sep ∉ piece := by
  fun_induction firstPieces sep count cs generalizing piece with
  | case1 cs => cases mem
  | case2 count => simp_all
  | case3 count rest ih =>
    rcases List.mem_cons.mp mem with rfl | behind
    · exact List.not_mem_nil
    · exact ih behind
  | case4 count c rest ne none => exact absurd none (firstPieces_ne_nil sep (count + 1) rest)
  | case5 count c rest ne first more cut ih =>
    rw [cut] at ih
    rcases List.mem_cons.mp mem with rfl | behind
    · have free := ih (.head _)
      simp [free, Ne.symm ne]
    · exact ih (.tail _ behind)

end CrossDriver.Text
