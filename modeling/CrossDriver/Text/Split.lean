namespace CrossDriver.Text

def pieces (sep : Char) : List Char → List (List Char)
  | [] => [[]]
  | c :: rest =>
    if c = sep then [] :: pieces sep rest
    else match pieces sep rest with
      | [] => [[c]]
      | piece :: more => (c :: piece) :: more

def firstPieces (sep : Char) : (count : Nat) → List Char → List (List Char)
  | 0, cs => [cs]
  | _ + 1, [] => [[]]
  | count + 1, c :: rest =>
    if c = sep then [] :: firstPieces sep count rest
    else match firstPieces sep (count + 1) rest with
      | [] => [[c]]
      | piece :: more => (c :: piece) :: more

def joined (sep : List Char) : List (List Char) → List Char
  | [] => []
  | [piece] => piece
  | piece :: more => piece ++ sep ++ joined sep more

def replaceChar (old : Char) (new : List Char) (cs : List Char) : List Char :=
  cs.flatMap fun c => if c = old then new else [c]

def dropStart? : (start cs : List Char) → Option (List Char)
  | [], cs => some cs
  | _ :: _, [] => none
  | s :: start, c :: cs => if s = c then dropStart? start cs else none

theorem dropStart?_eq_some_iff {start cs rest : List Char} :
    dropStart? start cs = some rest ↔ cs = start ++ rest := by
  fun_induction dropStart? start cs with
  | case1 => simp [eq_comm]
  | case2 => simp
  | case3 s start cs ih => simp [ih]
  | case4 s start c cs h => simp [Ne.symm h]

theorem pieces_ne_nil (sep : Char) (cs : List Char) : pieces sep cs ≠ [] := by
  fun_induction pieces sep cs <;> simp

theorem joined_pieces (sep : Char) (cs : List Char) : joined [sep] (pieces sep cs) = cs := by
  induction cs with
  | nil => rfl
  | cons c rest ih =>
    by_cases h : c = sep
    · subst h
      cases hp : pieces c rest with
      | nil => exact absurd hp (pieces_ne_nil c rest)
      | cons piece more =>
        rw [hp] at ih
        simp [pieces, hp, joined, ih]
    · cases hp : pieces sep rest with
      | nil => exact absurd hp (pieces_ne_nil sep rest)
      | cons piece more =>
        rw [hp] at ih
        cases more <;> simp_all [pieces, joined]

theorem length_firstPieces_le (sep : Char) (count : Nat) (cs : List Char) :
    (firstPieces sep count cs).length ≤ count + 1 := by
  fun_induction firstPieces sep count cs <;> simp_all

def join (sep : String) (texts : List String) : String :=
  String.ofList (joined sep.toList (texts.map String.toList))

@[simp] theorem join_singleton (sep text : String) : join sep [text] = text :=
  String.ofList_toList

end CrossDriver.Text
