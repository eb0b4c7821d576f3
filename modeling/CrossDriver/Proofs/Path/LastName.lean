import CrossDriver.Path

namespace CrossDriver

namespace Text

theorem getLast?_pieces {sep c : Char} {cs : List Char} (ends : cs.getLast? = some c)
    (ne : c ≠ sep) : ∃ last, (pieces sep cs).getLast? = some last ∧ last.getLast? = some c := by
  fun_induction pieces sep cs with
  | case1 => cases ends
  | case2 rest ih =>
    cases rest with
    | nil => exact absurd (Option.some.inj ends).symm ne
    | cons d more =>
      obtain ⟨last, here, last_ends⟩ := ih (by rwa [List.getLast?_cons_cons] at ends)
      exact ⟨last, by rw [List.getLast?_cons, here, Option.getD_some], last_ends⟩
  | case3 d rest hd none ih => exact absurd none (pieces_ne_nil sep rest)
  | case4 d rest hd piece more cut ih =>
    cases rest with
    | nil =>
      cases cut
      exact ⟨[d], rfl, ends⟩
    | cons e others =>
      obtain ⟨last, here, last_ends⟩ := ih (by rwa [List.getLast?_cons_cons] at ends)
      rw [cut] at here
      cases more with
      | nil =>
        have same : piece = last := Option.some.inj here
        exact ⟨d :: piece, rfl, by rw [same, List.getLast?_cons, last_ends, Option.getD_some]⟩
      | cons next further => exact ⟨last, by rwa [List.getLast?_cons_cons] at here ⊢, last_ends⟩

theorem getLast?_toList_append (s : String) {t : String} {c : Char}
    (ends : t.toList.getLast? = some c) : (s ++ t).toList.getLast? = some c := by
  rw [String.toList_append, List.getLast?_append, ends, Option.some_or]

theorem joined_append_singleton (sep : List Char) (before : List (List Char)) (last : List Char) :
    ∃ front, joined sep (before ++ [last]) = front ++ last := by
  induction before with
  | nil => exact ⟨[], rfl⟩
  | cons piece more ih =>
    obtain ⟨front, line⟩ := ih
    cases more with
    | nil => exact ⟨piece ++ sep, rfl⟩
    | cons next others =>
      refine ⟨piece ++ sep ++ front, ?_⟩
      rw [List.cons_append, List.cons_append, joined, ← List.cons_append, line,
        List.append_assoc (piece ++ sep)]
      exact List.cons_ne_nil _ _

end Text

namespace Path

theorem getLast?_names_ofString {s : String} {c : Char} (ends : s.toList.getLast? = some c)
    (slash : c ≠ '/') (dot : c ≠ '.') :
    ∃ last, (ofString s).names.getLast? = some last ∧ last.toList.getLast? = some c := by
  obtain ⟨piece, here, piece_ends⟩ := Text.getLast?_pieces ends slash
  obtain ⟨before, cut⟩ := List.getLast?_eq_some_iff.mp here
  have ne_nil : piece ≠ [] := by rintro rfl; cases piece_ends
  have ne_dot : piece ≠ ['.'] := by rintro rfl; cases piece_ends; exact dot rfl
  refine ⟨String.ofList piece, ?_, by rwa [String.toList_ofList]⟩
  simp [ofString, namesOf, cut, ne_nil, ne_dot]

theorem getLast?_names_join (p : Path) {next last : String}
    (h : (ofString next).names.getLast? = some last) :
    (p.join next).names.getLast? = some last := by
  rw [join]
  split
  · simp [h]
  · exact h

theorem name_join (p : Path) {next : String} (named : (ofString next).name ≠ "") :
    (p.join next).name = (ofString next).name := by
  cases last : (ofString next).names.getLast? with
  | none => exact absurd (by rw [name, last]; rfl) named
  | some final => rw [name, name, getLast?_names_join p last, last]

theorem getLast?_toList_text {p : Path} {last : String} {c : Char}
    (h : p.names.getLast? = some last) (ends : last.toList.getLast? = some c) :
    p.text.toList.getLast? = some c := by
  obtain ⟨before, names⟩ := List.getLast?_eq_some_iff.mp h
  have ne : p.names ≠ [] := by simp [names]
  obtain ⟨front, line⟩ := Text.joined_append_singleton "/".toList (before.map String.toList)
    last.toList
  rw [text, if_neg fun both => ne both.2, String.toList_append, Text.join, names, List.map_append,
    List.map_singleton, String.toList_ofList, line]
  simp [List.getLast?_append, ends]

end Path

end CrossDriver
