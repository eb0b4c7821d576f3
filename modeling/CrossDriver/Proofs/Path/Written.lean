import CrossDriver.Path

namespace CrossDriver

/-! ## Pieces -/

namespace Text

theorem pieces_of_not_mem {sep : Char} {piece : List Char} (free : sep ∉ piece) :
    pieces sep piece = [piece] := by
  induction piece with
  | nil => rfl
  | cons c rest ih =>
    obtain ⟨ne, free⟩ := not_or.mp (mt List.mem_cons.mpr free)
    rw [pieces, if_neg (Ne.symm ne), ih free]

theorem pieces_append (sep : Char) (cs rest : List Char) :
    pieces sep (cs ++ sep :: rest) = pieces sep cs ++ pieces sep rest := by
  induction cs with
  | nil => simp [pieces]
  | cons c more ih =>
    rw [List.cons_append, pieces, pieces, ih]
    by_cases same : c = sep
    · rw [if_pos same, if_pos same, List.cons_append]
    · rw [if_neg same, if_neg same]
      cases cut : pieces sep more with
      | nil => exact absurd cut (pieces_ne_nil sep more)
      | cons piece others => rfl

theorem pieces_append_sep {sep : Char} {piece : List Char} (free : sep ∉ piece)
    (rest : List Char) : pieces sep (piece ++ sep :: rest) = piece :: pieces sep rest := by
  rw [pieces_append, pieces_of_not_mem free, List.singleton_append]

theorem pieces_joined {sep : Char} {texts : List (List Char)} (ne : texts ≠ [])
    (free : ∀ piece ∈ texts, sep ∉ piece) : pieces sep (joined [sep] texts) = texts := by
  induction texts with
  | nil => exact absurd rfl ne
  | cons piece more ih =>
    have here := free piece (.head _)
    cases more with
    | nil => exact pieces_of_not_mem here
    | cons next others =>
      have later := ih (List.cons_ne_nil _ _) fun other mem => free other (.tail _ mem)
      rw [joined, List.append_assoc, List.singleton_append, pieces_append_sep here, later]
      exact List.cons_ne_nil _ _

theorem not_mem_of_mem_pieces {sep : Char} {cs piece : List Char} (mem : piece ∈ pieces sep cs) :
    sep ∉ piece := by
  induction cs generalizing piece with
  | nil => simp_all [pieces]
  | cons c rest ih =>
    rw [pieces] at mem
    split at mem
    · rcases List.mem_cons.mp mem with rfl | mem
      · exact List.not_mem_nil
      · exact ih mem
    · next ne =>
      split at mem
      · next none => exact absurd none (pieces_ne_nil sep rest)
      · next first more cut =>
        rw [cut] at ih
        rcases List.mem_cons.mp mem with rfl | mem
        · have free := ih (.head _)
          simp [free, Ne.symm ne]
        · exact ih (.tail _ mem)

end Text

/-! ## Names -/

namespace Path

def Plain (name : String) : Prop :=
  name.toList ≠ [] ∧ name.toList ≠ ['.'] ∧ '/' ∉ name.toList

instance (name : String) : Decidable (Plain name) :=
  inferInstanceAs (Decidable (name.toList ≠ [] ∧ name.toList ≠ ['.'] ∧ '/' ∉ name.toList))

def Clean (p : Path) : Prop :=
  ∀ name ∈ p.names, Plain name

theorem clean_ofString (s : String) : (ofString s).Clean := by
  intro name mem
  simp only [ofString, namesOf, List.mem_map, List.mem_filter, Bool.and_eq_true,
    decide_eq_true_eq] at mem
  obtain ⟨piece, ⟨cut, ne_nil, ne_dot⟩, rfl⟩ := mem
  rw [Plain, String.toList_ofList]
  exact ⟨ne_nil, ne_dot, Text.not_mem_of_mem_pieces cut⟩

theorem clean_join {p : Path} (clean : p.Clean) (next : String) : (p.join next).Clean := by
  rw [join]
  split
  · intro name mem
    rcases List.mem_append.mp mem with before | behind
    · exact clean name before
    · exact clean_ofString next name behind
  · exact clean_ofString next

theorem clean_foldl_join {p : Path} (clean : p.Clean) (parts : List String) :
    (parts.foldl join p).Clean := by
  induction parts generalizing p with
  | nil => exact clean
  | cons part rest ih => exact ih (clean_join clean part)

theorem clean_ofParts (first : String) (parts : List String) : (ofParts first parts).Clean :=
  clean_foldl_join (clean_ofString first) parts

theorem clean_parent {p : Path} (clean : p.Clean) : p.parent.Clean :=
  fun name mem => clean name (List.dropLast_subset p.names mem)

/-! ## Writing and reading -/

theorem namesOf_slash (cs : List Char) : namesOf ('/' :: cs) = namesOf cs := by
  simp [namesOf, Text.pieces]

theorem namesOf_joined {names : List String} (plain : ∀ name ∈ names, Plain name) :
    namesOf (Text.joined ['/'] (names.map String.toList)) = names := by
  by_cases none : names = []
  · rw [none]
    rfl
  · have free : ∀ piece ∈ names.map String.toList, '/' ∉ piece := by
      intro piece mem
      obtain ⟨name, named, rfl⟩ := List.mem_map.mp mem
      exact (plain name named).2.2
    have kept : ∀ piece ∈ names.map String.toList,
        (decide (piece ≠ []) && decide (piece ≠ ['.'])) = true := by
      intro piece mem
      obtain ⟨name, named, rfl⟩ := List.mem_map.mp mem
      obtain ⟨ne_nil, ne_dot, -⟩ := plain name named
      simp [ne_nil, ne_dot]
    rw [namesOf, Text.pieces_joined (by simpa using none) free, List.filter_eq_self.mpr kept]
    simp

theorem head?_joined {names : List String} (plain : ∀ name ∈ names, Plain name) :
    (Text.joined ['/'] (names.map String.toList)).head? ≠ some '/' := by
  cases names with
  | nil => exact (Option.some_ne_none _).symm
  | cons name rest =>
    obtain ⟨ne_nil, -, free⟩ := plain name (.head _)
    cases letters : name.toList with
    | nil => exact absurd letters ne_nil
    | cons c more =>
      have first : c ≠ '/' := by
        rintro rfl
        exact free (letters ▸ .head _)
      cases rest <;> simp [Text.joined, letters, first]

theorem startOf_append (start : Start) {cs : List Char} (h : cs.head? ≠ some '/') :
    startOf (start.text.toList ++ cs) = start := by
  cases cs with
  | nil => cases start <;> rfl
  | cons c rest =>
    have first : c ≠ '/' := fun same => h (congrArg some same)
    cases start <;> simp [Start.text, startOf, first]

theorem namesOf_append (start : Start) (cs : List Char) :
    namesOf (start.text.toList ++ cs) = namesOf cs := by
  cases start with
  | here => rfl
  | root => exact namesOf_slash cs
  | doubleRoot => exact (namesOf_slash _).trans (namesOf_slash cs)

theorem ofString_text {p : Path} (clean : p.Clean) : ofString p.text = p := by
  obtain ⟨start, names⟩ := p
  rw [text]
  split
  · next both =>
    obtain ⟨rfl, rfl⟩ := both
    rfl
  · have line : (start.text ++ Text.join "/" names).toList =
        start.text.toList ++ Text.joined ['/'] (names.map String.toList) := by
      rw [String.toList_append, Text.join, String.toList_ofList]
      rfl
    rw [ofString, line, startOf_append start (head?_joined clean), namesOf_append,
      namesOf_joined clean]

theorem text_injective {p q : Path} (clean : p.Clean) (other : q.Clean) (same : p.text = q.text) :
    p = q := by
  rw [← ofString_text clean, same, ofString_text other]

theorem text_ne_of_suffix {p q : Path} (clean : p.Clean) (other : q.Clean)
    {ends others : List String} (here : ends <:+ p.names) (there : others <:+ q.names)
    (length : ends.length = others.length) (ne : ends ≠ others) : p.text ≠ q.text := by
  intro same
  obtain rfl := text_injective clean other same
  obtain ⟨front, names⟩ := here
  obtain ⟨before, also⟩ := there
  exact ne (List.append_inj_right' (names.trans also.symm) length)

theorem text_ne_empty {p : Path} (clean : p.Clean) : p.text ≠ "" := by
  intro empty
  have back := ofString_text clean
  rw [empty] at back
  subst back
  exact absurd empty (by decide)

/-! ## Parts behind a path -/

theorem join_of_relative (p : Path) {next : String} (relative : isAbsolute next = false) :
    p.join next = ⟨p.start, p.names ++ (ofString next).names⟩ := by
  have here : (ofString next).start = .here := by simpa [isAbsolute] using relative
  rw [join, if_pos here]

theorem foldl_join_of_relative (p : Path) {parts : List String}
    (relative : ∀ part ∈ parts, isAbsolute part = false) :
    parts.foldl join p = ⟨p.start, p.names ++ parts.flatMap fun part => (ofString part).names⟩ := by
  induction parts generalizing p with
  | nil => simp
  | cons part rest ih =>
    obtain ⟨own, later⟩ := List.forall_mem_cons.mp relative
    rw [List.foldl_cons, join_of_relative p own, ih _ later, List.flatMap_cons, List.append_assoc]

theorem ofString_of_plain {name : String} (plain : Plain name) :
    ofString name = ⟨.here, [name]⟩ := by
  have clean : Clean ⟨.here, [name]⟩ := by simpa [Clean] using plain
  have written : (⟨.here, [name]⟩ : Path).text = name := by
    simp [text, Text.join, Text.joined, Start.text]
  rw [← ofString_text clean, written]

theorem isAbsolute_of_plain {name : String} (plain : Plain name) : isAbsolute name = false := by
  rw [isAbsolute, ofString_of_plain plain]
  rfl

theorem join_of_plain (p : Path) {name : String} (plain : Plain name) :
    p.join name = ⟨p.start, p.names ++ [name]⟩ := by
  rw [join_of_relative p (isAbsolute_of_plain plain), ofString_of_plain plain]

theorem foldl_join_of_plain (p : Path) {parts : List String}
    (plain : ∀ part ∈ parts, Plain part) :
    parts.foldl join p = ⟨p.start, p.names ++ parts⟩ := by
  have own : (parts.flatMap fun part => (ofString part).names) = parts := by
    rw [List.flatMap_def, List.map_congr_left fun part mem =>
      congrArg names (ofString_of_plain (plain part mem)), ← List.flatMap_def,
      List.flatMap_singleton']
  rw [foldl_join_of_relative p fun part mem => isAbsolute_of_plain (plain part mem), own]

theorem names_ofParts_of_plain (first : String) {parts : List String}
    (plain : ∀ part ∈ parts, Plain part) :
    (ofParts first parts).names = (ofString first).names ++ parts := by
  rw [ofParts, foldl_join_of_plain _ plain]

theorem namesOf_append_slash (cs rest : List Char) :
    namesOf (cs ++ '/' :: rest) = namesOf cs ++ namesOf rest := by
  simp [namesOf, Text.pieces_append]

theorem startOf_append_slash {cs : List Char} (named : cs ∉ [[], ['/'], ['/', '/']])
    (rest : List Char) : startOf (cs ++ '/' :: rest) = startOf cs := by
  have differs {c : Char} {more : List Char} (other : ∀ tail, c :: more = '/' :: tail → False) :
      c ≠ '/' := by
    rintro rfl
    exact other more rfl
  fun_cases startOf cs with
  | case1 => rfl
  | case2 more other =>
    cases more with
    | nil => simp at named
    | cons c more => simp [startOf, differs other]
  | case3 more _ other =>
    cases more with
    | nil => simp at named
    | cons c more => simp [startOf, differs other]
  | case4 cs _ _ other =>
    cases cs with
    | nil => simp at named
    | cons c more => simp [startOf, differs other]

theorem ofString_append_join {dir : String} (named : dir ∉ ["", "/", "//"]) {names : List String}
    (plain : ∀ name ∈ names, Plain name) :
    ofString (dir ++ "/" ++ Text.join "/" names) = ofParts dir names := by
  have line : (dir ++ "/" ++ Text.join "/" names).toList =
      dir.toList ++ '/' :: Text.joined ['/'] (names.map String.toList) := by
    simp [Text.join]
  have more : dir.toList ∉ ["", "/", "//"].map String.toList := by
    intro mem
    obtain ⟨bare, listed, same⟩ := List.mem_map.mp mem
    exact named (String.toList_inj.mp same ▸ listed)
  rw [ofParts, foldl_join_of_plain _ plain, ofString, ofString, line, startOf_append_slash more,
    namesOf_append_slash, namesOf_joined plain]

end Path

end CrossDriver
