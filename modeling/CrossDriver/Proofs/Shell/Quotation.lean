import CrossDriver.Proofs.Shell.Cmd

/-!
# Operators of `cmd`

Two readings of one line for `cmd`. A program finds its words by blanks and double quotes, where of
two double quotes within quotes one is text; the shell itself looks for operators wherever a switch
is off that every double quote flips, text or not.
-/

namespace CrossDriver.Shell

/-- The characters of a token as the switch marks them. All are marked alike, and double quotes only
flip the switch. -/
def marks (cs : List Char) : List (Char × Bool) :=
  (cs.filter (· ≠ '"')).map fun c => (c, cs.any cmdSpecial.contains)

theorem fst_marks (cs : List Char) : (marks cs).map Prod.fst = cs.filter (· ≠ '"') := by
  simp [marks, Function.comp_def]

theorem not_mem_marks {c : Char} (special : c ∈ cmdSpecial) (cs : List Char) :
    (c, false) ∉ marks cs := by
  intro mem
  obtain ⟨d, inside, same⟩ := List.mem_map.mp mem
  obtain ⟨rfl, off⟩ := Prod.mk.inj same
  have within : d ∈ cs := (List.mem_filter.mp inside).1
  have on : cs.any cmdSpecial.contains = true :=
    List.any_eq_true.mpr ⟨d, within, List.contains_iff_mem.mpr special⟩
  exact Bool.false_ne_true (off.symm.trans on)

theorem switchAfter_append (on : Bool) (first second : List Char) :
    switchAfter on (first ++ second) = switchAfter (switchAfter on first) second := by
  induction first generalizing on with
  | nil => rfl
  | cons c rest ih => exact ih _

theorem quotation_of_free {cs : List Char} (free : '"' ∉ cs) (on : Bool) :
    quotation on cs = cs.map (·, on) ∧ switchAfter on cs = on := by
  induction cs with
  | nil => exact ⟨rfl, rfl⟩
  | cons c rest ih =>
    obtain ⟨ne, free⟩ := not_or.mp (mt List.mem_cons.mpr free)
    obtain ⟨marked, still⟩ := ih free
    rw [quotation, switchAfter, if_neg (Ne.symm ne), if_neg (Ne.symm ne)]
    exact ⟨congrArg ((c, on) :: ·) marked, still⟩

theorem quotation_doubled (on : Bool) (cs : List Char) :
    quotation on (doubled cs) = (cs.filter (· ≠ '"')).map (·, on) ∧
      switchAfter on (doubled cs) = on := by
  induction cs with
  | nil => exact ⟨rfl, rfl⟩
  | cons c rest ih =>
    obtain ⟨marked, still⟩ := ih
    by_cases mark : c = '"'
    · simp [doubled_cons, mark, quotation, switchAfter, marked, still]
    · simp [doubled_cons, mark, quotation, switchAfter, marked, still]

theorem quotation_quoteCmd (cs : List Char) :
    quotation false (quoteCmd cs) = marks cs ∧ switchAfter false (quoteCmd cs) = false := by
  rcases quoteCmd_cases cs with ⟨-, plain, bare⟩ | ⟨written, quoted⟩
  · have free : ∀ c ∈ cs, c ≠ '"' := by
      rintro c mem rfl
      exact plain '"' mem (by decide)
    have off : marks cs = cs.map (·, false) := by
      have all : cs.filter (· ≠ '"') = cs := by simpa using free
      have none : cs.any cmdSpecial.contains = false := by simpa using plain
      rw [marks, all, none]
    rw [bare, off]
    exact quotation_of_free (fun mem => free '"' mem rfl) false
  · have on : marks cs = (cs.filter (· ≠ '"')).map (·, true) := by
      rcases written with rfl | special
      · rfl
      · rw [marks, special]
    obtain ⟨marked, still⟩ := quotation_doubled true cs
    rw [quoted, on]
    constructor
    · change quotation true (doubled cs ++ ['"']) = _
      rw [quotation_append, marked]
      exact List.append_nil _
    · change switchAfter true (doubled cs ++ ['"']) = _
      rw [switchAfter_append, still]
      rfl

theorem quotation_lineChars (tokens : List String) :
    quotation false (cmd.lineChars tokens) =
        [(' ', false)].intercalate (tokens.map fun token => marks token.toList) ∧
      switchAfter false (cmd.lineChars tokens) = false := by
  induction tokens with
  | nil => exact ⟨rfl, rfl⟩
  | cons token others ih =>
    obtain ⟨own, off⟩ := quotation_quoteCmd token.toList
    cases others with
    | nil => exact ⟨by simpa [lineChars, quote, Text.joined] using own, off⟩
    | cons next more =>
      obtain ⟨later, still⟩ := ih
      rw [lineChars_cons_cons, quotation_append, switchAfter_append, off]
      constructor
      · rw [quotation, if_neg (by decide), own, later]
        simp [List.intercalate_cons_cons]
      · rw [switchAfter, if_neg (by decide), still]

/-- A line for `cmd` is cut into its tokens again. In the eyes of the shell the switch is off behind
every token, the blanks between tokens stand where it is off, and the characters of a token that it
could take for a blank or an operator stand where it is on. -/
theorem cmd_line_guarded (tokens : List String) :
    let line := (cmd.line tokens).toList
    cmdWords? line = some (tokens.map String.toList) ∧
      quotation false line =
        [(' ', false)].intercalate (tokens.map fun token => marks token.toList) ∧
      switchAfter false line = false ∧
      ∀ token ∈ tokens, (marks token.toList).map Prod.fst = token.toList.filter (· ≠ '"') ∧
        ∀ c ∈ [' ', '\t', '&', '|', '<', '>', '^', '(', ')', '%', '!'],
          (c, false) ∉ marks token.toList := by
  intro line
  have chars : line = cmd.lineChars tokens := by simp only [line, Shell.line, String.toList_ofList]
  obtain ⟨marked, off⟩ := quotation_lineChars tokens
  refine ⟨?_, ?_, ?_, fun token _ => ⟨fst_marks token.toList, fun c active => ?_⟩⟩
  · rw [chars, cmdWords?_lineChars]
  · rw [chars, marked]
  · rw [chars, off]
  · have special : [' ', '\t', '&', '|', '<', '>', '^', '(', ')', '%', '!'] ⊆ cmdSpecial := by
      decide
    exact not_mem_marks (special active) token.toList

theorem cmd_line_guarded_operator :
    let tokens := ["ld", "a\"& b", ""]
    cmdWords? (cmd.line tokens).toList = some ["ld".toList, "a\"& b".toList, []] ∧
      quotation false (cmd.line tokens).toList =
        [('l', false), ('d', false), (' ', false), ('a', true), ('&', true), (' ', true),
          ('b', true), (' ', false)] ∧
      ('&', false) ∉ marks "a\"& b".toList := by
  intro tokens
  obtain ⟨words, marked, -, guarded⟩ := cmd_line_guarded tokens
  refine ⟨words, marked.trans (by decide), ?_⟩
  exact (guarded "a\"& b" (by simp [tokens])).2 '&' (by simp)

end CrossDriver.Shell
