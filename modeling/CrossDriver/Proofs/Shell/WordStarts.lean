import CrossDriver.Proofs.Shell.Bash
import CrossDriver.Shell.WordStarts
import Mathlib.Data.List.TakeWhile

namespace CrossDriver.Shell
open WordReader

def StartsBare (mark : Char) (cs : List Char) : Prop :=
  cs.head? = some mark ∧ cs.any bashSpecial.contains = false

instance (mark : Char) : DecidablePred (StartsBare mark) := fun cs =>
  inferInstanceAs (Decidable (cs.head? = some mark ∧ _))

def heard (tokens : List String) : List String :=
  tokens.takeWhile fun token => !decide (StartsBare '#' token.toList)

def unheard (tokens : List String) : List String :=
  tokens.dropWhile fun token => !decide (StartsBare '#' token.toList)

theorem heard_cons_of_comment {token : String} (comment : StartsBare '#' token.toList)
    (others : List String) :
    heard (token :: others) = [] ∧ unheard (token :: others) = token :: others := by
  simp [heard, unheard, comment]

theorem heard_cons {token : String} (text : ¬StartsBare '#' token.toList) (others : List String) :
    heard (token :: others) = token :: heard others ∧
      unheard (token :: others) = unheard others := by
  simp [heard, unheard, text]

theorem quoteBash_of_startsBare {mark : Char} {cs : List Char} (bare : StartsBare mark cs) :
    quoteBash cs = cs := by
  have ne : cs ≠ [] := by
    rintro rfl
    cases bare.1
  exact quoteBash_of_plain ne (by simpa using bare.2)

theorem startsBare_of_head?_quoteBash {mark : Char} (text : mark ∉ bashSpecial) {cs : List Char}
    (first : (quoteBash cs).head? = some mark) : StartsBare mark cs := by
  unfold quoteBash at first
  split at first
  · cases first
    exact absurd (by decide) text
  · split at first
    · next plain => exact ⟨first, by simpa using plain⟩
    · split at first
      · cases first
        exact absurd (by decide) text
      · cases first
        exact absurd (by decide) text

/-! ## Within words -/

theorem within_command {s t : BashState} {cs : List Char} {word : List Letter}
    (inside : bashReader.inWord s = true) (within : Within bashReader s cs t word) :
    Within commandReader (.reading s) cs (.reading t) word := by
  induction within with
  | nil s => exact .nil _
  | cons next inWord further ih =>
    have stays : commandReader.inWord (.reading _) = true := inWord
    exact .cons (commandNext?_of_inWord inside next) stays (ih inWord)

theorem within_command_start {cs : List Char} {u : BashState} {word : List Letter}
    (within : Within bashReader .betweenWords cs u word) (inside : bashReader.inWord u = true)
    (comment : cs.head? ≠ some '#') (home : cs.head? ≠ some '~') :
    Within commandReader commandReader.start cs (.reading u) word := by
  -- Only the first character of a word is read between words, where the two marks count.
  cases within with
  | nil => cases inside
  | @cons _ t _ c rest letters more next inWord further =>
    have taken : bashNext? .betweenWords c = some (t, letters) := next
    have first : commandReader.next? commandReader.start c = some (.reading t, letters) := by
      simp_all [commandReader, commandNext?]
    have stays : commandReader.inWord (.reading t) = true := inWord
    exact .cons first stays (within_command inWord further)

theorem spells_command {cs : List Char} (comment : ¬StartsBare '#' cs) (home : ¬StartsBare '~' cs) :
    commandReader.Spells (quoteBash cs) (letters (cs.any bashSpecial.contains) cs) := by
  obtain ⟨u, within, inside, blank, finish⟩ := spells_quoteBash cs
  have apart (mark : Char) (text : mark ∉ bashSpecial) (plain : ¬StartsBare mark cs) :
      (quoteBash cs).head? ≠ some mark :=
    fun first => plain (startsBare_of_head?_quoteBash text first)
  have ends : commandReader.next? (.reading u) ' ' = some (commandReader.start, []) :=
    commandNext?_of_inWord inside blank
  exact ⟨.reading u, within_command_start within inside (apart '#' (by decide) comment)
    (apart '~' (by decide) home), inside, ends, finish⟩

/-! ## Comments and home directories -/

theorem wordsFrom?_comment (cs : List Char) :
    commandReader.wordsFrom? .comment cs = if '\n' ∈ cs then none else some [] := by
  induction cs with
  | nil => rfl
  | cons c rest ih =>
    by_cases ends : c = '\n'
    · simp [wordsFrom?, commandReader, commandNext?, ends]
    · have skipped : commandReader.next? .comment c = some (.comment, []) := by
        simp [commandReader, commandNext?, ends]
      have outside : commandReader.inWord .comment = false := rfl
      simp only [wordsFrom?, skipped, ih, outside, List.mem_cons, Ne.symm ends, false_or,
        Option.bind_eq_bind, Option.bind_some]
      split <;> rfl

theorem words?_comment {line : List Char} (first : line.head? = some '#') :
    commandReader.words? line = if '\n' ∈ line then none else some [] := by
  obtain ⟨rest, rfl⟩ := List.head?_eq_some_iff.mp first
  have begins : commandReader.next? commandReader.start '#' = some (.comment, []) := rfl
  have between : commandReader.inWord commandReader.start = false := rfl
  have outside : commandReader.inWord .comment = false := rfl
  have mark : '\n' ∈ '#' :: rest ↔ '\n' ∈ rest := by simp
  simp only [words?, wordsFrom?, begins, wordsFrom?_comment, between, outside, mark,
    Option.bind_eq_bind, Option.bind_some]
  split <;> rfl

theorem words?_home {line : List Char} (first : line.head? = some '~') :
    commandReader.words? line = none := by
  obtain ⟨rest, rfl⟩ := List.head?_eq_some_iff.mp first
  rfl

/-! ## Lines -/

theorem mem_joined_map_iff {α : Type} {sep c : Char} (ne : c ≠ sep) (piece : α → List Char)
    (as : List α) : c ∈ Text.joined [sep] (as.map piece) ↔ ∃ a ∈ as, c ∈ piece a := by
  induction as with
  | nil => simp [Text.joined]
  | cons a others ih =>
    cases others with
    | nil => simp [Text.joined]
    | cons next more =>
      rw [List.map_cons] at ih
      simp [Text.joined, ih, ne]

theorem mem_quoteBash_iff {c : Char} (text : c ∉ ['\'', '"', '\\']) (cs : List Char) :
    c ∈ quoteBash cs ↔ c ∈ cs := by
  simp only [List.mem_cons, List.not_mem_nil, or_false, not_or] at text
  obtain ⟨single, double, back⟩ := text
  unfold quoteBash
  split
  · next empty => simp [empty, single]
  · split
    · rfl
    · split
      · simp [single]
      · have escaped (d : Char) : c ∈ (if d ∈ bashActive then ['\\', d] else [d]) ↔ c = d := by
          split <;> simp [back]
        simp [escapeBash_eq, escapedAt, double, List.mem_flatMap, escaped]

theorem newline_mem_lineChars (tokens : List String) :
    '\n' ∈ bash.lineChars tokens ↔ ∃ token ∈ tokens, '\n' ∈ token.toList := by
  have own (token : String) : '\n' ∈ bash.quote token.toList ↔ '\n' ∈ token.toList :=
    mem_quoteBash_iff (by decide) token.toList
  rw [lineChars, mem_joined_map_iff (by decide)]
  simp only [own]

theorem head?_lineChars_cons {mark : Char} {token : String} (bare : StartsBare mark token.toList)
    (others : List String) : (bash.lineChars (token :: others)).head? = some mark := by
  have own : (bash.quote token.toList).head? = some mark := by
    rw [quote, quoteBash_of_startsBare bare, bare.1]
  cases others with
  | nil => simpa [lineChars, Text.joined] using own
  | cons next more => simp [lineChars, Text.joined, own]

theorem words?_lineChars_cons {token : String} {word : List Letter}
    (spells : commandReader.Spells (bash.quote token.toList) word) (others : List String) :
    commandReader.words? (bash.lineChars (token :: others)) =
      (commandReader.words? (bash.lineChars others)).map (word :: ·) := by
  cases others with
  | nil => exact spells.words?_eq
  | cons next more =>
    have line : bash.lineChars (token :: next :: more) =
        bash.quote token.toList ++ ' ' :: bash.lineChars (next :: more) := by
      simp [lineChars, Text.joined]
    rw [line, spells.words?_append_blank rfl]

theorem words?_lineChars (tokens : List String) :
    commandReader.words? (bash.lineChars tokens) =
      if (∃ token ∈ heard tokens, StartsBare '~' token.toList) ∨
          ∃ token ∈ unheard tokens, '\n' ∈ token.toList then none
      else some ((heard tokens).map fun token =>
        letters (token.toList.any bashSpecial.contains) token.toList) := by
  induction tokens with
  | nil => rfl
  | cons token others ih =>
    by_cases comment : StartsBare '#' token.toList
    · obtain ⟨silent, behind⟩ := heard_cons_of_comment comment others
      rw [words?_comment (head?_lineChars_cons comment others), silent, behind]
      simp [newline_mem_lineChars]
    · obtain ⟨further, behind⟩ := heard_cons comment others
      rw [further, behind]
      by_cases home : StartsBare '~' token.toList
      · rw [words?_home (head?_lineChars_cons home others),
          if_pos (.inl ⟨token, List.mem_cons_self, home⟩)]
      · rw [words?_lineChars_cons (spells_command comment home), ih]
        simp only [List.mem_cons, exists_eq_or_imp, home, false_or, List.map_cons]
        split <;> rfl

/-! ## Commands -/

theorem head?_letters (quoted : Bool) (cs : List Char) :
    (letters quoted cs).head? = cs.head?.map (⟨·, quoted⟩) := by
  cases cs <;> rfl

theorem bashCommand?_lineChars (tokens : List String) :
    bashCommand? (bash.lineChars tokens) =
      if (∃ token ∈ heard tokens, StartsBare '~' token.toList) ∨
          ∃ token ∈ unheard tokens, '\n' ∈ token.toList then none
      else some ((heard tokens).map String.toList) := by
  rw [bashCommand?, words?_lineChars]
  split
  · rfl
  · simp only [Option.map_some, List.map_map, Function.comp_def, map_char_letters]

theorem bashCommand?_lineChars_iff (tokens : List String) :
    bashCommand? (bash.lineChars tokens) = some (tokens.map String.toList) ↔
      ∀ token ∈ tokens, ¬StartsBare '#' token.toList ∧ ¬StartsBare '~' token.toList := by
  rw [bashCommand?_lineChars]
  constructor
  · intro run
    split at run
    · cases run
    · next plain =>
      have length := congrArg List.length (Option.some.inj run)
      rw [List.length_map, List.length_map] at length
      have front : heard tokens <+: tokens := List.takeWhile_prefix _
      have all : heard tokens = tokens := front.eq_of_length length
      rw [all] at plain
      exact fun token mem => ⟨by simpa using List.takeWhile_eq_self_iff.mp all token mem,
        fun home => plain (.inl ⟨token, mem, home⟩)⟩
  · intro plain
    have all : heard tokens = tokens :=
      List.takeWhile_eq_self_iff.mpr fun token mem => by simpa using (plain token mem).1
    have none : unheard tokens = [] :=
      List.dropWhile_eq_nil_iff.mpr fun token mem => by simpa using (plain token mem).1
    have home : ¬∃ token ∈ tokens, StartsBare '~' token.toList :=
      fun ⟨token, mem, home⟩ => (plain token mem).2 home
    simp [all, none, home]

/-- A line is cut into its tokens, and the first character of a word is quoted exactly if some
character of the token is special. As far as comments and home directories go, `bash` runs the
command that was written exactly if no token without a special character starts with `#` or `~`;
otherwise it hears only the tokens before the first comment, puts a home directory into the command,
or comes to another line behind the comment. What else `bash` does with a line is left out: the
expansion of its history, words in front that assign a variable, a `~` behind the `=` of such a word,
and words that are reserved. -/
theorem bashCommand?_line (tokens : List String) :
    let line := (bash.line tokens).toList
    ((bashLetters? line).map fun words => words.map List.head?) =
        some (tokens.map fun token =>
          token.toList.head?.map (⟨·, token.toList.any bashSpecial.contains⟩)) ∧
      (bashCommand? line = some (tokens.map String.toList) ↔
        ∀ token ∈ tokens, ¬StartsBare '#' token.toList ∧ ¬StartsBare '~' token.toList) ∧
      bashCommand? line =
        if (∃ token ∈ heard tokens, StartsBare '~' token.toList) ∨
            ∃ token ∈ unheard tokens, '\n' ∈ token.toList then none
        else some ((heard tokens).map String.toList) := by
  intro line
  have chars : line = bash.lineChars tokens := by simp only [line, Shell.line, String.toList_ofList]
  rw [chars]
  refine ⟨?_, bashCommand?_lineChars_iff tokens, bashCommand?_lineChars tokens⟩
  rw [bashLetters?_lineChars]
  simp only [Option.map_some, List.map_map, Function.comp_def, head?_letters]

/-- A comment takes the inputs behind it out of the command, and a name that starts with a tilde is
read as a directory. -/
theorem bashCommand?_line_comment :
    ((bashLetters? (bash.line ["ld.lld", "#a.o", "~/b.o"]).toList).map (·.map List.head?)) =
        some [some ⟨'l', false⟩, some ⟨'#', false⟩, some ⟨'~', false⟩] ∧
      bashCommand? (bash.line ["ld.lld", "#a.o", "~/b.o"]).toList = some ["ld.lld".toList] ∧
      bashCommand? (bash.line ["ld.lld", "~/b.o"]).toList = none := by
  decide +kernel

end CrossDriver.Shell
