import CrossDriver.Proofs.Shell.Cmd
import CrossDriver.Shell.Arguments

namespace CrossDriver.Shell
open WordReader

/-! ## Backslashes before double quotes -/

def TouchesQuote (cs : List Char) : Prop :=
  ['\\', '"'] <:+: cs

theorem touchesQuote_cons {c : Char} {rest : List Char} :
    TouchesQuote (c :: rest) ↔ (c = '\\' ∧ rest.head? = some '"') ∨ TouchesQuote rest := by
  have start : ['\\', '"'] <+: c :: rest ↔ c = '\\' ∧ rest.head? = some '"' := by
    cases rest <;> simp [List.cons_prefix_cons, eq_comm]
  rw [TouchesQuote, List.infix_cons_iff, start]
  rfl

theorem not_touchesQuote_of_free {cs : List Char} (free : '"' ∉ cs) : ¬TouchesQuote cs :=
  fun touches => free (touches.mem (by simp))

theorem touchesQuote_append {first second : List Char} :
    TouchesQuote (first ++ second) ↔ TouchesQuote first ∨ TouchesQuote second ∨
      (first.getLast? = some '\\' ∧ second.head? = some '"') := by
  induction first with
  | nil => simp [not_touchesQuote_of_free]
  | cons c rest ih =>
    rw [List.cons_append, touchesQuote_cons, touchesQuote_cons, ih]
    cases rest with
    | nil => simp [not_touchesQuote_of_free, or_comm]
    | cons d more => simp [or_assoc]

theorem touchesQuote_backslashText_cons (count : Nat) (c : Char) (rest : List Char) :
    TouchesQuote (backslashText count ++ c :: rest) ↔ (c = '"' ∧ 0 < count) ∨
      TouchesQuote (backslashText (if c = '\\' then count + 1 else 0) ++ rest) := by
  by_cases more : c = '\\'
  · have run : backslashText count ++ c :: rest = backslashText (count + 1) ++ rest := by
      simp [more, backslashText, List.replicate_succ']
    rw [run, if_pos more]
    simp [more]
  · have free : ¬TouchesQuote (backslashText count) :=
      not_touchesQuote_of_free (by simp [backslashText])
    have last : (backslashText count).getLast? = some '\\' ↔ 0 < count := by
      cases count <;> simp [backslashText, List.getLast?_replicate]
    have none : backslashText 0 ++ rest = rest := rfl
    rw [touchesQuote_append, touchesQuote_cons, if_neg more, last, none, List.head?_cons,
      Option.some.injEq]
    simp only [free, more, false_and, false_or]
    rw [and_comm, or_comm]

/-! ## One character -/

theorem backslashes_argNext (s : ArgState) (c : Char) :
    (argNext s c).1.backslashes = if c = '\\' then s.backslashes + 1 else 0 := by
  unfold argNext
  split
  · rfl
  · split
    · split
      · rfl
      · unfold quoteNext
        split <;> rfl
    · split <;> rfl

theorem argNext_of_apart {place : CmdState} {count : Nat} {c : Char} (text : c ≠ '\\')
    (apart : c = '"' → count = 0) :
    argNext ⟨place, count⟩ c =
      (⟨(cmdNext place c).1, 0⟩, backslashText count ++ (cmdNext place c).2) := by
  rw [argNext, if_neg text]
  by_cases mark : c = '"'
  · obtain rfl := apart mark
    subst mark
    cases place <;> rfl
  · rw [if_neg mark]
    by_cases gap : isGap c = true
    · cases place <;> simp [cmdNext, cmdOutside, gap, mark, textPlace]
    · cases place <;> simp [cmdNext, cmdOutside, gap, mark, textPlace]

theorem inWord_argReader (s : ArgState) : argReader.inWord s = cmdReader.inWord s.place := rfl

theorem cmdNext_backslash (place : CmdState) : cmdNext place '\\' = (textPlace place, ['\\']) := by
  cases place <;> rfl

/-! ## Lines that are read alike -/

theorem wordsFrom?_cons_of_next {State Letter : Type} {r : WordReader State Letter} {s t : State}
    {c : Char} {letters : List Letter} (next : r.next? s c = some (t, letters)) (rest : List Char) :
    r.wordsFrom? s (c :: rest) = (r.wordsFrom? t rest).map fun words =>
      if r.inWord t then extend letters words
      else if r.inWord s then letters :: words else words := by
  simp only [wordsFrom?, next, Option.bind_eq_bind, Option.bind_some]
  cases r.wordsFrom? t rest <;> rfl

/-- The words that a program reads where the shell reads `words`, with backslashes just before. -/
def withBackslashes (place : CmdState) (count : Nat) (words : List (List Char)) :
    List (List Char) :=
  if cmdReader.inWord place then extend (backslashText count) words else words

theorem withBackslashes_zero {place : CmdState} {cs : List Char} {words : List (List Char)}
    (read : cmdReader.wordsFrom? place cs = some words) :
    withBackslashes place 0 words = words := by
  unfold withBackslashes
  split
  · next inside => exact extend_nil (ne_nil_of_inWord cmdReader inside read)
  · rfl

section Step
variable {rest : List Char} {place : CmdState} {count : Nat} {words : List (List Char)}

theorem wordsFrom?_argReader_backslash (outside : cmdReader.inWord place = false → count = 0)
    (behind : ∀ later, cmdReader.wordsFrom? (textPlace place) rest = some later →
      argReader.wordsFrom? ⟨textPlace place, count + 1⟩ rest =
        some (withBackslashes (textPlace place) (count + 1) later))
    (read : cmdReader.wordsFrom? place ('\\' :: rest) = some words) :
    argReader.wordsFrom? ⟨place, count⟩ ('\\' :: rest) =
      some (withBackslashes place count words) := by
  have next : cmdReader.next? place '\\' = some (textPlace place, ['\\']) :=
    congrArg some (cmdNext_backslash place)
  have counted : argReader.next? ⟨place, count⟩ '\\' =
    some (⟨textPlace place, count + 1⟩, []) := rfl
  have inside : cmdReader.inWord (textPlace place) = true := by cases place <;> rfl
  have longer : backslashText count ++ ['\\'] = backslashText (count + 1) :=
    List.replicate_succ'.symm
  rw [wordsFrom?_cons_of_next next] at read
  obtain ⟨later, found, rfl⟩ := Option.map_eq_some_iff.mp read
  rw [wordsFrom?_cons_of_next counted, behind later found]
  simp only [withBackslashes, inWord_argReader, inside, if_true, Option.map_some, extend_extend,
    List.nil_append, longer]
  cases within : cmdReader.inWord place with
  | true => rfl
  | false => rw [outside within]; rfl

theorem wordsFrom?_argReader_alike {c : Char} {t : CmdState} {letters : List Char}
    (outside : cmdReader.inWord place = false → count = 0)
    (next : cmdReader.next? place c = some (t, letters))
    (counted : argReader.next? ⟨place, count⟩ c = some (⟨t, 0⟩, backslashText count ++ letters))
    (behind : ∀ later, cmdReader.wordsFrom? t rest = some later →
      argReader.wordsFrom? ⟨t, 0⟩ rest = some (withBackslashes t 0 later))
    (read : cmdReader.wordsFrom? place (c :: rest) = some words) :
    argReader.wordsFrom? ⟨place, count⟩ (c :: rest) = some (withBackslashes place count words) := by
  rw [wordsFrom?_cons_of_next next] at read
  obtain ⟨later, found, rfl⟩ := Option.map_eq_some_iff.mp read
  rw [wordsFrom?_cons_of_next counted, behind later found, withBackslashes_zero found]
  rw [inWord_argReader, inWord_argReader, withBackslashes, Option.map_some]
  cases within : cmdReader.inWord place with
  | true =>
    split
    · simp [extend_extend]
    · simp [extend]
  | false => simp [outside within, backslashText]

end Step

theorem wordsFrom?_argReader {cs : List Char} {place : CmdState} {count : Nat}
    {words : List (List Char)} (apart : ¬TouchesQuote (backslashText count ++ cs))
    (outside : cmdReader.inWord place = false → count = 0)
    (read : cmdReader.wordsFrom? place cs = some words) :
    argReader.wordsFrom? ⟨place, count⟩ cs = some (withBackslashes place count words) := by
  -- Backslashes that are held back stand in front of what is left to read, and must not touch a
  -- double quote there either.
  induction cs generalizing place count words with
  | nil =>
    cases place <;> cases read <;>
      simp [wordsFrom?, argReader, cmdReader, withBackslashes, extend]
  | cons c rest ih =>
    obtain ⟨none, apart⟩ := not_or.mp (mt (touchesQuote_backslashText_cons count c rest).mpr apart)
    by_cases more : c = '\\'
    · subst more
      have inside : cmdReader.inWord (textPlace place) = true := by cases place <;> rfl
      exact wordsFrom?_argReader_backslash outside
        (fun _ found => ih apart (by simp [inside]) found) read
    · have alike : argNext ⟨place, count⟩ c =
          (⟨(cmdNext place c).1, 0⟩, backslashText count ++ (cmdNext place c).2) :=
        argNext_of_apart more fun mark =>
          Nat.eq_zero_of_not_pos fun positive => none ⟨mark, positive⟩
      rw [if_neg more] at apart
      exact wordsFrom?_argReader_alike outside rfl (congrArg some alike)
        (fun _ found => ih apart (fun _ => rfl) found) read

/-- Where no backslash touches a double quote, a program finds the words that the shell finds. -/
theorem programArgs_of_cmdWords? {cs : List Char} {words : List (List Char)}
    (apart : ¬TouchesQuote cs) (read : cmdWords? cs = some words) : programArgs cs = words := by
  have counted : argReader.words? cs = some (withBackslashes .betweenWords 0 words) :=
    wordsFrom?_argReader apart (fun _ => rfl) read
  rw [programArgs, counted]
  rfl

/-! ## Lines that lose a backslash -/

theorem count_backslashText (count : Nat) : (backslashText count).count '\\' = count :=
  List.count_replicate_self

theorem count_argNext (s : ArgState) (c : Char) :
    (argNext s c).2.count '\\' + (argNext s c).1.backslashes +
        (if c = '"' then s.backslashes - s.backslashes / 2 else 0) ≤
      s.backslashes + [c].count '\\' := by
  rw [backslashes_argNext]
  unfold argNext
  by_cases more : c = '\\'
  · subst more
    simp
  · rw [if_neg more, if_neg more]
    by_cases mark : c = '"'
    · subst mark
      rw [if_pos rfl, if_pos rfl]
      unfold quoteNext
      split
      · simp [count_backslashText]
        omega
      · split <;> simp [count_backslashText] <;> omega
    · rw [if_neg mark, if_neg mark]
      split
      · simp [count_backslashText]
      · simp [count_backslashText]

theorem wordsFrom?_argReader_isSome (cs : List Char) (s : ArgState) :
    (argReader.wordsFrom? s cs).isSome := by
  induction cs generalizing s with
  | nil => rfl
  | cons c rest ih =>
    have next : argReader.next? s c = some (argNext s c) := rfl
    rw [wordsFrom?_cons_of_next next, Option.isSome_map, ih]

theorem flatten_extend {Letter : Type} (letters : List Letter) (words : List (List Letter)) :
    (extend letters words).flatten = letters ++ words.flatten := by
  cases words <;> simp [extend]

theorem count_wordsFrom? {cs : List Char} {s : ArgState} {words : List (List Char)}
    (read : argReader.wordsFrom? s cs = some words) :
    words.flatten.count '\\' ≤ s.backslashes + cs.count '\\' ∧
      (TouchesQuote (backslashText s.backslashes ++ cs) →
        words.flatten.count '\\' < s.backslashes + cs.count '\\') := by
  -- Both halves go through one induction: the strict one holds from the first double quote that is
  -- touched, and behind it the other is enough.
  induction cs generalizing s words with
  | nil =>
    have free : ¬TouchesQuote (backslashText s.backslashes ++ []) :=
      not_touchesQuote_of_free (by simp [backslashText])
    have last : words = if argReader.inWord s then [backslashText s.backslashes] else [] :=
      (Option.some.inj read).symm
    refine ⟨?_, fun touches => absurd touches free⟩
    rw [last]
    split <;> simp [count_backslashText]
  | cons c rest ih =>
    have next : argReader.next? s c = some ((argNext s c).1, (argNext s c).2) := rfl
    rw [wordsFrom?_cons_of_next next] at read
    obtain ⟨behind, later, rfl⟩ := Option.map_eq_some_iff.mp read
    obtain ⟨least, less⟩ := ih later
    have step := count_argNext s c
    have added : (if argReader.inWord (argNext s c).1 then extend (argNext s c).2 behind
        else if argReader.inWord s then (argNext s c).2 :: behind else behind).flatten.count '\\' ≤
        (argNext s c).2.count '\\' + behind.flatten.count '\\' := by
      split
      · simp [flatten_extend]
      · split <;> simp
    have counted : (c :: rest).count '\\' = [c].count '\\' + rest.count '\\' := by
      rw [← List.count_append, List.singleton_append]
    rw [counted]
    constructor
    · omega
    · rw [touchesQuote_backslashText_cons, ← backslashes_argNext]
      rintro (⟨mark, positive⟩ | touches)
      · rw [if_pos mark] at step
        omega
      · have := less touches
        omega

theorem count_programArgs_lt {cs : List Char} (touches : TouchesQuote cs) :
    (programArgs cs).flatten.count '\\' < cs.count '\\' := by
  obtain ⟨words, read⟩ :=
    Option.isSome_iff_exists.mp (wordsFrom?_argReader_isSome cs ⟨.betweenWords, 0⟩)
  have args : programArgs cs = words := by
    have all : argReader.words? cs = some words := read
    rw [programArgs, all]
    rfl
  have less := (count_wordsFrom? read).2 touches
  rwa [args, ← Nat.zero_add (cs.count '\\')]

/-! ## Written tokens -/

theorem head?_doubled (cs : List Char) : (doubled cs).head? = cs.head? := by
  cases cs with
  | nil => rfl
  | cons c rest => by_cases mark : c = '"' <;> simp [doubled_cons, mark]

theorem getLast?_doubled (cs : List Char) : (doubled cs).getLast? = cs.getLast? := by
  induction cs with
  | nil => rfl
  | cons c rest ih =>
    rw [doubled_cons, List.getLast?_append, ih, List.getLast?_cons]
    by_cases mark : c = '"' <;> cases rest.getLast? <;> simp [mark]

theorem count_doubled (cs : List Char) : (doubled cs).count '\\' = cs.count '\\' := by
  induction cs with
  | nil => rfl
  | cons c rest ih =>
    by_cases mark : c = '"' <;> simp [doubled_cons, mark, ih, List.count_cons]

theorem touchesQuote_doubled (cs : List Char) : TouchesQuote (doubled cs) ↔ TouchesQuote cs := by
  induction cs with
  | nil => rfl
  | cons c rest ih =>
    rw [doubled_cons, touchesQuote_append, ih, head?_doubled, touchesQuote_cons]
    by_cases mark : c = '"'
    · have free : ¬TouchesQuote ['"', '"'] := by
        simp [touchesQuote_cons, not_touchesQuote_of_free]
      simp [mark, free]
    · have free : ¬TouchesQuote [c] := by
        simp [touchesQuote_cons, not_touchesQuote_of_free]
      simp [mark, free, or_comm]

theorem count_quoteCmd (cs : List Char) : (quoteCmd cs).count '\\' = cs.count '\\' := by
  rcases quoteCmd_cases cs with ⟨-, -, bare⟩ | ⟨-, quoted⟩
  · rw [bare]
  · simp [quoted, count_doubled]

theorem touchesQuote_quoteCmd (cs : List Char) :
    TouchesQuote (quoteCmd cs) ↔ TouchesQuote cs ∨
      (cs.any cmdSpecial.contains = true ∧ cs.getLast? = some '\\') := by
  rcases quoteCmd_cases cs with ⟨-, plain, bare⟩ | ⟨written, quoted⟩
  · have none : ¬cs.any cmdSpecial.contains = true := by simpa using plain
    simp [bare, none]
  · have special : cs.getLast? = some '\\' → cs.any cmdSpecial.contains = true := by
      intro last
      exact written.resolve_left fun empty => by simp [empty] at last
    have free : ¬TouchesQuote ['"'] := by simp [touchesQuote_cons, not_touchesQuote_of_free]
    rw [quoted, touchesQuote_cons, touchesQuote_append, touchesQuote_doubled, getLast?_doubled,
      and_iff_right_of_imp special]
    simp [free]

/-! ## Commands -/

theorem count_lineChars (tokens : List String) :
    (cmd.lineChars tokens).count '\\' = (tokens.map String.toList).flatten.count '\\' := by
  induction tokens with
  | nil => rfl
  | cons token others ih =>
    cases others with
    | nil => simp [lineChars, quote, Text.joined, count_quoteCmd]
    | cons next more =>
      rw [lineChars_cons_cons, List.count_append, List.count_cons_of_ne (by decide), ih,
        count_quoteCmd]
      simp

theorem touchesQuote_lineChars (tokens : List String) :
    TouchesQuote (cmd.lineChars tokens) ↔
      ∃ token ∈ tokens, TouchesQuote (quoteCmd token.toList) := by
  induction tokens with
  | nil => simp [lineChars, Text.joined, not_touchesQuote_of_free]
  | cons token others ih =>
    cases others with
    | nil => simp [lineChars, quote, Text.joined]
    | cons next more =>
      rw [lineChars_cons_cons, touchesQuote_append, touchesQuote_cons, ih]
      simp

/-- A program that is started from a line for `cmd` receives the tokens of the line exactly if no
token has a backslash directly before a double quote, and none that is written between double quotes
ends in a backslash. -/
theorem programArgs_line_iff (tokens : List String) :
    programArgs (cmd.line tokens).toList = tokens.map String.toList ↔
      ∀ token ∈ tokens, ¬TouchesQuote token.toList ∧
        (token.toList.any cmdSpecial.contains = true → token.toList.getLast? ≠ some '\\') := by
  have reaches : (∀ token ∈ tokens, ¬TouchesQuote token.toList ∧
      (token.toList.any cmdSpecial.contains = true → token.toList.getLast? ≠ some '\\')) ↔
      ¬TouchesQuote (cmd.lineChars tokens) := by
    simp [touchesQuote_lineChars, touchesQuote_quoteCmd]
  rw [reaches, line, String.toList_ofList]
  constructor
  · intro received touches
    have lost := count_programArgs_lt touches
    rw [received, count_lineChars] at lost
    exact Nat.lt_irrefl _ lost
  · intro apart
    exact programArgs_of_cmdWords? apart (cmdWords?_lineChars tokens)

/-- A directory with a blank in its name loses the backslash at its end, and the token behind it
becomes a part of it. -/
theorem programArgs_line_directory :
    '"' ∉ "ld.lld".toList ∧
      programArgs (cmd.line ["ld.lld", "-LC:\\My Libs\\", "a.o"]).toList =
        ["ld.lld".toList, "-LC:\\My Libs\" a.o".toList] ∧
      programArgs (cmd.line ["ld.lld", "-LC:\\My Libs\\", "a.o"]).toList ≠
        ["ld.lld", "-LC:\\My Libs\\", "a.o"].map String.toList := by
  decide +kernel

end CrossDriver.Shell
