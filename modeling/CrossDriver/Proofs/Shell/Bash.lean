import CrossDriver.Proofs.Shell.Reading
import CrossDriver.Shell.Words

namespace CrossDriver.Shell
open WordReader

def letters (quoted : Bool) (cs : List Char) : List Letter :=
  cs.map fun c => ⟨c, quoted⟩

theorem map_char_letters (quoted : Bool) (cs : List Char) :
    (letters quoted cs).map Letter.char = cs := by
  simp [letters, Function.comp_def]

def escapedAt (marks cs : List Char) : List Char :=
  cs.flatMap fun c => if c ∈ marks then ['\\', c] else [c]

theorem replaceChar_escapedAt {mark : Char} {marks : List Char} (new : mark ∉ marks)
    (text : mark ≠ '\\') (cs : List Char) :
    Text.replaceChar mark ['\\', mark] (escapedAt marks cs) = escapedAt (marks ++ [mark]) cs := by
  rw [Text.replaceChar, escapedAt, List.flatMap_assoc, escapedAt]
  congr 1
  funext c
  by_cases old : c ∈ marks
  · have other : c ≠ mark := ne_of_mem_of_not_mem old new
    simp [old, other, Ne.symm text]
  · by_cases own : c = mark <;> simp [old, own, new]

/-- The four passes come to a single one. -/
theorem escapeBash_eq (cs : List Char) : escapeBash cs = escapedAt bashActive cs := by
  have first : Text.replaceChar '\\' ['\\', '\\'] cs = escapedAt ['\\'] cs := by
    rw [Text.replaceChar, escapedAt]
    congr 1
    funext c
    by_cases own : c = '\\' <;> simp [own]
  simp only [escapeBash, bashActive, List.foldl_cons, List.foldl_nil]
  rw [first, replaceChar_escapedAt (by decide) (by decide),
    replaceChar_escapedAt (by decide) (by decide), replaceChar_escapedAt (by decide) (by decide)]
  rfl

theorem bashOutside?_of_plain {c : Char} (h : c ∉ bashSpecial) :
    bashOutside? c = some (.bare, [⟨c, false⟩]) := by
  simp only [bashSpecial, List.mem_cons, List.not_mem_nil, or_false, not_or] at h
  simp [bashOutside?, isGap, isActive, h]

theorem within_bare {cs : List Char} (plain : ∀ c ∈ cs, c ∉ bashSpecial) :
    Within bashReader .bare cs .bare (letters false cs) := by
  induction cs with
  | nil => exact .nil _
  | cons c rest ih =>
    have next : bashReader.next? .bare c = some (.bare, [⟨c, false⟩]) :=
      bashOutside?_of_plain (plain c List.mem_cons_self)
    exact .cons next rfl (ih fun d hd => plain d (List.mem_cons_of_mem c hd))

theorem within_plain {cs : List Char} (ne : cs ≠ []) (plain : ∀ c ∈ cs, c ∉ bashSpecial) :
    Within bashReader .betweenWords cs .bare (letters false cs) := by
  cases cs with
  | nil => exact absurd rfl ne
  | cons c rest =>
    have next : bashReader.next? .betweenWords c = some (.bare, [⟨c, false⟩]) :=
      bashOutside?_of_plain (plain c List.mem_cons_self)
    exact .cons next rfl (within_bare fun d hd => plain d (List.mem_cons_of_mem c hd))

theorem within_single {cs : List Char} (h : '\'' ∉ cs) :
    Within bashReader .single cs .single (letters true cs) := by
  induction cs with
  | nil => exact .nil _
  | cons c rest ih =>
    simp only [List.mem_cons, not_or] at h
    have next : bashReader.next? .single c = some (.single, [⟨c, true⟩]) := by
      simp [bashReader, bashNext?, Ne.symm h.1]
    exact .cons next rfl (ih h.2)

theorem within_double_char (c : Char) :
    Within bashReader .double (if c ∈ bashActive then ['\\', c] else [c]) .double [⟨c, true⟩] := by
  by_cases active : c ∈ bashActive
  · have escapable : isEscapable c = true := by
      simp only [bashActive, List.mem_cons, List.not_mem_nil, or_false] at active
      rcases active with rfl | rfl | rfl | rfl <;> decide
    have next : bashReader.next? .doubleEscape c = some (.double, [⟨c, true⟩]) := by
      simp [bashReader, bashNext?, escapable]
    rw [if_pos active]
    exact .mark rfl rfl (.cons next rfl (.nil _))
  · have next : bashReader.next? .double c = some (.double, [⟨c, true⟩]) := by
      simp only [bashActive, List.mem_cons, List.not_mem_nil, or_false, not_or] at active
      simp [bashReader, bashNext?, active]
    rw [if_neg active]
    exact .cons next rfl (.nil _)

theorem within_double (cs : List Char) :
    Within bashReader .double (escapeBash cs) .double (letters true cs) := by
  rw [escapeBash_eq]
  induction cs with
  | nil => exact .nil _
  | cons c rest ih => exact (within_double_char c).append ih

theorem spells_quoteBash (cs : List Char) :
    bashReader.Spells (quoteBash cs) (letters (cs.any bashSpecial.contains) cs) := by
  refine ⟨.bare, ?_, rfl, rfl, rfl⟩
  unfold quoteBash
  split
  · rename_i empty
    subst empty
    exact .mark rfl rfl (.mark rfl rfl (.nil _))
  · rename_i ne
    split
    · rename_i plain
      simp only [Bool.not_eq_true'] at plain
      rw [plain]
      exact within_plain ne (by simpa using plain)
    · rename_i special
      simp only [Bool.not_eq_true', Bool.not_eq_false] at special
      rw [special]
      have closes (mark : BashState) (close : Char)
          (next : bashReader.next? mark close = some (.bare, [])) :
          Within bashReader mark [close] .bare [] :=
        .mark next rfl (.nil _)
      split
      · rename_i apostrophe
        have none : '\'' ∉ cs := by simpa using apostrophe
        have read := (within_single none).append (closes .single '\'' rfl)
        rw [List.append_nil] at read
        exact .mark rfl rfl read
      · have read := (within_double cs).append (closes .double '"' rfl)
        rw [List.append_nil] at read
        exact .mark rfl rfl read

theorem bashLetters?_lineChars (tokens : List String) :
    bashLetters? (bash.lineChars tokens) =
      some (tokens.map fun token =>
        letters (token.toList.any bashSpecial.contains) token.toList) := by
  have spells (token : String) := spells_quoteBash token.toList
  exact words?_joined (r := bashReader) rfl rfl _ _ spells tokens

/-- The words of a line are the tokens that it was written from. -/
theorem bashWords?_line (tokens : List String) :
    bashWords? (bash.line tokens).toList = some (tokens.map String.toList) := by
  rw [line, String.toList_ofList, bashWords?, bashLetters?_lineChars, Option.map_some]
  simp only [List.map_map, Function.comp_def, map_char_letters]

example : bashWords? (bash.line ["", "a'\"\n$b", "c\\"]).toList =
    some [[], ['a', '\'', '"', '\n', '$', 'b'], ['c', '\\']] := by
  decide +kernel

end CrossDriver.Shell
