import CrossDriver.Text.Blank
import CrossDriver.Text.Lowercase
import Mathlib.Data.List.DropRight

namespace CrossDriver.Text

/-! ## Runs of capitals -/

namespace CaseRun

def small (run : CaseRun) (n : Nat) : Nat :=
  (n + run.shift).toNat

def apart (run other : CaseRun) : Bool :=
  (run.small run.last).blt other.first || other.last.blt (run.small run.first) ||
    (run.first.beq run.last || run.stride.beq 2) && other.stride.beq 2 &&
      !(run.small run.first % 2).beq (other.first % 2)

/-- The small letters of the run are characters, and neither the dotted capital I nor blank. -/
structure Sound (run : CaseRun) : Prop where
  start : 0 ≤ run.first + run.shift
  valid : run.small run.last < 0xD800 ∨
    0xDFFF < run.small run.first ∧ run.small run.last < 0x110000
  undotted : run.small run.last < 0x130 ∨ 0x130 < run.small run.first
  outside : ∀ b ∈ blank.boundaries, b ≤ run.small run.first ∨ run.small run.last < b
  filled : switchedOn blank.boundaries (run.small run.first) = false

variable {run : CaseRun} {n : Nat}

theorem bounds_of_covers (covers : run.covers n = true) :
    run.first ≤ n ∧ n ≤ run.last ∧ (n - run.first) % run.stride = 0 := by
  simpa [CaseRun.covers, and_assoc] using covers

theorem small_bounds (covers : run.covers n = true) :
    run.small run.first ≤ run.small n ∧ run.small n ≤ run.small run.last := by
  obtain ⟨low, high, -⟩ := bounds_of_covers covers
  unfold small
  constructor <;> omega

theorem small_eq_add (sound : run.Sound) (covers : run.covers n = true) :
    run.small n = run.small run.first + (n - run.first) := by
  have start := sound.start
  have low := (bounds_of_covers covers).1
  unfold small
  omega

theorem covers_small_eq_false (sound : run.Sound) (covers : run.covers n = true) {other : CaseRun}
    (apart : run.apart other = true) : other.covers (run.small n) = false := by
  obtain ⟨low, high, step⟩ := bounds_of_covers covers
  obtain ⟨above, below⟩ := small_bounds covers
  refine Bool.eq_false_iff.mpr fun both => ?_
  obtain ⟨otherLow, otherHigh, otherStep⟩ := bounds_of_covers both
  simp only [CaseRun.apart, Bool.or_eq_true, Bool.and_eq_true, Bool.not_eq_true', Nat.blt_eq,
    Nat.beq_eq] at apart
  rcases apart with (before | behind) | ⟨⟨steps, two⟩, odd⟩
  · omega
  · omega
  · have parity : run.small run.first % 2 ≠ other.first % 2 := Nat.ne_of_beq_eq_false odd
    rw [small_eq_add sound covers] at otherLow otherStep
    rw [two] at otherStep
    rcases steps with single | pairs
    · omega
    · rw [pairs] at step
      omega

theorem toNat_ofNat_small (sound : run.Sound) (covers : run.covers n = true) :
    (Char.ofNat (run.small n)).toNat = run.small n := by
  obtain ⟨above, below⟩ := small_bounds covers
  have valid : (run.small n).isValidChar := by
    rcases sound.valid with low | ⟨high, top⟩
    · exact .inl (by omega)
    · exact .inr ⟨by omega, by omega⟩
  rw [Char.ofNat, dif_pos valid]
  rfl

end CaseRun

theorem caseRuns_apart :
    (caseRuns.all fun run => caseRuns.all fun other => run.apart other) = true := by
  decide +kernel

theorem caseRuns_sound : ∀ run ∈ caseRuns, run.Sound := by
  have sound : ∀ run ∈ caseRuns, 0 ≤ run.first + run.shift ∧
      (run.small run.last < 0xD800 ∨
        0xDFFF < run.small run.first ∧ run.small run.last < 0x110000) ∧
      (run.small run.last < 0x130 ∨ 0x130 < run.small run.first) ∧
      (∀ b ∈ blank.boundaries, b ≤ run.small run.first ∨ run.small run.last < b) ∧
      switchedOn blank.boundaries (run.small run.first) = false := by
    decide +kernel
  intro run mem
  obtain ⟨start, valid, undotted, outside, filled⟩ := sound run mem
  exact ⟨start, valid, undotted, outside, filled⟩

/-! ## Characters -/

def Small (c : Char) : Prop :=
  lowerChar c = [c]

instance : DecidablePred Small := fun c =>
  inferInstanceAs (Decidable (lowerChar c = [c]))

theorem small_of_not_covers {c : Char} (undotted : c ≠ 'İ')
    (free : ∀ run ∈ caseRuns, run.covers c.toNat = false) : Small c := by
  have none : caseRuns.find? (·.covers c.toNat) = none :=
    List.find?_eq_none.mpr fun run mem => Bool.eq_false_iff.mp (free run mem)
  rw [Small, lowerChar, if_neg undotted, none]

theorem lowerChar_cases (c : Char) :
    Small c ∨ lowerChar c = ['i', '\u0307'] ∨
      ∃ run ∈ caseRuns, run.covers c.toNat = true ∧
        lowerChar c = [Char.ofNat (run.small c.toNat)] := by
  by_cases dotted : c = 'İ'
  · refine .inr (.inl ?_)
    rw [lowerChar, if_pos dotted]
  · cases found : caseRuns.find? (·.covers c.toNat) with
    | none =>
      refine .inl ?_
      rw [Small, lowerChar, if_neg dotted, found]
    | some run =>
      have covers := List.find?_some found
      refine .inr (.inr ⟨run, List.mem_of_find?_eq_some found, covers, ?_⟩)
      rw [lowerChar, if_neg dotted, found]
      rfl

theorem small_ofNat_small {run : CaseRun} (mem : run ∈ caseRuns) {n : Nat}
    (covers : run.covers n = true) : Small (Char.ofNat (run.small n)) := by
  have sound := caseRuns_sound run mem
  have code := CaseRun.toNat_ofNat_small sound covers
  apply small_of_not_covers
  · intro dotted
    have at_dot : run.small n = 0x130 := by rw [← code, dotted]; rfl
    obtain ⟨above, below⟩ := CaseRun.small_bounds covers
    have undotted := sound.undotted
    omega
  · intro other listed
    rw [code]
    have apart := List.all_eq_true.mp (List.all_eq_true.mp caseRuns_apart run mem) other listed
    exact CaseRun.covers_small_eq_false sound covers apart

theorem isBlank_ofNat_small {run : CaseRun} (mem : run ∈ caseRuns) {n : Nat}
    (covers : run.covers n = true) : isBlank (Char.ofNat (run.small n)) = false := by
  have sound := caseRuns_sound run mem
  obtain ⟨above, below⟩ := CaseRun.small_bounds covers
  rw [isBlank, CharClass.contains, CaseRun.toNat_ofNat_small sound covers,
    switchedOn_between sound.outside above below]
  exact sound.filled

theorem small_of_mem_lowerChar {c d : Char} (mem : d ∈ lowerChar c) : Small d := by
  rcases lowerChar_cases c with small | dotted | ⟨run, listed, covers, lowered⟩
  · rw [Small] at small
    rw [small] at mem
    rwa [List.mem_singleton.mp mem]
  · rw [dotted] at mem
    rcases List.mem_pair.mp mem with rfl | rfl
    · decide +kernel
    · decide +kernel
  · rw [lowered] at mem
    rw [List.mem_singleton.mp mem]
    exact small_ofNat_small listed covers

theorem isBlank_of_mem_lowerChar {c d : Char} (mem : d ∈ lowerChar c)
    (filled : isBlank c = false) : isBlank d = false := by
  rcases lowerChar_cases c with small | dotted | ⟨run, listed, covers, lowered⟩
  · rw [Small] at small
    rw [small] at mem
    rwa [List.mem_singleton.mp mem]
  · rw [dotted] at mem
    rcases List.mem_pair.mp mem with rfl | rfl <;> decide +kernel
  · rw [lowered] at mem
    rw [List.mem_singleton.mp mem]
    exact isBlank_ofNat_small listed covers

theorem lowerChar_ne_nil (c : Char) : lowerChar c ≠ [] := by
  rcases lowerChar_cases c with small | dotted | ⟨run, -, -, lowered⟩
  · rw [Small] at small
    simp [small]
  · simp [dotted]
  · simp [lowered]

/-! ## Texts in small letters -/

theorem exists_lowerAfter_cons (before : List Char) (c : Char) (rest : List Char) :
    ∃ small, lowerAfter before (c :: rest) = small ++ lowerAfter (c :: before) rest ∧
      (small = lowerChar c ∨ small = ['ς'] ∨ small = ['σ']) := by
  refine ⟨_, rfl, ?_⟩
  by_cases sigma : c = 'Σ'
  · rw [if_pos sigma]
    split
    · exact .inr (.inl rfl)
    · exact .inr (.inr rfl)
  · exact .inl (if_neg sigma)

theorem small_of_mem_lowerAfter {before cs : List Char} {d : Char}
    (mem : d ∈ lowerAfter before cs) : Small d := by
  induction cs generalizing before with
  | nil => cases mem
  | cons c rest ih =>
    obtain ⟨small, line, lowered⟩ := exists_lowerAfter_cons before c rest
    rw [line] at mem
    rcases List.mem_append.mp mem with here | behind
    · rcases lowered with rfl | rfl | rfl
      · exact small_of_mem_lowerChar here
      · rw [List.mem_singleton.mp here]
        decide +kernel
      · rw [List.mem_singleton.mp here]
        decide +kernel
    · exact ih behind

theorem lowerAfter_of_small {cs : List Char} (small : ∀ c ∈ cs, Small c) (before : List Char) :
    lowerAfter before cs = cs := by
  induction cs generalizing before with
  | nil => rfl
  | cons c rest ih =>
    obtain ⟨here, behind⟩ := List.forall_mem_cons.mp small
    have other : c ≠ 'Σ' := by
      rintro rfl
      exact absurd here (by decide +kernel : lowerChar 'Σ' ≠ ['Σ'])
    rw [lowerAfter, if_neg other, here, ih behind]
    rfl

/-! ## Blanks at the ends -/

structure Trimmed (cs : List Char) : Prop where
  front : ∀ c ∈ cs.head?, isBlank c = false
  back : ∀ c ∈ cs.getLast?, isBlank c = false

theorem trimBlank_eq (cs : List Char) :
    trimBlank cs = (cs.dropWhile isBlank).rdropWhile isBlank := rfl

theorem isBlank_of_eq_some {found : Option Char} {c : Char} (same : found = some c)
    (filled : isBlank c = false) : ∀ d ∈ found, isBlank d = false := by
  rintro d rfl
  rwa [Option.some.inj same]

theorem dropWhile_of_front {cs : List Char} (front : ∀ c ∈ cs.head?, isBlank c = false) :
    cs.dropWhile isBlank = cs := by
  cases cs with
  | nil => rfl
  | cons c rest => rw [List.dropWhile_cons_of_neg (by simp [front c rfl])]

theorem rdropWhile_of_back {cs : List Char} (back : ∀ c ∈ cs.getLast?, isBlank c = false) :
    cs.rdropWhile isBlank = cs := by
  refine List.rdropWhile_eq_self_iff.mpr fun ne => ?_
  simp [back _ (List.getLast?_eq_getLast_of_ne_nil ne)]

theorem trimmed_trimBlank (cs : List Char) : Trimmed (trimBlank cs) where
  front c mem := by
    rw [trimBlank_eq] at mem
    have front := List.head?_dropWhile_not isBlank cs
    have kept := List.rdropWhile_prefix isBlank (l := cs.dropWhile isBlank)
    obtain ⟨rest, cut⟩ := List.head?_eq_some_iff.mp mem
    obtain ⟨dropped, whole⟩ := kept
    rw [← whole, cut] at front
    simpa using front
  back c mem := by
    rw [trimBlank_eq] at mem
    obtain ⟨ne, rfl⟩ := List.mem_getLast?_eq_getLast mem
    simpa using List.rdropWhile_last_not isBlank _ ne

theorem exists_filled_lowerAfter_cons (before : List Char) (c : Char) (rest : List Char) :
    ∃ small, lowerAfter before (c :: rest) = small ++ lowerAfter (c :: before) rest ∧
      small ≠ [] ∧ (isBlank c = false → ∀ d ∈ small, isBlank d = false) := by
  obtain ⟨small, line, lowered⟩ := exists_lowerAfter_cons before c rest
  refine ⟨small, line, ?_⟩
  rcases lowered with rfl | rfl | rfl
  · exact ⟨lowerChar_ne_nil c, fun filled d mem => isBlank_of_mem_lowerChar mem filled⟩
  · exact ⟨List.cons_ne_nil _ _, fun _ => List.forall_mem_singleton.mpr (by decide +kernel)⟩
  · exact ⟨List.cons_ne_nil _ _, fun _ => List.forall_mem_singleton.mpr (by decide +kernel)⟩

theorem head?_lowerAfter_filled {cs : List Char} (front : ∀ c ∈ cs.head?, isBlank c = false)
    (before : List Char) : ∀ d ∈ (lowerAfter before cs).head?, isBlank d = false := by
  cases cs with
  | nil => exact front
  | cons c rest =>
    obtain ⟨small, line, ne, filled⟩ := exists_filled_lowerAfter_cons before c rest
    intro d first
    rw [line, List.head?_append_of_ne_nil _ ne] at first
    exact filled (front c rfl) d (List.mem_of_mem_head? first)

theorem getLast?_lowerAfter_filled {cs : List Char}
    (back : ∀ c ∈ cs.getLast?, isBlank c = false) (before : List Char) :
    ∀ d ∈ (lowerAfter before cs).getLast?, isBlank d = false := by
  induction cs generalizing before with
  | nil => exact back
  | cons c rest ih =>
    obtain ⟨small, line, -, filled⟩ := exists_filled_lowerAfter_cons before c rest
    intro d last
    rw [line] at last
    cases rest with
    | nil =>
      rw [lowerAfter, List.append_nil] at last
      exact filled (back c rfl) d (List.mem_of_mem_getLast? last)
    | cons next more =>
      obtain ⟨lowered, further, ne, -⟩ := exists_filled_lowerAfter_cons (c :: before) next more
      have some_behind : lowerAfter (c :: before) (next :: more) ≠ [] := by simp [further, ne]
      rw [List.getLast?_append_of_ne_nil _ some_behind] at last
      exact ih back (c :: before) d last

theorem Trimmed.lowerAfter {cs : List Char} (trimmed : Trimmed cs) (before : List Char) :
    Trimmed (lowerAfter before cs) :=
  ⟨head?_lowerAfter_filled trimmed.front before, getLast?_lowerAfter_filled trimmed.back before⟩

end CrossDriver.Text
