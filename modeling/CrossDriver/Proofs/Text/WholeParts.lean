import CrossDriver.Proofs.Text.FirstPieces
import CrossDriver.Proofs.Text.SmallLetters
import CrossDriver.Proofs.Text.Whole
import Mathlib.Data.List.Basic

namespace CrossDriver.Text

theorem Whole.within {cs part : List Char} (whole : Whole cs) (inside : part <:+: cs) : Whole part :=
  List.IsChain.infix whole inside

theorem infix_joined_of_mem {sep piece : List Char} {texts : List (List Char)}
    (mem : piece ∈ texts) : piece <:+: joined sep texts := by
  induction texts with
  | nil => cases mem
  | cons first more ih =>
    cases more with
    | nil => exact List.mem_singleton.mp mem ▸ List.infix_rfl
    | cons next others =>
      rw [joined]
      rcases List.mem_cons.mp mem with rfl | later
      · rw [List.append_assoc]
        exact (List.prefix_append _ _).isInfix
      · exact (ih later).trans (List.suffix_append _ _).isInfix
      · exact List.cons_ne_nil _ _

theorem infix_of_mem_pieces {sep : Char} {cs piece : List Char} (mem : piece ∈ pieces sep cs) :
    piece <:+: cs :=
  joined_pieces sep cs ▸ infix_joined_of_mem mem

theorem infix_of_mem_firstPieces {sep : Char} {count : Nat} {cs piece : List Char}
    (mem : piece ∈ firstPieces sep count cs) : piece <:+: cs :=
  joined_firstPieces sep count cs ▸ infix_joined_of_mem mem

theorem infix_trimBlank (cs : List Char) : trimBlank cs <:+: cs := by
  have front := List.dropWhile_suffix isBlank (l := cs)
  have back := List.dropWhile_suffix isBlank (l := (cs.dropWhile isBlank).reverse)
  have kept : trimBlank cs <+: cs.dropWhile isBlank := by
    rw [trimBlank, ← List.reverse_suffix, List.reverse_reverse]
    exact back
  exact kept.isInfix.trans front.isInfix

theorem joins_of_proper_left {c : Char} (proper : Proper c) (d : Char) : Joins c d :=
  joins_of_left fun high stands => by rw [proper] at stands; cases stands

theorem joins_of_proper_right (c : Char) {d : Char} (proper : Proper d) : Joins c d :=
  joins_of_right fun low stands => by rw [proper] at stands; cases stands

theorem Whole.proper_append {first more : List Char} (proper : ∀ c ∈ first, Proper c)
    (behind : Whole more) : Whole (first ++ more) :=
  (whole_of_no_standIn proper).append behind fun c last d _ =>
    joins_of_proper_left (proper c (List.mem_of_mem_getLast? last)) d

theorem Whole.append_proper {first more : List Char} (before : Whole first)
    (proper : ∀ c ∈ more, Proper c) : Whole (first ++ more) :=
  before.append (whole_of_no_standIn proper) fun c _ d head =>
    joins_of_proper_right c (proper d (List.mem_of_mem_head? head))

theorem whole_joined {sep : List Char} (some_sep : sep ≠ []) (proper : ∀ c ∈ sep, Proper c)
    {texts : List (List Char)} (each : ∀ text ∈ texts, Whole text) : Whole (joined sep texts) := by
  induction texts with
  | nil => exact whole_nil
  | cons first more ih =>
    obtain ⟨own, later⟩ := List.forall_mem_cons.mp each
    cases more with
    | nil => exact own
    | cons next others =>
      rw [joined, List.append_assoc]
      · refine own.append ((ih later).proper_append proper) fun c _ d head => ?_
        obtain ⟨s, rest, rfl⟩ := List.exists_cons_of_ne_nil some_sep
        obtain rfl : s = d := by simpa using head
        exact joins_of_proper_right c (proper s (.head _))
      · exact List.cons_ne_nil _ _

theorem whole_literals {texts : List String}
    (plain : texts.all fun s => s.toList.all fun c => (standsFor? c).isNone) :
    ∀ text ∈ texts, Whole text.toList :=
  fun text mem => whole_literal (List.all_eq_true.mp plain text mem)

theorem Whole.behind {s : String} (whole : Whole s.toList) {front : String}
    (plain : front.toList.all fun c => (standsFor? c).isNone) : Whole (front ++ s).toList := by
  rw [String.toList_append]
  exact whole.proper_append (standsFor?_eq_none_of_all plain)

theorem toNat_ofNat_le (n : Nat) : (Char.ofNat n).toNat ≤ n := by
  by_cases valid : n.isValidChar
  · rw [Char.ofNat, dif_pos valid]
    exact Nat.le_refl n
  · rw [Char.ofNat, dif_neg valid]
    exact Nat.zero_le n

theorem caseRuns_bounded : ∀ run ∈ caseRuns, run.last < planeSize * standInPlane ∧
    (run.last + run.shift).toNat < planeSize * standInPlane := by
  decide +kernel

theorem lowerChar_of_standsFor? {c : Char} {half : Nat} (stands : standsFor? c = some half) :
    lowerChar c = [c] := by
  have code := toNat_eq_of_standsFor? stands
  have no_run : caseRuns.find? (·.covers c.toNat) = none := by
    apply List.find?_eq_none.mpr
    intro run mem covers
    have bound := (caseRuns_bounded run mem).1
    simp only [CaseRun.covers, Bool.and_eq_true, decide_eq_true_eq] at covers
    omega
  have other : c ≠ 'İ' := by
    rintro rfl
    cases stands
  rw [lowerChar, if_neg other, no_run]

theorem proper_lowerChar {c : Char} (proper : Proper c) : ∀ d ∈ lowerChar c, Proper d := by
  unfold lowerChar
  split
  case isTrue => exact standsFor?_eq_none_of_all (by decide)
  case isFalse =>
    split
    case h_1 run found =>
      have mem := List.mem_of_find?_eq_some found
      have covers := List.find?_some found
      simp only [CaseRun.covers, Bool.and_eq_true, decide_eq_true_eq] at covers
      intro d same
      rw [List.mem_singleton.mp same]
      apply standsFor?_eq_none_of_lt_block
      have bound := (caseRuns_bounded run mem).2
      have small := toNat_ofNat_le (c.toNat + run.shift).toNat
      omega
    case h_2 =>
      intro d same
      exact List.mem_singleton.mp same ▸ proper

theorem lowerAfter_cons (before : List Char) (c : Char) (rest : List Char) :
    ∃ small, lowerAfter before (c :: rest) = small ++ lowerAfter (c :: before) rest ∧
      (small = [c] ∨ small ≠ [] ∧ ∀ d ∈ small, Proper d) := by
  obtain ⟨small, line, lowered⟩ := exists_lowerAfter_cons before c rest
  refine ⟨small, line, ?_⟩
  rcases lowered with rfl | rfl | rfl
  · cases stands : standsFor? c with
    | none => exact .inr ⟨lowerChar_ne_nil c, proper_lowerChar stands⟩
    | some half => exact .inl (lowerChar_of_standsFor? stands)
  · exact .inr ⟨List.cons_ne_nil _ _, standsFor?_eq_none_of_all (by decide)⟩
  · exact .inr ⟨List.cons_ne_nil _ _, standsFor?_eq_none_of_all (by decide)⟩

theorem whole_lowerAfter (before : List Char) {cs : List Char} (whole : Whole cs) :
    Whole (lowerAfter before cs) ∧
      ∀ d ∈ (lowerAfter before cs).head?, Proper d ∨ d ∈ cs.head? := by
  induction cs generalizing before with
  | nil => exact ⟨whole_nil, fun d mem => nomatch mem⟩
  | cons c rest ih =>
    obtain ⟨later, head⟩ := ih (c :: before) whole.tail
    obtain ⟨small, line, same | ⟨ne, proper⟩⟩ := lowerAfter_cons before c rest
    · rw [line, same]
      refine ⟨(whole_singleton c).append later fun last mem d first => ?_, fun d mem => .inr mem⟩
      obtain rfl : c = last := by simpa using mem
      rcases head d first with proper | follows
      · exact joins_of_proper_right c proper
      · obtain ⟨more, rfl⟩ := List.head?_eq_some_iff.mp follows
        exact whole.joins
    · rw [line]
      refine ⟨later.proper_append proper, fun d mem => .inl ?_⟩
      rw [List.head?_append_of_ne_nil _ ne] at mem
      exact proper d (List.mem_of_mem_head? mem)

theorem whole_lower {s : String} (whole : Whole s.toList) : Whole (lower s).toList := by
  rw [lower, String.toList_ofList]
  exact (whole_lowerAfter [] whole).1

end CrossDriver.Text
