import CrossDriver.Text.CodeUnit
import Mathlib.Data.List.Chain

/-!
# Texts without torn characters

Two halves side by side stand for one character of the block of stand-ins and for nothing else: any
other pair of halves is a character of its own, and such a character is never held in halves.
-/

namespace CrossDriver.Text

/-! ## Stand-ins -/

theorem isHalf_of_standsFor? {c : Char} {half : Nat} (h : standsFor? c = some half) :
    isHalf half = true := by
  unfold standsFor? at h
  split at h
  case isTrue inside =>
    cases h
    exact inside.2
  case isFalse => cases h

theorem toNat_eq_of_standsFor? {c : Char} {half : Nat} (h : standsFor? c = some half) :
    c.toNat = planeSize * standInPlane + half := by
  unfold standsFor? at h
  split at h
  case isTrue inside =>
    cases h
    have split := Nat.div_add_mod c.toNat planeSize
    rw [inside.1] at split
    exact split.symm
  case isFalse => cases h

theorem standIn_of_standsFor? {c : Char} {half : Nat} (h : standsFor? c = some half) :
    standIn half = c := by
  rw [standIn, ← toNat_eq_of_standsFor? h]
  exact Char.ofNat_toNat c

theorem standsFor?_eq_none_of_lt_block {c : Char} (h : c.toNat < planeSize * standInPlane) :
    standsFor? c = none := by
  cases stands : standsFor? c with
  | none => rfl
  | some half =>
    have code := toNat_eq_of_standsFor? stands
    omega

theorem standsFor?_eq_none_of_lt {c : Char} (h : c.toNat < 0x10000) : standsFor? c = none := by
  apply standsFor?_eq_none_of_lt_block
  unfold planeSize standInPlane
  omega

def Proper (c : Char) : Prop :=
  standsFor? c = none

theorem proper_of_lt {c : Char} (small : c.toNat < 0x10000) : Proper c :=
  standsFor?_eq_none_of_lt small

theorem codeOf_of_standsFor? {c : Char} {half : Nat} (h : standsFor? c = some half) :
    codeOf c = half := by
  simp [codeOf, h]

theorem codeOf_of_none {c : Char} (h : standsFor? c = none) : codeOf c = c.toNat := by
  simp [codeOf, h]

theorem toNat_valid (c : Char) : c.toNat < 0xD800 ∨ 0xDFFF < c.toNat ∧ c.toNat < 0x110000 :=
  c.valid

theorem isHalf_toNat (c : Char) : isHalf c.toNat = false := by
  apply Bool.eq_false_iff.mpr
  intro half
  have bounds := isHalf_iff.mp half
  rcases toNat_valid c with low | ⟨high, -⟩ <;> omega

theorem unitText_codeOf (c : Char) : unitText (codeOf c) = [c] := by
  cases stands : standsFor? c with
  | none =>
    rw [codeOf_of_none stands, unitText, isHalf_toNat, if_neg Bool.false_ne_true,
      Char.ofNat_toNat]
  | some half =>
    rw [codeOf_of_standsFor? stands, unitText, if_pos (isHalf_of_standsFor? stands),
      standIn_of_standsFor? stands]

theorem holdChar_of_none {c : Char} (h : standsFor? c = none) : holdChar c = [c] := by
  simp [holdChar, h]

/-! ## Pairs -/

theorem pairOf?_eq_some_iff {c d : Char} {code : Nat} :
    pairOf? c d = some code ↔ ∃ high low, standsFor? c = some high ∧ standsFor? d = some low ∧
      isHighHalf high = true ∧ isLowHalf low = true ∧ pairCode high low = code := by
  unfold pairOf?
  constructor
  · intro pair
    split at pair
    case h_1 high low stands follows =>
      split at pair
      case isTrue both =>
        obtain ⟨isHigh, isLow⟩ := Bool.and_eq_true_iff.mp both
        exact ⟨high, low, stands, follows, isHigh, isLow, Option.some.inj pair⟩
      case isFalse => cases pair
    case h_2 => cases pair
  · rintro ⟨high, low, stands, follows, isHigh, isLow, rfl⟩
    simp [stands, follows, isHigh, isLow]

theorem halves_pairCode {high low : Nat} (isHigh : isHighHalf high = true)
    (isLow : isLowHalf low = true) : halves (pairCode high low) = (high, low) := by
  have highBounds := isHighHalf_iff.mp isHigh
  have lowBounds := isLowHalf_iff.mp isLow
  have first : 0xD800 + (pairCode high low - 0x10000) / 0x400 = high := by
    unfold pairCode
    omega
  have second : 0xDC00 + (pairCode high low - 0x10000) % 0x400 = low := by
    unfold pairCode
    omega
  exact Prod.ext first second

theorem toNat_ofNat_pairCode {high low : Nat} (isHigh : isHighHalf high = true)
    (isLow : isLowHalf low = true) : (Char.ofNat (pairCode high low)).toNat = pairCode high low := by
  have highBounds := isHighHalf_iff.mp isHigh
  have lowBounds := isLowHalf_iff.mp isLow
  have valid : (pairCode high low).isValidChar := by
    unfold pairCode
    exact .inr (by omega)
  rw [Char.ofNat, dif_pos valid]
  rfl

theorem heldPair?_eq_some_iff {c d : Char} {code : Nat} :
    heldPair? c d = some code ↔ pairOf? c d = some code ∧ (standsFor? (Char.ofNat code)).isSome :=
  Option.filter_eq_some_iff

theorem holdChar_of_heldPair? {c d : Char} {code : Nat} (pair : heldPair? c d = some code) :
    holdChar (Char.ofNat code) = [c, d] := by
  obtain ⟨pair, block⟩ := heldPair?_eq_some_iff.mp pair
  obtain ⟨high, low, stands, follows, isHigh, isLow, rfl⟩ := pairOf?_eq_some_iff.mp pair
  rw [holdChar, if_pos block, toNat_ofNat_pairCode isHigh isLow, halves_pairCode isHigh isLow,
    standIn_of_standsFor? stands, standIn_of_standsFor? follows]

/-! ## Texts by their code points -/

def codeText (code : Nat) : List Char :=
  if isHalf code then [standIn code] else holdChar (Char.ofNat code)

theorem codeText_codeOf (c : Char) : codeText (codeOf c) = [c] := by
  cases stands : standsFor? c with
  | none =>
    rw [codeOf_of_none stands, codeText, isHalf_toNat, if_neg (by simp), Char.ofNat_toNat,
      holdChar_of_none stands]
  | some half =>
    rw [codeOf_of_standsFor? stands, codeText, if_pos (isHalf_of_standsFor? stands),
      standIn_of_standsFor? stands]

theorem codeText_of_heldPair? {c d : Char} {code : Nat} (pair : heldPair? c d = some code) :
    codeText code = [c, d] := by
  -- A pair that is held is a character of the block, which is no half itself.
  obtain ⟨held, block⟩ := heldPair?_eq_some_iff.mp pair
  obtain ⟨high, low, -, -, isHigh, isLow, rfl⟩ := pairOf?_eq_some_iff.mp held
  have real := isHalf_toNat (Char.ofNat (pairCode high low))
  rw [toNat_ofNat_pairCode isHigh isLow] at real
  rw [codeText, real, if_neg (by simp), holdChar_of_heldPair? pair]

theorem flatMap_codeText_codePoints (cs : List Char) : (codePoints cs).flatMap codeText = cs := by
  fun_induction codePoints cs with
  | case1 => rfl
  | case2 c => simp [codeText_codeOf]
  | case3 c d rest code pair ih => simp [codeText_of_heldPair? pair, ih]
  | case4 c d rest alone ih => simp [codeText_codeOf, ih]

theorem codePoints_injective {cs ds : List Char} (same : codePoints cs = codePoints ds) :
    cs = ds := by
  rw [← flatMap_codeText_codePoints cs, same, flatMap_codeText_codePoints]

/-! ## Whole texts -/

/-- Neighbours that are halves of one character are held so for a reason. -/
def Joins (c d : Char) : Prop :=
  ∀ code, pairOf? c d = some code → (standsFor? (Char.ofNat code)).isSome

/-- No character is torn into halves. -/
def Whole (cs : List Char) : Prop :=
  cs.IsChain Joins

theorem joins_of_left {c d : Char}
    (notHigh : ∀ high, standsFor? c = some high → isHighHalf high = false) : Joins c d := by
  intro code pair
  obtain ⟨high, low, stands, -, isHigh, -⟩ := pairOf?_eq_some_iff.mp pair
  rw [notHigh high stands] at isHigh
  cases isHigh

theorem joins_of_right {c d : Char}
    (notLow : ∀ low, standsFor? d = some low → isLowHalf low = false) : Joins c d := by
  intro code pair
  obtain ⟨high, low, -, follows, -, isLow, -⟩ := pairOf?_eq_some_iff.mp pair
  rw [notLow low follows] at isLow
  cases isLow

theorem not_isHighHalf_of_isLowHalf {n : Nat} (h : isLowHalf n = true) : isHighHalf n = false := by
  have bounds := isLowHalf_iff.mp h
  apply Bool.eq_false_iff.mpr
  intro high
  have := isHighHalf_iff.mp high
  omega

theorem not_isLowHalf_of_isHighHalf {n : Nat} (h : isHighHalf n = true) : isLowHalf n = false := by
  apply Bool.eq_false_iff.mpr
  intro low
  rw [not_isHighHalf_of_isLowHalf low] at h
  cases h

theorem not_isLowHalf_of_not_isHalf {n : Nat} (h : isHalf n = false) : isLowHalf n = false := by
  apply Bool.eq_false_iff.mpr
  intro low
  rw [isHalf_of_isLowHalf low] at h
  cases h

theorem whole_nil : Whole [] := List.IsChain.nil

theorem whole_singleton (c : Char) : Whole [c] := List.IsChain.singleton c

theorem Whole.tail {c : Char} {cs : List Char} (whole : Whole (c :: cs)) : Whole cs :=
  List.IsChain.tail whole

theorem Whole.joins {c d : Char} {cs : List Char} (whole : Whole (c :: d :: cs)) : Joins c d :=
  (List.isChain_cons_cons.mp whole).1

theorem Whole.append {first more : List Char} (before : Whole first) (behind : Whole more)
    (between : ∀ c ∈ first.getLast?, ∀ d ∈ more.head?, Joins c d) : Whole (first ++ more) :=
  List.isChain_append.mpr ⟨before, behind, between⟩

theorem joins_halves {c : Char} (h : (standsFor? c).isSome) :
    Joins (standIn (halves c.toNat).1) (standIn (halves c.toNat).2) := by
  intro code pair
  obtain ⟨half, stands⟩ := Option.isSome_iff_exists.mp h
  obtain ⟨beyond, within⟩ := toNat_of_standsFor? stands
  obtain ⟨isHigh, isLow⟩ := halves_isHalf beyond within
  obtain ⟨high, low, first, second, -, -, rfl⟩ := pairOf?_eq_some_iff.mp pair
  have high_eq : (halves c.toNat).1 = high :=
    Option.some.inj ((standsFor?_standIn (isHalf_of_isHighHalf isHigh)).symm.trans first)
  have low_eq : (halves c.toNat).2 = low :=
    Option.some.inj ((standsFor?_standIn (isHalf_of_isLowHalf isLow)).symm.trans second)
  rw [← high_eq, ← low_eq, pairCode_halves beyond, Char.ofNat_toNat]
  exact h

theorem isHalf_halves {c : Char} (beyond : 0x10000 ≤ c.toNat) :
    isHighHalf (halves c.toNat).1 = true ∧ isLowHalf (halves c.toNat).2 = true := by
  apply halves_isHalf beyond
  rcases toNat_valid c with low | ⟨-, high⟩ <;> omega

theorem whole_holdChar (c : Char) : Whole (holdChar c) := by
  rw [holdChar]
  split
  case isTrue stands =>
    exact List.isChain_cons_cons.mpr ⟨joins_halves stands, whole_singleton _⟩
  case isFalse => exact whole_singleton c

theorem joins_of_mem_getLast?_holdChar {c last : Char} (mem : last ∈ (holdChar c).getLast?)
    (d : Char) : Joins last d := by
  apply joins_of_left
  intro high stands
  rw [holdChar] at mem
  split at mem
  case isTrue block =>
    obtain ⟨half, own⟩ := Option.isSome_iff_exists.mp block
    obtain ⟨beyond, within⟩ := toNat_of_standsFor? own
    obtain ⟨-, isLow⟩ := halves_isHalf beyond within
    obtain rfl : standIn (halves c.toNat).2 = last := by simpa using mem
    have high_eq : (halves c.toNat).2 = high :=
      Option.some.inj ((standsFor?_standIn (isHalf_of_isLowHalf isLow)).symm.trans stands)
    exact high_eq ▸ not_isHighHalf_of_isLowHalf isLow
  case isFalse other =>
    obtain rfl : c = last := by simpa using mem
    simp [stands] at other

theorem not_low_of_mem_head?_holdChar {c first : Char} (mem : first ∈ (holdChar c).head?) {low : Nat}
    (stands : standsFor? first = some low) : isLowHalf low = false := by
  rw [holdChar] at mem
  split at mem
  case isTrue block =>
    obtain ⟨half, own⟩ := Option.isSome_iff_exists.mp block
    obtain ⟨isHigh, -⟩ := isHalf_halves (toNat_of_standsFor? own).1
    obtain rfl : standIn (halves c.toNat).1 = first := by simpa using mem
    have low_eq : (halves c.toNat).1 = low :=
      Option.some.inj ((standsFor?_standIn (isHalf_of_isHighHalf isHigh)).symm.trans stands)
    exact low_eq ▸ not_isLowHalf_of_isHighHalf isHigh
  case isFalse other =>
    obtain rfl : c = first := by simpa using mem
    simp [stands] at other

theorem exists_unitText {unit : Nat} (small : unit < 0x10000) :
    ∃ c, unitText unit = [c] ∧ ∀ half, standsFor? c = some half → half = unit := by
  rw [unitText]
  split
  case isTrue half =>
    refine ⟨standIn unit, rfl, fun other stands => ?_⟩
    rw [standsFor?_standIn half] at stands
    exact (Option.some.inj stands).symm
  case isFalse plain =>
    refine ⟨Char.ofNat unit, rfl, fun other stands => ?_⟩
    have beyond := (toNat_of_standsFor? stands).1
    by_cases valid : unit.isValidChar
    · have same : (Char.ofNat unit).toNat = unit := by
        rw [Char.ofNat, dif_pos valid]
        rfl
      omega
    · rw [Char.ofNat, dif_neg valid] at beyond
      exact absurd beyond (by decide)

theorem whole_hold (cs : List Char) : Whole (hold cs) := by
  induction cs with
  | nil => exact whole_nil
  | cons c rest ih =>
    rw [hold, List.flatMap_cons]
    apply Whole.append (whole_holdChar c) ih
    intro last mem d _
    exact joins_of_mem_getLast?_holdChar mem d

theorem standsFor?_eq_none_of_all {cs : List Char} (plain : cs.all fun c => (standsFor? c).isNone) :
    ∀ c ∈ cs, standsFor? c = none :=
  fun c mem => Option.isNone_iff_eq_none.mp (List.all_eq_true.mp plain c mem)

theorem whole_of_no_standIn {cs : List Char} (h : ∀ c ∈ cs, standsFor? c = none) : Whole cs := by
  induction cs with
  | nil => exact whole_nil
  | cons c rest ih =>
    apply Whole.append (whole_singleton c) (ih fun d mem => h d (.tail _ mem))
    intro last mem d _
    obtain rfl : c = last := by simpa using mem
    apply joins_of_left
    intro high stands
    rw [h c (.head _)] at stands
    cases stands

theorem codePoints_of_no_standIn {cs : List Char} (h : ∀ c ∈ cs, standsFor? c = none) :
    codePoints cs = cs.map Char.toNat := by
  induction cs with
  | nil => rfl
  | cons c rest ih =>
    obtain ⟨own, later⟩ := List.forall_mem_cons.mp h
    rw [codePoints_cons_of_none own, ih later, List.map_cons]

theorem isProper_of_ascii {s : String} (ascii : ∀ c ∈ s.toList, c.toNat < 0x80) :
    isProper s = true := by
  have plain : ∀ c ∈ s.toList, standsFor? c = none := fun c mem =>
    standsFor?_eq_none_of_lt (by have := ascii c mem; omega)
  rw [isProper, codePoints_of_no_standIn plain, List.all_map, List.all_eq_true]
  intro c _
  simp [isHalf_toNat]

theorem whole_literal {s : String} (plain : s.toList.all fun c => (standsFor? c).isNone) :
    Whole s.toList :=
  whole_of_no_standIn (standsFor?_eq_none_of_all plain)

end CrossDriver.Text
