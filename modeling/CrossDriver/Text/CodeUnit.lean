import CrossDriver.Text.Hex

/-!
# Code units

Characters as units of sixteen bits: one unit for most, a pair of halves for the others.

A data file can name half of a pair on its own, and that is no character. A text holds such a half
as the character that stands in for it, out of a block in which no character is assigned. A
character of that block is itself held as its two halves, so that the two are never confused.
-/

namespace CrossDriver.Text

def isHighHalf (n : Nat) : Bool := 0xD800 ≤ n && n < 0xDC00

def isLowHalf (n : Nat) : Bool := 0xDC00 ≤ n && n < 0xE000

def isHalf (n : Nat) : Bool := 0xD800 ≤ n && n < 0xE000

theorem isHighHalf_iff {n : Nat} : isHighHalf n = true ↔ 0xD800 ≤ n ∧ n < 0xDC00 := by
  simp [isHighHalf]

theorem isLowHalf_iff {n : Nat} : isLowHalf n = true ↔ 0xDC00 ≤ n ∧ n < 0xE000 := by
  simp [isLowHalf]

theorem isHalf_iff {n : Nat} : isHalf n = true ↔ 0xD800 ≤ n ∧ n < 0xE000 := by
  simp [isHalf]

def halves (n : Nat) : Nat × Nat :=
  (0xD800 + (n - 0x10000) / 0x400, 0xDC00 + (n - 0x10000) % 0x400)

def pairCode (high low : Nat) : Nat :=
  0x10000 + (high - 0xD800) * 0x400 + (low - 0xDC00)

theorem pairCode_halves {n : Nat} (h : 0x10000 ≤ n) :
    pairCode (halves n).1 (halves n).2 = n := by
  unfold pairCode halves
  dsimp only
  omega

theorem halves_isHalf {n : Nat} (low : 0x10000 ≤ n) (high : n < 0x110000) :
    isHighHalf (halves n).1 = true ∧ isLowHalf (halves n).2 = true := by
  rw [isHighHalf_iff, isLowHalf_iff]
  unfold halves
  dsimp only
  omega

theorem isHalf_of_isHighHalf {n : Nat} (h : isHighHalf n = true) : isHalf n = true := by
  have := isHighHalf_iff.1 h
  exact isHalf_iff.2 (by omega)

theorem isHalf_of_isLowHalf {n : Nat} (h : isLowHalf n = true) : isHalf n = true := by
  have := isLowHalf_iff.1 h
  exact isHalf_iff.2 (by omega)

def planeSize : Nat := 0x10000

def standInPlane : Nat := 13

def standIn (half : Nat) : Char :=
  Char.ofNat (planeSize * standInPlane + half)

def standsFor? (c : Char) : Option Nat :=
  if c.toNat / planeSize = standInPlane ∧ isHalf (c.toNat % planeSize) then
    some (c.toNat % planeSize)
  else none

theorem standsFor?_standIn {half : Nat} (h : isHalf half = true) :
    standsFor? (standIn half) = some half := by
  have bounds := isHalf_iff.1 h
  have valid : (planeSize * standInPlane + half).isValidChar :=
    .inr (by unfold planeSize standInPlane; omega)
  have code : (standIn half).toNat = planeSize * standInPlane + half := by
    rw [standIn, Char.ofNat, dif_pos valid]
    rfl
  have plane : (planeSize * standInPlane + half) / planeSize = standInPlane := by
    unfold planeSize standInPlane
    omega
  have place : (planeSize * standInPlane + half) % planeSize = half := by
    unfold planeSize standInPlane
    omega
  rw [standsFor?, code, plane, place, if_pos ⟨rfl, h⟩]

theorem toNat_of_standsFor? {c : Char} {half : Nat} (h : standsFor? c = some half) :
    0x10000 ≤ c.toNat ∧ c.toNat < 0x110000 := by
  unfold standsFor? at h
  split at h
  case isTrue inside =>
    have plane := inside.1
    unfold planeSize standInPlane at plane
    omega
  case isFalse => cases h

def unitText (unit : Nat) : List Char :=
  if isHalf unit then [standIn unit] else [Char.ofNat unit]

def holdChar (c : Char) : List Char :=
  if (standsFor? c).isSome then [standIn (halves c.toNat).1, standIn (halves c.toNat).2]
  else [c]

def hold (cs : List Char) : List Char :=
  cs.flatMap holdChar

def pairOf? (c d : Char) : Option Nat :=
  match standsFor? c, standsFor? d with
  | some high, some low =>
    if isHighHalf high && isLowHalf low then some (pairCode high low) else none
  | _, _ => none

/-- Halves that happen to stand side by side are not held for a character. -/
def heldPair? (c d : Char) : Option Nat :=
  (pairOf? c d).filter fun code => (standsFor? (Char.ofNat code)).isSome

def codeOf (c : Char) : Nat :=
  (standsFor? c).getD c.toNat

/-- The code points that a text holds, and the halves that stand in it on their own. -/
def codePoints : List Char → List Nat
  | [] => []
  | [c] => [codeOf c]
  | c :: d :: rest =>
    match heldPair? c d with
    | some code => code :: codePoints rest
    | none => codeOf c :: codePoints (d :: rest)

theorem codePoints_cons_of_none {c : Char} (h : standsFor? c = none) (rest : List Char) :
    codePoints (c :: rest) = c.toNat :: codePoints rest := by
  cases rest with
  | nil => simp [codePoints, codeOf, h]
  | cons d rest => simp [codePoints, heldPair?, pairOf?, codeOf, h]

theorem codePoints_holdChar (c : Char) (rest : List Char) :
    codePoints (holdChar c ++ rest) = c.toNat :: codePoints rest := by
  cases h : standsFor? c with
  | none => simpa [holdChar, h] using codePoints_cons_of_none h rest
  | some half =>
    obtain ⟨beyond, within⟩ := toNat_of_standsFor? h
    obtain ⟨high, low⟩ := halves_isHalf beyond within
    have isPair : heldPair? (standIn (halves c.toNat).1) (standIn (halves c.toNat).2)
        = some c.toNat := by
      rw [heldPair?, pairOf?, standsFor?_standIn (isHalf_of_isHighHalf high),
        standsFor?_standIn (isHalf_of_isLowHalf low)]
      simp [high, low, pairCode_halves beyond, Char.ofNat_toNat, h]
    simp [holdChar, h, codePoints, isPair]

theorem codePoints_hold (cs : List Char) : codePoints (hold cs) = cs.map Char.toNat := by
  induction cs with
  | nil => rfl
  | cons c rest ih =>
    rw [hold, List.flatMap_cons, codePoints_holdChar]
    exact congrArg (c.toNat :: ·) ih

def plainChar (code : Nat) : Char :=
  if isHalf code then '\uFFFD' else Char.ofNat code

def held (s : String) : String :=
  String.ofList (hold s.toList)

def plain (s : String) : String :=
  String.ofList ((codePoints s.toList).map plainChar)

/-- Whether the text has a form in bytes, which no half on its own has. -/
def isProper (s : String) : Bool :=
  (codePoints s.toList).all fun code => !isHalf code

def escaped (s : String) : String :=
  String.ofList ((codePoints s.toList).flatMap fun code =>
    if isHalf code then '\\' :: 'u' :: hex 4 code else [Char.ofNat code])

end CrossDriver.Text
