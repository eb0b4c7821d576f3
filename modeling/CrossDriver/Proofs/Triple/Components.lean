import CrossDriver.Proofs.Text.FirstPieces
import CrossDriver.Triple

namespace CrossDriver.Triple

def Plain (component : String) : Prop :=
  component ≠ "" ∧ '-' ∉ component.toList

structure Regular (t : Triple) : Prop where
  arch : Plain t.arch
  vendor : Plain t.vendor
  os : Plain t.os

def written (t : Triple) : List String :=
  [t.arch, t.vendor, t.os] ++ if t.environment = "" then [] else [t.environment]

theorem toList_text (t : Triple) :
    t.text.toList = Text.joined ['-'] (t.written.map String.toList) := by
  unfold text written
  split <;> simp [Text.joined]

theorem orUnknown_toList {component : String} (ne : component ≠ "") :
    orUnknown component.toList = component := by
  have some_char : component.toList ≠ [] := fun none => ne (String.toList_eq_nil_iff.mp none)
  rw [orUnknown, List.isEmpty_eq_false_iff.mpr some_char, if_neg Bool.false_ne_true,
    String.ofList_toList]

theorem plain_unknown : Plain "unknown" := by
  unfold Plain
  decide

theorem plain_orUnknown {component : List Char} (free : '-' ∉ component) :
    Plain (orUnknown component) := by
  cases component with
  | nil => exact plain_unknown
  | cons c rest =>
    refine ⟨fun none => ?_, ?_⟩
    · have empty := congrArg String.toList none
      simp [orUnknown] at empty
    · rwa [orUnknown, if_neg (by simp), String.toList_ofList]

theorem regular_ofComponents {components : List (List Char)}
    (free : ∀ component ∈ components.take 3, '-' ∉ component) :
    (ofComponents components).Regular := by
  match components, free with
  | [], _ => exact ⟨plain_unknown, plain_unknown, plain_unknown⟩
  | [arch], free => exact ⟨plain_orUnknown (free arch (by simp)), plain_unknown, plain_unknown⟩
  | [arch, os], free =>
    exact ⟨plain_orUnknown (free arch (by simp)), plain_unknown,
      plain_orUnknown (free os (by simp))⟩
  | [arch, vendor, os], free =>
    exact ⟨plain_orUnknown (free arch (by simp)), plain_orUnknown (free vendor (by simp)),
      plain_orUnknown (free os (by simp))⟩
  | arch :: vendor :: os :: _ :: _, free =>
    exact ⟨plain_orUnknown (free arch (by simp)), plain_orUnknown (free vendor (by simp)),
      plain_orUnknown (free os (by simp))⟩

theorem regular_parse (s : String) : (parse s).Regular :=
  regular_ofComponents fun _ mem => Text.not_mem_of_mem_take_firstPieces mem

theorem firstPieces_text {t : Triple} (regular : t.Regular) :
    Text.firstPieces '-' 3 t.text.toList = t.written.map String.toList := by
  rw [toList_text]
  apply Text.firstPieces_joined
  · simp [written]
  · unfold written
    split <;> simp
  · simp [written, regular.arch.2, regular.vendor.2, regular.os.2]

theorem ofComponents_written {t : Triple} (regular : t.Regular) :
    ofComponents (t.written.map String.toList) = t := by
  have arch := orUnknown_toList regular.arch.1
  have vendor := orUnknown_toList regular.vendor.1
  have os := orUnknown_toList regular.os.1
  unfold written
  split
  · next none => simp [ofComponents, arch, vendor, os, ← none]
  · simp [ofComponents, arch, vendor, os]

theorem eq_of_text {t u : Triple} (regular : t.Regular) (other : u.Regular)
    (same : t.text = u.text) : t = u := by
  have components : t.written.map String.toList = u.written.map String.toList := by
    rw [← firstPieces_text regular, ← firstPieces_text other, same]
  rw [← ofComponents_written regular, components, ofComponents_written other]

/-- Targets that are read are told apart by their normalised texts, and the components of each are
the pieces of its text at the first three dashes. -/
theorem text_identifies :
    (∀ a b : String, (parse a).text = (parse b).text ↔ parse a = parse b) ∧
      ∀ s : String, (parse s).Regular ∧
        (Text.firstPieces '-' 3 (parse s).text.toList).map String.ofList =
          [(parse s).arch, (parse s).vendor, (parse s).os] ++
            if (parse s).environment = "" then [] else [(parse s).environment] := by
  constructor
  · intro a b
    constructor
    · exact eq_of_text (regular_parse a) (regular_parse b)
    · exact congrArg text
  · intro s
    refine ⟨regular_parse s, ?_⟩
    rw [firstPieces_text (regular_parse s), List.map_map]
    simp [written]

end CrossDriver.Triple
