import CrossDriver.DriverOption.Arguments

namespace CrossDriver

inductive Field where
  | switch (switch : Switch)
  | word (word : Word)
  | linkMode
  | lto
  | useInitArray
  deriving DecidableEq, Repr

inductive Listing where
  | inputs
  | libraryPaths
  | undefined
  deriving DecidableEq, Repr

inductive Field.Value where
  | truth (on : Option Bool)
  | text (text : Option String)
  | linkMode (mode : LinkMode)
  | lto (mode : LtoMode)
  deriving DecidableEq, Repr

def Assignment.field : Assignment → Field
  | .switch field _ => .switch field
  | .word field _ => .word field
  | .linkMode _ => .linkMode
  | .lto _ => .lto
  | .useInitArray _ => .useInitArray

def Assignment.value : Assignment → Field.Value
  | .switch _ on => .truth (some on)
  | .word _ value => .text (some value)
  | .linkMode mode => .linkMode mode
  | .lto mode => .lto mode
  | .useInitArray on => .truth (some on)

def Assignment.last? (f : Field) : List Assignment → Option Field.Value
  | [] => none
  | a :: rest => (last? f rest).or (if a.field = f then some a.value else none)

namespace Config

def isOn (c : Config) : Switch → Bool
  | .shared => c.shared
  | .pie => c.pie
  | .pieDefault => c.pieDefault
  | .strip => c.strip
  | .cxx => c.cxx
  | .rdynamic => c.rdynamic
  | .staticCxxStdlib => c.staticCxxStdlib
  | .noStdlib => c.noStdlib
  | .noStartFiles => c.noStartFiles
  | .noDefaultLibs => c.noDefaultLibs
  | .noLibc => c.noLibc
  | .noStdInc => c.noStdInc
  | .noBuiltinInc => c.noBuiltinInc
  | .noStdlibInc => c.noStdlibInc
  | .noCxxInc => c.noCxxInc
  | .noCxxStdlib => c.noCxxStdlib
  | .debug => c.debug
  | .emitLlvm => c.emitLlvm
  | .suppressWarnings => c.suppressWarnings

def wordOf (c : Config) : Word → Option String
  | .sysroot => some c.sysroot
  | .triple => c.triple
  | .ltoJobs => c.ltoJobs
  | .optLevel => c.optLevel
  | .rtlib => c.rtlib
  | .cxxStdlib => c.cxxStdlib
  | .fuseLd => c.fuseLd
  | .output => some c.output

def get (c : Config) : Field → Field.Value
  | .switch field => .truth (some (c.isOn field))
  | .word field => .text (c.wordOf field)
  | .linkMode => .linkMode c.linkMode
  | .lto => .lto c.lto
  | .useInitArray => .truth c.useInitArray

def entries (c : Config) : Listing → List String
  | .inputs => c.inputs
  | .libraryPaths => c.libraryPaths
  | .undefined => c.undefined

theorem ext_get {c d : Config} (fields : ∀ f, c.get f = d.get f)
    (lists : ∀ list, c.entries list = d.entries list) : c = d := by
  have switch (field : Switch) : c.isOn field = d.isOn field := by
    simpa [get] using fields (.switch field)
  have word (field : Word) : c.wordOf field = d.wordOf field := by
    simpa [get] using fields (.word field)
  have linkMode : c.linkMode = d.linkMode := by simpa [get] using fields .linkMode
  have lto : c.lto = d.lto := by simpa [get] using fields .lto
  have useInitArray : c.useInitArray = d.useInitArray := by simpa [get] using fields .useInitArray
  cases c
  cases d
  rw [Config.mk.injEq]
  exact ⟨linkMode, switch .shared, switch .pie, switch .pieDefault, switch .strip,
    Option.some.inj (word .sysroot), word .triple, lto, word .ltoJobs, word .optLevel,
    word .rtlib, word .cxxStdlib, switch .cxx, switch .rdynamic, switch .staticCxxStdlib,
    word .fuseLd, useInitArray, switch .noStdlib, switch .noStartFiles, switch .noDefaultLibs,
    switch .noLibc, switch .noStdInc, switch .noBuiltinInc, switch .noStdlibInc, switch .noCxxInc,
    switch .noCxxStdlib, lists .inputs, Option.some.inj (word .output), lists .libraryPaths,
    lists .undefined, switch .debug, switch .emitLlvm, switch .suppressWarnings⟩

/-! ## One assignment -/

theorem isOn_switch (c : Config) (on : Bool) (changed field : Switch) :
    (c.switch on changed).isOn field = if changed = field then on else c.isOn field := by
  cases changed <;> cases field <;> rfl

theorem wordOf_word (c : Config) (value : String) (changed field : Word) :
    (c.word value changed).wordOf field =
      if changed = field then some value else c.wordOf field := by
  cases changed <;> cases field <;> rfl

theorem wordOf_switch (c : Config) (on : Bool) (changed : Switch) :
    (c.switch on changed).wordOf = c.wordOf := by
  funext field
  cases changed <;> cases field <;> rfl

theorem isOn_word (c : Config) (value : String) (changed : Word) :
    (c.word value changed).isOn = c.isOn := by
  funext field
  cases changed <;> cases field <;> rfl

theorem get_assign (c : Config) (a : Assignment) (f : Field) :
    (c.assign a).get f = if a.field = f then a.value else c.get f := by
  cases a with
  | switch changed on =>
    cases f with
    | switch field =>
      rw [assign, get, isOn_switch]
      by_cases same : changed = field <;> simp [Assignment.field, Assignment.value, get, same]
    | word field => rw [assign, get, wordOf_switch]; rfl
    | linkMode | lto | useInitArray => cases changed <;> rfl
  | word changed value =>
    cases f with
    | switch field => rw [assign, get, isOn_word]; rfl
    | word field =>
      rw [assign, get, wordOf_word]
      by_cases same : changed = field <;> simp [Assignment.field, Assignment.value, get, same]
    | linkMode | lto | useInitArray => cases changed <;> rfl
  | linkMode mode | lto mode | useInitArray mode =>
    cases f with
    | switch field => cases field <;> rfl
    | word field => cases field <;> rfl
    | linkMode | lto | useInitArray => rfl

theorem entries_assign (c : Config) (a : Assignment) : (c.assign a).entries = c.entries := by
  funext list
  cases a with
  | switch field _ | word field _ => cases field <;> cases list <;> rfl
  | linkMode _ | lto _ | useInitArray _ => cases list <;> rfl

end Config

/-! ## A run of updates -/

def Edit.entry? (list : Listing) : Edit → Option String
  | .assign _ => none
  | .input token => if list = .inputs then some token else none
  | .libraryPath path => if list = .libraryPaths then some path else none
  | .undefined symbol => if list = .undefined then some symbol else none

theorem Assignment.last?_append (f : Field) (first second : List Assignment) :
    last? f (first ++ second) = (last? f second).or (last? f first) := by
  induction first with
  | nil => simp [last?]
  | cons a rest ih => rw [List.cons_append, last?, last?, ih, Option.or_assoc]

namespace Config

theorem edits_cons (c : Config) (e : Edit) (es : List Edit) :
    c.edits (e :: es) = (c.edit e).edits es := rfl

theorem get_edits (c : Config) (es : List Edit) (f : Field) :
    (c.edits es).get f =
      (Assignment.last? f (es.filterMap Edit.assignment?)).getD (c.get f) := by
  induction es generalizing c with
  | nil => rfl
  | cons e rest ih =>
    rw [edits_cons, ih]
    cases e with
    | assign a =>
      have given : (Edit.assign a :: rest).filterMap Edit.assignment? =
          a :: rest.filterMap Edit.assignment? := rfl
      rw [given, Assignment.last?, edit, get_assign]
      cases Assignment.last? f (rest.filterMap Edit.assignment?) with
      | none => by_cases same : a.field = f <;> simp [same]
      | some value => rfl
    | input _ | libraryPath _ | undefined _ => cases f <;> rfl

theorem entries_edit (c : Config) (e : Edit) (list : Listing) :
    (c.edit e).entries list = c.entries list ++ (e.entry? list).toList := by
  cases e with
  | assign a => rw [edit, entries_assign]; simp [Edit.entry?]
  | input _ | libraryPath _ | undefined _ => cases list <;> simp [edit, entries, Edit.entry?]

theorem entries_edits (c : Config) (es : List Edit) (list : Listing) :
    (c.edits es).entries list = c.entries list ++ es.filterMap (Edit.entry? list) := by
  induction es generalizing c with
  | nil => simp [edits]
  | cons e rest ih =>
    rw [edits_cons, ih, entries_edit, List.append_assoc, List.filterMap_cons]
    cases e.entry? list <;> rfl

theorem edits_inputs (c : Config) (tokens : List String) :
    c.edits (tokens.map .input) = { c with inputs := c.inputs ++ tokens } := by
  induction tokens generalizing c with
  | nil => simp [edits]
  | cons token rest ih => rw [List.map_cons, edits_cons, ih]; simp [edit]

end Config

end CrossDriver
