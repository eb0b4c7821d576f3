import CrossDriver.Fault

namespace CrossDriver

structure Config where
  linkMode : LinkMode := .dynamic
  shared : Bool := false
  pie : Bool := false
  pieDefault : Bool := false
  strip : Bool := false
  sysroot : String := ""
  triple : Option String := some Triple.defaultText
  lto : LtoMode := .none
  ltoJobs : Option String := none
  optLevel : Option String := none
  rtlib : Option String := none
  cxxStdlib : Option String := none
  cxx : Bool := false
  rdynamic : Bool := false
  staticCxxStdlib : Bool := false
  fuseLd : Option String := none
  useInitArray : Option Bool := none
  noStdlib : Bool := false
  noStartFiles : Bool := false
  noDefaultLibs : Bool := false
  noLibc : Bool := false
  noStdInc : Bool := false
  noBuiltinInc : Bool := false
  noStdlibInc : Bool := false
  noCxxInc : Bool := false
  noCxxStdlib : Bool := false
  inputs : List String := []
  output : String := "a.out"
  libraryPaths : List String := []
  undefined : List String := []
  debug : Bool := false
  emitLlvm : Bool := false
  suppressWarnings : Bool := false
  deriving DecidableEq, Repr

namespace Config

def isStatic (c : Config) : Bool :=
  c.linkMode = .static

def isPie (c : Config) : Bool :=
  !c.shared && (c.pie || c.pieDefault)

def usesLto (c : Config) : Bool :=
  c.lto ≠ .none

def target (c : Config) : Except Fault Triple :=
  match c.triple with
  | some text => .ok (.parse text)
  | none => .error .absentTriple

end Config

/-! ## Updates -/

inductive Switch where
  | shared
  | pie
  | pieDefault
  | strip
  | cxx
  | rdynamic
  | staticCxxStdlib
  | noStdlib
  | noStartFiles
  | noDefaultLibs
  | noLibc
  | noStdInc
  | noBuiltinInc
  | noStdlibInc
  | noCxxInc
  | noCxxStdlib
  | debug
  | emitLlvm
  | suppressWarnings
  deriving DecidableEq, Repr

inductive Word where
  | sysroot
  | triple
  | ltoJobs
  | optLevel
  | rtlib
  | cxxStdlib
  | fuseLd
  | output
  deriving DecidableEq, Repr

inductive Assignment where
  | switch (field : Switch) (on : Bool)
  | word (field : Word) (value : String)
  | linkMode (mode : LinkMode)
  | lto (mode : LtoMode)
  | useInitArray (on : Bool)
  deriving DecidableEq, Repr

inductive Edit where
  | assign (assignment : Assignment)
  | input (token : String)
  | libraryPath (path : String)
  | undefined (symbol : String)
  deriving DecidableEq, Repr

namespace Config

def switch (c : Config) (on : Bool) : Switch → Config
  | .shared => { c with shared := on }
  | .pie => { c with pie := on }
  | .pieDefault => { c with pieDefault := on }
  | .strip => { c with strip := on }
  | .cxx => { c with cxx := on }
  | .rdynamic => { c with rdynamic := on }
  | .staticCxxStdlib => { c with staticCxxStdlib := on }
  | .noStdlib => { c with noStdlib := on }
  | .noStartFiles => { c with noStartFiles := on }
  | .noDefaultLibs => { c with noDefaultLibs := on }
  | .noLibc => { c with noLibc := on }
  | .noStdInc => { c with noStdInc := on }
  | .noBuiltinInc => { c with noBuiltinInc := on }
  | .noStdlibInc => { c with noStdlibInc := on }
  | .noCxxInc => { c with noCxxInc := on }
  | .noCxxStdlib => { c with noCxxStdlib := on }
  | .debug => { c with debug := on }
  | .emitLlvm => { c with emitLlvm := on }
  | .suppressWarnings => { c with suppressWarnings := on }

def word (c : Config) (value : String) : Word → Config
  | .sysroot => { c with sysroot := value }
  | .triple => { c with triple := some value }
  | .ltoJobs => { c with ltoJobs := some value }
  | .optLevel => { c with optLevel := some value }
  | .rtlib => { c with rtlib := some value }
  | .cxxStdlib => { c with cxxStdlib := some value }
  | .fuseLd => { c with fuseLd := some value }
  | .output => { c with output := value }

def assign (c : Config) : Assignment → Config
  | .switch field on => c.switch on field
  | .word field value => c.word value field
  | .linkMode mode => { c with linkMode := mode }
  | .lto mode => { c with lto := mode }
  | .useInitArray on => { c with useInitArray := some on }

def edit (c : Config) : Edit → Config
  | .assign assignment => c.assign assignment
  | .input token => { c with inputs := c.inputs ++ [token] }
  | .libraryPath path => { c with libraryPaths := c.libraryPaths ++ [path] }
  | .undefined symbol => { c with undefined := c.undefined ++ [symbol] }

def edits (c : Config) (es : List Edit) : Config :=
  es.foldl edit c

theorem edits_append (c : Config) (es fs : List Edit) :
    c.edits (es ++ fs) = (c.edits es).edits fs := by
  simp [edits]

end Config

/-! ## Updates in words -/

def Switch.label : Switch → String
  | .shared => "shared"
  | .pie => "pie"
  | .pieDefault => "pie_default"
  | .strip => "strip"
  | .cxx => "cxx"
  | .rdynamic => "rdynamic"
  | .staticCxxStdlib => "static_libstdcxx"
  | .noStdlib => "nostdlib"
  | .noStartFiles => "nostartfiles"
  | .noDefaultLibs => "nodefaultlibs"
  | .noLibc => "nolibc"
  | .noStdInc => "nostdinc"
  | .noBuiltinInc => "nobuiltininc"
  | .noStdlibInc => "nostdlibinc"
  | .noCxxInc => "nostdincxx"
  | .noCxxStdlib => "nostdlibxx"
  | .debug => "debug"
  | .emitLlvm => "emit_llvm"
  | .suppressWarnings => "suppress_warnings"

def Word.label : Word → String
  | .sysroot => "sysroot"
  | .triple => "triple"
  | .ltoJobs => "lto_jobs"
  | .optLevel => "opt_level"
  | .rtlib => "rtlib"
  | .cxxStdlib => "cxx_stdlib"
  | .fuseLd => "fuse_ld"
  | .output => "output"

def Assignment.label : Assignment → String
  | .switch field _ => field.label
  | .word field _ => field.label
  | .linkMode _ => "link_mode"
  | .lto _ => "lto"
  | .useInitArray _ => "use_init_array"

def truthText (b : Bool) : String :=
  if b then "True" else "False"

def Assignment.valueText : Assignment → String
  | .switch _ on => truthText on
  | .word _ value => Text.quoted value
  | .linkMode .static => "<LinkMode.STATIC: 'static'>"
  | .linkMode .dynamic => "<LinkMode.DYNAMIC: 'dynamic'>"
  | .lto .none => "<LTOMode.NONE: 'none'>"
  | .lto .thin => "<LTOMode.THIN: 'thin'>"
  | .lto .full => "<LTOMode.FULL: 'full'>"
  | .useInitArray on => truthText on

def Assignment.listText (assignments : List Assignment) : String :=
  let latest := Table.ofList (assignments.map fun a => (a.label, a.valueText))
  "\x7b" ++ Text.join ", " (latest.map fun (label, value) => "'" ++ label ++ "': " ++ value) ++
    "\x7d"

end CrossDriver
