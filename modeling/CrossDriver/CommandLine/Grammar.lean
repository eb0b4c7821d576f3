import CrossDriver.Text.Digit
import CrossDriver.Text.Quoted
import CrossDriver.Text.Split

/-!
# Command lines

Options and operands of a program, and the reading of arguments as the one or the other.

An option may be named by the beginning of a long name that fits no other option. The value of an
option stands behind an equals sign, directly behind a short name, or in the next argument; short
options without a value can be joined behind one dash, and then none of them takes effect unless
all are known. All that follows `--` is operands. An option that is given this mark as its value
keeps it only under some grammars, and otherwise has no value. The operands that stand together
first are taken; further ones are left over, as are unknown options.
-/

namespace CrossDriver.CommandLine

/-! ## Grammars -/

structure ProgramOption (α : Type) where
  names : List String
  placeholder : Option String := none
  help : String
  act : Option String → α

inductive Operands where
  | none
  | many (placeholder help : String)
  | command (choices : List (String × String))

structure Grammar (α : Type) where
  program : String
  options : List (ProgramOption α)
  operands : Operands
  /-- Whether the mark before the operands can be the value of an option. -/
  keepsMark : Bool := false

variable {α : Type}

def ProgramOption.title (o : ProgramOption α) : String :=
  Text.join "/" o.names

namespace Grammar

def named (g : Grammar α) : List (String × ProgramOption α) :=
  g.options.flatMap fun o => o.names.map fun name => (name, o)

def find? (g : Grammar α) (name : String) : Option (ProgramOption α) :=
  (g.named.find? (·.1 = name)).map (·.2)

end Grammar

/-! ## Single arguments -/

inductive Reading (α : Type) where
  | operand
  | terminator
  | option (o : ProgramOption α)
  | assigned (o : ProgramOption α) (value : List Char)
  | joined (o : ProgramOption α) (more : List Char)
  | unknown

def cutAtEquals (cs : List Char) : List Char × Option (List Char) :=
  match Text.firstPieces '=' 1 cs with
  | [first, second] => (first, some second)
  | _ => (cs, none)

def isNegativeNumber (cs : List Char) : Bool :=
  let body := match cs.getLast? with
    | some '\n' => cs.dropLast
    | _ => cs
  match body with
  | '-' :: number =>
    let fraction := number.dropWhile Text.isDecimal
    match fraction with
    | [] => !number.isEmpty
    | '.' :: digits => !digits.isEmpty && digits.all Text.isDecimal
    | _ => false
  | _ => false

namespace Grammar

def longCandidates (g : Grammar α) (arg : List Char) : List (String × Reading α) :=
  let (name, value) := cutAtEquals arg
  g.named.filterMap fun (full, o) =>
    if name.isPrefixOf full.toList then
      some (full, match value with
        | some value => .assigned o value
        | none => .option o)
    else none

def shortCandidates (g : Grammar α) (arg : List Char) : List (String × Reading α) :=
  g.named.filterMap fun (full, o) =>
    if full.toList = arg.take 2 then some (full, .joined o (arg.drop 2))
    else if arg.isPrefixOf full.toList then some (full, .option o)
    else none

def candidates (g : Grammar α) (arg : List Char) : List (String × Reading α) :=
  match arg with
  | '-' :: '-' :: _ => g.longCandidates arg
  | _ => g.shortCandidates arg

def withText (o : ProgramOption α) (name text : List Char) : Reading α :=
  match name with
  | '-' :: '-' :: _ => .assigned o text
  | _ => .joined o text

def classifyCandidates (g : Grammar α) (arg : String) : Except String (Reading α) :=
  match g.candidates arg.toList with
  | [] =>
    .ok (if isNegativeNumber arg.toList || arg.toList.contains ' ' then .operand else .unknown)
  | [(_, reading)] => .ok reading
  | several =>
    .error ("ambiguous option: " ++ arg ++ " could match " ++
      Text.join ", " (several.map (·.1)))

def classify (g : Grammar α) (arg : String) : Except String (Reading α) :=
  match arg.toList with
  | '-' :: _ :: _ =>
    match g.find? arg with
    | some o => .ok (.option o)
    | none =>
      match cutAtEquals arg.toList with
      | (name, some value) =>
        match g.find? (String.ofList name) with
        | some o => .ok (withText o name value)
        | none => g.classifyCandidates arg
      | _ => g.classifyCandidates arg
  | _ => .ok .operand

def classifyAll (g : Grammar α) : List String → Except String (List (String × Reading α))
  | [] => .ok []
  | arg :: rest =>
    if arg = "--" then .ok ((arg, .terminator) :: rest.map fun operand => (operand, .operand))
    else do
      let reading ← g.classify arg
      let readings ← classifyAll g rest
      return (arg, reading) :: readings

theorem classifyAll_terminator (g : Grammar α) (rest : List String) :
    g.classifyAll ("--" :: rest) =
      .ok (("--", .terminator) :: rest.map fun operand => (operand, .operand)) := by
  simp [classifyAll]

end Grammar

/-! ## Whole command lines -/

inductive Item (α : Type) where
  | act (a : α)
  | operands (texts : List String)
  | leftOver (arg : String)
  | misuse (message : String)

inductive Cluster (α : Type) where
  | complete (items : List (Item α))
  | awaiting (items : List (Item α)) (o : ProgramOption α)
  | refused (message : String)

def complaint (o : ProgramOption α) (message : String) : String :=
  "argument " ++ o.title ++ ": " ++ message

def refuseValue (o : ProgramOption α) (value : List Char) : Cluster α :=
  .refused (complaint o ("ignored explicit argument " ++ Text.quoted (String.ofList value)))

def Cluster.push (item : Item α) : Cluster α → Cluster α
  | .complete items => .complete (item :: items)
  | .awaiting items o => .awaiting (item :: items) o
  | .refused message => .refused message

def Grammar.valued (g : Grammar α) (o : ProgramOption α) (value : String) : Item α :=
  .act (o.act (if value = "--" ∧ !g.keepsMark then none else some value))

def ProgramOption.bare (o : ProgramOption α) : Item α :=
  .act (o.act none)

namespace Grammar

def readJoined (g : Grammar α) (o : ProgramOption α) : List Char → Cluster α
  | [] => .complete [o.bare]
  | c :: more =>
    match g.find? (String.ofList ['-', c]) with
    | none => refuseValue o (c :: more)
    | some next =>
      Cluster.push o.bare <|
        match next.placeholder, more with
        | some _, [] => .awaiting [] next
        | some _, value => .complete [g.valued next (String.ofList value)]
        | none, more => readJoined g next more

def cluster (g : Grammar α) (arg : String) : Reading α → Cluster α
  | .option o => if o.placeholder.isSome then .awaiting [] o else .complete [o.bare]
  | .assigned o value =>
    if o.placeholder.isSome then .complete [g.valued o (String.ofList value)]
    else refuseValue o value
  | .joined o more =>
    if o.placeholder.isSome then .complete [g.valued o (String.ofList more)]
    else if more.isEmpty then refuseValue o more
    else g.readJoined o more
  | .operand | .terminator | .unknown => .complete [.leftOver arg]

inductive Phase where
  | before
  | taking (texts : List String)
  | after

/-- The operands taken so far as an item; the first terminator among them is no operand. -/
def Phase.close : Phase → List (Item α)
  | .before => [.operands []]
  | .taking texts => [.operands (texts.erase "--")]
  | .after => []

def Phase.behindOption : Phase → List (Item α) × Phase
  | .taking texts => ([.operands (texts.erase "--")], .after)
  | phase => ([], phase)

def Phase.take (text : String) : Phase → List (Item α) × Phase
  | .before => ([], .taking [text])
  | .taking texts => ([], .taking (texts ++ [text]))
  | .after => ([.leftOver text], .after)

def isValue : Reading α → Bool
  | .operand => true
  | _ => false

def readMany (g : Grammar α) : Phase → List (String × Reading α) → List (Item α)
  | phase, [] => phase.close
  | phase, (arg, reading) :: rest =>
    match reading with
    | .operand | .terminator =>
      let (items, phase) := phase.take arg
      items ++ readMany g phase rest
    | reading =>
      let (items, phase) := phase.behindOption
      items ++
        match g.cluster arg reading with
        | .complete items => items ++ readMany g phase rest
        | .refused message => [.misuse message]
        | .awaiting items o =>
          match rest with
          | (value, next) :: rest =>
            if isValue next then items ++ g.valued o value :: readMany g phase rest
            else [.misuse (complaint o "expected one argument")]
          | [] => [.misuse (complaint o "expected one argument")]

def readCommand (g : Grammar α) : List (String × Reading α) → List (Item α)
  | [] => []
  | (arg, reading) :: rest =>
    match reading with
    | .operand => [.operands (arg :: rest.map (·.1))]
    | .terminator =>
      if rest.isEmpty then [.leftOver arg] else [.operands (arg :: rest.map (·.1))]
    | reading =>
      match g.cluster arg reading with
      | .complete items => items ++ readCommand g rest
      | .refused message => [.misuse message]
      | .awaiting items o =>
        match rest with
        | (value, next) :: rest =>
          if isValue next then items ++ g.valued o value :: readCommand g rest
          else [.misuse (complaint o "expected one argument")]
        | [] => [.misuse (complaint o "expected one argument")]

def read (g : Grammar α) (args : List String) : List (Item α) :=
  match g.classifyAll args with
  | .error message => [.misuse message]
  | .ok readings =>
    match g.operands with
    | .none => g.readMany .after readings
    | .many .. => g.readMany .before readings
    | .command _ => g.readCommand readings

end Grammar

end CrossDriver.CommandLine
