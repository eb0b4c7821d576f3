import CrossDriver.Link.Command
import CrossDriver.Link.Rule

namespace CrossDriver

structure Linker where
  toolchain : Toolchain
  rules : List LinkRule := LinkRule.standard

namespace Linker

def context (l : Linker) (c : Config) : Traced LinkContext := do
  if c.usesLto && c.inputs.isEmpty then Traced.fail (.nothingToOptimise c.lto)
  let toolchain ← if c.sysroot = l.toolchain.sysroot then pure l.toolchain
    else l.toolchain.withSysroot c.sysroot
  let linker ← Traced.ofExcept (toolchain.findLinker c)
  return ⟨c, toolchain, linker.path⟩

def tokens (ctx : LinkContext) : List LinkRule → Traced (List String)
  | [] => pure []
  | rule :: rest =>
    if rule.applies ctx.config then do
      let first ← rule.emit ctx
      let others ← tokens ctx rest
      return first ++ others
    else tokens ctx rest

theorem tokens_append (ctx : LinkContext) (first second : List LinkRule) :
    tokens ctx (first ++ second) = do
      let before ← tokens ctx first
      let behind ← tokens ctx second
      return before ++ behind := by
  induction first with
  | nil => simp [tokens]
  | cons rule rest ih =>
    rw [List.cons_append, tokens, tokens, ih]
    split <;> simp only [bind_assoc, pure_bind, List.append_assoc]

def command (l : Linker) (c : Config) : Traced LinkCommand := do
  let ctx ← l.context c
  let args ← tokens ctx l.rules
  let command : LinkCommand := ⟨ctx.linker, args⟩
  Traced.emit (.builtCommand command.argv)
  return command

def firedRules (l : Linker) (c : Config) : Traced (List String) := do
  let ctx ← l.context c
  return (l.rules.filter (·.applies ctx.config)).map LinkRule.name

def text (l : Linker) : String :=
  "KushLinker(" ++ l.toolchain.text ++ ")"

end Linker

namespace Toolchain

def link (t : Toolchain) (c : Config) : Traced LinkCommand :=
  Linker.command { toolchain := t } c

end Toolchain

end CrossDriver
