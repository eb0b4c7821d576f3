namespace CrossDriver

structure LinkCommand where
  executable : String
  args : List String
  deriving DecidableEq, Repr

def LinkCommand.argv (command : LinkCommand) : List String :=
  command.executable :: command.args

end CrossDriver
