import CrossDriver.Registry
import CrossDriver.Toolchain

namespace CrossDriver

inductive Platform where
  | kush
  deriving DecidableEq, Repr

def platforms : Registry Platform :=
  Registry.register {} .kush ["kush"]

def Toolchain.find (c : Config) (settings : Settings) (present : String → Bool)
    (given : Option Engine := none) (fresh : Engine := 0) : Traced Toolchain := do
  let triple ← Traced.ofExcept c.target
  match platforms.get triple with
  | .ok .kush => create settings triple c.sysroot present given fresh
  | .error fault => Traced.fail fault

end CrossDriver
