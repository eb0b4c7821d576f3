import CrossDriver.Fault
import CrossDriver.Text.CodeUnit

namespace CrossDriver

structure Registry (α : Type) where
  entries : Table α := []

namespace Registry

variable {α : Type}

def register (r : Registry α) (entry : α) (osNames : List String) : Registry α :=
  ⟨osNames.foldl (fun t os => t.put os entry) r.entries⟩

def get (r : Registry α) (triple : Triple) : Except Fault α :=
  match r.entries.get? triple.os with
  | some entry => .ok entry
  | none => .error (.unsupportedTarget triple)

def osNames (r : Registry α) : List String :=
  r.entries.keys.mergeSort fun a b =>
    !decide (Text.codePoints b.toList < Text.codePoints a.toList)

end Registry

end CrossDriver
