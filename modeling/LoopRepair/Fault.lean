import LoopRepair.Instr
import LoopRepair.Cycle
import LoopRepair.Json

/-!
# Faults and logged computations

A fault ends a computation without an answer. No program read from a listing
causes one: an opcode is unknown only in a program put together by hand, and the
moves of a run never fail to close.

A logged computation leaves a log of what happened on the way. A fault ends the
computation and keeps the log up to that point.
-/

namespace LoopRepair

/-! ## Faults -/

/-- Why a computation has no answer. -/
inductive Fault where
  /-- The run arrived at an instruction the machine does not know. -/
  | unknownOpcode (ins : Instr)
  /-- The recorded moves do not lead back to the start of the walk. -/
  | walk (error : WalkError Int)
deriving DecidableEq, Repr

/-- The message of a fault. -/
def Fault.message : Fault → String
  | unknownOpcode ins =>
    "unknown opcode: " ++ (Json.obj [("op", .str ins.op.name), ("arg", .big ins.arg)]).line
  | walk error => error.message

/-! ## Logged computations -/

/-- A result, or the fault that stands in its place, and what was logged on the
way to it. -/
structure Logged (ε α : Type) where
  result : Except Fault α
  log : List ε

namespace Logged

variable {ε ε' α β : Type}

/-- A computation that logs nothing. -/
def ofExcept (result : Except Fault α) : Logged ε α :=
  ⟨result, []⟩

/-- Logs entries and does nothing else. -/
def tell (entries : List ε) : Logged ε Unit :=
  ⟨.ok (), entries⟩

/-- One computation after another. The second one does not start if the first
one faults. -/
def andThen (first : Logged ε α) (second : α → Logged ε β) : Logged ε β :=
  match first.result with
  | .ok a => ⟨(second a).result, first.log ++ (second a).log⟩
  | .error fault => ⟨.error fault, first.log⟩

/-- The same computation, with a function applied to every entry of its log. -/
def mapLog (f : ε → ε') (x : Logged ε α) : Logged ε' α :=
  ⟨x.result, x.log.map f⟩

instance : Monad (Logged ε) where
  pure a := ⟨.ok a, []⟩
  bind := andThen

@[simp] theorem result_pure (a : α) : (pure a : Logged ε α).result = .ok a := rfl

@[simp] theorem log_pure (a : α) : (pure a : Logged ε α).log = [] := rfl

@[simp] theorem bind_eq_andThen (x : Logged ε α) (f : α → Logged ε β) :
    x >>= f = x.andThen f := rfl

theorem andThen_of_ok {x : Logged ε α} {a : α} (h : x.result = .ok a) (f : α → Logged ε β) :
    x.andThen f = ⟨(f a).result, x.log ++ (f a).log⟩ := by
  simp only [andThen, h]

theorem andThen_of_error {x : Logged ε α} {fault : Fault} (h : x.result = .error fault)
    (f : α → Logged ε β) : x.andThen f = ⟨.error fault, x.log⟩ := by
  simp only [andThen, h]

theorem result_andThen_of_ok {x : Logged ε α} {a : α} (h : x.result = .ok a)
    (f : α → Logged ε β) : (x.andThen f).result = (f a).result := by
  rw [andThen_of_ok h]

@[simp] theorem result_tell (entries : List ε) : (tell entries).result = .ok () := rfl

@[simp] theorem log_tell (entries : List ε) : (tell entries).log = entries := rfl

end Logged

end LoopRepair
