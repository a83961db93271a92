import LoopRepair.Run
import LoopRepair.Trace.Tracing

/-!
# Repair

A looping program is repaired by exchanging one jump and no-op, tried by a run
under the swap at that position. Only positions on the detected cycle are tried,
in the order of the cycle. A swap on the way to the cycle, which may let the run
miss it, is not considered.

Every run, every candidate and every repair leaves a tag, in the order in which
they happen.
-/

namespace LoopRepair

/-! ## Reports -/

/-- The status of a run that ended. -/
def Ending.status : Ending → Status
  | halted => .terminated
  | looped _ => .looped

/-- The tag of a finished run. -/
def Outcome.tag (swap : Swap) (out : Outcome) : Tag :=
  match out.ending with
  | .halted => .halt out.acc swap
  | .looped entry => .loop entry out.acc swap

/-- A detected cycle: where the run closed it, the accumulator at that moment,
and its positions from there on. -/
structure LoopReport where
  entry : Nat
  acc : Int
  path : List Nat
deriving DecidableEq, Repr

/-- A program that halts: its accumulator, the swap that was needed, the cycle
that was broken, and the positions tried, the successful one last. A program
that halts by itself needed no swap, had no cycle, and nothing was tried. -/
structure RepairReport where
  acc : Int
  swappedAt : Option Nat
  loop : Option LoopReport
  candidates : List Nat
deriving DecidableEq, Repr

/-- No swap on the cycle lets the program halt. -/
structure NoRepair where
  loop : LoopReport
  candidates : List Nat
deriving DecidableEq, Repr

namespace LoopReport

/-- A detected cycle as a JSON object. -/
def toJson (loop : LoopReport) : Json :=
  .obj [("at", .int loop.entry), ("acc", .big loop.acc), ("path", .ofPositions loop.path)]

end LoopReport

namespace RepairReport

/-- A repair report as a JSON object. -/
def toJson (report : RepairReport) : Json :=
  .obj [("acc", .big report.acc),
    ("swappedAt", .ofPosition? (report.swappedAt.map Int.ofNat)),
    ("loop", (report.loop.map LoopReport.toJson).getD .null),
    ("candidates", .ofPositions report.candidates)]

end RepairReport

/-! ## Runs and cycles -/

namespace Program

/-- The cycle of a run that closed one at `entry`. -/
def loopReport (out : Outcome) (entry : Nat) : Except Fault LoopReport :=
  match Cycle.walk out.moves entry with
  | .ok path => .ok ⟨entry, out.acc, path⟩
  | .error error => .error (.walk (error.map Int.ofNat))

/-- Whether the instruction at a position can be exchanged for its counterpart.
Every opcode but `acc` is tried. -/
def isCandidate (prog : Program) (pos : Nat) : Bool :=
  match prog[pos]? with
  | some ins => ins.op ≠ .acc
  | none => false

/-- The opcode at a position. Past the end it counts as a no-op, since nothing
happens there. -/
def opcodeAt (prog : Program) (pos : Nat) : Opcode :=
  (prog[pos]?.map Instr.op).getD .nop

end Program

/-! ## The search -/

namespace Tracing

variable {m : Type → Type} [Tracing m]

/-- Runs a program and emits the tag of the run. A run that faults emits none. -/
def execute (prog : Program) (swap : Swap) : m Outcome :=
  match prog.run swap with
  | .ok out => do
    emit (out.tag swap)
    pure out
  | .error ins => ofExcept (.error (.unknownOpcode ins))

/-- The cycle a program runs into, if it does not halt. -/
def firstLoop (prog : Program) : m (Option LoopReport) := do
  let out ← execute prog none
  match out.ending with
  | .halted => pure none
  | .looped entry => do
    let loop ← ofExcept (Program.loopReport out entry)
    pure (some loop)

/-- Tries the swap at each of the given positions in turn, until one lets the
program halt. Returns the positions tried and, if there is one, the last of them
with the outcome of its run. -/
def tryEach (prog : Program) : List Nat → m (List Nat × Option (Nat × Outcome))
  | [] => pure ([], none)
  | pos :: rest => do
    let out ← execute prog (some pos)
    emit (.candidate pos (prog.opcodeAt pos) out.ending.status)
    if out.isHalted then
      pure ([pos], some (pos, out))
    else do
      let (tried, found) ← tryEach prog rest
      pure (pos :: tried, found)

/-- Finds the first swap on the detected cycle that lets the program halt. -/
def repair (prog : Program) : m (Except NoRepair RepairReport) := do
  let out ← execute prog none
  match out.ending with
  | .halted => do
    emit (.repair none out.acc)
    pure (.ok ⟨out.acc, none, none, []⟩)
  | .looped entry => do
    let loop ← ofExcept (Program.loopReport out entry)
    let (tried, found) ← tryEach prog (loop.path.filter prog.isCandidate)
    match found with
    | some (pos, fixed) => do
      emit (.repair (some pos) fixed.acc)
      pure (.ok ⟨fixed.acc, some pos, some loop, tried⟩)
    | none => pure (.error ⟨loop, tried⟩)

end Tracing

/-! ## With a log of tags -/

namespace Program

/-- Runs a program, with the tag of the run in the log. -/
def execute (prog : Program) (swap : Swap) : Logged Tag Outcome :=
  Tracing.execute prog swap

theorem execute_def (prog : Program) (swap : Swap) :
    prog.execute swap = match prog.run swap with
      | .ok out => ⟨.ok out, [out.tag swap]⟩
      | .error ins => ⟨.error (.unknownOpcode ins), []⟩ := by
  unfold execute Tracing.execute
  cases prog.run swap <;> rfl

/-- The cycle a program runs into, with the tags of the run in the log. -/
def firstLoop (prog : Program) : Logged Tag (Option LoopReport) :=
  Tracing.firstLoop prog

theorem firstLoop_def (prog : Program) :
    prog.firstLoop = (prog.execute none).andThen fun out =>
      match out.ending with
      | .halted => pure none
      | .looped entry => (Logged.ofExcept (loopReport out entry)).andThen fun loop =>
          pure (some loop) := rfl

/-- Tries swaps in turn, with the tags of their runs in the log. -/
def tryEach (prog : Program) (positions : List Nat) :
    Logged Tag (List Nat × Option (Nat × Outcome)) :=
  Tracing.tryEach prog positions

theorem tryEach_nil (prog : Program) : prog.tryEach [] = pure ([], none) := rfl

theorem tryEach_cons (prog : Program) (pos : Nat) (rest : List Nat) :
    prog.tryEach (pos :: rest) = (prog.execute (some (pos : Int))).andThen fun out =>
      (Logged.tell [.candidate pos (prog.opcodeAt pos) out.ending.status]).andThen fun _ =>
        if out.isHalted then pure ([pos], some (pos, out))
        else (prog.tryEach rest).andThen fun search => pure (pos :: search.1, search.2) := rfl

/-- Repairs a program, with the tags of all runs in the log. -/
def repair (prog : Program) : Logged Tag (Except NoRepair RepairReport) :=
  Tracing.repair prog

theorem repair_def (prog : Program) :
    prog.repair = (prog.execute none).andThen fun out =>
      match out.ending with
      | .halted => (Logged.tell [.repair none out.acc]).andThen fun _ =>
          pure (.ok ⟨out.acc, none, none, []⟩)
      | .looped entry => (Logged.ofExcept (loopReport out entry)).andThen fun loop =>
          (prog.tryEach (loop.path.filter prog.isCandidate)).andThen fun search =>
            match search.2 with
            | some (pos, fixed) => (Logged.tell [.repair (some pos) fixed.acc]).andThen fun _ =>
                pure (.ok ⟨fixed.acc, some pos, some loop, search.1⟩)
            | none => pure (.error ⟨loop, search.1⟩) := rfl

end Program

end LoopRepair
