import LoopRepair.Proofs.Exits
import LoopRepair.Proofs.Orders

/-!
# What a call depends on

A call is given the whole environment and every file there is, and makes use of little
of it. Help and usage errors depend on the arguments alone. An order depends on the two
trace variables, on the path that it resolves, and on what is read from there.

The statement compares two calls with the same arguments, in surroundings that may differ
in everything else. `Resolves` says which path an order works on; `Asks` from
`LoopRepair.Proofs.Orders` says which arguments make an order at all.
-/

namespace LoopRepair

/-! ## Surroundings that a command does not notice -/

section Commands

variable {source source' : Source} {path : String}

theorem loadFile_congr (same : source.text path = source'.text path) (strict : Bool) :
    loadFile source path strict = loadFile source' path strict := by
  rw [loadFile_def, loadFile_def, readText, readText, same]

theorem repairFile_congr (same : source.text path = source'.text path) (options : RepairOptions) :
    repairFile source path options = repairFile source' path options := by
  rw [repairFile_def, repairFile_def, loadFile_congr same]

theorem loopFile_congr (same : source.text path = source'.text path) (strict : Bool) :
    loopFile source path strict = loopFile source' path strict := by
  rw [loopFile_def, loopFile_def, loadFile_congr same]

end Commands

/-- What is seen of events is a matter of the two flags. -/
theorem Recorder.seen_congr {r r' : Recorder} (same : ∀ flag, r.isOn flag = r'.isOn flag)
    (events : List Event) : r.seen events = r'.seen events := by
  rw [seen_eq, seen_eq, echoes, same, same, echoes]

namespace CommandLine

/-! ## The path of an order -/

/-- `Resolves file env path`: an order for `file` works on `path`.

* `operand`: on the file that was named, also if its name is empty.
* `environment`: if none was named, on the one that the environment names.
* `usual`: if that variable is unset or blank, on the usual one. -/
inductive Resolves (file : Option String) (env : Environment) : String → Prop
  | operand {path : String} : file = some path → Resolves file env path
  | environment {path : String} :
      file = none → env.program = some path → (∃ c ∈ path.toList, Text.isBlank c = false) →
      Resolves file env path
  | usual :
      file = none →
      (∀ value, env.program = some value → ∀ c ∈ value.toList, Text.isBlank c = true) →
      Resolves file env "instructions.txt"

theorem trim_eq_nil_iff {cs : List Char} : Text.trim cs = [] ↔ ∀ c ∈ cs, Text.isBlank c = true := by
  rw [(Text.stripped_trim cs).eq_nil_iff, Text.words_eq_nil_iff]

theorem programPath_of_ink {env : Environment} {value : String} (set : env.program = some value)
    (ink : Text.trim value.toList ≠ []) : env.programPath = value := by
  simp only [Environment.programPath, set, if_neg ink]

theorem programPath_of_blank {env : Environment}
    (blank : ∀ value, env.program = some value → Text.trim value.toList = []) :
    env.programPath = defaultProgramPath := by
  unfold Environment.programPath
  cases set : env.program with
  | none => rfl
  | some value => exact if_pos (blank value set)

/-- Every order resolves one path, which is the one that it works on. -/
theorem resolves_iff {order : Order} {env : Environment} {path : String} :
    Resolves order.file env path ↔ order.path env = path := by
  unfold Order.path
  constructor
  · intro resolves
    cases resolves with
    | operand named => rw [named, Option.getD_some]
    | environment unnamed set ink =>
      rw [unnamed, Option.getD_none]
      exact programPath_of_ink set (by simpa [trim_eq_nil_iff] using ink)
    | usual unnamed blank =>
      rw [unnamed, Option.getD_none]
      exact programPath_of_blank fun value set => trim_eq_nil_iff.mpr (blank value set)
  · rintro rfl
    cases named : order.file with
    | some path => exact .operand rfl
    | none =>
      rw [Option.getD_none]
      by_cases blank : ∀ value, env.program = some value → Text.trim value.toList = []
      · rw [programPath_of_blank blank]
        exact .usual rfl fun value set => trim_eq_nil_iff.mp (blank value set)
      · simp only [not_forall] at blank
        obtain ⟨value, set, ink⟩ := blank
        rw [programPath_of_ink set ink]
        exact .environment rfl set (by simpa [trim_eq_nil_iff] using ink)

/-! ## Calls -/

variable {env env' : Environment} {source source' : Source}

theorem Order.run_congr {order : Order} (path : order.path env = order.path env')
    (same : source.text (order.path env) = source'.text (order.path env)) :
    order.run env source = order.run env' source' := by
  unfold Order.run Order.work
  rw [← path]
  split
  · exact repairFile_congr same _
  · exact loopFile_congr same _

theorem Order.exit_congr {order : Order} (trace : env.trace = env'.trace)
    (traceStderr : env.traceStderr = env'.traceStderr) (path : order.path env = order.path env')
    (same : source.text (order.path env) = source'.text (order.path env)) :
    order.exit env source = order.exit env' source' := by
  have flags (flag : Flag) :
      (Recorder.ofEnvironment env).isOn flag = (Recorder.ofEnvironment env').isOn flag := by
    cases flag with
    | trace => simp only [Recorder.ofEnvironment, Recorder.isOn, trace]
    | stderr => simp only [Recorder.ofEnvironment, Recorder.isOn, traceStderr]
  have seen := Recorder.seen_congr flags (order.run env' source').log
  simp only [Order.exit_eq, Order.run_congr path same, seen]

/-- A call that is no order is the same in all surroundings, reads nothing and traces
nothing. -/
theorem Call.exit_of_not_order {call : Call} (other : ∀ order, call ≠ .order order) :
    call.exit env source = call.exit env' source' ∧ call.path? env = none ∧
      ∀ event ∈ (call.exit env source).events, event.isLine = true := by
  cases call with
  | order order => exact absurd rfl (other order)
  | help topic | usage | unknownCommand word | unknownOption verb option =>
    refine ⟨rfl, rfl, fun event member => ?_⟩
    obtain ⟨line, _, rfl⟩ := List.mem_map.mp member
    rfl

/-- What a call does depends on one file at most. If its arguments make no order, it ends
in the same way in all environments and with all files; it reads nothing and traces
nothing. If they make an order, which is then the same everywhere, it ends in the same way
in any two environments and with any two sets of files that agree on the trace variables,
on the path that is resolved, and on what is read from that path. With a file named, the
variable for a program file has no effect. -/
theorem call_depends_on_resolved_file (args : List String) :
    ((∀ order, ¬ Asks args order) ∧
      ∀ (env env' : Environment) (source source' : Source),
        run args env source = run args env' source' ∧
        (Call.ofArguments args).path? env = none ∧
        ∀ event ∈ (run args env source).events, event.isLine = true) ∨
    ∃ order, Asks args order ∧ (∀ order', Asks args order' → order' = order) ∧
      (∀ env source, run args env source = order.exit env source) ∧
      (∀ (env env' : Environment) (source source' : Source) (path : String),
        env.trace = env'.trace → env.traceStderr = env'.traceStderr →
        Resolves order.file env path → Resolves order.file env' path →
        source.text path = source'.text path →
        run args env source = run args env' source') ∧
      (order.file ≠ none → ∀ (env : Environment) (value : Option String) (source : Source),
        run args (env.set .program value) source = run args env source) := by
  by_cases asks : ∃ order, Asks args order
  · obtain ⟨order, asks⟩ := asks
    have ran (env : Environment) (source : Source) :
        run args env source = order.exit env source := by
      rw [run, ofArguments_eq_order_iff.mpr asks]
      rfl
    refine .inr ⟨order, asks, fun _ asks' => asks'.unique asks, ran, ?_, ?_⟩
    · intro env env' source source' path trace traceStderr resolves resolves' same
      obtain rfl := resolves_iff.mp resolves
      rw [ran, ran]
      exact Order.exit_congr trace traceStderr (resolves_iff.mp resolves').symm same
    · intro named env value source
      obtain ⟨path, named⟩ := Option.ne_none_iff_exists'.mp named
      rw [ran, ran]
      have same : order.path (env.set .program value) = order.path env := by
        rw [Order.path, Order.path, named, Option.getD_some, Option.getD_some]
      exact Order.exit_congr rfl rfl same rfl
  · have none (order : Order) : Call.ofArguments args ≠ .order order :=
      fun ordered => asks ⟨order, ofArguments_eq_order_iff.mp ordered⟩
    exact .inl ⟨fun order asked => asks ⟨order, asked⟩,
      fun _ _ _ _ => Call.exit_of_not_order none⟩

/-- A source in which all but one path is missing. -/
def exOnly : Source := fun path =>
  if path = "boot" then Session.exFile path else .error .missing

/-- The loop command for `boot` does not notice what else there is and which file the
environment names, nor does help. -/
theorem exOnly_suffices :
    let env : Environment := ⟨some "1", none, some " "⟩
    let env' : Environment := ⟨some "1", none, some "other"⟩
    let args := ["loop", "boot", "--strict"]
    Asks args ⟨.loop, [.strict], some "boot"⟩ ∧
    run args env Session.exFile = run args env' exOnly ∧
    run args (env'.set .program none) exOnly = run args env' exOnly ∧
    run ["help", "loop"] env Session.exFile = run ["help", "loop"] env' exOnly := by
  intro env env' args
  have boot : IsOperand "boot" := .inr (by decide)
  have takes : Takes .loop ["boot", Switch.strict.flag] [.strict] ["boot"] :=
    .operand boot (.switch (by decide) .nil)
  have asks : Asks args ⟨.loop, [.strict], some "boot"⟩ := .named takes
  refine ⟨asks, ?_, ?_, ?_⟩
  · rcases call_depends_on_resolved_file args with ⟨none, _⟩ | ⟨order, _, same, _, agree, _⟩
    · exact absurd asks (none _)
    · cases same _ asks
      exact agree env env' _ _ "boot" rfl rfl (.operand rfl) (.operand rfl) rfl
  · rcases call_depends_on_resolved_file args with ⟨none, _⟩ | ⟨order, _, same, _, _, named⟩
    · exact absurd asks (none _)
    · cases same _ asks
      exact named (by decide) env' none exOnly
  · rcases call_depends_on_resolved_file ["help", "loop"] with ⟨_, agree⟩ | ⟨order, help, _⟩
    · exact (agree env env' _ _).1
    · have none : Call.ofArguments ["help", "loop"] = .help (some .loop) := by decide +kernel
      rw [ofArguments_eq_order_iff.mpr help] at none
      cases none

end CommandLine

end LoopRepair
