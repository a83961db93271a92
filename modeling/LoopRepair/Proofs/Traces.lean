import LoopRepair.Proofs.Commands
import LoopRepair.Proofs.Logs

/-!
# What a trace says

With tracing on, a log around a request holds the tags of what the request did. For
a repair this is the whole search: the plain run, then run and verdict for every
position tried, then the repair if there is one. `RepairTrace` states it against the
answer of the repair and the executions it is about, so the trace and the answer
tell the same story.

Results:
1. `traceOf_of_on`: what is traced is what is logged, tag by tag.
2. `Known.tryEach_traced`, `Known.repair_traced`: the tags of a search follow the
   positions it tried, and those of a repair follow its answer.
3. `trace_records_search`: the same under a recorder, and for the two commands on
   files, which put the warnings of the listing first.
-/

namespace LoopRepair

/-! ## Traces -/

namespace Session

/-- The tags of a log in which just one request is performed. -/
def traceOf (source : Source) (shared : Program) (request : Request) (r : Recorder) : List Tag :=
  (r.withLog (performRequest (δ := Empty) source shared request)).1.2

theorem traceOf_of_on (source : Source) (shared : Program) (request : Request) {r : Recorder}
    (on : r.isOn .trace = true) :
    traceOf source shared request r =
      (request.perform source shared).log.filterMap Event.tag? := by
  have inside : r.inside.isOn .trace = true := by rw [r.isOn_inside, on]
  have delivers : (performRequest (δ := Empty) source shared request r.inside).2.logs =
      deliver r.inside.logs ((request.perform source shared).log.filterMap Event.tag?) := by
    rw [performRequest_eq, Recorder.logs_emitAll, Recorder.admitted_of_on _ inside]
  rw [traceOf, (r.withLog_of_deliver delivers).1, if_pos on]

end Session

namespace Program

/-- `RunTag prog swap status tag`: the program, executed under the swap, ends with the
status, and the tag says how. -/
inductive RunTag (prog : Program) (swap : Swap) : Status → Tag → Prop
  | halt {acc : Int} {moves : List (Nat × Nat)} :
      (prog.execute swap).result = .ok ⟨.halted, acc, moves⟩ →
      RunTag prog swap .terminated (.halt acc swap)
  | loop {entry : Nat} {acc : Int} {moves : List (Nat × Nat)} :
      (prog.execute swap).result = .ok ⟨.looped entry, acc, moves⟩ →
      RunTag prog swap .looped (.loop entry acc swap)

/-- `Trials prog positions tags`: two tags for each position in turn, one of the run
under the swap there, one that names the opcode that was swapped and the status of
that run. -/
inductive Trials (prog : Program) : List Nat → List Tag → Prop
  | nil : Trials prog [] []
  | cons {p : Nat} {ins : Instr} {status : Status} {tag : Tag} {positions : List Nat}
      {tags : List Tag} :
      prog[p]? = some ins → RunTag prog (some (p : Int)) status tag → Trials prog positions tags →
      Trials prog (p :: positions) (tag :: .candidate p ins.op status :: tags)

/-- `RepairTrace prog answer tags`: the tags of a repair with this answer. They end
with a repair exactly if there is one. -/
inductive RepairTrace (prog : Program) : Except NoRepair RepairReport → List Tag → Prop
  | repaired {report : RepairReport} {status : Status} {tag : Tag} {trials : List Tag} :
      RunTag prog none status tag → Trials prog report.candidates trials →
      RepairTrace prog (.ok report)
        (tag :: trials ++ [.repair (report.swappedAt.map Int.ofNat) report.acc])
  | failed {trouble : NoRepair} {status : Status} {tag : Tag} {trials : List Tag} :
      RunTag prog none status tag → Trials prog trouble.candidates trials →
      RepairTrace prog (.error trouble) (tag :: trials)

/-- `LoopTrace prog tags`: the tags of a search for a cycle. A program that halts is
executed twice. -/
inductive LoopTrace (prog : Program) : List Tag → Prop
  | loops {tag : Tag} : RunTag prog none .looped tag → LoopTrace prog [tag]
  | halts {tag : Tag} : RunTag prog none .terminated tag → LoopTrace prog [tag, tag]

end Program

/-- `FileTrace source path strict Own tags`: the tags of a command on a file. They are
the warnings of its listing, if the file can be read, and then, unless the warnings
count as errors, tags that `Own` allows for the program. -/
inductive FileTrace (source : Source) (path : String) (strict : Bool)
    (Own : Program → List Tag → Prop) : List Tag → Prop
  | unreadable {error : ReadError} :
      source.text path = .error error → FileTrace source path strict Own []
  | rejected {text : String} :
      source.text path = .ok text → strict = true → (Listing.read text).warnings ≠ [] →
      FileTrace source path strict Own
        ((Listing.read text).warnings.map fun w => .warning w.doubt.code w.line)
  | ran {text : String} {tags : List Tag} :
      source.text path = .ok text → ¬ (strict = true ∧ (Listing.read text).warnings ≠ []) →
      Own (Listing.read text).program tags →
      FileTrace source path strict Own
        ((Listing.read text).warnings.map (fun w => .warning w.doubt.code w.line) ++ tags)

/-! ## The search -/

theorem Logged.log_andThen_pure {ε α β : Type} (x : Logged ε α) (f : α → β) :
    (x.andThen fun a => pure (f a)).log = x.log := by
  unfold andThen
  split
  · exact List.append_nil _
  · rfl

namespace Program

variable {prog : Program} {swap : Swap} {out : Outcome} {entry : Nat}

theorem runTag (returned : (prog.execute swap).result = .ok out) :
    RunTag prog swap out.ending.status (out.tag swap) := by
  rcases out with ⟨_ | entry, acc, moves⟩
  · exact .halt returned
  · exact .loop returned

/-- What one trial of the search leaves in the trace. -/
theorem log_tryEach_cons {p : Nat} (returned : (prog.execute (some (p : Int))).result = .ok out)
    (rest : List Nat) :
    (prog.tryEach (p :: rest)).log =
      out.tag (some (p : Int)) :: .candidate p (prog.opcodeAt p) out.ending.status ::
        if out.ending = .halted then [] else (prog.tryEach rest).log := by
  rw [tryEach_cons, execute_eq returned, Logged.andThen_mk_ok]
  by_cases halted : out.ending = .halted
  · simp [Outcome.isHalted, halted, Logged.andThen_of_ok]
  · simp [Outcome.isHalted, halted, Logged.andThen_of_ok, Logged.log_andThen_pure]

/-- The tags of a search follow the positions it tried. -/
theorem Known.tryEach_traced (known : prog.Known) {positions : List Nat}
    (inRange : ∀ p ∈ positions, p < prog.length) :
    ∃ tried fix, (prog.tryEach positions).result = .ok (tried, fix) ∧
      Trials prog tried (prog.tryEach positions).log := by
  induction positions with
  | nil => exact ⟨[], none, rfl, .nil⟩
  | cons p rest ih =>
    obtain ⟨out, returned, _⟩ := known.exists_execute (some (p : Int))
    obtain ⟨tried, fix, later, follows⟩ :=
      ih fun q member => inRange q (List.mem_cons_of_mem _ member)
    obtain ⟨ins, here⟩ : ∃ ins, prog[p]? = some ins :=
      ⟨_, List.getElem?_eq_getElem (inRange p List.mem_cons_self)⟩
    have opcode : prog.opcodeAt p = ins.op := by rw [opcodeAt, here]; rfl
    rw [result_tryEach_cons returned, log_tryEach_cons returned, opcode, later]
    -- A trial that halts is the last one on record, in the answer as in the trace.
    split
    · exact ⟨[p], _, rfl, .cons here (runTag returned) .nil⟩
    · exact ⟨p :: tried, fix, rfl, .cons here (runTag returned) follows⟩

theorem log_repair_of_halted (returned : (prog.execute none).result = .ok out)
    (halted : out.ending = .halted) :
    prog.repair.log = [out.tag none, .repair none out.acc] := by
  rw [repair_def, execute_eq returned, Logged.andThen_mk_ok, halted]
  rfl

theorem Known.log_repair_of_search (known : prog.Known)
    (returned : (prog.execute none).result = .ok out) (looped : out.ending = .looped entry)
    {tried : List Nat} {fix : Option (Nat × Outcome)}
    (search : (prog.tryEach ((out.cycle entry).filter prog.exchangeable)).result =
      .ok (tried, fix)) :
    prog.repair.log =
      out.tag none :: (prog.tryEach ((out.cycle entry).filter prog.exchangeable)).log ++
        fix.toList.map fun fixed => .repair (some (fixed.1 : Int)) fixed.2.acc := by
  rw [repair_def, execute_eq returned, Logged.andThen_mk_ok, looped]
  simp only [loopReport_of_looped returned looped, known.isCandidate_eq]
  rw [Logged.ofExcept, Logged.andThen_mk_ok, Logged.andThen_of_ok search]
  cases fix <;> rfl

/-- The tags of a repair follow its answer. -/
theorem Known.repair_traced (known : prog.Known) :
    ∃ answer, prog.repair.result = .ok answer ∧ RepairTrace prog answer prog.repair.log := by
  obtain ⟨out, returned, _⟩ := known.exists_execute none
  cases ended : out.ending with
  | halted =>
    refine ⟨_, repair_of_halted returned ended, ?_⟩
    rw [log_repair_of_halted returned ended]
    show RepairTrace prog _ (out.tag none :: [] ++ [.repair none out.acc])
    exact .repaired (runTag returned) .nil
  | looped entry =>
    have found := firstLoop_of_looped returned ended
    have inRange : ∀ p ∈ (out.cycle entry).filter prog.exchangeable, p < prog.length :=
      fun p member => known.pos_lt_of_firstLoop found p (List.mem_of_mem_filter member)
    obtain ⟨tried, fix, search, follows⟩ := known.tryEach_traced inRange
    refine ⟨_, known.repair_of_search found search, ?_⟩
    rw [known.log_repair_of_search returned ended search]
    cases fix with
    | none =>
      rw [Option.toList_none, List.map_nil, List.append_nil]
      exact .failed (runTag returned) follows
    | some _ => exact .repaired (runTag returned) follows

end Program

/-! ## Requests under a recorder -/

theorem Event.filterMap_tag?_map_tag (tags : List Tag) :
    (tags.map Event.tag).filterMap Event.tag? = tags := by
  rw [List.filterMap_map]
  exact List.filterMap_some

theorem Event.filterMap_tag?_lines {α : Type} (entries : List α) (line : α → String) :
    (entries.map fun entry => Event.err (line entry)).filterMap Event.tag? = [] := by
  rw [List.filterMap_map]
  exact List.filterMap_eq_nil_iff.mpr fun _ _ => rfl

theorem Event.filterMap_tag?_concat (tags : List Tag) {line : Event} (isLine : line.tag? = none) :
    (tags.map Event.tag ++ [line]).filterMap Event.tag? = tags := by
  rw [List.filterMap_append, filterMap_tag?_map_tag, List.filterMap_cons_none isLine]
  exact List.append_nil tags

variable {source : Source} {path : String} {strict : Bool} {events : List Event}
  {Own : Program → List Tag → Prop}

theorem Loads.fileTrace_of_failed {failure : Failure} {line : String}
    (loads : Loads source path strict (.error failure) events) :
    FileTrace source path strict Own ((events ++ [Event.err line]).filterMap Event.tag?) := by
  cases loads with
  | unreadable unread => exact .unreadable unread
  | rejected text isStrict doubtful =>
    rw [Event.filterMap_tag?_concat _ rfl]
    exact .rejected text isStrict doubtful

theorem Loads.fileTrace_of_loaded {prog : Program} {rest : List Event}
    (loads : Loads source path strict (.ok prog) events)
    (own : Own prog (rest.filterMap Event.tag?)) :
    FileTrace source path strict Own ((events ++ rest).filterMap Event.tag?) := by
  rw [List.filterMap_append]
  cases loads with
  | accepted text accepts =>
    rw [List.filterMap_append, Event.filterMap_tag?_map_tag, Event.filterMap_tag?_lines,
      List.append_nil]
    exact .ran text accepts own

theorem repairFile_traced (source : Source) (path : String) (options : RepairOptions) :
    FileTrace source path options.strict (fun prog tags => tags = prog.repair.log)
      ((repairFile source path options).log.filterMap Event.tag?) := by
  obtain ⟨loaded, events, returned, loads⟩ := loadFile_loads source path options.strict
  cases loaded with
  | error failure =>
    rw [repairFile_of_failed returned]
    exact loads.fileTrace_of_failed
  | ok prog =>
    obtain ⟨answer, repaired, _⟩ := loads.known.repair_traced
    have command := repairFile_of_loaded returned repaired
    cases answer with
    | error _ | ok _ =>
      rw [command]
      apply loads.fileTrace_of_loaded
      rw [Event.filterMap_tag?_concat _ rfl]

theorem loopFile_traced (source : Source) (path : String) (strict : Bool) :
    FileTrace source path strict Program.LoopTrace
      ((loopFile source path strict).log.filterMap Event.tag?) := by
  obtain ⟨loaded, events, returned, loads⟩ := loadFile_loads source path strict
  cases loaded with
  | error failure =>
    rw [loopFile_of_failed returned]
    exact loads.fileTrace_of_failed
  | ok prog =>
    obtain ⟨out, executed, _⟩ := loads.known.exists_execute none
    have tagged := Program.runTag executed
    cases ended : out.ending with
    | halted =>
      rw [loopFile_of_halted returned executed ended]
      rw [ended] at tagged
      exact loads.fileTrace_of_loaded (.halts tagged)
    | looped entry =>
      rw [loopFile_of_looped returned executed ended]
      rw [ended] at tagged
      exact loads.fileTrace_of_loaded (.loops tagged)

namespace Session

/-- With tracing on, the trace of a repair is that of its search, and ends with a
repair exactly if one was found. The command that repairs a file leaves the warnings
of the listing and then this trace; the one that shows a cycle leaves the warnings
and then one tag for a loop or two for a halt. A file that is rejected leaves its
warnings only, and one that cannot be read leaves nothing. -/
theorem trace_records_search (source : Source) (shared : Program) {r : Recorder}
    (on : r.isOn .trace = true) :
    (∀ prog : Program, prog.Known → ∃ answer, prog.repair.result = .ok answer ∧
      prog.RepairTrace answer (traceOf source shared (.repair (.listed prog)) r)) ∧
    (∀ path options, FileTrace source path options.strict
      (fun prog tags => tags = traceOf source shared (.repair (.listed prog)) r)
      (traceOf source shared (.repairFile path options) r)) ∧
    ∀ path strict, FileTrace source path strict Program.LoopTrace
      (traceOf source shared (.loopFile path strict) r) := by
  have repairs : ∀ prog : Program,
      traceOf source shared (.repair (.listed prog)) r = prog.repair.log := by
    intro prog
    have log : (Request.perform source shared (.repair (.listed prog))).log =
        prog.repair.events.log := by
      rw [Request.perform_repair_listed, Logged.log_andThen_pure]
    rw [traceOf_of_on _ _ _ on, log]
    exact Event.filterMap_tag?_map_tag _
  refine ⟨?_, ?_, ?_⟩
  · intro prog known
    rw [repairs]
    exact known.repair_traced
  · intro path options
    simp only [repairs]
    rw [traceOf_of_on _ _ _ on, Request.perform_repairFile, Logged.log_andThen_pure]
    exact repairFile_traced source path options
  · intro path strict
    rw [traceOf_of_on _ _ _ on, Request.perform_loopFile, Logged.log_andThen_pure]
    exact loopFile_traced source path strict

/-- A file with a no-op and a line that is no instruction: `nop +1`, `oops`. -/
def exFile : Source := fun _ => .ok
  [110, 111, 112, 32, 43, 49, 10, 111, 111, 112, 115]

/-- The search of `exSample` in its trace, and the run of the program of `exFile`,
which is not reached in strict mode. -/
theorem exSample_traced :
    let r := Recorder.ofEnvironment ⟨some "1", none, none⟩
    r.isOn .trace = true ∧ Program.exSample.Known ∧
    Program.exSample.RepairTrace (.ok ⟨8, some 7, some ⟨1, 5, [1, 2, 6, 7, 3, 4]⟩, [2, 7]⟩)
      [.loop 1 5 none, .loop 1 4 (some 2), .candidate 2 .jmp .looped, .halt 8 (some 7),
        .candidate 7 .jmp .terminated, .repair (some 7) 8] ∧
    FileTrace exFile "boot" false Program.LoopTrace
      [.warning "W_LINE_SKIPPED" 2, .halt 0 none, .halt 0 none] ∧
    FileTrace exFile "boot" true Program.LoopTrace [.warning "W_LINE_SKIPPED" 2] := by
  intro r
  have on : r.isOn .trace = true := by decide +kernel
  have known : Program.exSample.Known := by decide
  obtain ⟨search, _, loops⟩ := trace_records_search exFile [] on
  have repaired : Program.exSample.repair.result =
      .ok (.ok ⟨8, some 7, some ⟨1, 5, [1, 2, 6, 7, 3, 4]⟩, [2, 7]⟩) := by cbv
  have traced : traceOf exFile [] (.repair (.listed Program.exSample)) r =
      [.loop 1 5 none, .loop 1 4 (some 2), .candidate 2 .jmp .looped, .halt 8 (some 7),
        .candidate 7 .jmp .terminated, .repair (some 7) 8] := by decide +kernel
  have ran : traceOf exFile [] (.loopFile "boot" false) r =
      [.warning "W_LINE_SKIPPED" 2, .halt 0 none, .halt 0 none] := by decide +kernel
  have rejected : traceOf exFile [] (.loopFile "boot" true) r =
      [.warning "W_LINE_SKIPPED" 2] := by decide +kernel
  obtain ⟨answer, returned, records⟩ := search Program.exSample known
  rw [repaired] at returned
  cases returned
  exact ⟨on, known, traced ▸ records, ran ▸ loops "boot" false, rejected ▸ loops "boot" true⟩

end Session

end LoopRepair
