import LoopRepair.CommandLine

/-!
# Arguments that make an order

The arguments of a call are sorted in two rounds by different rules, and the outcome may
be an order, a request for help, or an error. This module says which arguments make an
order, and which one, by a grammar with no rounds: the name of a command, then its
switches and operands in any order, then perhaps two dashes and whatever follows.

Results:
1. `scan_eq_iff`: the second round finds nothing unknown exactly if the grammar accepts
   the arguments, and then it sorts them as the grammar says.
2. `scan_eq_of_split`: the first round makes no difference. What it takes for operands,
   the second one would have taken for the same.
3. `ofArguments_eq_order_iff`: a call is an order exactly if the grammar says so.
-/

namespace LoopRepair.CommandLine

/-! ## The grammar -/

/-- A single dash, or anything that does not start with a dash. -/
def IsOperand (arg : String) : Prop :=
  arg = "-" ∨ arg.toList.head? ≠ some '-'

/-- `Takes verb args switches operands`: the arguments are switches of the command and
operands, and these are the ones given, in order. After two dashes everything is an
operand. -/
inductive Takes (verb : Verb) : List String → List Switch → List String → Prop
  | nil : Takes verb [] [] []
  | ended {more : List String} : Takes verb ("--" :: more) [] more
  | switch {switch : Switch} {args operands : List String} {switches : List Switch} :
      switch ∈ verb.switches → Takes verb args switches operands →
      Takes verb (switch.flag :: args) (switch :: switches) operands
  | operand {arg : String} {args operands : List String} {switches : List Switch} :
      IsOperand arg → Takes verb args switches operands →
      Takes verb (arg :: args) switches (arg :: operands)

/-- `Asks args order`: the arguments ask for a command to be run. The file is the first
operand, if there is one. Two dashes may also come first; then all that follows the name
of the command is an operand. -/
inductive Asks : List String → Order → Prop
  | named {verb : Verb} {args operands : List String} {switches : List Switch} :
      Takes verb args switches operands →
      Asks (verb.name :: args) ⟨verb, switches, operands.head?⟩
  | opened {verb : Verb} {operands : List String} :
      Asks ("--" :: verb.name :: operands) ⟨verb, [], operands.head?⟩

/-! ## Words -/

variable {verb : Verb} {switch : Switch} {arg word : String}

theorem isOption_eq_false_iff : isOption arg = false ↔ IsOperand arg := by
  have dash : arg = "-" ↔ arg.toList = ['-'] := String.toList_inj.symm
  unfold isOption IsOperand
  rw [dash]
  split
  · next shape => simp [shape]
  · next other =>
    refine iff_of_true rfl ?_
    cases chars : arg.toList with
    | nil => simp
    | cons c rest =>
      cases rest with
      | nil => simp [Classical.em]
      | cons d rest =>
        refine .inr ?_
        rintro ⟨⟩
        exact other d rest chars

theorem Verb.ofName?_eq_some_iff : Verb.ofName? word = some verb ↔ word = verb.name := by
  constructor
  · intro named
    unfold ofName? at named
    split at named
    · cases named
      assumption
    · split at named
      · cases named
        assumption
      · cases named
  · rintro rfl
    cases verb <;> decide

theorem Verb.isOption_name (verb : Verb) : isOption verb.name = false := by
  cases verb <;> decide

theorem Switch.isOption_flag (switch : Switch) : isOption switch.flag = true := by
  cases switch <;> decide

theorem Switch.flag_injective {switch' : Switch} (same : switch.flag = switch'.flag) :
    switch = switch' := by
  revert same
  cases switch <;> cases switch' <;> decide

theorem Verb.switch?_eq_some_iff :
    verb.switch? arg = some switch ↔ switch ∈ verb.switches ∧ switch.flag = arg := by
  constructor
  · intro found
    exact ⟨List.mem_of_find?_eq_some found, by simpa using List.find?_some found⟩
  · rintro ⟨own, rfl⟩
    cases found : verb.switch? switch.flag with
    | none =>
      have other := List.find?_eq_none.mp found switch own
      simp at other
    | some switch' =>
      have same : switch'.flag = switch.flag := by simpa using List.find?_some found
      rw [Switch.flag_injective same]

theorem Verb.switch?_of_operand (operand : isOption arg = false) : verb.switch? arg = none := by
  rw [Option.eq_none_iff_forall_ne_some]
  intro switch found
  obtain ⟨_, rfl⟩ := Verb.switch?_eq_some_iff.mp found
  rw [switch.isOption_flag] at operand
  cases operand

/-! ## The second round -/

theorem scan_dashes (verb : Verb) (args : List String) :
    scan verb false ("--" :: args) = ⟨[], args, []⟩ := by
  rw [scan, if_pos rfl]
  rfl

theorem scan_switch {args : List String} (dashes : arg ≠ "--")
    (found : verb.switch? arg = some switch) :
    scan verb false (arg :: args) =
      { scan verb false args with switches := switch :: (scan verb false args).switches } := by
  rw [scan, if_neg dashes, found]

theorem scan_operand {args : List String} (operand : isOption arg = false) :
    scan verb false (arg :: args) =
      { scan verb false args with operands := arg :: (scan verb false args).operands } := by
  have dashes : arg ≠ "--" := by
    rintro rfl
    exact absurd operand (by decide)
  rw [scan, if_neg dashes, Verb.switch?_of_operand operand]
  simp [operand]

/-- An option that the command does not have stays unknown. -/
theorem scan_stray {args : List String} (dashes : arg ≠ "--") (other : verb.switch? arg = none)
    (option : isOption arg = true) : (scan verb false (arg :: args)).unknown ≠ [] := by
  rw [scan, if_neg dashes, other]
  simp [option]

theorem Takes.scan_eq {args operands : List String} {switches : List Switch}
    (takes : Takes verb args switches operands) :
    scan verb false args = ⟨switches, operands, []⟩ := by
  induction takes with
  | nil => rfl
  | ended => exact scan_dashes verb _
  | @switch switch _ _ _ own _ ih =>
    have dashes : switch.flag ≠ "--" := by cases switch <;> decide
    rw [scan_switch dashes (Verb.switch?_eq_some_iff.mpr ⟨own, rfl⟩), ih]
  | operand operand _ ih => rw [scan_operand (isOption_eq_false_iff.mpr operand), ih]

theorem takes_of_scan {args : List String} (none : (scan verb false args).unknown = []) :
    Takes verb args (scan verb false args).switches (scan verb false args).operands := by
  induction args with
  | nil => exact .nil
  | cons arg args ih =>
    by_cases dashes : arg = "--"
    · subst dashes
      rw [scan_dashes]
      exact .ended
    · cases found : verb.switch? arg with
      | some switch =>
        rw [scan_switch dashes found] at none ⊢
        obtain ⟨own, rfl⟩ := Verb.switch?_eq_some_iff.mp found
        exact .switch own (ih none)
      | none =>
        cases option : isOption arg with
        | true => exact absurd none (scan_stray dashes found option)
        | false =>
          rw [scan_operand option] at none ⊢
          exact .operand (isOption_eq_false_iff.mp option) (ih none)

/-- The second round finds nothing unknown exactly if the command takes the arguments. -/
theorem scan_eq_iff {args operands : List String} {switches : List Switch} :
    scan verb false args = ⟨switches, operands, []⟩ ↔ Takes verb args switches operands := by
  constructor
  · intro scanned
    have none : (scan verb false args).unknown = [] := by rw [scanned]
    have takes := takes_of_scan none
    rwa [scanned] at takes
  · exact Takes.scan_eq

/-! ## The first round -/

theorem split_dashes (args : List String) : split ("--" :: args) = ⟨args, []⟩ := by
  rw [split, if_pos rfl]

theorem split_option {args : List String} (dashes : arg ≠ "--") (option : isOption arg = true) :
    split (arg :: args) = ⟨[], arg :: args⟩ := by
  rw [split, if_neg dashes, if_pos option]

theorem split_operand {args : List String} (operand : isOption arg = false) :
    split (arg :: args) = ⟨arg :: (split args).operands, (split args).rest⟩ := by
  have dashes : arg ≠ "--" := by
    rintro rfl
    exact absurd operand (by decide)
  rw [split, if_neg dashes, if_neg (by simp [operand])]

/-- Scanning what the first round left, after the operands that it took, is scanning all. -/
theorem scan_eq_of_split (verb : Verb) (args : List String) :
    scan verb false args = ⟨(scan verb false (split args).rest).switches,
      (split args).operands ++ (scan verb false (split args).rest).operands,
      (scan verb false (split args).rest).unknown⟩ := by
  induction args with
  | nil => rfl
  | cons arg args ih =>
    by_cases dashes : arg = "--"
    · subst dashes
      rw [scan_dashes, split_dashes]
      simp [scan]
    · cases option : isOption arg with
      | true => rw [split_option dashes option, List.nil_append]
      | false => rw [scan_operand option, split_operand option, ih, List.cons_append]

/-! ## Calls -/

variable {order : Order}

theorem callOfVerb_eq_order_iff {operands rest : List String} :
    callOfVerb verb operands rest = .order order ↔
      (scan verb false rest).unknown = [] ∧
      order = ⟨verb, (scan verb false rest).switches,
        (operands ++ (scan verb false rest).operands).head?⟩ := by
  cases strays : (scan verb false rest).unknown with
  | nil => simp [callOfVerb, strays, eq_comm]
  | cons option _ =>
    simp only [callOfVerb, strays, reduceCtorEq, false_and, iff_false]
    split <;> exact Call.noConfusion

/-- For a command, both rounds together are one scan of its arguments. -/
theorem callOfVerb_split_eq_order_iff {args : List String} :
    callOfVerb verb (split args).operands (split args).rest = .order order ↔
      ∃ switches operands, Takes verb args switches operands ∧
        order = ⟨verb, switches, operands.head?⟩ := by
  rw [callOfVerb_eq_order_iff]
  have whole := scan_eq_of_split verb args
  constructor
  · rintro ⟨none, rfl⟩
    rw [none] at whole
    exact ⟨_, _, scan_eq_iff.mp whole, rfl⟩
  · rintro ⟨switches, operands, takes, rfl⟩
    rw [takes.scan_eq] at whole
    simp only [Scan.mk.injEq] at whole
    obtain ⟨rfl, rfl, none⟩ := whole
    exact ⟨none.symm, rfl⟩

theorem callOfHelp_ne_order (operands : List String) : callOfHelp operands ≠ .order order := by
  unfold callOfHelp
  split
  · exact Call.noConfusion
  · split
    · exact Call.noConfusion
    · split <;> exact Call.noConfusion

theorem callOfOther_ne_order (operands rest : List String) :
    callOfOther operands rest ≠ .order order := by
  unfold callOfOther
  split
  · exact Call.noConfusion
  · split <;> exact Call.noConfusion

/-- The first operand of an order is the name of its command. -/
theorem ofArguments_eq_order_iff_of_split {args operands rest : List String}
    (parts : split args = ⟨word :: operands, rest⟩) :
    Call.ofArguments args = .order order ↔
      ∃ verb, word = verb.name ∧ callOfVerb verb operands rest = .order order := by
  have other (unnamed : Verb.ofName? word = none) (verb : Verb) : word ≠ verb.name := by
    intro named
    rw [Verb.ofName?_eq_some_iff.mpr named] at unnamed
    cases unnamed
  simp only [Call.ofArguments, parts]
  cases named : Verb.ofName? word with
  | some verb =>
    have name := Verb.ofName?_eq_some_iff.mp named
    refine ⟨fun ordered => ⟨verb, name, ordered⟩, ?_⟩
    rintro ⟨verb', name', ordered⟩
    rw [Verb.ofName?_eq_some_iff.mpr name'] at named
    cases named
    exact ordered
  | none =>
    refine iff_of_false ?_ fun ⟨verb, name, _⟩ => other named verb name
    simp only
    split
    · exact callOfHelp_ne_order operands
    · exact callOfOther_ne_order _ rest

/-- A call is an order exactly if the grammar says so. -/
theorem ofArguments_eq_order_iff {args : List String} :
    Call.ofArguments args = .order order ↔ Asks args order := by
  constructor
  · intro ordered
    cases args with
    | nil => exact absurd ordered (callOfOther_ne_order [] [])
    | cons arg args =>
      by_cases dashes : arg = "--"
      · -- All that follows are operands, and the first of them is to name the command.
        subst dashes
        cases args with
        | nil => exact absurd ordered (callOfOther_ne_order [] [])
        | cons word operands =>
          obtain ⟨verb, rfl, called⟩ :=
            (ofArguments_eq_order_iff_of_split (split_dashes _)).mp ordered
          obtain ⟨_, rfl⟩ := callOfVerb_eq_order_iff.mp called
          simpa [scan] using Asks.opened
      · cases option : isOption arg with
        | true =>
          simp only [Call.ofArguments, split_option dashes option] at ordered
          exact absurd ordered (callOfOther_ne_order [] _)
        | false =>
          obtain ⟨verb, rfl, called⟩ :=
            (ofArguments_eq_order_iff_of_split (split_operand option)).mp ordered
          obtain ⟨switches, operands, takes, rfl⟩ := callOfVerb_split_eq_order_iff.mp called
          exact .named takes
  · intro asks
    cases asks with
    | @named verb _ _ _ takes =>
      apply (ofArguments_eq_order_iff_of_split (split_operand verb.isOption_name)).mpr
      refine ⟨verb, rfl, ?_⟩
      exact callOfVerb_split_eq_order_iff.mpr ⟨_, _, takes, rfl⟩
    | @opened verb operands =>
      apply (ofArguments_eq_order_iff_of_split (split_dashes _)).mpr
      refine ⟨verb, rfl, ?_⟩
      exact callOfVerb_eq_order_iff.mpr ⟨rfl, by simp [scan]⟩

theorem Asks.unique {args : List String} {order' : Order} (asks : Asks args order)
    (asks' : Asks args order') : order = order' := by
  have ordered := ofArguments_eq_order_iff.mpr asks
  rw [ofArguments_eq_order_iff.mpr asks'] at ordered
  cases ordered
  rfl

end LoopRepair.CommandLine
