import Std.Data.String.ToInt
import FirstCall.Proofs.Accord
import FirstCall.Proofs.Requests
import FirstCall.Proofs.Stores

/-!
# Printed values

What a program prints is either kept as a list of values or written as text, with a line for each
value. Neither the program nor the dispatcher can tell which of the two happens. The text can be
read back, and what is kept are the arguments of the calls of the printing function, in their
order.
-/

namespace FirstCall

open Wasm

namespace Printout

def numeral (value : Int32) : String := toString value.toInt

def textOf (values : List Int32) : String := String.join (values.map line)

/-- The lines of a text in which every line is ended. -/
def linesOf (text : String) : List String := ((text.split '\n').toList.map (·.copy)).dropLast

def value? (numeral : String) : Option Int32 :=
  numeral.toInt?.bind fun number =>
    if (Int32.ofInt number).toInt = number then some (Int32.ofInt number) else none

def values? (text : String) : Option (List Int32) := (linesOf text).mapM value?

@[simp] theorem value?_numeral (value : Int32) : value? (numeral value) = some value := by
  have read : (numeral value).toInt? = some value.toInt := Int.toInt?_repr value.toInt
  simp [value?, read]

theorem newline_not_mem_numeral (value : Int32) : '\n' ∉ (numeral value).toList := by
  have digits : ∀ number : Nat, '\n' ∉ number.repr.toList := by
    intro number member
    rw [Nat.toList_repr] at member
    exact absurd (Nat.isDigit_of_mem_toDigits (by decide) (by decide) member) (by decide)
  change '\n' ∉ value.toInt.repr.toList
  rw [Int.repr_eq_if]
  split
  · exact digits _
  · rw [String.toList_append, List.mem_append]
    rintro (sign | digit)
    · exact absurd sign (by decide)
    · exact digits _ digit

theorem textOf_cons (value : Int32) (rest : List Int32) :
    textOf (value :: rest) = line value ++ textOf rest := by
  simp [textOf]

theorem textOf_concat (values : List Int32) (value : Int32) :
    textOf (values ++ [value]) = textOf values ++ line value := by
  simp [textOf]

/-- Between the ends of the lines stand the numerals, and nothing behind the last one. -/
theorem textOf_eq_intercalate (values : List Int32) :
    textOf values =
      (String.singleton '\n').intercalate (values.map numeral ++ [""]) := by
  induction values with
  | nil => simp [textOf]
  | cons value rest ih =>
    rw [textOf_cons, ih, List.map_cons, List.cons_append,
      String.intercalate_cons_of_ne_nil (by simp)]
    rfl

example : textOf [7, -2147483648] = "7\n-2147483648\n" := by decide

theorem linesOf_textOf (values : List Int32) : linesOf (textOf values) = values.map numeral := by
  have unbroken : ∀ piece ∈ values.map numeral ++ [""], '\n' ∉ piece.toList := by
    intro piece member
    rw [List.mem_append, List.mem_map, List.mem_singleton] at member
    obtain ⟨value, _, rfl⟩ | rfl := member
    · exact newline_not_mem_numeral value
    · simp
  rw [linesOf, textOf_eq_intercalate, String.toList_split_intercalate unbroken, if_neg (by simp),
    List.dropLast_concat]

/-- What was printed can be read back. -/
theorem values?_textOf (values : List Int32) : values? (textOf values) = some values := by
  rw [values?, linesOf_textOf]
  induction values with
  | nil => rfl
  | cons value rest ih => simp [List.mapM_cons, ih]

end Printout

variable {σ α : Type}

namespace Outside

theorem printed_record (outside : Outside σ) {event : Event} (unprinted : event.printed? = none) :
    (outside.record event).world.printed = outside.world.printed :=
  World.printed_record outside.world unprinted

theorem printed_hear (outside : Outside σ) (request : Request) (reply : Reply σ α) :
    (outside.hear request reply).world.printed = outside.world.printed := by
  unfold World.printed
  rw [history_hear, List.filterMap_append]
  simp [List.filterMap_cons, Event.printed?]

/-- The values that the first output keeps are those that were printed since set-up began, and the
second output has a line for each of them. All else outside is the same. -/
structure SameButSink (earlier : List Int32) (outside other : Outside σ) : Prop where
  service : outside.service = other.service
  files : outside.world.files = other.world.files
  history : outside.world.history = other.world.history
  output : ∃ values : Array Int32, outside.world.sink = .kept values ∧
    other.world.sink = .lines (Printout.textOf values.toList) ∧
    outside.world.printed = earlier ++ values.toList

namespace SameButSink

variable {earlier : List Int32} {outside other : Outside σ}

theorem recorded {event : Event} (unprinted : event.printed? = none)
    (same : outside.SameButSink earlier other) :
    (outside.record event).SameButSink earlier (other.record event) where
  service := same.service
  files := same.files
  history := congrArg (·.push event) same.history
  output := by
    rw [printed_record outside unprinted]
    exact same.output

theorem printed (value : Int32) (same : outside.SameButSink earlier other) :
    (outside.print value).SameButSink earlier (other.print value) where
  service := same.service
  files := same.files
  history := congrArg (·.push (.printed value)) same.history
  output := by
    obtain ⟨values, kept, lines, complete⟩ := same.output
    refine ⟨values.push value, ?_, ?_, ?_⟩
    · exact congrArg (·.print value) kept
    · rw [Array.toList_push, Printout.textOf_concat]
      exact congrArg (·.print value) lines
    · rw [Array.toList_push, ← List.append_assoc, ← complete]
      simp [World.printed, print, World.print, World.record, Event.printed?]

theorem asked (request : Request) (exchange : Exchange σ α) :
    Effect.Alike (SameButSink earlier) (.ask request exchange) (.ask request exchange) := by
  intro outside other same
  rw [Effect.ask_apply, Effect.ask_apply, same.service]
  refine ⟨rfl, rfl, ?_, ?_, ?_⟩
  · rw [files_hear, files_hear]
    exact same.files
  · apply Array.toList_inj.mp
    rw [history_hear, history_hear, same.history]
  · rw [sink_hear, sink_hear, printed_hear]
    exact same.output

theorem accord (service : Service σ) (earlier : List Int32) :
    Accord service service (SameButSink earlier) where
  files same := same.files
  refiled _ same := { same with files := rfl }
  recorded _ unprinted same := same.recorded unprinted
  printed value same := same.printed value
  parsed _ := asked _ _
  built _ := asked _ _
  made _ := asked _ _
  obtained _ _ := asked _ _

end SameButSink

/-- The text in the second output tells the values in the first one, line by line, and those are the
values that were printed after the earlier ones. All else outside is the same. -/
structure Shows (earlier : List Int32) (outside other : Outside σ) : Prop where
  service : outside.service = other.service
  requests : outside.world.requests = other.world.requests
  files : outside.world.files = other.world.files
  history : outside.world.history = other.world.history
  text : other.world.sink.text = Printout.textOf outside.world.sink.values
  lines : Printout.linesOf other.world.sink.text =
    outside.world.sink.values.map Printout.numeral
  readable : Printout.values? other.world.sink.text = some outside.world.sink.values
  complete : outside.world.printed = earlier ++ outside.world.sink.values

theorem SameButSink.shows {earlier : List Int32} {outside other : Outside σ}
    (same : outside.SameButSink earlier other) : outside.Shows earlier other := by
  obtain ⟨values, kept, lines, complete⟩ := same.output
  have text : other.world.sink.text = Printout.textOf values.toList := by rw [lines]; rfl
  have held : outside.world.sink.values = values.toList := by rw [kept]; rfl
  refine ⟨same.service, ?_, same.files, same.history, ?_, ?_, ?_, ?_⟩
  · exact congrArg (fun history => history.toList.filterMap Event.request?) same.history
  · rw [text, held]
  · rw [text, held, Printout.linesOf_textOf]
  · rw [text, held, Printout.values?_textOf]
  · rw [complete, held]

end Outside

/-- Nothing is printed from one machine to the other. -/
def Unspoken (m : DispatchMachine σ) (_ : Ending Session.Fault) (after : DispatchMachine σ) :
    Prop :=
  after.host.printed = m.host.printed

namespace Unspoken

theorem discipline : Discipline (Unspoken : DispatchMachine σ → _ → _ → Prop) where
  quiet _ := rfl
  halted _ _ _ := rfl
  trans head tail := tail.trans head
  performed _ := rfl
  allocated _ _ _ := rfl
  filled _ _ := rfl
  written _ _ := rfl

theorem upheld (service : Service σ) (values : List Int32) :
    Effect.Upheld service fun outside => outside.world.printed = values := by
  have ask : ∀ {β : Type} (request : Request) (exchange : Exchange σ β),
      Effect.Keeps (fun outside => outside.world.printed = values)
        (Effect.ask request exchange) := by
    intro β request exchange outside holds
    rw [Effect.ask_apply]
    exact (Outside.printed_hear outside request _).trans holds
  have recorded : ∀ event : Event, event.printed? = none →
      Effect.Keeps (fun outside : Outside σ => outside.world.printed = values)
        (Effect.record event) :=
    fun event unprinted outside holds => (Outside.printed_record outside unprinted).trans holds
  exact ⟨fun event _ => recorded event, fun _ holds => holds, fun _ => ask _ _, fun _ => ask _ _,
    fun _ => ask _ _, fun _ _ => ask _ _⟩

theorem regimen (service : Service σ) : Regimen service Unspoken where
  toDiscipline := discipline
  regardless unspoken := unspoken
  admitted {m} _ _ _ admitted := (upheld service m.host.printed).admitted admitted rfl
  recorded m _ unprinted := m.host.printed_record unprinted
  changed _ _ := rfl

end Unspoken

/-- A call of the printing function prints its argument, and does nothing else. -/
theorem invoke_println (service : Service σ) (limits : Limits) (fuel room : Nat) {addr : Nat}
    {func : FuncInst HostFunc} (value : UInt32) {m : DispatchMachine σ}
    (found : m.store.funcs[addr]? = some func) (body : func.body = .host .println) :
    invoke (dispatchHost service) limits (fuel + 1) room addr [.i32 value] m =
      (.ok [.i32 0], { m with host := m.host.print value.toInt32 }) := by
  unfold invoke
  rw [Action.bind_apply]
  dsimp only [Action.store]
  rw [found]
  dsimp only
  rw [body]
  rfl

namespace Session

/-- Two sessions that differ in their outputs only, where one keeps the values of which the other
one writes the lines. -/
structure Shows (earlier : List Int32) (session other : Session σ) : Prop where
  outside : session.state.outside.Shows earlier other.state.outside
  slots : ∀ i, session.slot? i = other.slot? i
  compiled : session.compiled = other.compiled
  slotCount : session.slotCount = other.slotCount
  units : session.state.ledger.units = other.state.ledger.units
  store : session.machine.store = other.machine.store

theorem Abreast.shows {earlier : List Int32} {session other : Session σ}
    (abreast : session.Abreast (HostState.Paired (Outside.SameButSink earlier)) other) :
    session.Shows earlier other where
  outside := abreast.host.outside.shows
  slots i := congrArg (fun ledger : Ledger => ledger.table.slot? i) abreast.host.ledger
  compiled := congrArg (fun ledger : Ledger => ledger.table.order.toList) abreast.host.ledger
  slotCount := congrArg Skeleton.slotCount abreast.skeleton
  units := congrArg Ledger.units abreast.host.ledger
  store := abreast.store

/-- Nothing is printed but by the printing function. Code prints only if a function of the host
does; the trigger and the loading of the skeleton print only if the code that they run does; before
that nothing is printed, and a run prints what the call of its entry point prints. -/
structure Tacit (service : Service σ) : Prop where
  code : ∀ host : Host HostFunc (HostState σ) Fault,
    (∀ run : Invoker HostFunc (HostState σ) Fault, (∀ addr args, Obeys Unspoken (run addr args)) →
      ∀ name args, Obeys Unspoken (host run name args)) →
    ∀ limits fuel room addr args, Obeys Unspoken (invoke host limits fuel room addr args)
  trigger : ∀ run : Invoker HostFunc (HostState σ) Fault,
    (∀ addr args, Obeys Unspoken (run addr args)) →
    ∀ raw, Obeys Unspoken (Trigger.fire service run raw)
  skeleton : ∀ run : Invoker HostFunc (HostState σ) Fault,
    (∀ addr args, Obeys Unspoken (run addr args)) →
    ∀ blob, Obeys Unspoken (Skeleton.load run blob)
  preparation : ∀ source dump outside,
    (prepare service source dump outside).2.world.printed = outside.world.printed
  running : ∀ (limits : Limits) (session : Session σ) (addr : Nat),
    session.skeleton.entry session.machine.store session.entry = .ok addr →
      session.announced.host.printed = session.world.printed ∧
        (session.run service limits).2.world.printed =
          (call service limits addr [] session.announced).2.host.printed

theorem tacit (service : Service σ) : Tacit service where
  code _ silent := Unspoken.discipline.invoke silent
  trigger _ silent := (Unspoken.regimen service).fire silent
  skeleton _ silent := (Unspoken.regimen service).loadSkeleton silent
  preparation source dump outside :=
    (Unspoken.upheld service outside.world.printed).prepare source dump outside rfl
  running limits session addr found := by
    refine ⟨HostState.printed_record _ rfl, ?_⟩
    rw [run_of_entry found]
    cases call service limits addr [] session.announced with
    | mk result machine =>
      obtain ⟨raw, _, ends⟩ | ⟨why, _, ends⟩ := conclude_cases session result machine
      · rw [ends]
        exact HostState.printed_record machine.host rfl
      · rw [ends]
        rfl

/-- A program prints the same whether its values are kept or written as lines. Set-up and every run
come to the same end, with the same requests. The text can be read back to exactly the values that
are kept, and these are the arguments of all calls of the printing function, one for each call and
in the order of the calls, however the runs ended: a call prints its argument, and nothing else
prints. -/
theorem output_complete (service : Service σ) (limits : Limits) (source : String)
    (settings : Settings) (state : σ) (world : World) :
    ((∃ fault after other,
        start service limits source settings ⟨state, { world with sink := .kept #[] }⟩ =
          .error (fault, after) ∧
        start service limits source settings ⟨state, { world with sink := .lines "" }⟩ =
          .error (fault, other) ∧
        after.Shows world.printed other) ∨
      ∃ session other,
        start service limits source settings ⟨state, { world with sink := .kept #[] }⟩ =
          .ok session ∧
        start service limits source settings ⟨state, { world with sink := .lines "" }⟩ =
          .ok other ∧
        ∀ runs, (session.rerun service limits runs).Shows world.printed
            (other.rerun service limits runs) ∧
          ((session.rerun service limits runs).run service limits).1 =
            ((other.rerun service limits runs).run service limits).1) ∧
    (∀ (m : DispatchMachine σ) (limits : Limits) (fuel room addr : Nat) (value : UInt32),
      (m.store.funcs[addr]?).map FuncInst.body = some (.host .println) →
        ∃ after, invoke (dispatchHost service) limits (fuel + 1) room addr [.i32 value] m =
            (.ok [.i32 0], after) ∧
          after.host.printed = m.host.printed ++ [value.toInt32]) ∧
    Tacit service := by
  have first : Outside.SameButSink world.printed ⟨state, { world with sink := .kept #[] }⟩
      ⟨state, { world with sink := .lines "" }⟩ :=
    ⟨rfl, rfl, rfl, #[], rfl, rfl, (List.append_nil _).symm⟩
  have accord := Outside.SameButSink.accord service world.printed
  refine ⟨?_, ?_, tacit service⟩
  · obtain ⟨fault, after, other, failed, too, same⟩ | ⟨session, other, started, too, paired⟩ :=
      start_paired accord limits source settings first
    · exact .inl ⟨fault, after, other, failed, too, same.shows⟩
    · refine .inr ⟨session, other, started, too, fun runs => ?_⟩
      have between := rerun_paired accord limits runs paired
      exact ⟨between.shows, (run_paired accord limits between).1⟩
  · intro m limits fuel room addr value printing
    obtain ⟨func, found, body⟩ := Option.map_eq_some_iff.mp printing
    exact ⟨_, invoke_println service limits fuel room value found body,
      m.host.printed_print value.toInt32⟩

end Session

namespace Sample

/-- The unit of a function that prints seven and then fails. Its start function prints the least
value that there is. -/
def outspoken : Bytes :=
  [0, 97, 115, 109, 1, 0, 0, 0, 1, 13, 3, 96, 0, 1, 127, 96, 0, 0, 96, 1, 127, 1, 127, 2, 30, 2, 3,
   101, 110, 118, 6, 95, 116, 97, 98, 108, 101, 1, 112, 0, 2, 3, 101, 110, 118, 7, 112, 114, 105,
   110, 116, 108, 110, 0, 2, 3, 3, 2, 0, 1, 8, 1, 2, 9, 7, 1, 0, 65, 0, 11, 1, 1, 10, 22, 2, 8, 0,
   65, 7, 16, 0, 26, 0, 11, 11, 0, 65, 128, 128, 128, 128, 120, 16, 0, 26, 11]

/-- A service that has only that unit. -/
def printing : Script := { script with units := [(⟨0⟩, .ok outspoken)] }

end Sample

namespace Session

/-- What is printed while a unit is loaded, and what is printed in runs that fail, is there in its
order, and the text tells it. -/
theorem sample_output_complete :
    (∃ session other : Session Unit,
      start Sample.printing.service Sample.limits "" Settings.default
        ⟨(), { Sample.world with sink := .kept #[] }⟩ = .ok session ∧
      start Sample.printing.service Sample.limits "" Settings.default
        ⟨(), { Sample.world with sink := .lines "" }⟩ = .ok other ∧
      (other.run Sample.printing.service Sample.limits).1 =
        .error (.stopped "main" (.trap .unreachable)) ∧
      (session.rerun Sample.printing.service Sample.limits 2).world.sink.values =
        [-2147483648, 7, 7] ∧
      (session.rerun Sample.printing.service Sample.limits 2).world.printed =
        [-2147483648, 7, 7] ∧
      (other.rerun Sample.printing.service Sample.limits 2).world.sink.text =
        "-2147483648\n7\n7\n") ∧
    ∃ after, invoke (dispatchHost Sample.printing.service) Sample.limits 1 640 printlnAddr [.i32 5]
        ⟨dispatchStore, HostState.fresh ⟨(), Sample.world⟩ ⟨2⟩ none⟩ = (.ok [.i32 0], after) ∧
      after.host.printed = [5] := by
  obtain ⟨sessions, calls, _⟩ :=
    output_complete Sample.printing.service Sample.limits "" Settings.default () Sample.world
  constructor
  · have seen : ((start Sample.printing.service Sample.limits "" Settings.default
        ⟨(), { Sample.world with sink := .kept #[] }⟩).toOption.map fun session =>
          ((session.run Sample.printing.service Sample.limits).1,
            (session.rerun Sample.printing.service Sample.limits 2).world.sink.values)) =
        some (.error (.stopped "main" (.trap .unreachable)), [-2147483648, 7, 7]) := by
      decide +kernel
    obtain ⟨first, answered, seen⟩ := exists_ok_of_seen seen
    obtain ⟨_, _, _, failed, _⟩ | ⟨session, other, started, too, alike⟩ := sessions
    · cases answered.symm.trans failed
    · obtain rfl := Except.ok.inj (answered.symm.trans started)
      obtain ⟨answer, values⟩ := Prod.mk.inj seen
      obtain ⟨_, sameAnswer⟩ := alike 0
      obtain ⟨shows, _⟩ := alike 2
      refine ⟨first, other, started, too, sameAnswer.symm.trans answer, values, ?_, ?_⟩
      · exact shows.outside.complete.trans values
      · refine shows.outside.text.trans ((congrArg Printout.textOf values).trans ?_)
        decide
  · exact calls _ Sample.limits 0 640 printlnAddr 5 rfl

end Session

end FirstCall
