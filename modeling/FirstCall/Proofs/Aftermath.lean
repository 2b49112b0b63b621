import FirstCall.Proofs.Bookkeeping
import FirstCall.Proofs.Capabilities
import FirstCall.Proofs.Files

/-!
# What a call of the trigger leaves behind

A call of the trigger ends in one of a few places, and each of them leaves a machine that can be
told in advance. A call that is refused, or that finds its function installed, leaves a mark in the
history and nothing else. A call for a stub spends the stub: its slot is being compiled from then
on, and nothing else of the session has changed before the unit is instantiated. What the code of
the unit does stays done, but the unit is recorded only if all of it comes to its end.
-/

namespace FirstCall

open Wasm

variable {σ : Type}

/-- An event that marks a moment, with which nothing outside the session has happened. -/
def Event.IsMark : Event → Prop
  | .notice _ => True
  | .triggered .. => True
  | .settled .. => True
  | _ => False

def withHistory (m : DispatchMachine σ) (history : Array Event) : DispatchMachine σ :=
  { m with host := m.host.updateWorld fun world => { world with history } }

/-- The machines differ in their histories only, and there in marks only. -/
structure Untouched (m after : DispatchMachine σ) : Prop where
  rest : ∃ history, after = withHistory m history
  marks : ∃ events, after.host.history = m.host.history ++ events ∧ ∀ event ∈ events, event.IsMark

namespace Untouched

variable {m : DispatchMachine σ} {host : HostState σ}

theorem refl (m : DispatchMachine σ) : Untouched m m :=
  ⟨⟨_, rfl⟩, [], (List.append_nil _).symm, nofun⟩

theorem record (untouched : Untouched m { m with host }) {event : Event} (mark : event.IsMark) :
    Untouched m { m with host := host.record event } := by
  obtain ⟨⟨history, same⟩, events, grown, marks⟩ := untouched
  obtain rfl : host = m.host.updateWorld fun world => { world with history } :=
    congrArg Machine.host same
  refine ⟨⟨_, rfl⟩, events ++ [event], ?_, ?_⟩
  · exact (HostState.history_record _ event).trans (by rw [grown, List.append_assoc])
  · intro other listed
    rcases List.mem_append.mp listed with before | last
    · exact marks other before
    · exact List.mem_singleton.mp last ▸ mark

theorem enter (m : DispatchMachine σ) (raw : Int32) :
    Untouched m { m with host := m.host.enter raw } := (refl m).record trivial

end Untouched

theorem FileTree.write_ok {tree after : FileTree} {path : String} {contents : Bytes}
    (written : tree.write path contents = .ok after) :
    ∃ place, tree.resolve path = .ok place ∧
      ∀ other, after.entry? other =
        if other = place then some (.file contents) else tree.entry? other := by
  unfold write at written
  cases leads : tree.resolve path with
  | error cause =>
    rw [leads] at written
    cases written
  | ok place =>
    rw [leads] at written
    by_cases directory : tree.entry? place = some .directory
    · simp [bind, Except.bind, directory, throw, throwThe, MonadExceptOf.throw] at written
    · have put : tree.put place (.file contents) = after := by
        simpa [bind, Except.bind, directory, pure, Except.pure] using written
      have below : place ≠ [] := by
        rintro rfl
        exact directory rfl
      subst put
      exact ⟨place, rfl, fun other => entry?_put below⟩

namespace Trigger

section Idle

variable {service : Service σ} {raw : Int32} {m : DispatchMachine σ} {i : FuncId} {shared : Nat}
  (run : Invoker HostFunc (HostState σ) Session.Fault)

theorem fire_refused_untouched {fault : Session.Fault}
    (admitted : Admission service raw m.host (.error fault) (m.host.enter raw)) :
    (fire service run raw m).1 = .error (.failed fault) ∧
      Untouched m (fire service run raw m).2 := by
  rw [fire_of_admitted run admitted, settle_eq]
  exact ⟨rfl, (Untouched.enter m raw).record trivial⟩

theorem fire_unready_untouched (unready : m.host.shared = none) :
    (fire service run raw m).1 = .error (.failed .tooEarly) ∧
      Untouched m (fire service run raw m).2 :=
  fire_refused_untouched run (.tooEarly unready)

theorem fire_outside_untouched (ready : m.host.shared = some shared)
    (outside : raw.toInt < 0 ∨ (m.host.ledger.table.size : Int) ≤ raw.toInt) :
    (fire service run raw m).1 =
        .error (.failed (.table (.outOfRange raw.toInt m.host.ledger.table.size))) ∧
      Untouched m (fire service run raw m).2 :=
  fire_refused_untouched run (.outOfRange ready (if_pos outside))

theorem fire_compiling_untouched (ready : m.host.shared = some shared)
    (located : m.host.ledger.table.locate raw = .ok i)
    (compiling : m.host.ledger.table.slot? i = some .compiling) :
    (fire service run raw m).1 = .error (.failed (.table (.reentered i))) ∧
      Untouched m (fire service run raw m).2 := by
  refine fire_refused_untouched run (.reentered ready located ?_ ?_)
  · rw [compiling]
    exact nofun
  · unfold Ledger.reserve DispatchTable.reserve
    rw [compiling]
    rfl

theorem fire_installed_untouched (ready : m.host.shared = some shared)
    (located : m.host.ledger.table.locate raw = .ok i)
    (installed : m.host.ledger.table.slot? i = some .installed) :
    (fire service run raw m).1 = .ok () ∧ Untouched m (fire service run raw m).2 := by
  have admitted : Admission service raw m.host (.ok none) _ := .present ready located installed
  rw [fire_of_admitted run admitted, settle_eq]
  have found : Untouched m { m with
    host := (m.host.enter raw).record (.notice (.alreadyInstalled i)) } :=
      (Untouched.enter m raw).record trivial
  exact ⟨rfl, found.record trivial⟩

end Idle

/-- What asking for the unit of a function comes to, and the files afterwards: the service refuses
it, or the blob is there and needs no dump, or the blob is dumped, or it cannot be dumped. -/
inductive Obtained (service : Service σ) (compiler : Service.Compiler) (dump : Option DumpDir)
    (i : FuncId) (state : σ) (files : FileTree) : Except Session.Fault Bytes → FileTree → Prop where
  | denied {fault : Service.Fault} (refused : (service.unit compiler i state).result = .error fault) :
      Obtained service compiler dump i state files (.error (.service fault)) files
  | unasked {blob : Bytes} (given : (service.unit compiler i state).result = .ok blob)
      (none : dump = none) : Obtained service compiler dump i state files (.ok blob) files
  | dumped {blob : Bytes} {dir : DumpDir} {after : FileTree}
      (given : (service.unit compiler i state).result = .ok blob) (some : dump = some dir)
      (written : files.write (dir.pathOfUnit i) blob = .ok after) :
      Obtained service compiler dump i state files (.ok blob) after
  | undumped {blob : Bytes} {dir : DumpDir} {cause : FileFault}
      (given : (service.unit compiler i state).result = .ok blob) (some : dump = some dir)
      (failed : files.write (dir.pathOfUnit i) blob = .error cause) :
      Obtained service compiler dump i state files
        (.error (.unwritable (dir.pathOfUnit i) cause)) files

namespace Obtained

variable {service : Service σ} {compiler : Service.Compiler} {dump : Option DumpDir} {i : FuncId}
  {state : σ} {files after : FileTree} {result : Except Session.Fault Bytes}

theorem total (service : Service σ) (compiler : Service.Compiler) (dump : Option DumpDir)
    (i : FuncId) (state : σ) (files : FileTree) :
    ∃ result after, Obtained service compiler dump i state files result after := by
  cases given : (service.unit compiler i state).result with
  | error fault => exact ⟨_, _, .denied given⟩
  | ok blob =>
    cases dump with
    | none => exact ⟨_, _, .unasked given rfl⟩
    | some dir =>
      cases written : files.write (dir.pathOfUnit i) blob with
      | error cause => exact ⟨_, _, .undumped given rfl written⟩
      | ok after => exact ⟨_, _, .dumped given rfl written⟩

theorem frame (obtained : Obtained service compiler dump i state files result after)
    (place : Place) :
    after.entry? place = files.entry? place ∨
      ∃ dir blob, dump = some dir ∧ (service.unit compiler i state).result = .ok blob ∧
        files.resolve (dir.pathOfUnit i) = .ok place ∧
        after.entry? place = some (.file blob) := by
  cases obtained with
  | denied refused => exact .inl rfl
  | unasked given none => exact .inl rfl
  | @dumped blob dir _ given some written =>
    obtain ⟨target, leads, entries⟩ := FileTree.write_ok written
    by_cases here : place = target
    · subst here
      exact .inr ⟨dir, blob, some, given, leads, (entries place).trans (if_pos rfl)⟩
    · exact .inl ((entries place).trans (if_neg here))
  | undumped given some failed => exact .inl rfl

theorem apply {outside : Outside σ}
    (obtained :
      Obtained service compiler dump i outside.service outside.world.files result after) :
    ∃ last, obtain service compiler dump i outside = (result, last) ∧
      last.service = (service.unit compiler i outside.service).state ∧
      last.world.files = after ∧ last.world.sink = outside.world.sink := by
  have files : ((outside.hear (.unit compiler i)
      (service.unit compiler i outside.service))).world.files = outside.world.files :=
    Outside.files_hear ..
  have sink : ((outside.hear (.unit compiler i)
      (service.unit compiler i outside.service))).world.sink = outside.world.sink :=
    Outside.sink_hear ..
  cases obtained with
  | denied refused => exact ⟨_, obtain_eq_iff.mpr (.refused refused), rfl, files, sink⟩
  | unasked given none => exact ⟨_, obtain_eq_iff.mpr (.kept given none), rfl, files, sink⟩
  | dumped given some written =>
    exact ⟨_, obtain_eq_iff.mpr (.dumped given some written), rfl, rfl, sink⟩
  | undumped given some failed =>
    exact ⟨_, obtain_eq_iff.mpr (.undumped given some failed), rfl, files, sink⟩

end Obtained

/-- The stub of a function was spent and nothing of its unit has taken effect: its slot is being
compiled, the service has answered, and the unit may have been dumped. Everything else is as it was
before. -/
structure Spent (service : Service σ) (i : FuncId) (files : FileTree) (m after : DispatchMachine σ) :
    Prop where
  store : after.store = m.store
  slots : ∀ j, after.host.ledger.table.slot? j =
    if j = i then some .compiling else m.host.ledger.table.slot? j
  order : after.host.ledger.table.order = m.host.ledger.table.order
  units : after.host.ledger.units = m.host.ledger.units
  served : after.host.outside.service =
    (service.unit m.host.compiler i m.host.outside.service).state
  files : after.host.outside.world.files = files
  dumped : ∀ place,
    after.host.outside.world.files.entry? place = m.host.outside.world.files.entry? place ∨
      ∃ dir blob, m.host.dump = some dir ∧
        (service.unit m.host.compiler i m.host.outside.service).result = .ok blob ∧
        m.host.outside.world.files.resolve (dir.pathOfUnit i) = .ok place ∧
        after.host.outside.world.files.entry? place = some (.file blob)
  sink : after.host.outside.world.sink = m.host.outside.world.sink
  grows : m.host.Grows after.host
  printed : after.host.printed = m.host.printed
  requests : after.host.outside.world.requests =
    m.host.outside.world.requests ++ [.unit m.host.compiler i]

namespace Spent

variable {service : Service σ} {i : FuncId} {files : FileTree} {m : DispatchMachine σ}
  {host : HostState σ}

theorem settled (spent : Spent service i files m { m with host }) (raw : Int32)
    (fault : Session.Fault) :
    Spent service i files m { m with host := host.record (.settled raw (.error fault)) } where
  store := rfl
  slots := spent.slots
  order := spent.order
  units := spent.units
  served := spent.served
  files := spent.files
  dumped := spent.dumped
  sink := spent.sink
  grows := spent.grows.trans (.record host _)
  printed := (HostState.printed_record host rfl).trans spent.printed
  requests := by
    rw [← spent.requests]
    change (HostState.record host _).history.filterMap _ = host.history.filterMap _
    rw [HostState.history_record, List.filterMap_append]
    exact List.append_nil _

end Spent

/-- From one ledger to the other the function was not recorded, but others may have been, and no
slot went back. -/
structure Unrecorded (i : FuncId) (first last : Ledger) : Prop where
  slot : last.table.slot? i = some .compiling
  records : ∃ more, last.table.order.toList = first.table.order.toList ++ more.map LoadedUnit.func ∧
    last.units.toList = first.units.toList ++ more ∧ ∀ unit ∈ more, unit.func ≠ i
  advances : first.Advances last

/-- While a function is being compiled, code does not record it. -/
theorem Unrecorded.kept (service : Service σ) (i : FuncId) (first : Ledger) :
    Kept service fun state => Unrecorded i first state.ledger where
  notice _ unrecorded := unrecorded
  printed _ unrecorded := unrecorded
  settled _ _ unrecorded := unrecorded
  admitted := by
    intro raw state answer after admitted unrecorded
    have slot := (Course.kept_compiling service i).admitted admitted unrecorded.slot
    obtain ⟨same, _⟩ | ⟨j, reserved, _⟩ := admitted.ledger
    · rw [same]
      exact unrecorded
    · obtain ⟨marked, sameUnits⟩ := Ledger.reserve_eq_ok_iff.mp reserved
      obtain ⟨_, table⟩ := DispatchTable.reserve_eq_ok_iff.mp marked
      obtain ⟨more, order, units, apart⟩ := unrecorded.records
      refine ⟨slot, ⟨more, ?_, ?_, apart⟩, unrecorded.advances.trans (.of_reserve reserved)⟩
      · rw [table]
        exact order
      · rw [sameUnits]
        exact units
  installed := by
    intro raw before after state ledger j blob admitted early grown recorded unrecorded
    have slot := (Course.kept_compiling service i).installed admitted early.slot grown recorded
      unrecorded.slot
    have other : j ≠ i := by
      rintro rfl
      cases early.slot.symm.trans admitted.reserves.2.1
    obtain ⟨marked, moreUnits⟩ := Ledger.install_eq_ok_iff.mp recorded
    obtain ⟨_, table⟩ := DispatchTable.install_eq_ok_iff.mp marked
    obtain ⟨more, order, units, apart⟩ := unrecorded.records
    refine ⟨slot, ⟨more ++ [⟨j, blob.length⟩], ?_, ?_, ?_⟩,
      unrecorded.advances.trans (.of_install recorded)⟩
    · change ledger.table.order.toList = _
      rw [table, Array.toList_push, order, List.map_append, List.append_assoc]
      rfl
    · change ledger.units.toList = _
      rw [moreUnits, Array.toList_push, units, List.append_assoc]
    · intro unit listed
      rcases List.mem_append.mp listed with early | last
      · exact apart unit early
      · exact List.mem_singleton.mp last ▸ other

theorem Spent.unrecorded {service : Service σ} {i : FuncId} {files : FileTree}
    {m after : DispatchMachine σ} (spent : Spent service i files m after)
    (stub : m.host.ledger.table.slot? i = some .stub) :
    Unrecorded i m.host.ledger after.host.ledger := by
  have order := congrArg Array.toList spent.order
  have units := congrArg Array.toList spent.units
  refine ⟨(spent.slots i).trans (if_pos rfl), ⟨[], ?_, ?_, nofun⟩, fun j slot found => ?_, ?_⟩
  · exact order.trans (List.append_nil _).symm
  · exact units.trans (List.append_nil _).symm
  · rw [spent.slots j]
    by_cases same : j = i
    · subst same
      obtain rfl := Option.some.inj (stub.symm.trans found)
      exact ⟨.compiling, if_pos rfl, Nat.zero_le _⟩
    · exact ⟨slot, (if_neg same).trans found, Nat.le_refl _⟩
  · exact ⟨[], (List.append_nil _).trans order.symm⟩

/-- The function was recorded with the size of its unit, and nothing else happened. -/
structure Recorded (raw : Int32) (i : FuncId) (size : Nat) (last after : DispatchMachine σ) :
    Prop where
  store : after.store = last.store
  slots : ∀ j, after.host.ledger.table.slot? j =
    if j = i then some .installed else last.host.ledger.table.slot? j
  order : after.host.ledger.table.order.toList = last.host.ledger.table.order.toList ++ [i]
  units : after.host.ledger.units.toList = last.host.ledger.units.toList ++ [⟨i, size⟩]
  served : after.host.outside.service = last.host.outside.service
  files : after.host.outside.world.files = last.host.outside.world.files
  sink : after.host.outside.world.sink = last.host.outside.world.sink
  history : after.host.history =
    last.host.history ++ [Event.notice (.installed i size), .settled raw (.ok ())]

/-- The unit of a function is turned back: asking for it fails, or what was given is turned away when
it is about to be loaded. -/
def TurnedBack (service : Service σ) (i : FuncId) (table : Table) (m : DispatchMachine σ)
    (fault : Session.Fault) (files : FileTree) : Prop :=
  Obtained service m.host.compiler m.host.dump i m.host.outside.service m.host.outside.world.files
      (.error fault) files ∨
    ∃ blob, Obtained service m.host.compiler m.host.dump i m.host.outside.service
        m.host.outside.world.files (.ok blob) files ∧
      FunctionUnit.Turned i table blob fault

/-- How a call of the trigger for a stub ends, and on which machine: the unit is turned back before
any of it takes effect, or its instantiation stops, or the unit is installed. -/
inductive Attempt (service : Service σ) (limits : Limits) (raw : Int32) (i : FuncId) (shared : Nat)
    (table : Table) (m : DispatchMachine σ) :
    Except (Stop Session.Fault) Unit × DispatchMachine σ → Prop where
  | turnedBack {fault : Session.Fault} {files : FileTree} {after : DispatchMachine σ}
      (reason : TurnedBack service i table m fault files)
      (spent : Spent service i files m after) :
      Attempt service limits raw i shared table m (.error (.failed fault), after)
  | stopped {blob : Bytes} {files : FileTree} {module : Module} {why : Stop Session.Fault}
      {ready last : DispatchMachine σ}
      (obtained : Obtained service m.host.compiler m.host.dump i m.host.outside.service
        m.host.outside.world.files (.ok blob) files)
      (built : Module.ofBlob blob = .ok module)
      (granted : ∀ wanted ∈ module.imports, FunctionUnit.Granted module.types table wanted)
      (spent : Spent service i files m ready)
      (ran : instantiate (Session.call service limits) module
        (FunctionUnit.supplies module shared) ready = (.error why, last))
      (unrecorded : Unrecorded i m.host.ledger last.host.ledger) :
      Attempt service limits raw i shared table m
        (.error (Dispatch.loadStop (unitName i) why),
          { last with
            host := last.host.settle raw (.error (Dispatch.loadStop (unitName i) why)) })
  | installed {blob : Bytes} {files : FileTree} {module : Module} {inst : Instance}
      {ready last after : DispatchMachine σ}
      (obtained : Obtained service m.host.compiler m.host.dump i m.host.outside.service
        m.host.outside.world.files (.ok blob) files)
      (built : Module.ofBlob blob = .ok module)
      (granted : ∀ wanted ∈ module.imports, FunctionUnit.Granted module.types table wanted)
      (spent : Spent service i files m ready)
      (ran : instantiate (Session.call service limits) module
        (FunctionUnit.supplies module shared) ready = (.ok inst, last))
      (unrecorded : Unrecorded i m.host.ledger last.host.ledger)
      (recorded : Recorded raw i blob.length last after) :
      Attempt service limits raw i shared table m (.ok (), after)

section Stub

variable {service : Service σ} {limits : Limits} {raw : Int32} {i : FuncId} {shared : Nat}
  {table : Table} {m : DispatchMachine σ}

theorem admitted_stub (ready : m.host.shared = some shared)
    (located : m.host.ledger.table.locate raw = .ok i)
    (stub : m.host.ledger.table.slot? i = some .stub) {result : Except Session.Fault Bytes}
    {files : FileTree}
    (obtained : Obtained service m.host.compiler m.host.dump i m.host.outside.service
      m.host.outside.world.files result files) :
    ∃ host, Admission service raw m.host (result.map fun blob => some (i, blob)) host ∧
      Spent service i files m { m with host } := by
  obtain ⟨ledger, reserved, slots, _⟩ := Ledger.reserve_of_stub stub
  have asking : Obtained service m.host.compiler m.host.dump i
      (m.host.reserved raw i ledger).outside.service
      (m.host.reserved raw i ledger).outside.world.files result files := obtained
  obtain ⟨last, asked, served, filed, sink⟩ := asking.apply
  have admitted : Admission service raw m.host (result.map fun blob => some (i, blob))
      { m.host.reserved raw i ledger with outside := last } :=
    .requested ready located reserved asked
  obtain ⟨replies, idle, history, _⟩ := requested_history asked
  have unasked : replies.filterMap Event.request? = [] :=
    List.filterMap_eq_nil_iff.mpr fun event listed => (idle event listed).idle.1
  obtain ⟨marked, sameUnits⟩ := Ledger.reserve_eq_ok_iff.mp reserved
  obtain ⟨_, changed⟩ := DispatchTable.reserve_eq_ok_iff.mp marked
  refine ⟨_, admitted, ?_⟩
  constructor
  case store => rfl
  case slots => exact slots
  case order =>
    change ledger.table.order = _
    rw [changed]
  case units => exact sameUnits
  case served => exact served
  case files => exact filed
  case dumped =>
    intro place
    change last.world.files.entry? place = _ ∨ ∃ dir blob, _ ∧ _ ∧ _ ∧
      last.world.files.entry? place = _
    rw [filed]
    exact obtained.frame place
  case sink => exact sink
  case grows => exact admitted.grows
  case printed => exact requested_printed asked
  case requests =>
    change (HostState.history _).filterMap Event.request? = _
    rw [history, HostState.history_enter]
    simp [List.filterMap_cons, Event.request?, unasked]
    rfl

theorem recorded_of_compiling {last : DispatchMachine σ}
    (compiling : last.host.ledger.table.slot? i = some .compiling) (raw : Int32) (size : Nat) :
    ∃ ledger, last.host.ledger.install ⟨i, size⟩ = .ok ledger ∧
      ∀ host, host = { last.host.record (.notice (.installed i size)) with ledger } →
        Recorded raw i size last { last with host := host.settle raw (.ok ()) } := by
  obtain ⟨ledger, recorded, slots, _⟩ := Ledger.install_of_compiling ⟨i, size⟩ compiling
  obtain ⟨marked, moreUnits⟩ := Ledger.install_eq_ok_iff.mp recorded
  obtain ⟨_, changed⟩ := DispatchTable.install_eq_ok_iff.mp marked
  refine ⟨ledger, recorded, ?_⟩
  rintro host rfl
  refine ⟨rfl, slots, ?_, ?_, rfl, rfl, rfl, ?_⟩
  · change ledger.table.order.toList = _
    rw [changed, Array.toList_push]
  · change ledger.units.toList = _
    rw [moreUnits, Array.toList_push]
  · exact last.host.history_installed ledger (.installed i size) raw

/-- If the unit is turned back, the stub is spent and nothing else has happened. -/
theorem fire_turnedBack (ready : m.host.shared = some shared)
    (equipped : m.store.Equipped shared table) (printing : m.host.println = some printlnAddr)
    (located : m.host.ledger.table.locate raw = .ok i)
    (stub : m.host.ledger.table.slot? i = some .stub) {fault : Session.Fault} {files : FileTree}
    (reason : TurnedBack service i table m fault files) :
    (fire service (Session.call service limits) raw m).1 = .error (.failed fault) ∧
      Spent service i files m (fire service (Session.call service limits) raw m).2 := by
  obtain refused | ⟨blob, given, turned⟩ := reason
  · obtain ⟨host, admitted, spent⟩ := admitted_stub ready located stub refused
    rw [fire_of_admitted _ admitted, settle_eq]
    exact ⟨rfl, spent.settled raw fault⟩
  · obtain ⟨host, admitted, spent⟩ := admitted_stub ready located stub given
    have equippedToo : ({ m with host } : DispatchMachine σ).store.Equipped shared table := equipped
    rw [fire_of_admitted _ admitted, settle_eq, ready]
    dsimp only [Except.map, proceed, Option.getD_some]
    rw [install_apply,
      FunctionUnit.load_turned equippedToo (spent.grows.println.trans printing) turned]
    exact ⟨rfl, spent.settled raw fault⟩

theorem fire_granted (ready : m.host.shared = some shared)
    (equipped : m.store.Equipped shared table) (printing : m.host.println = some printlnAddr)
    (located : m.host.ledger.table.locate raw = .ok i)
    (stub : m.host.ledger.table.slot? i = some .stub) {blob : Bytes} {files : FileTree}
    {module : Module}
    (given : Obtained service m.host.compiler m.host.dump i m.host.outside.service
      m.host.outside.world.files (.ok blob) files)
    (built : Module.ofBlob blob = .ok module)
    (granted : ∀ wanted ∈ module.imports, FunctionUnit.Granted module.types table wanted) :
    Attempt service limits raw i shared table m
      (fire service (Session.call service limits) raw m) := by
  obtain ⟨host, admitted, spent⟩ := admitted_stub ready located stub given
  have equippedToo : ({ m with host } : DispatchMachine σ).store.Equipped shared table := equipped
  have loads := (FunctionUnit.loads_iff equippedToo).mpr granted
  have follows := (Course.discipline service).instantiate (Session.call_follows service limits)
    module (FunctionUnit.supplies module shared) { m with host }
  have unrecorded := (Unrecorded.kept service i m.host.ledger).course follows
    (spent.unrecorded stub)
  rw [fire_of_admitted _ admitted, settle_eq, ready]
  dsimp only [Except.map, proceed, Option.getD_some]
  rw [install_apply,
    FunctionUnit.load_granted (spent.grows.println.trans printing) built loads]
  cases ran : instantiate (Session.call service limits) module
      (FunctionUnit.supplies module shared) { m with host } with
  | mk ended last =>
    rw [ran] at unrecorded
    cases ended with
    | error why => exact .stopped given built granted spent ran unrecorded
    | ok inst =>
      obtain ⟨ledger, installs, recorded⟩ :=
        recorded_of_compiling unrecorded.slot raw blob.length
      dsimp only [Except.map, Except.mapError]
      rw [installs]
      exact .installed given built granted spent ran unrecorded (recorded _ rfl)

theorem fire_attempt (ready : m.host.shared = some shared)
    (equipped : m.store.Equipped shared table) (printing : m.host.println = some printlnAddr)
    (located : m.host.ledger.table.locate raw = .ok i)
    (stub : m.host.ledger.table.slot? i = some .stub) :
    Attempt service limits raw i shared table m
      (fire service (Session.call service limits) raw m) := by
  have turned : ∀ {fault files}, TurnedBack service i table m fault files →
      Attempt service limits raw i shared table m
        (fire service (Session.call service limits) raw m) := by
    intro fault files reason
    have ended : (fire service (Session.call service limits) raw m).1 = .error (.failed fault) ∧
        Spent service i files m (fire service (Session.call service limits) raw m).2 :=
      fire_turnedBack ready equipped printing located stub reason
    generalize fire service (Session.call service limits) raw m = fired at ended
    obtain ⟨_, after⟩ := fired
    obtain ⟨failed, spent⟩ := ended
    obtain rfl := failed
    exact .turnedBack reason spent
  obtain ⟨result, files, obtained⟩ := Obtained.total service m.host.compiler m.host.dump i
    m.host.outside.service m.host.outside.world.files
  cases result with
  | error fault => exact turned (.inl obtained)
  | ok blob =>
    obtain ⟨fault, back⟩ | ⟨module, built, granted⟩ := FunctionUnit.turned_or_granted i table blob
    · exact turned (.inr ⟨blob, obtained, back⟩)
    · exact fire_granted ready equipped printing located stub obtained built granted

theorem Attempt.unrecorded {result : Except (Stop Session.Fault) Unit × DispatchMachine σ}
    (attempt : Attempt service limits raw i shared table m result)
    (stub : m.host.ledger.table.slot? i = some .stub) {why : Stop Session.Fault}
    (failed : result.1 = .error why) : Unrecorded i m.host.ledger result.2.host.ledger := by
  cases attempt with
  | turnedBack reason spent => exact spent.unrecorded stub
  | stopped obtained built granted spent ran unrecorded =>
    rw [HostState.ledger_settle]
    exact unrecorded
  | installed obtained built granted spent ran unrecorded recorded => cases failed

/-- An attempt that succeeds records the function last. -/
theorem Attempt.recorded {result : Except (Stop Session.Fault) Unit × DispatchMachine σ}
    (attempt : Attempt service limits raw i shared table m result) (done : result.1 = .ok ()) :
    result.2.host.ledger.table.slot? i = some .installed ∧
      ∃ more size,
        result.2.host.ledger.units.toList = m.host.ledger.units.toList ++ more ++ [⟨i, size⟩] ∧
        result.2.host.ledger.table.order.toList =
          m.host.ledger.table.order.toList ++ more.map LoadedUnit.func ++ [i] ∧
        ∀ unit ∈ more, unit.func ≠ i := by
  cases attempt with
  | turnedBack reason spent => cases done
  | stopped obtained built granted spent ran unrecorded => cases done
  | @installed blob _ _ _ _ _ _ obtained built granted spent ran unrecorded recorded =>
    obtain ⟨more, order, units, apart⟩ := unrecorded.records
    refine ⟨(recorded.slots i).trans (if_pos rfl), more, blob.length, ?_, ?_, apart⟩
    · rw [recorded.units, units]
    · rw [recorded.order, order]

end Stub

end Trigger

theorem Trigger.Admission.outside_of_outOfRange {service : Service σ} {raw : Int32}
    {state after : HostState σ} {index : Int} {count : Nat}
    (admitted : Trigger.Admission service raw state
      (.error (.table (.outOfRange index count))) after) :
    index < 0 ∨ (count : Int) ≤ index := by
  generalize sought : (Except.error (.table (.outOfRange index count)) :
    Except Session.Fault (Option (FuncId × Bytes))) = answer at admitted
  cases admitted with
  | tooEarly unready => cases sought
  | outOfRange _ refused =>
    cases sought
    unfold DispatchTable.locate at refused
    split at refused
    · next outside =>
      cases refused
      exact outside
    · cases refused
  | present _ located installed => cases sought
  | reentered _ located notInstalled refused =>
    cases sought
    cases DispatchTable.refusal_of_reserve (DispatchTable.slot?_of_located located) notInstalled
      (Ledger.refusal_of_reserve refused)
  | @requested _ i ledger result outside _ located reserved obtained =>
    cases result with
    | ok blob => cases sought
    | error other =>
      cases sought
      obtain ⟨_, same⟩ | ⟨_, _, same⟩ := obtain_error obtained
      · cases same
      · cases same

/-- Code fails for an index only if that lies outside the table. -/
theorem Course.outside_of_outOfRange {service : Service σ} {first last : HostState σ}
    {ended : Ending Session.Fault} (course : Course service first ended last) {index : Int}
    {count : Nat} (failed : ended = .error (.failed (.table (.outOfRange index count)))) :
    index < 0 ∨ (count : Int) ≤ index := by
  induction course with
  | quiet state => cases failed
  | halted state own =>
    obtain rfl := Except.error.inj failed
    cases own
  | trans head tail ihHead ihTail => exact ihTail failed
  | printed state value => cases failed
  | refused admitted =>
    cases failed
    exact admitted.outside_of_outOfRange
  | present admitted => cases failed
  | turnedAway admitted turns =>
    cases failed
    cases turns
  | @broken _ _ _ _ _ _ why admitted loading ih =>
    cases why with
    | failed inner =>
      cases failed
      exact ih rfl
    | _ => cases failed
  | installed admitted loading recorded ih => cases failed
  | @unrecorded _ _ _ _ _ blob _ admitted loading refused ih =>
    obtain ⟨ledger, recorded⟩ := recordable admitted loading blob.length
    cases refused.symm.trans recorded

namespace Trigger

/-- What a call of the trigger on a machine comes to, by what its index names. -/
structure Aftermath (service : Service σ) (limits : Limits) (raw : Int32) (shared : Nat)
    (table : Table) (m : DispatchMachine σ)
    (fired : Except (Stop Session.Fault) Unit × DispatchMachine σ) : Prop where
  outside_iff : fired.1 =
      .error (.failed (.table (.outOfRange raw.toInt m.host.ledger.table.size))) ↔
    raw.toInt < 0 ∨ (m.host.ledger.table.size : Int) ≤ raw.toInt
  outside : raw.toInt < 0 ∨ (m.host.ledger.table.size : Int) ≤ raw.toInt → Untouched m fired.2
  compiling : ∀ i, m.host.ledger.table.locate raw = .ok i →
    m.host.ledger.table.slot? i = some .compiling →
      fired.1 = .error (.failed (.table (.reentered i))) ∧ Untouched m fired.2
  installed : ∀ i, m.host.ledger.table.locate raw = .ok i →
    m.host.ledger.table.slot? i = some .installed → fired.1 = .ok () ∧ Untouched m fired.2
  stub : ∀ i, m.host.ledger.table.locate raw = .ok i →
    m.host.ledger.table.slot? i = some .stub → Attempt service limits raw i shared table m fired
  turnedBack : ∀ i, m.host.ledger.table.locate raw = .ok i →
    m.host.ledger.table.slot? i = some .stub →
      ∀ fault files, TurnedBack service i table m fault files →
        fired.1 = .error (.failed fault) ∧ Spent service i files m fired.2
  failed : ∀ i, m.host.ledger.table.locate raw = .ok i →
    m.host.ledger.table.slot? i = some .stub → ∀ why, fired.1 = .error why →
      Unrecorded i m.host.ledger fired.2.host.ledger
  done : ∀ i, m.host.ledger.table.locate raw = .ok i →
    m.host.ledger.table.slot? i = some .stub → fired.1 = .ok () →
      fired.2.host.ledger.table.slot? i = some .installed ∧
        ∃ more size,
          fired.2.host.ledger.units.toList = m.host.ledger.units.toList ++ more ++ [⟨i, size⟩] ∧
          fired.2.host.ledger.table.order.toList =
            m.host.ledger.table.order.toList ++ more.map LoadedUnit.func ++ [i] ∧
          ∀ unit ∈ more, unit.func ≠ i

/-- Every call of the trigger leaves a machine that is known. The trigger is open in every session,
before, between and after its runs, and wherever code calls it; a call before that fails. A call fails for its index exactly if
that is outside the table; then, and if it comes too early, and if the function is being compiled or
installed, the machine is as it was before, up to marks in the history. A call for a stub spends the
stub. It fails because the unit is turned back, and nothing else has changed but the service and the
dump of the unit, or because the instantiation of the unit stops, and then whatever that had done
stays, but the function is not recorded; or the unit is loaded, and its function is recorded behind
those that were recorded in the meantime. -/
theorem fire_aftermath (service : Service σ) (limits : Limits) :
    (∀ (source : String) (settings : Settings) (outside : Outside σ) (session : Session σ),
      Session.start service limits source settings outside = .ok session → ∀ runs, ∃ table,
        (session.rerun service limits runs).state.shared = some session.skeleton.table ∧
        (session.rerun service limits runs).machine.store.Equipped session.skeleton.table table ∧
        (session.rerun service limits runs).state.println = some printlnAddr ∧
        (session.rerun service limits runs).state.ledger.table.size = session.slotCount) ∧
    ∀ (raw : Int32) (m : DispatchMachine σ),
      (m.host.shared = none →
        (fire service (Session.call service limits) raw m).1 = .error (.failed .tooEarly) ∧
          Untouched m (fire service (Session.call service limits) raw m).2) ∧
      ∀ (shared : Nat) (table : Table),
        m.host.shared = some shared → m.store.Equipped shared table →
        m.host.println = some printlnAddr →
          Aftermath service limits raw shared table m
            (fire service (Session.call service limits) raw m) ∧
          ∀ addr args, ∃ larger, table.Grows larger ∧
            (Session.call service limits addr args m).2.host.shared = some shared ∧
            (Session.call service limits addr args m).2.store.Equipped shared larger ∧
            (Session.call service limits addr args m).2.host.println = some printlnAddr := by
  constructor
  · intro source settings outside session started runs
    obtain ⟨table, equipped⟩ := Session.rerun_equipped started runs
    obtain ⟨_, sound⟩ := Session.rerun_sound started runs
    refine ⟨table, ?_, equipped, Session.rerun_println started runs, sound.size⟩
    rw [(Session.rerun_grows service limits runs session).shared, (Session.start_state started).1]
  intro raw m
  refine ⟨fire_unready_untouched _, fun shared table ready equipped printing => ⟨?_, ?_⟩⟩
  case refine_2 =>
    intro addr args
    obtain ⟨larger, grows, still⟩ :=
      equipped.later (Store.Extends.lasting.call service limits addr args m)
    have kept := Course.grows (Session.call_follows service limits addr args m)
    exact ⟨larger, grows, kept.shared.trans ready, still, kept.println.trans printing⟩
  constructor
  case outside_iff =>
    constructor
    · intro failed
      have follows := fire_follows (Session.call_follows service limits) raw m
      rw [failed] at follows
      exact Course.outside_of_outOfRange follows rfl
    · intro outside
      exact (fire_outside_untouched _ ready outside).1
  case outside =>
    intro outside
    exact (fire_outside_untouched _ ready outside).2
  case compiling =>
    intro i located
    exact fire_compiling_untouched _ ready located
  case installed =>
    intro i located
    exact fire_installed_untouched _ ready located
  case stub =>
    intro i located
    exact fire_attempt ready equipped printing located
  case turnedBack =>
    intro i located stub fault files
    exact fire_turnedBack ready equipped printing located stub
  case failed =>
    intro i located stub why
    exact (fire_attempt ready equipped printing located stub).unrecorded stub
  case done =>
    intro i located stub
    exact (fire_attempt ready equipped printing located stub).recorded

/-- Of two functions the first one is installed in a run and the second one has no unit. An index
past them, and after the run either of them, leaves the machine as it is; a first call for the
second one spends its stub. -/
theorem sample_aftermath :
    ∃ (session : Session Unit) (first last : DispatchMachine Unit) (table : Table),
      Session.start Sample.script.service Sample.limits "" Settings.default ⟨(), Sample.world⟩ =
        .ok session ∧
      first = session.machine ∧
      last = (session.rerun Sample.script.service Sample.limits 1).machine ∧
      Untouched first
        (fire Sample.script.service (Session.call Sample.script.service Sample.limits) 2 first).2 ∧
      Attempt Sample.script.service Sample.limits 1 ⟨1⟩ session.skeleton.table table first
        (fire Sample.script.service (Session.call Sample.script.service Sample.limits) 1 first) ∧
      Untouched last
        (fire Sample.script.service (Session.call Sample.script.service Sample.limits) 0 last).2 ∧
      (fire Sample.script.service (Session.call Sample.script.service Sample.limits) 1 last).1 =
        .error (.failed (.table (.reentered ⟨1⟩))) := by
  have seen : ((Session.start Sample.script.service Sample.limits "" Settings.default
      ⟨(), Sample.world⟩).toOption.map fun session =>
        (session.slotCount, session.slot? ⟨1⟩,
          (session.rerun Sample.script.service Sample.limits 1).slot? ⟨0⟩,
          (session.rerun Sample.script.service Sample.limits 1).slot? ⟨1⟩)) =
      some (2, some .stub, some .installed, some .compiling) := by
    decide +kernel
  obtain ⟨session, started, seen⟩ := exists_ok_of_seen seen
  obtain ⟨count, slots⟩ := Prod.mk.inj seen
  obtain ⟨stub, slots⟩ := Prod.mk.inj slots
  obtain ⟨installed, compiling⟩ := Prod.mk.inj slots
  obtain ⟨sessions, calls⟩ := fire_aftermath Sample.script.service Sample.limits
  obtain ⟨table, ready, equipped, printing, size⟩ := sessions _ _ _ session started 0
  obtain ⟨later, open', given, prints, same⟩ := sessions _ _ _ session started 1
  have beyond : (2 : Int32).toInt < 0 ∨
      (session.machine.host.ledger.table.size : Int) ≤ (2 : Int32).toInt := by
    refine .inr ?_
    rw [show session.machine.host.ledger.table.size = 2 from size.trans count]
    decide
  have located : ∀ {m : DispatchMachine Unit} {raw : Int32} {i : FuncId},
      m.host.ledger.table.size = session.slotCount → (i.slot : Int) = raw.toInt → i.slot < 2 →
        m.host.ledger.table.locate raw = .ok i := by
    intro m raw i whole named inside
    exact DispatchTable.locate_eq_ok_iff.mpr ⟨named, by rw [whole, count]; exact inside⟩
  refine ⟨session, _, _, table, started, rfl, rfl, ?_, ?_, ?_, ?_⟩
  · exact ((calls 2 _).2 _ _ ready equipped printing).1.outside beyond
  · exact ((calls 1 _).2 _ _ ready equipped printing).1.stub ⟨1⟩ (located size (by decide) (by decide)) stub
  · exact (((calls 0 _).2 _ _ open' given prints).1.installed ⟨0⟩
      (located same (by decide) (by decide)) installed).2
  · exact (((calls 1 _).2 _ _ open' given prints).1.compiling ⟨1⟩
      (located same (by decide) (by decide)) compiling).1

end Trigger

end FirstCall
