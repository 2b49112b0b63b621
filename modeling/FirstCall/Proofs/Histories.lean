import FirstCall.Proofs.Requests

/-!
# Histories of the dispatch table

The dispatch table is asked to reserve and to install slots, in any order and any number of times,
and it grants some of these calls and refuses the others. The answers up to a moment decide the
table of that moment, and the next answer: a function is reserved once, and installed once after
that.
-/

namespace FirstCall

namespace DispatchTable

/-- A transition that is asked of the table. -/
inductive Call where
  | reserve (i : FuncId)
  | install (i : FuncId)
  deriving DecidableEq, Repr

namespace Call

def func : Call → FuncId
  | .reserve i => i
  | .install i => i

def ask : Call → DispatchTable → Except Fault DispatchTable
  | .reserve i, table => table.reserve i
  | .install i, table => table.install i

end Call

abbrev Answered := Call × Except Fault Unit

/-- The function that was installed, if that was asked and granted. -/
def Answered.installed? : Answered → Option FuncId
  | (.install i, .ok ()) => some i
  | _ => none

/-- Whether a call is granted, and else why it is not. -/
def answer (table : DispatchTable) (call : Call) : Except Fault Unit :=
  (call.ask table).map fun _ => ()

def next (table : DispatchTable) (call : Call) : DispatchTable :=
  match call.ask table with
  | .ok changed => changed
  | .error _ => table

def replay (table : DispatchTable) (calls : List Call) : DispatchTable := calls.foldl next table

/-- The calls with the answers that they get, one behind the other. -/
def log (table : DispatchTable) : List Call → List Answered
  | [] => []
  | call :: rest => (call, table.answer call) :: log (table.next call) rest

/-- The state in which answered calls leave the slot of a function. -/
def told (answered : List Answered) (i : FuncId) : Slot :=
  if (.install i, .ok ()) ∈ answered then .installed
  else if (.reserve i, .ok ()) ∈ answered then .compiling
  else .stub

section Steps

variable {table : DispatchTable} {call : Call} {i : FuncId} {slot : Slot} {fault : Fault}

theorem next_of_refused (refused : table.answer call = .error fault) : table.next call = table := by
  unfold answer at refused
  unfold next
  cases asked : call.ask table with
  | ok changed =>
    rw [asked] at refused
    cases refused
  | error other => rfl

theorem ask_of_granted (granted : table.answer call = .ok ()) :
    call.ask table = .ok (table.next call) := by
  unfold answer at granted
  unfold next
  cases asked : call.ask table with
  | ok changed => rfl
  | error fault =>
    rw [asked] at granted
    cases granted

theorem answer_reserve :
    table.slot? i = some slot → table.answer (.reserve i) =
      match slot with
      | .stub => .ok ()
      | .compiling => .error (.reentered i)
      | .installed => .error (.repeated i) := by
  intro found
  change (table.reserve i).map _ = _
  unfold reserve
  rw [found]
  cases slot <;> rfl

theorem answer_install :
    table.slot? i = some slot → table.answer (.install i) =
      match slot with
      | .stub => .error (.unreserved i)
      | .compiling => .ok ()
      | .installed => .error (.repeated i) := by
  intro found
  change (table.install i).map _ = _
  unfold install
  rw [found]
  cases slot <;> rfl

theorem log_concat (table : DispatchTable) (calls : List Call) (call : Call) :
    table.log (calls ++ [call]) =
      table.log calls ++ [(call, (table.replay calls).answer call)] := by
  induction calls generalizing table with
  | nil => rfl
  | cons first rest ih => exact congrArg (_ :: ·) (ih (table.next first))

theorem replay_concat (table : DispatchTable) (calls : List Call) (call : Call) :
    table.replay (calls ++ [call]) = (table.replay calls).next call :=
  List.foldl_append ..

theorem map_log (table : DispatchTable) (calls : List Call) :
    (table.log calls).map Prod.fst = calls := by
  induction calls generalizing table with
  | nil => rfl
  | cons first rest ih => exact congrArg (first :: ·) (ih (table.next first))

/-- The answers up to a call are those to the calls before it, and the call is answered by the table
that they leave. -/
theorem log_split {calls : List Call} {earlier later : List Answered} {given : Except Fault Unit}
    (split : table.log calls = earlier ++ (call, given) :: later) :
    table.log (earlier.map Prod.fst) = earlier ∧
      given = (table.replay (earlier.map Prod.fst)).answer call := by
  induction earlier generalizing table calls with
  | nil =>
    cases calls with
    | nil => cases split
    | cons first rest =>
      obtain ⟨same, _⟩ := List.cons.inj split
      obtain ⟨rfl, rfl⟩ := Prod.mk.inj same
      exact ⟨rfl, rfl⟩
  | cons before earlier ih =>
    cases calls with
    | nil => cases split
    | cons first rest =>
      obtain ⟨rfl, behind⟩ := List.cons.inj split
      obtain ⟨same, answered⟩ := ih behind
      exact ⟨congrArg (_ :: ·) same, answered⟩

end Steps

/-- The table is the one that the answered calls tell of. -/
structure Tells (count : Nat) (answered : List Answered) (table : DispatchTable) : Prop where
  size : table.size = count
  slot : ∀ i, i.slot < count → table.slot? i = some (told answered i)
  order : table.order.toList = answered.filterMap Answered.installed?
  distinct : table.order.toList.Nodup
  within : ∀ i ∈ table.order.toList, i.slot < count
  reserved : ∀ i, (.install i, .ok ()) ∈ answered → (.reserve i, .ok ()) ∈ answered

namespace Tells

variable {count : Nat} {answered : List Answered} {table : DispatchTable} {call : Call}

theorem start (count : Nat) : Tells count [] (ofSize count) where
  size := size_ofSize count
  slot i inside := by
    rw [slot?_ofSize, if_pos inside]
    rfl
  order := rfl
  distinct := List.nodup_nil
  within _ listed := nomatch listed
  reserved _ listed := nomatch listed

theorem mem_order_iff (tells : Tells count answered table) (i : FuncId) :
    i ∈ table.order.toList ↔ (.install i, .ok ()) ∈ answered := by
  rw [tells.order, List.mem_filterMap]
  constructor
  · rintro ⟨⟨call, given⟩, listed, installed⟩
    unfold Answered.installed? at installed
    split at installed
    · next same =>
      obtain rfl := Option.some.inj installed
      rw [← same]
      exact listed
    · cases installed
  · intro listed
    exact ⟨_, listed, rfl⟩

theorem told_eq_installed_iff {i : FuncId} :
    told answered i = .installed ↔ (.install i, .ok ()) ∈ answered := by
  unfold told
  split
  · next listed => simp [listed]
  · next unlisted => split <;> simp [unlisted]

theorem mem_order_iff_installed (tells : Tells count answered table) (i : FuncId) :
    i ∈ table.order.toList ↔ table.slot? i = some .installed := by
  constructor
  · intro listed
    rw [tells.slot i (tells.within i listed), told_eq_installed_iff.mpr]
    exact (tells.mem_order_iff i).mp listed
  · intro installed
    have inside := tells.size ▸ lt_size_of_slot? installed
    have known := Option.some.inj ((tells.slot i inside).symm.trans installed)
    exact (tells.mem_order_iff i).mpr (told_eq_installed_iff.mp known)

/-- The answered calls tell of a slot by what was granted for it, and installing comes second. -/
theorem told_eq (tells : Tells count answered table) (i : FuncId) :
    told answered i =
      if (.reserve i, .ok ()) ∉ answered then .stub
      else if (.install i, .ok ()) ∉ answered then .compiling
      else .installed := by
  by_cases begun : (.reserve i, .ok ()) ∈ answered
  · by_cases done : (.install i, .ok ()) ∈ answered
    · simp [told, begun, done]
    · simp [told, begun, done]
  · have undone : (.install i, .ok ()) ∉ answered := fun done => begun (tells.reserved i done)
    simp [told, begun, undone]

theorem reserve_answer {i : FuncId} (tells : Tells count answered table) (inside : i.slot < count) :
    table.answer (.reserve i) =
      if (.reserve i, .ok ()) ∉ answered then .ok ()
      else if (.install i, .ok ()) ∉ answered then .error (.reentered i)
      else .error (.repeated i) := by
  rw [answer_reserve (tells.slot i inside), tells.told_eq]
  split_ifs <;> rfl

theorem install_answer {i : FuncId} (tells : Tells count answered table) (inside : i.slot < count) :
    table.answer (.install i) =
      if (.reserve i, .ok ()) ∉ answered then .error (.unreserved i)
      else if (.install i, .ok ()) ∉ answered then .ok ()
      else .error (.repeated i) := by
  rw [answer_install (tells.slot i inside), tells.told_eq]
  split_ifs <;> rfl

theorem told_refused (fault : Fault) (i : FuncId) :
    told (answered ++ [(call, .error fault)]) i = told answered i := by
  simp [told]

theorem refuse {fault : Fault} (tells : Tells count answered table) :
    Tells count (answered ++ [(call, .error fault)]) table where
  size := tells.size
  slot i inside := by
    rw [told_refused]
    exact tells.slot i inside
  order := by
    rw [List.filterMap_append, tells.order]
    cases call <;> simp [Answered.installed?]
  distinct := tells.distinct
  within := tells.within
  reserved i listed := by
    have before : (.install i, .ok ()) ∈ answered := by simpa using listed
    exact List.mem_append_left _ (tells.reserved i before)

theorem reserve {i : FuncId} {after : DispatchTable} (tells : Tells count answered table)
    (reserved : table.reserve i = .ok after) :
    Tells count (answered ++ [(.reserve i, .ok ())]) after := by
  obtain ⟨stub, changed⟩ := reserve_eq_ok_iff.mp reserved
  have inside := tells.size ▸ lt_size_of_slot? stub
  have sameOrder : after.order = table.order := congrArg (·.order) changed
  have fresh : (.install i, .ok ()) ∉ answered := by
    intro listed
    have installed := (tells.slot i inside).symm.trans stub
    simp [told, listed] at installed
  constructor
  case size => exact (size_of_reserve reserved).trans tells.size
  case slot =>
    intro j inside
    rw [slot?_of_reserve reserved, tells.slot j inside]
    by_cases same : j = i
    · subst same
      simp [told, fresh]
    · simp [told, same]
  case order =>
    rw [sameOrder, List.filterMap_append, tells.order]
    exact (List.append_nil _).symm
  case distinct =>
    rw [sameOrder]
    exact tells.distinct
  case within =>
    rw [sameOrder]
    exact tells.within
  case reserved =>
    intro j listed
    have before : (.install j, .ok ()) ∈ answered := by simpa using listed
    exact List.mem_append_left _ (tells.reserved j before)

theorem install {i : FuncId} {after : DispatchTable} (tells : Tells count answered table)
    (installed : table.install i = .ok after) :
    Tells count (answered ++ [(.install i, .ok ())]) after := by
  obtain ⟨compiling, changed⟩ := install_eq_ok_iff.mp installed
  have inside := tells.size ▸ lt_size_of_slot? compiling
  have moreOrder : after.order.toList = table.order.toList ++ [i] := by
    rw [changed, Array.toList_push]
  have before : told answered i = .compiling :=
    Option.some.inj ((tells.slot i inside).symm.trans compiling)
  have fresh : (.install i, .ok ()) ∉ answered := by
    intro listed
    simp [told, listed] at before
  have begun : (.reserve i, .ok ()) ∈ answered := by
    by_contra missing
    simp [told, fresh, missing] at before
  constructor
  case size => exact (size_of_install installed).trans tells.size
  case slot =>
    intro j inside
    rw [slot?_of_install installed, tells.slot j inside]
    by_cases same : j = i
    · subst same
      simp [told]
    · simp [told, same]
  case order =>
    rw [moreOrder, List.filterMap_append, tells.order]
    rfl
  case distinct =>
    rw [moreOrder]
    refine List.nodup_append.mpr ⟨tells.distinct, List.nodup_singleton i, ?_⟩
    rintro j listed k last rfl
    obtain rfl := List.mem_singleton.mp last
    exact fresh ((tells.mem_order_iff j).mp listed)
  case within =>
    intro j listed
    rw [moreOrder] at listed
    rcases List.mem_append.mp listed with early | last
    · exact tells.within j early
    · obtain rfl := List.mem_singleton.mp last
      exact inside
  case reserved =>
    intro j listed
    rcases List.mem_append.mp listed with early | last
    · exact List.mem_append_left _ (tells.reserved j early)
    · obtain rfl : j = i := by simpa using last
      exact List.mem_append_left _ begun

/-- What the answers tell of a table, one more answer tells of the next table. -/
theorem step (tells : Tells count answered table) (call : Call) :
    Tells count (answered ++ [(call, table.answer call)]) (table.next call) := by
  cases given : table.answer call with
  | error fault =>
    rw [next_of_refused given]
    exact tells.refuse
  | ok granted =>
    have asked := ask_of_granted given
    cases call with
    | reserve i => exact tells.reserve asked
    | install i => exact tells.install asked

end Tells

/-- The answers to any calls tell of the table that they leave. -/
theorem log_tells (count : Nat) (calls : List Call) :
    Tells count ((ofSize count).log calls) ((ofSize count).replay calls) := by
  induction calls using List.reverseRecOn with
  | nil => exact .start count
  | append_singleton calls call ih =>
    rw [log_concat, replay_concat]
    exact ih.step call

/-- The history of a table decides everything about it. A function is reserved by the first call
that asks for that, and installed by the first such call behind it; every other call is refused for
what was granted before it, and changes nothing. The table lists the functions that were installed,
in their order, and locates the indices of its slots and no others. -/
theorem history_determines (count : Nat) (calls : List Call)
    (inside : ∀ call ∈ calls, call.func.slot < count) :
    ((ofSize count).log calls).map Prod.fst = calls ∧
    (∀ (earlier later : List Answered) (i : FuncId) (given : Except Fault Unit),
      (ofSize count).log calls = earlier ++ (.reserve i, given) :: later →
        given =
          if (.reserve i, .ok ()) ∉ earlier then .ok ()
          else if (.install i, .ok ()) ∉ earlier then .error (.reentered i)
          else .error (.repeated i)) ∧
    (∀ (earlier later : List Answered) (i : FuncId) (given : Except Fault Unit),
      (ofSize count).log calls = earlier ++ (.install i, given) :: later →
        given =
          if (.reserve i, .ok ()) ∉ earlier then .error (.unreserved i)
          else if (.install i, .ok ()) ∉ earlier then .ok ()
          else .error (.repeated i)) ∧
    (∀ (earlier later : List Answered) (call : Call) (fault : Fault),
      (ofSize count).log calls = earlier ++ (call, .error fault) :: later →
        (ofSize count).replay (earlier.map Prod.fst ++ [call]) =
          (ofSize count).replay (earlier.map Prod.fst)) ∧
    ∀ table, table = (ofSize count).replay calls →
      table.size = count ∧
      table.order.toList = ((ofSize count).log calls).filterMap Answered.installed? ∧
      table.order.toList.Nodup ∧
      (∀ i, i ∈ table.order.toList ↔ table.slot? i = some .installed) ∧
      table.countInstalled ≤ count ∧
      ∀ raw : Int32,
        (table.locate raw =
          if 0 ≤ raw.toInt ∧ raw.toInt < count then .ok ⟨raw.toUInt32⟩
          else .error (.outOfRange raw.toInt count)) ∧
        ∀ i, table.locate raw = .ok i → (i.slot : Int) = raw.toInt := by
  have asked := map_log (ofSize count) calls
  have slot : ∀ {earlier later : List Answered} {call : Call} {given : Except Fault Unit},
      (ofSize count).log calls = earlier ++ (call, given) :: later →
        given = ((ofSize count).replay (earlier.map Prod.fst)).answer call ∧
          Tells count earlier ((ofSize count).replay (earlier.map Prod.fst)) ∧
          call.func.slot < count := by
    intro earlier later call given split
    obtain ⟨before, answered⟩ := log_split split
    have tells := log_tells count (earlier.map Prod.fst)
    rw [before] at tells
    refine ⟨answered, tells, inside call ?_⟩
    rw [← asked, split]
    simp
  refine ⟨asked, ?_, ?_, ?_, ?_⟩
  · intro earlier later i given split
    obtain ⟨rfl, tells, within⟩ := slot split
    exact tells.reserve_answer within
  · intro earlier later i given split
    obtain ⟨rfl, tells, within⟩ := slot split
    exact tells.install_answer within
  · intro earlier later call fault split
    obtain ⟨refused, _, _⟩ := slot split
    rw [replay_concat, next_of_refused refused.symm]
  · rintro table rfl
    have tells := log_tells count calls
    generalize (ofSize count).replay calls = table at tells ⊢
    refine ⟨tells.size, tells.order, tells.distinct, tells.mem_order_iff_installed,
      FuncId.length_le_of_nodup tells.distinct tells.within, fun raw => ⟨?_, ?_⟩⟩
    · by_cases within : 0 ≤ raw.toInt ∧ raw.toInt < count
      · rw [if_pos within, locate_eq, tells.size, FuncId.ofRaw?, if_pos within]
      · rw [if_neg within, locate_eq, tells.size, FuncId.ofRaw?, if_neg within]
    · intro i located
      exact (locate_eq_ok_iff.mp located).1

/-- Two functions of three, the second of them only reserved, with every kind of refusal. -/
theorem sample_history :
    (∀ call ∈ [Call.install ⟨0⟩, .reserve ⟨0⟩, .reserve ⟨1⟩, .reserve ⟨0⟩, .install ⟨0⟩,
      .install ⟨0⟩, .reserve ⟨0⟩], call.func.slot < 3) ∧
    ((ofSize 3).log [.install ⟨0⟩, .reserve ⟨0⟩, .reserve ⟨1⟩, .reserve ⟨0⟩, .install ⟨0⟩,
        .install ⟨0⟩, .reserve ⟨0⟩]).map Prod.snd =
      [.error (.unreserved ⟨0⟩), .ok (), .ok (), .error (.reentered ⟨0⟩), .ok (),
        .error (.repeated ⟨0⟩), .error (.repeated ⟨0⟩)] ∧
    ((ofSize 3).replay [.install ⟨0⟩, .reserve ⟨0⟩, .reserve ⟨1⟩, .reserve ⟨0⟩, .install ⟨0⟩,
        .install ⟨0⟩, .reserve ⟨0⟩]).order.toList = [⟨0⟩] := by
  refine ⟨by decide, by decide, ?_⟩
  obtain ⟨_, _, _, _, last⟩ := history_determines 3 [.install ⟨0⟩, .reserve ⟨0⟩, .reserve ⟨1⟩,
    .reserve ⟨0⟩, .install ⟨0⟩, .install ⟨0⟩, .reserve ⟨0⟩] (by decide)
  obtain ⟨_, order, _⟩ := last _ rfl
  rw [order]
  decide

end DispatchTable

end FirstCall
