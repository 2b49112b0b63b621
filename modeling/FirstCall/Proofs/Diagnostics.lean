import FirstCall.CommandLine.Fault

/-!
# What the user is told

A failure is reported as a chain: what it says itself, what its source says, what the source of that
says, and so on. The report of a command puts one message in front of the chain of the run and loses
nothing of it. A failure of the compiler service adds its own chain, once, whether or not it comes in
the wrapping of a session; the wrapping says what it wraps and passes its source on.
-/

namespace FirstCall

/-- A failure of the engine or of the file system: what it says, and what the failures beneath it
say, the nearest first. -/
structure Foreign where
  message : String
  beneath : List String
  deriving DecidableEq, Repr

/-- How failures of the engine and of the file system are told. -/
structure Telling where
  engine : Cause → List String
  files : FileFault → Foreign

namespace Telling

/-- Nothing lies beneath the failures of the engine and of the file system. -/
def plain : Telling := ⟨fun _ => [], fun cause => ⟨cause.message, []⟩⟩

/-- The failure of the engine that is the cause of another one. -/
def foreign (telling : Telling) (cause : Cause) : Foreign := ⟨cause.message, telling.engine cause⟩

end Telling

/-- The failure of the engine or of the file system that a failure of the service names as its
source. -/
def Service.Fault.source? (telling : Telling) : Service.Fault → Option Foreign
  | .unreadable _ cause => some (telling.files cause)
  | .unloadable cause => some (telling.foreign cause)
  | .stopped _ cause => some (telling.foreign cause)
  | _ => none

/-- The same for a failure of a session. A failure of the service comes in a wrapping that passes on
the source of what it wraps. -/
def Session.Fault.source? (telling : Telling) : Session.Fault → Option Foreign
  | .service fault => fault.source? telling
  | .unloadable _ cause => some (telling.foreign cause)
  | .unwritable _ cause => some (telling.files cause)
  | .stopped _ cause => some (telling.foreign cause)
  | _ => none

/-- A failure at some place of a chain. -/
inductive Link where
  | command (fault : Command.Fault)
  | session (fault : Session.Fault)
  | service (fault : Service.Fault)
  | foreign (fault : Foreign)
  deriving DecidableEq, Repr

namespace Link

def message : Link → String
  | .command fault => fault.message
  | .session fault => fault.message
  | .service fault => fault.message
  | .foreign fault => fault.message

def source? (telling : Telling) : Link → Option Link
  | .command (.source _ cause) => some (.foreign (telling.files cause))
  | .command (.serviceUnavailable _ cause) => some (.service cause)
  | .command (.compilation cause) => some (.service cause)
  | .command (.run cause) => some (.session cause)
  | .session fault => (fault.source? telling).map foreign
  | .service fault => (fault.source? telling).map foreign
  | .foreign ⟨_, []⟩ => none
  | .foreign ⟨_, next :: rest⟩ => some (.foreign ⟨next, rest⟩)

/-- How many failures lie beneath the failures of the engine and the file system, and above them. -/
def depth (telling : Telling) : Link → Nat
  | .command (.source _ cause) => (telling.files cause).beneath.length + 1
  | .command (.serviceUnavailable _ cause) => below (cause.source? telling) + 1
  | .command (.compilation cause) => below (cause.source? telling) + 1
  | .command (.run cause) => below (cause.source? telling) + 1
  | .session fault => below (fault.source? telling)
  | .service fault => below (fault.source? telling)
  | .foreign fault => fault.beneath.length
where
  below : Option Foreign → Nat
    | none => 0
    | some fault => fault.beneath.length + 1

theorem depth_source? {telling : Telling} {link next : Link}
    (named : link.source? telling = some next) : next.depth telling < link.depth telling := by
  have map : ∀ {found : Option Foreign}, found.map foreign = some next →
      next.depth telling < depth.below found := by
    intro found named
    obtain ⟨fault, rfl, rfl⟩ := Option.map_eq_some_iff.mp named
    exact Nat.lt_succ_self _
  cases link with
  | command fault => cases fault <;> obtain rfl := Option.some.inj named <;> exact Nat.lt_succ_self _
  | session fault => exact map named
  | service fault => exact map named
  | foreign fault =>
    obtain ⟨message, _ | ⟨first, rest⟩⟩ := fault
    · cases named
    · obtain rfl := Option.some.inj named
      exact Nat.lt_succ_self _

def chain (telling : Telling) (link : Link) : List String :=
  link.message :: match _named : link.source? telling with
    | none => []
    | some next => next.chain telling
termination_by link.depth telling
decreasing_by exact depth_source? _named

variable {telling : Telling} {link next : Link}

theorem chain_of_source (named : link.source? telling = some next) :
    link.chain telling = link.message :: next.chain telling := by
  rw [chain]
  split
  · next none => cases named.symm.trans none
  · next found same =>
    obtain rfl := Option.some.inj (named.symm.trans same)
    rfl

theorem chain_of_sourceless (bottom : link.source? telling = none) :
    link.chain telling = [link.message] := by
  rw [chain]
  split
  · rfl
  · next found same => cases bottom.symm.trans same

/-- The chain is told by what the failure says and by its source. -/
theorem chain_congr {other : Link} (message : link.message = other.message)
    (source : link.source? telling = other.source? telling) :
    link.chain telling = other.chain telling := by
  cases named : other.source? telling with
  | none => rw [chain_of_sourceless (source.trans named), chain_of_sourceless named, message]
  | some next => rw [chain_of_source (source.trans named), chain_of_source named, message]

theorem chain_foreign (message : String) (beneath : List String) :
    chain telling (.foreign ⟨message, beneath⟩) = message :: beneath := by
  induction beneath generalizing message with
  | nil => exact chain_of_sourceless rfl
  | cons first rest ih => rw [chain_of_source rfl, ih]; rfl

/-- The chain of a failure whose source is one of the engine or the file system, if it has one. -/
theorem chain_of_foreign {found : Option Foreign}
    (named : link.source? telling = found.map foreign) :
    link.chain telling = link.message :: found.elim [] fun fault => fault.message :: fault.beneath := by
  cases found with
  | none => exact chain_of_sourceless named
  | some fault => rw [chain_of_source named, chain_foreign]; rfl

theorem chain_service (fault : Service.Fault) :
    chain telling (.service fault) =
      fault.message :: (fault.source? telling).elim [] fun fault => fault.message :: fault.beneath :=
  chain_of_foreign rfl

theorem chain_session (fault : Session.Fault) :
    chain telling (.session fault) =
      fault.message :: (fault.source? telling).elim [] fun fault => fault.message :: fault.beneath :=
  chain_of_foreign rfl

/-- The wrapping of a session adds nothing to a failure of the service and hides nothing of it. -/
theorem chain_session_service (fault : Service.Fault) :
    chain telling (.session (.service fault)) = chain telling (.service fault) :=
  chain_congr rfl rfl

theorem chain_plain_service (fault : Service.Fault) :
    chain .plain (.service fault) = fault.chain := by
  rw [chain_service]
  cases fault <;> rfl

theorem chain_plain_session (fault : Session.Fault) :
    chain .plain (.session fault) = fault.chain := by
  rw [chain_session]
  cases fault with
  | service fault => cases fault <;> rfl
  | _ => rfl

/-- With nothing beneath the failures of the engine and the file system, a command prints the chain
of its failure. -/
theorem chain_plain_command (fault : Command.Fault) :
    chain .plain (.command fault) = fault.chain := by
  cases fault with
  | source path cause => rw [chain_of_source rfl, Telling.plain, chain_foreign]; rfl
  | serviceUnavailable path cause => rw [chain_of_source rfl, chain_plain_service]; rfl
  | compilation cause => rw [chain_of_source rfl, chain_plain_service]; rfl
  | run cause => rw [chain_of_source rfl, chain_plain_session]; rfl

end Link

namespace Command.Fault

/-- The failure of the compiler service that the report carries, if it carries one. -/
def service? : Command.Fault → Option Service.Fault
  | .serviceUnavailable _ fault => some fault
  | .compilation fault => some fault
  | _ => none

/-- A failure of the service is what the report of the command names as its source. -/
theorem source?_ofSession_service (telling : Telling) (path : String) (fault : Service.Fault) :
    (Link.command (ofSession path (.service fault))).source? telling = some (.service fault) ∧
      (ofSession path (.service fault)).service? = some fault := by
  cases fault <;> exact ⟨rfl, rfl⟩

theorem ofSession_of_unserved (path : String) {fault : Session.Fault}
    (unserved : ∀ inner, fault ≠ .service inner) : ofSession path fault = .run fault := by
  cases fault with
  | service inner => exact absurd rfl (unserved inner)
  | _ => rfl

/-- Nothing is lost on the way from a failed run to the user. The report says one thing more than
the failure of the run and then the same things; a failure of the service is still there, with the
stage at which it arose, and any other failure of a session is there as it was. -/
theorem report_complete (telling : Telling) (path : String) (fault : Session.Fault) :
    Link.chain telling (.command (ofSession path fault)) =
        (ofSession path fault).message :: Link.chain telling (.session fault) ∧
      (∀ inner, fault = .service inner →
        Link.chain telling (.session fault) = Link.chain telling (.service inner) ∧
          (ofSession path fault).service? = some inner ∧
          (ofSession path fault).service?.bind Service.Fault.stage? = inner.stage?) ∧
      ((∀ inner, fault ≠ .service inner) → ofSession path fault = .run fault) ∧
      (ofSession path fault).chain = Link.chain .plain (.command (ofSession path fault)) := by
  refine ⟨?_, ?_, ofSession_of_unserved path, (Link.chain_plain_command _).symm⟩
  · by_cases served : ∃ inner, fault = .service inner
    · obtain ⟨inner, rfl⟩ := served
      rw [Link.chain_of_source (source?_ofSession_service telling path inner).1,
        Link.chain_session_service]
      rfl
    · rw [ofSession_of_unserved path fun inner same => served ⟨inner, same⟩]
      exact Link.chain_of_source rfl
  · rintro inner rfl
    obtain ⟨_, carried⟩ := source?_ofSession_service telling path inner
    exact ⟨Link.chain_session_service inner, carried, congrArg (·.bind Service.Fault.stage?) carried⟩

/-- The service stopped with words of its own and two failures beneath them, and the user reads all
of them. A call of the trigger that was refused is reported as it is. -/
theorem sample_report_complete :
    Link.chain ⟨fun _ => ["in guest code", "bad token"], fun _ => ⟨"", []⟩⟩
        (.command (ofSession "service.wasm" (.service (.stopped .parse (.told "stopped"))))) =
      ["Compilation failed", "Compiler service trapped during parse", "stopped", "in guest code",
        "bad token"] ∧
    (ofSession "service.wasm" (.service (.stopped .parse (.told "stopped")))).service?.bind
        Service.Fault.stage? = some .parse ∧
    ofSession "service.wasm" (.table (.reentered ⟨2⟩)) = .run (.table (.reentered ⟨2⟩)) := by
  let telling : Telling := ⟨fun _ => ["in guest code", "bad token"], fun _ => ⟨"", []⟩⟩
  obtain ⟨whole, wrapped, _⟩ :=
    report_complete telling "service.wasm" (.service (.stopped .parse (.told "stopped")))
  obtain ⟨same, _, stage⟩ := wrapped _ rfl
  refine ⟨?_, stage, (report_complete telling "service.wasm" (.table (.reentered ⟨2⟩))).2.2.1
    fun inner => nofun⟩
  rw [whole, same, Link.chain_service]
  rfl

end Command.Fault

end FirstCall
