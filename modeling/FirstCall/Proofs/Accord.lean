import FirstCall.Proofs.Lockstep
import FirstCall.Proofs.Preparation

/-!
# Sessions in accord

Two sessions run the same program, each with a compiler service, files and an output of its own. If
what is outside them is related, and everything that a dispatcher does outside keeps the relation,
then set-up and every run go alike for both, and leave related things outside.
-/

namespace FirstCall

open Wasm

variable {σ τ α β : Type}

def Outside.print (outside : Outside σ) (value : Int32) : Outside σ :=
  { outside with world := outside.world.print value }

def Outside.refile (outside : Outside σ) (files : FileTree) : Outside σ :=
  { outside with world := { outside.world with files } }

/-- Done to related things, both effects answer alike, and what they leave is related again. -/
def Effect.Alike (O : Outside σ → Outside τ → Prop) (first : Effect σ α) (second : Effect τ α) :
    Prop :=
  ∀ ⦃x y⦄, O x y → (first x).1 = (second y).1 ∧ O (first x).2 (second y).2

namespace Effect.Alike

variable {O : Outside σ → Outside τ → Prop}

theorem answer (value : α) : Alike O (pure value : Effect σ α) (pure value : Effect τ α) :=
  fun _ _ related => ⟨rfl, related⟩

theorem bind {first : Effect σ α} {second : Effect τ α} {next : α → Effect σ β}
    {other : α → Effect τ β} (head : Alike O first second)
    (tail : ∀ value, Alike O (next value) (other value)) :
    Alike O (first >>= next) (second >>= other) := by
  intro x y related
  obtain ⟨same, after⟩ := head related
  rw [bind_apply, bind_apply]
  generalize first x = one at same after ⊢
  generalize second y = two at same after ⊢
  obtain ⟨result, x⟩ := one
  obtain ⟨_, y⟩ := two
  obtain rfl := same
  cases result with
  | error fault => exact ⟨rfl, after⟩
  | ok value => exact tail value after

end Effect.Alike

/-- Everything that two dispatchers do outside their sessions keeps a relation, and the requests
that they put to their services are answered alike. -/
structure Accord (service : Service σ) (other : Service τ) (O : Outside σ → Outside τ → Prop) :
    Prop where
  files : ∀ {x y}, O x y → x.world.files = y.world.files
  refiled : ∀ {x y} (files : FileTree), O x y → O (x.refile files) (y.refile files)
  recorded : ∀ {x y} (event : Event), event.printed? = none → O x y →
    O (x.record event) (y.record event)
  printed : ∀ {x y} (value : Int32), O x y → O (x.print value) (y.print value)
  parsed : ∀ source, Effect.Alike O (.ask (.parse source) (service.parse source))
    (.ask (.parse source) (other.parse source))
  built : ∀ ir, Effect.Alike O (.ask (.build ir) (service.build ir))
    (.ask (.build ir) (other.build ir))
  made : ∀ compiler, Effect.Alike O (.ask (.skeleton compiler) (service.skeleton compiler))
    (.ask (.skeleton compiler) (other.skeleton compiler))
  obtained : ∀ compiler i, Effect.Alike O (.ask (.unit compiler i) (service.unit compiler i))
    (.ask (.unit compiler i) (other.unit compiler i))

/-- The hosts of two sessions at the same point of the same program. -/
structure HostState.Paired (O : Outside σ → Outside τ → Prop) (state : HostState σ)
    (other : HostState τ) : Prop where
  outside : O state.outside other.outside
  compiler : state.compiler = other.compiler
  ledger : state.ledger = other.ledger
  shared : state.shared = other.shared
  println : state.println = other.println
  dump : state.dump = other.dump

namespace Accord

variable {service : Service σ} {other : Service τ} {O : Outside σ → Outside τ → Prop}
  (accord : Accord service other O)

include accord

theorem record (event : Event) (unprinted : event.printed? = none) :
    Effect.Alike O (.record event : Effect σ Unit) (.record event) :=
  fun _ _ related => ⟨rfl, accord.recorded event unprinted related⟩

theorem fetch {request : Request} {exchange : Exchange σ Bytes} {twin : Exchange τ Bytes}
    (asked : Effect.Alike O (.ask request exchange) (.ask request twin)) :
    Effect.Alike O (.fetch request exchange) (.fetch request twin) :=
  .bind asked fun _ => .bind (accord.record _ rfl) fun _ => .answer _

theorem writeBlob (path : String) (blob : Bytes) :
    Effect.Alike O (.writeBlob path blob : Effect σ Unit) (.writeBlob path blob) := by
  intro x y related
  rw [Effect.writeBlob_apply, Effect.writeBlob_apply, accord.files related]
  cases y.world.files.write path blob with
  | error cause => exact ⟨rfl, related⟩
  | ok files =>
    exact ⟨rfl, accord.recorded _ rfl (accord.recorded _ rfl (accord.refiled files related))⟩

theorem dumpSkeleton (dump : Option DumpDir) (blob : Bytes) :
    Effect.Alike O (.dumpSkeleton dump blob : Effect σ Unit) (.dumpSkeleton dump blob) := by
  cases dump with
  | none => exact .answer ()
  | some dir => exact accord.writeBlob _ blob

theorem dumpFunction (dump : Option DumpDir) (i : FuncId) (blob : Bytes) :
    Effect.Alike O (.dumpFunction dump i blob : Effect σ Unit) (.dumpFunction dump i blob) := by
  cases dump with
  | none => exact .answer ()
  | some dir => exact accord.writeBlob _ blob

theorem prepare (source : String) (dump : Option DumpDir) :
    Effect.Alike O (Session.prepare service source dump) (Session.prepare other source dump) := by
  unfold Session.prepare
  refine .bind (accord.parsed source) fun ir => ?_
  refine .bind (accord.built ir) fun compiler => ?_
  refine .bind (accord.fetch (accord.made compiler)) fun blob => ?_
  refine .bind (accord.record _ rfl) fun _ => ?_
  exact .bind (accord.dumpSkeleton dump blob) fun _ => .answer _

theorem obtain_alike (compiler : Service.Compiler) (dump : Option DumpDir) (i : FuncId) :
    Effect.Alike O (Trigger.obtain service compiler dump i)
      (Trigger.obtain other compiler dump i) := by
  unfold Trigger.obtain
  refine .bind (accord.fetch (accord.obtained compiler i)) fun blob => ?_
  exact .bind (accord.dumpFunction dump i blob) fun _ => .answer _

/-- Dispatchers in accord are partners, and neither has a way to escape the other. -/
theorem partners : Partners service other (HostState.Paired O) fun _ => False where
  recorded event _ unprinted paired :=
    { paired with outside := accord.recorded event unprinted paired.outside }
  printed value paired := { paired with outside := accord.printed value paired.outside }
  shared paired := paired.shared
  println paired := paired.println
  ledger paired := paired.ledger
  changed _ paired := { paired with ledger := rfl }
  obtained {x y} i paired := by
    rw [paired.compiler, paired.dump]
    obtain ⟨same, after⟩ := accord.obtain_alike y.compiler y.dump i paired.outside
    exact .inr ⟨_, _, _, rfl, Prod.ext same.symm rfl,
      after, rfl, paired.ledger, paired.shared, paired.println, rfl⟩
  passed _ _ := id

end Accord

/-- Where nothing escapes, both ended alike. -/
theorem Wasm.Matches.alike_of_inescapable {κ η θ ε : Type} {H : η → θ → Prop}
    {one : Except (Stop ε) α × Machine κ η} {two : Except (Stop ε) α × Machine κ θ}
    (matched : Matches H (fun _ => False) one two) :
    one.1 = two.1 ∧ one.2.store = two.2.store ∧ H one.2.host two.2.host := by
  cases matched with
  | escaped escapes => exact escapes.elim
  | alike result store related => exact ⟨rfl, rfl, related⟩

namespace Session

variable {service : Service σ} {other : Service τ} {O : Outside σ → Outside τ → Prop}

/-- Set-up goes alike. -/
theorem start_paired (accord : Accord service other O) (limits : Limits) (source : String)
    (settings : Settings) {outside : Outside σ} {beside : Outside τ} (related : O outside beside) :
    (∃ fault after twin, start service limits source settings outside = .error (fault, after) ∧
      start other limits source settings beside = .error (fault, twin) ∧ O after twin) ∨
    ∃ session twin, start service limits source settings outside = .ok session ∧
      start other limits source settings beside = .ok twin ∧
        session.Abreast (HostState.Paired O) twin := by
  unfold start
  dsimp only
  obtain ⟨same, after⟩ := accord.prepare source (settings.dump.map DumpDir.mk) related
  generalize prepare service source _ outside = one at same after ⊢
  generalize prepare other source _ beside = two at same after ⊢
  obtain ⟨result, outside⟩ := one
  obtain ⟨_, beside⟩ := two
  obtain rfl := same
  cases result with
  | error fault => exact .inl ⟨fault, outside, beside, rfl, rfl, after⟩
  | ok found =>
    obtain ⟨compiler, blob⟩ := found
    dsimp only
    have fresh : (HostState.fresh outside compiler (settings.dump.map DumpDir.mk)).Paired O
        (HostState.fresh beside compiler (settings.dump.map DumpDir.mk)) :=
      ⟨after, rfl, rfl, rfl, rfl, rfl⟩
    have calls := call_inStep accord.partners limits
    obtain ⟨same, store, host⟩ :=
      (accord.partners.loadSkeleton calls blob dispatchStore fresh).alike_of_inescapable
    generalize Skeleton.load (call service limits) blob _ = one at same store host ⊢
    generalize Skeleton.load (call other limits) blob _ = two at same store host ⊢
    obtain ⟨result, machine⟩ := one
    obtain ⟨_, mate⟩ := two
    obtain rfl := same
    cases result with
    | error why => exact .inl ⟨_, _, _, rfl, rfl, host.outside⟩
    | ok skeleton =>
      exact .inr ⟨_, _, rfl, rfl, store, { host with shared := rfl, ledger := rfl }, rfl, rfl⟩

/-- A run goes alike. -/
theorem run_paired (accord : Accord service other O) (limits : Limits) {session : Session σ}
    {twin : Session τ} (paired : session.Abreast (HostState.Paired O) twin) :
    (session.run service limits).1 = (twin.run other limits).1 ∧
      (session.run service limits).2.Abreast (HostState.Paired O) (twin.run other limits).2 :=
  (run_abreast accord.partners limits paired).resolve_left fun ⟨_, escapes, _⟩ => escapes

theorem rerun_paired (accord : Accord service other O) (limits : Limits) (runs : Nat)
    {session : Session σ} {twin : Session τ} (paired : session.Abreast (HostState.Paired O) twin) :
    (session.rerun service limits runs).Abreast (HostState.Paired O)
      (twin.rerun other limits runs) := by
  induction runs generalizing session twin with
  | zero => exact paired
  | succ runs ih => exact ih (run_paired accord limits paired).2

end Session

end FirstCall
