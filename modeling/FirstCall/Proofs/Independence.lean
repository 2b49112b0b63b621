import FirstCall.Proofs.Histories

/-!
# Independence of slots

A call of the dispatch table looks at one slot and changes no other. So each slot goes its own way,
however the calls for different slots are mixed: the answers and the states of the slots stay the
same, and only the order of installation can tell two mixtures apart.
-/

namespace FirstCall

section Pairs

variable {α : Type} [DecidableEq α] {a b : α} {xs ys : List α}

theorem idxOf_lt_of_pair (distinct : xs.Nodup) (pair : [a, b].Sublist xs) :
    xs.idxOf a < xs.idxOf b := by
  obtain ⟨first, second, rfl, left, right⟩ := List.cons_sublist_iff.mp pair
  have behind : b ∉ first := fun found =>
    (List.nodup_append.mp distinct).2.2 b found b (List.singleton_sublist.mp right) rfl
  rw [List.idxOf_append_of_mem left, List.idxOf_append_of_notMem behind]
  exact Nat.lt_of_lt_of_le (List.idxOf_lt_length_of_mem left) (Nat.le_add_right _ _)

/-- Two arrangements of distinct items are equal if every two items are in the same order. -/
theorem eq_of_pairs (distinct : xs.Nodup) (perm : xs.Perm ys)
    (pairs : ∀ a b, [a, b].Sublist xs ↔ [a, b].Sublist ys) : xs = ys := by
  have ordered : xs.Pairwise fun a b => [a, b].Sublist xs :=
    List.pairwise_iff_forall_sublist.mpr id
  have orderedToo : ys.Pairwise fun a b => [a, b].Sublist xs :=
    List.pairwise_iff_forall_sublist.mpr fun pair => (pairs _ _).mpr pair
  refine perm.eq_of_pairwise (fun a b _ _ one other => ?_) ordered orderedToo
  exact absurd (idxOf_lt_of_pair distinct one) (Nat.lt_asymm (idxOf_lt_of_pair distinct other))

end Pairs

namespace DispatchTable

section Slots

variable {table other : DispatchTable} {call : Call} {i : FuncId}

/-- A call is answered for what its own slot is. -/
theorem answer_congr (same : table.slot? call.func = other.slot? call.func) :
    table.answer call = other.answer call := by
  cases call with
  | reserve i =>
    change (table.reserve i).map _ = (other.reserve i).map _
    unfold reserve
    rw [show table.slot? i = other.slot? i from same]
    rcases other.slot? i with _ | _ | _ | _ <;> rfl
  | install i =>
    change (table.install i).map _ = (other.install i).map _
    unfold install
    rw [show table.slot? i = other.slot? i from same]
    rcases other.slot? i with _ | _ | _ | _ <;> rfl

def Call.outcome : Call → Slot
  | .reserve _ => .compiling
  | .install _ => .installed

theorem slot?_next_of_granted (granted : table.answer call = .ok ()) (j : FuncId) :
    (table.next call).slot? j = if j = call.func then some call.outcome else table.slot? j := by
  have asked := ask_of_granted granted
  cases call with
  | reserve i => exact slot?_of_reserve asked j
  | install i => exact slot?_of_install asked j

theorem slot?_next_of_ne (apart : call.func ≠ i) : (table.next call).slot? i = table.slot? i := by
  cases given : table.answer call with
  | error fault => rw [next_of_refused given]
  | ok granted => rw [slot?_next_of_granted given, if_neg fun same => apart same.symm]

theorem slot?_next_congr (same : table.slot? call.func = other.slot? call.func) :
    (table.next call).slot? call.func = (other.next call).slot? call.func := by
  have alike := answer_congr same
  cases given : table.answer call with
  | error fault =>
    rw [next_of_refused given, next_of_refused (alike.symm.trans given)]
    exact same
  | ok granted =>
    rw [slot?_next_of_granted given, slot?_next_of_granted (alike.symm.trans given), if_pos rfl,
      if_pos rfl]

theorem log_filter (calls : List Call) (same : table.slot? i = other.slot? i) :
    (table.log calls).filter (·.1.func = i) = other.log (calls.filter (·.func = i)) ∧
      (table.replay calls).slot? i = (other.replay (calls.filter (·.func = i))).slot? i := by
  induction calls generalizing table other with
  | nil => exact ⟨rfl, same⟩
  | cons call rest ih =>
    by_cases here : call.func = i
    · subst here
      obtain ⟨answers, slot⟩ := ih (slot?_next_congr same)
      simp only [log, List.filter_cons, decide_true, if_true, answers, answer_congr same]
      exact ⟨trivial, slot⟩
    · have kept : (table.next call).slot? i = other.slot? i := (slot?_next_of_ne here).trans same
      obtain ⟨answers, slot⟩ := ih kept
      simp only [log, List.filter_cons, here, decide_false, Bool.false_eq_true, if_false, answers]
      exact ⟨trivial, slot⟩

end Slots

/-- The installations among answered calls, put back into calls with their answers. -/
theorem installed_sublist (answered : List Answered) :
    ((answered.filterMap Answered.installed?).map fun i => ((.install i, .ok ()) : Answered)).Sublist
      answered := by
  induction answered with
  | nil => exact List.Sublist.refl _
  | cons first rest ih =>
    rw [List.filterMap_cons]
    split
    · exact ih.cons first
    · next i installed =>
      have same : first = (.install i, .ok ()) := by
        unfold Answered.installed? at installed
        split at installed
        · cases installed
          rfl
        · cases installed
      subst same
      exact ih.cons_cons _

/-- Two functions were installed in the order in which the table lists them. -/
theorem Tells.pair_iff {count : Nat} {answered : List Answered} {table : DispatchTable}
    (tells : Tells count answered table) (i j : FuncId) :
    [i, j].Sublist table.order.toList ↔
      [((.install i, .ok ()) : Answered), (.install j, .ok ())].Sublist answered := by
  rw [tells.order]
  constructor
  · intro pair
    exact (pair.map _).trans (installed_sublist answered)
  · intro pair
    exact pair.filterMap Answered.installed?

/-- Calls for different slots do not interfere. If two lists of calls have the same calls for each
function, in the same order, then each call is answered the same in both, and each slot ends in the
same state. The same functions are installed, and in the same order exactly if every two
installations are granted in the same order. -/
theorem slots_independent (count : Nat) (calls others : List Call)
    (same : ∀ i, calls.filter (·.func = i) = others.filter (·.func = i)) :
    (∀ i, ((ofSize count).log calls).filter (·.1.func = i) =
      ((ofSize count).log others).filter (·.1.func = i)) ∧
    (∀ i, ((ofSize count).replay calls).slot? i = ((ofSize count).replay others).slot? i) ∧
    ((ofSize count).replay calls).order.toList.Perm ((ofSize count).replay others).order.toList ∧
    (((ofSize count).replay calls).order = ((ofSize count).replay others).order ↔
      ∀ i j,
        [((.install i, .ok ()) : Answered), (.install j, .ok ())].Sublist
            ((ofSize count).log calls) ↔
          [((.install i, .ok ()) : Answered), (.install j, .ok ())].Sublist
            ((ofSize count).log others)) := by
  have alone : ∀ (i : FuncId) (calls : List Call),
      ((ofSize count).log calls).filter (·.1.func = i) =
          (ofSize count).log (calls.filter (·.func = i)) ∧
        ((ofSize count).replay calls).slot? i =
          ((ofSize count).replay (calls.filter (·.func = i))).slot? i :=
    fun _ calls => log_filter calls rfl
  have slots : ∀ i,
      ((ofSize count).replay calls).slot? i = ((ofSize count).replay others).slot? i := fun i => by
    rw [(alone i calls).2, (alone i others).2, same i]
  have tells := log_tells count calls
  have tellsToo := log_tells count others
  have perm : ((ofSize count).replay calls).order.toList.Perm
      ((ofSize count).replay others).order.toList := by
    refine (List.perm_ext_iff_of_nodup tells.distinct tellsToo.distinct).mpr fun i => ?_
    rw [tells.mem_order_iff_installed, tellsToo.mem_order_iff_installed, slots i]
  refine ⟨fun i => ?_, slots, perm, ?_⟩
  · rw [(alone i calls).1, (alone i others).1, same i]
  · constructor
    · intro equal i j
      rw [← tells.pair_iff, ← tellsToo.pair_iff, equal]
    · intro pairs
      refine Array.toList_inj.mp (eq_of_pairs tells.distinct perm fun i j => ?_)
      rw [tells.pair_iff, tellsToo.pair_iff]
      exact pairs i j

namespace Sample

/-- Two functions, one behind the other; the second one is installed twice. -/
def inTurn : List Call :=
  [.reserve ⟨0⟩, .install ⟨0⟩, .reserve ⟨1⟩, .install ⟨1⟩, .install ⟨1⟩]

/-- The same calls for each function, but the second one is installed first. -/
def entwined : List Call :=
  [.reserve ⟨0⟩, .reserve ⟨1⟩, .install ⟨1⟩, .install ⟨1⟩, .install ⟨0⟩]

end Sample

/-- Mixed in two ways, the same calls lead to the same slots, but to different orders. -/
theorem sample_independent :
    (∀ i, Sample.inTurn.filter (·.func = i) = Sample.entwined.filter (·.func = i)) ∧
    (∀ i, ((ofSize 2).replay Sample.inTurn).slot? i = ((ofSize 2).replay Sample.entwined).slot? i) ∧
    ((ofSize 2).log Sample.entwined).filter (·.1.func = ⟨1⟩) =
      [(.reserve ⟨1⟩, .ok ()), (.install ⟨1⟩, .ok ()),
        (.install ⟨1⟩, .error (.repeated ⟨1⟩))] ∧
    ¬ ∀ i j,
      [((.install i, .ok ()) : Answered), (.install j, .ok ())].Sublist
          ((ofSize 2).log Sample.inTurn) ↔
        [((.install i, .ok ()) : Answered), (.install j, .ok ())].Sublist
          ((ofSize 2).log Sample.entwined) := by
  have same : ∀ i, Sample.inTurn.filter (·.func = i) = Sample.entwined.filter (·.func = i) := by
    intro i
    by_cases first : ⟨0⟩ = i
    · subst first
      decide
    · by_cases second : ⟨1⟩ = i
      · subst second
        decide
      · simp [Sample.inTurn, Sample.entwined, Call.func, first, second]
  obtain ⟨answers, slots, _, order⟩ := slots_independent 2 Sample.inTurn Sample.entwined same
  refine ⟨same, slots, ?_, fun pairs => ?_⟩
  · rw [← answers]
    decide
  · exact absurd (order.mpr pairs) (by decide)

end DispatchTable

end FirstCall
