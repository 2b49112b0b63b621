import Mathlib.Data.List.Nodup
import FirstCall.Session.World

/-!
# Compile forests

A call of the trigger that begins to compile its function may lead to further such calls while the
unit is being loaded. Nested in this way the calls form a forest, which is read off a history by
their beginnings and ends alone. Its two orders are the orders in which the calls begin and in which
they end.
-/

namespace FirstCall

/-- The functions that calls of the trigger began to compile. A tree stands for one call, with
whether it ended well and with the calls inside it; behind it stand the calls that came later. -/
inductive Forest where
  | empty
  | tree (i : FuncId) (done : Bool) (inner rest : Forest)
  deriving DecidableEq, Repr

namespace Forest

def append : Forest → Forest → Forest
  | empty, later => later
  | tree i done inner rest, later => tree i done inner (rest.append later)

instance : Append Forest := ⟨append⟩

def preorder : Forest → List FuncId
  | empty => []
  | tree i _ inner rest => i :: (inner.preorder ++ rest.preorder)

/-- The functions whose calls ended well, each after those inside its call. -/
def postorder : Forest → List FuncId
  | empty => []
  | tree i done inner rest => inner.postorder ++ (if done then [i] else []) ++ rest.postorder

def Done : Forest → Prop
  | empty => True
  | tree _ done inner rest => done = true ∧ inner.Done ∧ rest.Done

/-- A call can only end well if all those inside it did. -/
def Upright : Forest → Prop
  | empty => True
  | tree _ done inner rest => (done = true → inner.Done) ∧ inner.Upright ∧ rest.Upright

/-- A call for `i` was inside one for `j`. -/
def Within (i j : FuncId) : Forest → Prop
  | empty => False
  | tree k _ inner rest => k = j ∧ i ∈ inner.preorder ∨ inner.Within i j ∨ rest.Within i j

/-- A call for `i` had ended when one for `j` began. -/
def Before (i j : FuncId) : Forest → Prop
  | empty => False
  | tree k _ inner rest =>
    i ∈ k :: inner.preorder ∧ j ∈ rest.preorder ∨ inner.Before i j ∨ rest.Before i j

/-- A call, which need not have begun to compile anything, around a forest. -/
def enclose (call : Option FuncId) (done : Bool) (inner : Forest) : Forest :=
  match call with
  | none => inner
  | some i => tree i done inner empty

variable {forest later : Forest} {i j : FuncId}

@[simp] theorem empty_append (later : Forest) : empty ++ later = later := rfl

@[simp] theorem tree_append (i : FuncId) (done : Bool) (inner rest later : Forest) :
    tree i done inner rest ++ later = tree i done inner (rest ++ later) := rfl

@[simp] theorem preorder_append (forest later : Forest) :
    (forest ++ later).preorder = forest.preorder ++ later.preorder := by
  induction forest with
  | empty => rfl
  | tree i done inner rest _ ihRest =>
    simp only [tree_append, preorder, ihRest, List.append_assoc, List.cons_append]

@[simp] theorem postorder_append (forest later : Forest) :
    (forest ++ later).postorder = forest.postorder ++ later.postorder := by
  induction forest with
  | empty => rfl
  | tree i done inner rest _ ihRest =>
    simp only [tree_append, postorder, ihRest, List.append_assoc]

theorem Done.append (first : forest.Done) (second : later.Done) : (forest ++ later).Done := by
  induction forest with
  | empty => exact second
  | tree i done inner rest _ ihRest =>
    obtain ⟨well, inside, behind⟩ := first
    exact ⟨well, inside, ihRest behind⟩

theorem Upright.append (first : forest.Upright) (second : later.Upright) :
    (forest ++ later).Upright := by
  induction forest with
  | empty => exact second
  | tree i done inner rest _ ihRest =>
    obtain ⟨well, inside, behind⟩ := first
    exact ⟨well, inside, ihRest behind⟩

theorem Done.upright (done : forest.Done) : forest.Upright := by
  induction forest with
  | empty => trivial
  | tree i well inner rest ihInner ihRest =>
    obtain ⟨_, inside, behind⟩ := done
    exact ⟨fun _ => inside, ihInner inside, ihRest behind⟩

@[simp] theorem preorder_enclose (call : Option FuncId) (done : Bool) (inner : Forest) :
    (enclose call done inner).preorder = call.toList ++ inner.preorder := by
  cases call with
  | none => rfl
  | some i => exact congrArg (i :: ·) (List.append_nil _)

@[simp] theorem postorder_enclose (call : Option FuncId) (done : Bool) (inner : Forest) :
    (enclose call done inner).postorder =
      inner.postorder ++ if done then call.toList else [] := by
  cases call with
  | none => cases done <;> exact (List.append_nil _).symm
  | some i => exact List.append_nil _

theorem Done.enclose (done : forest.Done) (call : Option FuncId) :
    (enclose call true forest).Done := by
  cases call with
  | none => exact done
  | some i => exact ⟨rfl, done, trivial⟩

theorem Upright.unended (upright : forest.Upright) (call : Option FuncId) :
    (Forest.enclose call false forest).Upright := by
  cases call with
  | none => exact upright
  | some i => exact ⟨nofun, upright, trivial⟩

theorem postorder_subset (forest : Forest) : forest.postorder ⊆ forest.preorder := by
  induction forest with
  | empty => exact List.Subset.refl _
  | tree i done inner rest ihInner ihRest =>
    intro j member
    rcases List.mem_append.mp member with member | behind
    · rcases List.mem_append.mp member with inside | own
      · exact List.mem_cons_of_mem _ (List.mem_append_left _ (ihInner inside))
      · cases done with
        | false => cases own
        | true =>
          rw [List.mem_singleton.mp own]
          exact List.mem_cons_self
    · exact List.mem_cons_of_mem _ (List.mem_append_right _ (ihRest behind))

theorem Done.postorder (done : forest.Done) : forest.preorder ⊆ forest.postorder := by
  induction forest with
  | empty => exact List.Subset.refl _
  | tree i well inner rest ihInner ihRest =>
    obtain ⟨rfl, inside, behind⟩ := done
    intro j member
    rcases List.mem_cons.mp member with rfl | member
    · exact List.mem_append_left _ (List.mem_append_right _ (List.mem_singleton_self _))
    · rcases List.mem_append.mp member with member | member
      · exact List.mem_append_left _ (List.mem_append_left _ (ihInner inside member))
      · exact List.mem_append_right _ (ihRest behind member)

/-- Without nested calls the two orders are the same, but for the calls that failed. -/
theorem postorder_sublist (flat : ∀ i j, ¬ forest.Within i j) :
    forest.postorder.Sublist forest.preorder := by
  induction forest with
  | empty => exact List.Sublist.refl _
  | tree k done inner rest _ ihRest =>
    have childless : inner.preorder = [] :=
      List.eq_nil_iff_forall_not_mem.mpr fun i inside => flat i k (.inl ⟨rfl, inside⟩)
    have barren : inner.postorder = [] := List.subset_nil.mp (childless ▸ inner.postorder_subset)
    have behind := ihRest fun i j within => flat i j (.inr (.inr within))
    have own : (if done then [k] else []).Sublist [k] := by
      cases done
      · exact List.nil_sublist _
      · exact List.Sublist.refl _
    rw [postorder, preorder, barren, childless]
    exact own.append behind

section Tree

variable {k : FuncId} {done : Bool} {inner rest : Forest}

theorem mem_preorder_tree :
    i ∈ (tree k done inner rest).preorder ↔ i = k ∨ i ∈ inner.preorder ∨ i ∈ rest.preorder := by
  simp only [preorder, List.mem_cons, List.mem_append]

theorem mem_postorder_tree :
    i ∈ (tree k done inner rest).postorder ↔
      i ∈ inner.postorder ∨ (done = true ∧ i = k) ∨ i ∈ rest.postorder := by
  cases done <;> simp [postorder]

theorem nodup_tree :
    (tree k done inner rest).preorder.Nodup ↔
      (k ∉ inner.preorder ∧ k ∉ rest.preorder) ∧ inner.preorder.Nodup ∧ rest.preorder.Nodup ∧
        inner.preorder.Disjoint rest.preorder := by
  simp only [preorder, List.nodup_cons, List.mem_append, not_or, List.nodup_append']

/-- Where functions are begun once, what is compiled is found where it was begun. -/
theorem mem_inner_of_compiled (distinct : (tree k done inner rest).preorder.Nodup)
    (inside : i ∈ inner.preorder) (compiled : i ∈ (tree k done inner rest).postorder) :
    i ∈ inner.postorder := by
  obtain ⟨⟨outside, _⟩, _, _, apart⟩ := nodup_tree.mp distinct
  rcases mem_postorder_tree.mp compiled with found | ⟨_, rfl⟩ | behind
  · exact found
  · exact absurd inside outside
  · exact absurd (rest.postorder_subset behind) (apart inside)

theorem mem_rest_of_compiled (distinct : (tree k done inner rest).preorder.Nodup)
    (behind : i ∈ rest.preorder) (compiled : i ∈ (tree k done inner rest).postorder) :
    i ∈ rest.postorder := by
  obtain ⟨⟨_, outside⟩, _, _, apart⟩ := nodup_tree.mp distinct
  rcases mem_postorder_tree.mp compiled with inside | ⟨_, rfl⟩ | found
  · exact absurd behind (apart (inner.postorder_subset inside))
  · exact absurd behind outside
  · exact found

theorem inner_sublist : inner.postorder.Sublist (tree k done inner rest).postorder := by
  rw [postorder, List.append_assoc]
  exact List.sublist_append_left _ _

theorem rest_sublist : rest.postorder.Sublist (tree k done inner rest).postorder :=
  List.sublist_append_right _ _

end Tree

theorem Within.mem (within : forest.Within i j) : i ∈ forest.preorder ∧ j ∈ forest.preorder := by
  induction forest with
  | empty => cases within
  | tree k done inner rest ihInner ihRest =>
    rw [mem_preorder_tree, mem_preorder_tree]
    rcases within with ⟨rfl, inside⟩ | within | within
    · exact ⟨.inr (.inl inside), .inl rfl⟩
    · exact ⟨.inr (.inl (ihInner within).1), .inr (.inl (ihInner within).2)⟩
    · exact ⟨.inr (.inr (ihRest within).1), .inr (.inr (ihRest within).2)⟩

theorem Before.mem (before : forest.Before i j) : i ∈ forest.preorder ∧ j ∈ forest.preorder := by
  induction forest with
  | empty => cases before
  | tree k done inner rest ihInner ihRest =>
    rw [mem_preorder_tree, mem_preorder_tree]
    rcases before with ⟨first, behind⟩ | before | before
    · rcases List.mem_cons.mp first with rfl | inside
      · exact ⟨.inl rfl, .inr (.inr behind)⟩
      · exact ⟨.inr (.inl inside), .inr (.inr behind)⟩
    · exact ⟨.inr (.inl (ihInner before).1), .inr (.inl (ihInner before).2)⟩
    · exact ⟨.inr (.inr (ihRest before).1), .inr (.inr (ihRest before).2)⟩

/-- What was begun inside a call that ended well was compiled before its function. -/
theorem Within.order (within : forest.Within i j) (upright : forest.Upright)
    (distinct : forest.preorder.Nodup) (compiled : j ∈ forest.postorder) :
    [i, j].Sublist forest.postorder := by
  induction forest with
  | empty => cases within
  | tree k done inner rest ihInner ihRest =>
    obtain ⟨well, uprightInner, uprightRest⟩ := upright
    obtain ⟨⟨apartInner, apartRest⟩, distinctInner, distinctRest, _⟩ := nodup_tree.mp distinct
    rcases within with ⟨rfl, inside⟩ | within | within
    · rcases mem_postorder_tree.mp compiled with nested | ⟨rfl, _⟩ | behind
      · exact absurd (inner.postorder_subset nested) apartInner
      · have first : [i].Sublist inner.postorder :=
          List.singleton_sublist.mpr ((well rfl).postorder inside)
        exact (first.append (List.Sublist.refl [k])).trans (List.sublist_append_left _ _)
      · exact absurd (rest.postorder_subset behind) apartRest
    · have nested := mem_inner_of_compiled distinct within.mem.2 compiled
      exact (ihInner within uprightInner distinctInner nested).trans inner_sublist
    · have behind := mem_rest_of_compiled distinct within.mem.2 compiled
      exact (ihRest within uprightRest distinctRest behind).trans rest_sublist

theorem Before.order (before : forest.Before i j) (distinct : forest.preorder.Nodup)
    (first : i ∈ forest.postorder) (second : j ∈ forest.postorder) :
    [i, j].Sublist forest.postorder := by
  induction forest with
  | empty => cases before
  | tree k done inner rest ihInner ihRest =>
    obtain ⟨⟨_, apartRest⟩, distinctInner, distinctRest, apart⟩ := nodup_tree.mp distinct
    rcases before with ⟨early, late⟩ | before | before
    · have done : [j].Sublist rest.postorder :=
        List.singleton_sublist.mpr (mem_rest_of_compiled distinct late second)
      have outside : i ∉ rest.postorder := fun behind => by
        have behind := rest.postorder_subset behind
        rcases List.mem_cons.mp early with rfl | inside
        · exact apartRest behind
        · exact apart inside behind
      have ahead : [i].Sublist (inner.postorder ++ if _ then [k] else []) :=
        List.singleton_sublist.mpr ((List.mem_append.mp first).resolve_right outside)
      exact ahead.append done
    · have here := mem_inner_of_compiled distinct before.mem.1 first
      have there := mem_inner_of_compiled distinct before.mem.2 second
      exact (ihInner before distinctInner here there).trans inner_sublist
    · have here := mem_rest_of_compiled distinct before.mem.1 first
      have there := mem_rest_of_compiled distinct before.mem.2 second
      exact (ihRest before distinctRest here there).trans rest_sublist

end Forest

/-- The function that a call of the trigger begins to compile, if it comes so far. -/
def Ledger.begins? (ledger : Ledger) (raw : Int32) : Option FuncId :=
  match ledger.table.locate raw with
  | .error _ => none
  | .ok i =>
    match ledger.reserve i with
    | .error _ => none
    | .ok _ => some i

/-- A forest that is being read. Around what has grown inside the innermost call stand the calls
that have begun and not ended, each with the forest before it. -/
structure Reading where
  grown : Forest
  around : List (Option FuncId × Forest)

namespace Reading

def start : Reading := ⟨.empty, []⟩

def enter (reading : Reading) (call : Option FuncId) : Reading :=
  ⟨.empty, (call, reading.grown) :: reading.around⟩

/-- The innermost call ends. -/
def leave (reading : Reading) (done : Bool) : Reading :=
  match reading.around with
  | [] => reading
  | (call, before) :: around => ⟨before ++ .enclose call done reading.grown, around⟩

/-- Calls that have not ended around a forest. -/
def enclosed : List (Option FuncId × Forest) → Forest → Forest
  | [], inner => inner
  | (call, before) :: around, inner => enclosed around (before ++ .enclose call false inner)

/-- What has been read, in which no call that has not ended did so well. -/
def whole (reading : Reading) : Forest := enclosed reading.around reading.grown

theorem preorder_enclosed (around : List (Option FuncId × Forest)) (inner : Forest) :
    (enclosed around inner).preorder = (enclosed around .empty).preorder ++ inner.preorder := by
  induction around generalizing inner with
  | nil => rfl
  | cons frame around ih =>
    obtain ⟨call, before⟩ := frame
    rw [enclosed, ih, enclosed, ih (before ++ .enclose call false .empty)]
    simp [Forest.preorder]

theorem postorder_enclosed (around : List (Option FuncId × Forest)) (inner : Forest) :
    (enclosed around inner).postorder = (enclosed around .empty).postorder ++ inner.postorder := by
  induction around generalizing inner with
  | nil => rfl
  | cons frame around ih =>
    obtain ⟨call, before⟩ := frame
    rw [enclosed, ih, enclosed, ih (before ++ .enclose call false .empty)]
    simp [Forest.postorder]

theorem upright_enclosed {around : List (Option FuncId × Forest)} {inner : Forest}
    (before : ∀ frame ∈ around, frame.2.Upright) (inside : inner.Upright) :
    (enclosed around inner).Upright := by
  induction around generalizing inner with
  | nil => exact inside
  | cons frame around ih =>
    exact ih (fun other member => before other (List.mem_cons_of_mem _ member))
      ((before frame List.mem_cons_self).append (inside.unended frame.1))

theorem preorder_enter (reading : Reading) (call : Option FuncId) :
    (reading.enter call).whole.preorder = reading.whole.preorder ++ call.toList := by
  unfold whole enter
  rw [enclosed, preorder_enclosed, preorder_enclosed reading.around reading.grown]
  simp [Forest.preorder]

theorem postorder_enter (reading : Reading) (call : Option FuncId) :
    (reading.enter call).whole.postorder = reading.whole.postorder := by
  unfold whole enter
  rw [enclosed, postorder_enclosed, postorder_enclosed reading.around reading.grown]
  simp [Forest.postorder]

theorem whole_leave_failed (reading : Reading) : (reading.leave false).whole = reading.whole := by
  obtain ⟨grown, around⟩ := reading
  cases around with
  | nil => rfl
  | cons frame around => rfl

theorem preorder_leave (reading : Reading) (done : Bool) :
    (reading.leave done).whole.preorder = reading.whole.preorder := by
  obtain ⟨grown, around⟩ := reading
  cases around with
  | nil => rfl
  | cons frame around =>
    obtain ⟨call, before⟩ := frame
    unfold leave whole
    rw [enclosed, preorder_enclosed, preorder_enclosed around (before ++ .enclose call false grown)]
    simp

theorem postorder_leave {reading : Reading} {call : Option FuncId} {before : Forest}
    {around : List (Option FuncId × Forest)}
    (innermost : reading.around = (call, before) :: around) :
    (reading.leave true).whole.postorder = reading.whole.postorder ++ call.toList := by
  unfold leave whole
  rw [innermost, enclosed, postorder_enclosed,
    postorder_enclosed around (before ++ .enclose call false reading.grown)]
  simp

end Reading

/-- Reads an event: calls of the trigger begin and end. -/
def Event.read (reading : Reading) : Event → Reading
  | .triggered raw ledger => reading.enter (ledger.begins? raw)
  | .settled _ (.ok _) => reading.leave true
  | .settled _ (.error _) => reading.leave false
  | _ => reading

/-- The calls of the trigger in a history, as far as it goes. -/
def reading (events : List Event) : Reading := events.foldl Event.read .start

/-- The forest of the functions that were begun in a history. -/
def forestOf (events : List Event) : Forest := (reading events).whole

theorem reading_append (events more : List Event) :
    reading (events ++ more) = more.foldl Event.read (reading events) :=
  List.foldl_append

end FirstCall
