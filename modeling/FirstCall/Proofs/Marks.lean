import FirstCall.Proofs.Forest

/-!
# Lines of a forest

A call of the trigger that begins to compile its function leaves one line in the log when the unit
is requested and, if it ends well, another one when the unit was loaded. The lines of all calls are
those that a walk through their forest meets: on the way into a tree and on the way out of it. So
the lines of a call enclose those of the calls inside it.
-/

namespace FirstCall

inductive Mark where
  | asked (i : FuncId)
  | installed (i : FuncId)
  deriving DecidableEq, Repr

namespace Mark

def func : Mark → FuncId
  | asked i => i
  | installed i => i

def asked? : Mark → Option FuncId
  | asked i => some i
  | installed _ => none

end Mark

namespace Forest

variable {forest : Forest} {i j k : FuncId} {done : Bool} {inner rest : Forest} {mark : Mark}

/-- The lines that the calls of a forest leave in the log. -/
def marks : Forest → List Mark
  | empty => []
  | tree i done inner rest =>
    .asked i :: (inner.marks ++ (if done then [.installed i] else []) ++ rest.marks)

@[simp] theorem marks_append (forest later : Forest) :
    (forest ++ later).marks = forest.marks ++ later.marks := by
  induction forest with
  | empty => rfl
  | tree i done inner rest _ ihRest =>
    simp only [tree_append, marks, ihRest, List.append_assoc, List.cons_append]

@[simp] theorem marks_enclose (call : Option FuncId) (done : Bool) (inner : Forest) :
    (enclose call done inner).marks = call.toList.map .asked ++ inner.marks ++
      if done then call.toList.map .installed else [] := by
  cases call with
  | none => cases done <;> simp [enclose]
  | some i => simp [enclose, marks]

theorem filterMap_marks (forest : Forest) :
    forest.marks.filterMap Mark.asked? = forest.preorder := by
  induction forest with
  | empty => rfl
  | tree i done inner rest ihInner ihRest =>
    have own : (if done then [Mark.installed i] else []).filterMap Mark.asked? = [] := by
      cases done <;> rfl
    have first : Mark.asked? (.asked i) = some i := rfl
    rw [marks, preorder, List.filterMap_cons_some first, List.filterMap_append,
      List.filterMap_append, own, ihInner, ihRest, List.append_nil]

theorem mem_marks_tree :
    mark ∈ (tree k done inner rest).marks ↔ mark = .asked k ∨ mark ∈ inner.marks ∨
      (done = true ∧ mark = .installed k) ∨ mark ∈ rest.marks := by
  cases done <;> simp [marks]

theorem marks_inner_sublist : inner.marks.Sublist (tree k done inner rest).marks := by
  rw [marks, List.append_assoc]
  exact (List.sublist_append_left _ _).cons _

theorem marks_rest_sublist : rest.marks.Sublist (tree k done inner rest).marks :=
  (List.sublist_append_right _ _).cons _

theorem func_mem_preorder (found : mark ∈ forest.marks) : mark.func ∈ forest.preorder := by
  induction forest with
  | empty => cases found
  | tree k done inner rest ihInner ihRest =>
    rw [mem_preorder_tree]
    rcases mem_marks_tree.mp found with rfl | inside | ⟨_, rfl⟩ | behind
    · exact .inl rfl
    · exact .inr (.inl (ihInner inside))
    · exact .inl rfl
    · exact .inr (.inr (ihRest behind))

/-- Where functions are begun once, the lines about a function stand where it was begun. -/
theorem mem_inner_of_mark (distinct : (tree k done inner rest).preorder.Nodup)
    (inside : mark.func ∈ inner.preorder) (found : mark ∈ (tree k done inner rest).marks) :
    mark ∈ inner.marks := by
  obtain ⟨⟨outside, _⟩, _, _, apart⟩ := nodup_tree.mp distinct
  rcases mem_marks_tree.mp found with rfl | here | ⟨_, rfl⟩ | behind
  · exact absurd inside outside
  · exact here
  · exact absurd inside outside
  · exact absurd (func_mem_preorder behind) (apart inside)

theorem mem_rest_of_mark (distinct : (tree k done inner rest).preorder.Nodup)
    (behind : mark.func ∈ rest.preorder) (found : mark ∈ (tree k done inner rest).marks) :
    mark ∈ rest.marks := by
  obtain ⟨⟨_, outside⟩, _, _, apart⟩ := nodup_tree.mp distinct
  rcases mem_marks_tree.mp found with rfl | inside | ⟨_, rfl⟩ | here
  · exact absurd behind outside
  · exact absurd behind (apart (func_mem_preorder inside))
  · exact absurd behind outside
  · exact here

theorem nodup_marks (distinct : forest.preorder.Nodup) : forest.marks.Nodup := by
  induction forest with
  | empty => exact List.nodup_nil
  | tree k done inner rest ihInner ihRest =>
    obtain ⟨⟨apartInner, apartRest⟩, distinctInner, distinctRest, apart⟩ := nodup_tree.mp distinct
    have fresh : ∀ mark : Mark, mark.func = k → mark ∉ inner.marks ∧ mark ∉ rest.marks := by
      rintro mark rfl
      exact ⟨fun inside => apartInner (func_mem_preorder inside),
        fun behind => apartRest (func_mem_preorder behind)⟩
    have disjoint : inner.marks.Disjoint rest.marks := fun mark inside behind =>
      apart (func_mem_preorder inside) (func_mem_preorder behind)
    have asked := fresh (.asked k) rfl
    have installed := fresh (.installed k) rfl
    cases done <;>
      simp [marks, List.nodup_append', ihInner distinctInner, ihRest distinctRest, disjoint, asked,
        installed]

/-- A unit is requested before it is installed. -/
theorem asked_before_installed (installed : .installed i ∈ forest.marks) :
    [.asked i, .installed i].Sublist forest.marks := by
  induction forest with
  | empty => cases installed
  | tree k done inner rest ihInner ihRest =>
    rcases mem_marks_tree.mp installed with same | inside | ⟨_, same⟩ | behind
    · cases same
    · exact (ihInner inside).trans marks_inner_sublist
    · obtain rfl := Mark.installed.inj same
      rcases List.mem_cons.mp installed with same | later
      · cases same
      · exact (List.singleton_sublist.mpr later).cons_cons _
    · exact (ihRest behind).trans marks_rest_sublist

/-- The lines about a function that was begun inside the call for another one stand between the two
lines of that call. -/
theorem Within.marks (within : forest.Within mark.func j) (distinct : forest.preorder.Nodup)
    (found : mark ∈ forest.marks) :
    [.asked j, mark].Sublist forest.marks ∧
      (.installed j ∈ forest.marks → [mark, .installed j].Sublist forest.marks) := by
  induction forest with
  | empty => cases within
  | tree k done inner rest ihInner ihRest =>
    obtain ⟨⟨apartInner, apartRest⟩, distinctInner, distinctRest, _⟩ := nodup_tree.mp distinct
    rcases within with ⟨rfl, inside⟩ | within | within
    · have here := mem_inner_of_mark distinct inside found
      have first : [mark].Sublist inner.marks := List.singleton_sublist.mpr here
      refine ⟨?_, fun installed => ?_⟩
      · rw [Forest.marks, List.append_assoc]
        exact (first.trans (List.sublist_append_left _ _)).cons_cons _
      · rcases mem_marks_tree.mp installed with same | nested | ⟨rfl, _⟩ | behind
        · cases same
        · exact absurd (func_mem_preorder nested) apartInner
        · exact ((first.append (List.Sublist.refl _)).trans (List.sublist_append_left _ _)).cons _
        · exact absurd (func_mem_preorder behind) apartRest
    · obtain ⟨inside, outer⟩ := within.mem
      obtain ⟨after, before⟩ :=
        ihInner within distinctInner (mem_inner_of_mark distinct inside found)
      refine ⟨after.trans marks_inner_sublist, fun installed => ?_⟩
      have here : .installed j ∈ inner.marks := mem_inner_of_mark distinct outer installed
      exact (before here).trans marks_inner_sublist
    · obtain ⟨inside, outer⟩ := within.mem
      obtain ⟨after, before⟩ :=
        ihRest within distinctRest (mem_rest_of_mark distinct inside found)
      refine ⟨after.trans marks_rest_sublist, fun installed => ?_⟩
      have here : .installed j ∈ rest.marks := mem_rest_of_mark distinct outer installed
      exact (before here).trans marks_rest_sublist

end Forest

namespace Reading

theorem marks_enclosed (around : List (Option FuncId × Forest)) (inner : Forest) :
    (enclosed around inner).marks = (enclosed around .empty).marks ++ inner.marks := by
  induction around generalizing inner with
  | nil => rfl
  | cons frame around ih =>
    obtain ⟨call, before⟩ := frame
    rw [enclosed, ih, enclosed, ih (before ++ .enclose call false .empty)]
    simp [Forest.marks]

theorem marks_enter (reading : Reading) (call : Option FuncId) :
    (reading.enter call).whole.marks = reading.whole.marks ++ call.toList.map .asked := by
  unfold whole enter
  rw [enclosed, marks_enclosed, marks_enclosed reading.around reading.grown]
  simp [Forest.marks]

theorem marks_leave {reading : Reading} {call : Option FuncId} {before : Forest}
    {around : List (Option FuncId × Forest)}
    (innermost : reading.around = (call, before) :: around) :
    (reading.leave true).whole.marks = reading.whole.marks ++ call.toList.map .installed := by
  unfold leave whole
  rw [innermost, enclosed, marks_enclosed,
    marks_enclosed around (before ++ .enclose call false reading.grown)]
  simp

end Reading

end FirstCall
