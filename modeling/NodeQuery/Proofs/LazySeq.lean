import NodeQuery.LazySeq

/-!
# Lazy sequences as lists

`LazyCell.toList` forgets when the elements of a sequence are computed.  Each operation on
sequences is an operation on their lists; these equations are how the rest of the theory looks at
a sequence.
-/

namespace NodeQuery

universe u v

namespace LazyCell

variable {α : Type u} {β : Type v}

@[simp] theorem toList_done : (LazyCell.done : LazyCell α).toList = [] := rfl

@[simp] theorem toList_item (value : α) (rest : Unit → LazyCell α) :
    (LazyCell.item value rest).toList = value :: (rest ()).toList := rfl

@[simp] theorem toList_filterMap (f : α → Option β) (cell : LazyCell α) :
    (cell.filterMap f).toList = cell.toList.filterMap f := by
  induction cell with
  | done => rfl
  | item value rest ih =>
      cases image : f value with
      | none => simp [filterMap, image, ih]
      | some image' => simp [filterMap, image, ih]

@[simp] theorem toList_ofListThen (next : Unit → LazyCell α) (values : List α) :
    (ofListThen next values).toList = values ++ (next ()).toList := by
  induction values with
  | nil => rfl
  | cons value values ih => simp [ofListThen, ih]

@[simp] theorem toList_flatMap (f : α → List β) (cell : LazyCell α) :
    (cell.flatMap f).toList = cell.toList.flatMap f := by
  induction cell with
  | done => rfl
  | item value rest ih => simp [flatMap, ih]

end LazyCell

namespace LazySeq

variable {α : Type u} {β : Type v}

@[simp] theorem toList_empty : (LazySeq.empty : LazySeq α).toList = [] := rfl

@[simp] theorem toList_ofList (values : List α) : (ofList values).toList = values := by
  simp [toList, ofList]

@[simp] theorem toList_singleton (value : α) : (singleton value).toList = [value] := by
  simp [singleton]

@[simp] theorem toList_filterMap (f : α → Option β) (sequence : LazySeq α) :
    (sequence.filterMap f).toList = sequence.toList.filterMap f :=
  LazyCell.toList_filterMap f _

@[simp] theorem toList_filter (keep : α → Bool) (sequence : LazySeq α) :
    (sequence.filter keep).toList = sequence.toList.filter keep := by
  rw [filter, toList_filterMap, ← List.filterMap_eq_filter]
  rfl

@[simp] theorem toList_flatMap (f : α → List β) (sequence : LazySeq α) :
    (sequence.flatMap f).toList = sequence.toList.flatMap f :=
  LazyCell.toList_flatMap f _

@[simp] theorem toList_take (count : Nat) (sequence : LazySeq α) :
    (sequence.take count).toList = sequence.toList.take count := by
  induction count generalizing sequence with
  | zero => rfl
  | succ count ih =>
      cases first : sequence.pull () with
      | done => simp [take, toList, first]
      | item value rest =>
          have behind := ih ⟨rest⟩
          simp only [toList] at behind
          simp [take, toList, first, behind]

end LazySeq

end NodeQuery
