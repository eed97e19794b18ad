import Mathlib.Data.List.Forall2

/-!
# Successful outcomes

What it takes for a computation made of steps that can fail to succeed.
-/

namespace NodeQuery

universe u v

variable {ε : Type u} {α β : Type v}

theorem bind_eq_ok {first : Except ε α} {next : α → Except ε β} {result : β} :
    first >>= next = .ok result ↔ ∃ value, first = .ok value ∧ next value = .ok result := by
  cases first with
  | error error => simp [bind, Except.bind]
  | ok value => simp [bind, Except.bind]

theorem map_eq_ok {f : α → β} {outcome : Except ε α} {result : β} :
    outcome.map f = .ok result ↔ ∃ value, outcome = .ok value ∧ result = f value := by
  cases outcome with
  | error error => simp [Except.map]
  | ok value => simp [Except.map, eq_comm]

theorem mapError_eq_ok {δ : Type u} {f : ε → δ} {outcome : Except ε α} {result : α} :
    outcome.mapError f = .ok result ↔ outcome = .ok result := by
  cases outcome with
  | error error => simp [Except.mapError]
  | ok value => simp [Except.mapError]

theorem bind_eq_error {first : Except ε α} {next : α → Except ε β} {error : ε} :
    first >>= next = .error error ↔
      first = .error error ∨ ∃ value, first = .ok value ∧ next value = .error error := by
  cases first with
  | error error => simp [bind, Except.bind]
  | ok value => simp [bind, Except.bind]

theorem mapError_eq_error {δ : Type u} {f : ε → δ} {outcome : Except ε α} {error : δ} :
    outcome.mapError f = .error error ↔ ∃ cause, outcome = .error cause ∧ error = f cause := by
  cases outcome with
  | error cause => simp [Except.mapError, eq_comm]
  | ok value => simp [Except.mapError]

theorem foldlM_nil_eq_ok {step : β → α → Except ε β} {state final : β} :
    [].foldlM step state = .ok final ↔ state = final := by
  simp [pure, Except.pure]

theorem foldlM_cons_eq_ok {step : β → α → Except ε β} {state final : β} {value : α}
    {values : List α} :
    (value :: values).foldlM step state = .ok final ↔
      ∃ next, step state value = .ok next ∧ values.foldlM step next = .ok final := by
  rw [List.foldlM_cons, bind_eq_ok]

theorem foldlM_append_eq_ok {step : β → α → Except ε β} {state final : β}
    {left right : List α} :
    (left ++ right).foldlM step state = .ok final ↔
      ∃ middle, left.foldlM step state = .ok middle ∧ right.foldlM step middle = .ok final := by
  rw [List.foldlM_append, bind_eq_ok]

/-- A run fails at the first value that its step refuses. -/
theorem foldlM_eq_error {step : β → α → Except ε β} {state : β} {values : List α} {error : ε} :
    values.foldlM step state = .error error ↔
      ∃ front value behind middle, values = front ++ value :: behind ∧
        front.foldlM step state = .ok middle ∧ step middle value = .error error := by
  constructor
  · intro failed
    induction values generalizing state with
    | nil => cases failed
    | cons value values ih =>
        rw [List.foldlM_cons, bind_eq_error] at failed
        rcases failed with refused | ⟨next, taken, failed⟩
        · exact ⟨[], value, values, state, rfl, rfl, refused⟩
        · rcases ih failed with ⟨front, culprit, behind, middle, rfl, run, refused⟩
          exact ⟨value :: front, culprit, behind, middle, rfl,
            foldlM_cons_eq_ok.mpr ⟨next, taken, run⟩, refused⟩
  · rintro ⟨front, value, behind, middle, rfl, run, refused⟩
    refine (List.foldlM_append ..).trans (bind_eq_error.mpr (.inr ⟨middle, run, ?_⟩))
    rw [List.foldlM_cons, bind_eq_error]
    exact .inl refused

theorem findSome?_flatMap {γ δ : Type v} {f : γ → List α} {g : α → Option δ} {values : List γ} :
    (values.flatMap f).findSome? g = values.findSome? fun value => (f value).findSome? g := by
  induction values with
  | nil => rfl
  | cons value values ih =>
      rw [List.flatMap_cons, List.findSome?_append, ih, List.findSome?_cons]
      cases (f value).findSome? g <;> rfl

/-- A row of computations fails as its first failing one does. -/
theorem mapM_eq_error {f : α → Except ε β} {fault? : α → Option ε}
    (faults : ∀ value error, f value = .error error ↔ fault? value = some error)
    {values : List α} {error : ε} :
    values.mapM f = .error error ↔ values.findSome? fault? = some error := by
  induction values with
  | nil =>
      rw [List.mapM_nil]
      simp [pure, Except.pure]
  | cons value values ih =>
      rw [List.mapM_cons, List.findSome?_cons]
      cases outcome : f value with
      | error other =>
          rw [(faults value other).mp outcome]
          simp [bind, Except.bind]
      | ok image =>
          have none : fault? value = none := by
            cases fault : fault? value with
            | none => rfl
            | some other =>
                rw [(faults value other).mpr fault] at outcome
                cases outcome
          rw [none, bind_eq_error]
          simp only [reduceCtorEq, Except.ok.injEq, exists_eq_left', false_or]
          rw [← ih, bind_eq_error]
          simp [pure, Except.pure]

/-- A run over lists in a row is a run of runs. -/
theorem foldlM_flatMap {γ : Type v} {step : β → α → Except ε β} {f : γ → List α}
    {values : List γ} {state : β} :
    (values.flatMap f).foldlM step state =
      values.foldlM (fun state value => (f value).foldlM step state) state := by
  induction values generalizing state with
  | nil => rfl
  | cons value values ih => simp [ih]

/-- What a run gathers.  Every step keeps the invariant, tells that its value is sound and adds to
what the state shows exactly what the value adds; so does the whole run for all of its values. -/
theorem foldlM_gathers {κ : Type v} {step : β → α → Except ε β} {Invariant : β → Prop}
    {Sound : α → Prop} {shows : β → κ → Prop} {adds : α → κ → Prop}
    (stepGathers : ∀ {state value next}, Invariant state → step state value = .ok next →
      Invariant next ∧ Sound value ∧
        ∀ shown, shows next shown ↔ shows state shown ∨ adds value shown)
    {state final : β} {values : List α} (start : Invariant state)
    (run : values.foldlM step state = .ok final) :
    Invariant final ∧ (∀ value ∈ values, Sound value) ∧
      ∀ shown, shows final shown ↔ shows state shown ∨ ∃ value ∈ values, adds value shown := by
  induction values generalizing state with
  | nil =>
      rw [foldlM_nil_eq_ok] at run
      subst run
      simp [start]
  | cons value values ih =>
      rcases foldlM_cons_eq_ok.mp run with ⟨next, first, behind⟩
      rcases stepGathers start first with ⟨kept, sound, gathered⟩
      rcases ih kept behind with ⟨keptAll, soundAll, gatheredAll⟩
      refine ⟨keptAll, List.forall_mem_cons.mpr ⟨sound, soundAll⟩, ?_⟩
      intro shown
      rw [gatheredAll, gathered, or_assoc, List.exists_mem_cons_iff]

/-- If every element of a list has an image, the images correspond to the elements. -/
theorem forall₂_of_mapM_eq_ok {f : α → Except ε β} {values : List α} {images : List β}
    (mapped : values.mapM f = .ok images) :
    List.Forall₂ (fun value image => f value = .ok image) values images := by
  induction values generalizing images with
  | nil =>
      rw [List.mapM_nil] at mapped
      cases mapped
      exact .nil
  | cons value values ih =>
      rw [List.mapM_cons, bind_eq_ok] at mapped
      rcases mapped with ⟨image, first, mapped⟩
      rcases bind_eq_ok.mp mapped with ⟨rest, behind, gathered⟩
      cases gathered
      exact .cons first (ih behind)

/-- Corresponding lists have elements of corresponding kinds. -/
theorem exists_mem_congr_of_forall₂ {relation : α → β → Prop} {left : α → Prop}
    {right : β → Prop} {values : List α} {images : List β}
    (pairs : List.Forall₂ relation values images)
    (agree : ∀ value ∈ values, ∀ image ∈ images, relation value image →
      (left value ↔ right image)) :
    (∃ value ∈ values, left value) ↔ ∃ image ∈ images, right image := by
  induction pairs with
  | nil => simp
  | @cons value image values images related _ ih =>
      have head := agree value List.mem_cons_self image List.mem_cons_self related
      have tail := ih fun value member image member' =>
        agree value (.tail _ member) image (.tail _ member')
      rw [List.exists_mem_cons_iff, List.exists_mem_cons_iff, head, tail]

end NodeQuery
