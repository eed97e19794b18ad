import NodeQuery.Proofs.Query.Composition

/-!
# Depth limits

A higher depth limit changes a query's items only behind the first walk that the lower limit cuts
off.  The error there either reaches the answer or is never asked for, and in the second case the
items behind it are not asked for either.  So an answer that is not the error of the lower limit is
the answer under every higher limit.
-/

namespace NodeQuery

variable {Node Key : Type}

namespace Eager

/-! ## Lists that an error cuts off -/

/-- The lists are the same up to a place where the first one has the error, if there is such a
place. -/
inductive CutBy (error : Error) : List (Item Node) → List (Item Node) → Prop where
  | never (items : List (Item Node)) : CutBy error items items
  | behind (front left right : List (Item Node)) :
      CutBy error (front ++ .error error :: left) (front ++ right)

namespace CutBy

variable {error : Error} {left right left' right' : List (Item Node)}

theorem atOnce (left right : List (Item Node)) : CutBy error (.error error :: left) right :=
  .behind [] left right

theorem append (first : CutBy error left right) (second : CutBy error left' right') :
    CutBy error (left ++ left') (right ++ right') := by
  cases first with
  | behind front cut whole => simpa using behind front (cut ++ left') (whole ++ right')
  | never =>
      cases second with
      | never => exact .never _
      | behind front cut whole => simpa using behind (left ++ front) cut whole

theorem flatMap {α : Type} {f g : α → List (Item Node)}
    (cuts : ∀ value, CutBy error (f value) (g value)) (values : List α) :
    CutBy error (values.flatMap f) (values.flatMap g) := by
  induction values with
  | nil => exact .never []
  | cons value values ih => exact (cuts value).append ih

/-- Whatever the nodes are replaced by, the error stays where it is. -/
theorem replaceNodes {f g : Node → List (Item Node)} (cuts : ∀ node, CutBy error (f node) (g node))
    (cut : CutBy error left right) :
    CutBy error (Eager.replaceNodes f left) (Eager.replaceNodes g right) := by
  have same (items : List (Item Node)) :
      CutBy error (Eager.replaceNodes f items) (Eager.replaceNodes g items) := by
    apply flatMap
    intro item
    cases item with
    | error error => exact .never _
    | ok node => exact cuts node
  cases cut with
  | never => exact same left
  | behind front cut whole =>
      have replaced := (same front).append
        (atOnce (Eager.replaceNodes f cut) (Eager.replaceNodes g whole))
      simpa [Eager.replaceNodes] using replaced

theorem replaceNodes_same (f : Node → List (Item Node)) (cut : CutBy error left right) :
    CutBy error (Eager.replaceNodes f left) (Eager.replaceNodes f right) :=
  cut.replaceNodes fun node => .never (f node)

theorem keepNodes (keep : Node → Bool) (cut : CutBy error left right) :
    CutBy error (Eager.keepNodes keep left) (Eager.keepNodes keep right) := by
  cases cut with
  | never => exact .never _
  | behind front cut whole =>
      simpa [Eager.keepNodes] using
        behind (Eager.keepNodes keep front) (Eager.keepNodes keep cut) (Eager.keepNodes keep whole)

theorem untilError (cut : CutBy error left right) :
    CutBy error (Eager.untilError left) (Eager.untilError right) := by
  cases cut with
  | never => exact .never _
  | behind front cut whole =>
      induction front with
      | nil => exact atOnce _ _
      | cons item front ih =>
          cases item with
          | error other => exact .never _
          | ok node => exact (never [.ok node]).append ih

/-! ## Transforms that do not ask for everything -/

theorem take_one (cut : CutBy error left right) : CutBy error (left.take 1) (right.take 1) := by
  cases cut with
  | never => exact .never _
  | behind front cut whole =>
      cases front with
      | nil => exact atOnce _ _
      | cons item front => exact .never [item]

theorem last (cut : CutBy error left right) :
    CutBy error (Eager.last left) (Eager.last right) := by
  cases cut with
  | never => exact .never _
  | behind front cut whole =>
      cases first : firstError? front with
      | some other =>
          -- The front has an error of its own, which both transforms find.
          simp only [firstError?] at first
          simpa [Eager.last, firstError?, first] using never [.error other]
      | none =>
          simp only [firstError?] at first
          simpa [Eager.last, firstError?, first] using atOnce _ _

theorem nth_error (position : Nat) (other : Error) (items : List (Item Node)) :
    Eager.nth position (.error other :: items) = [.error other] := by
  simp [Eager.nth, leadingNodes, firstError?]

theorem nth_zero (node : Node) (items : List (Item Node)) :
    Eager.nth 0 (.ok node :: items) = [.ok node] := by
  simp [Eager.nth, leadingNodes]

theorem nth_succ (position : Nat) (node : Node) (items : List (Item Node)) :
    Eager.nth (position + 1) (.ok node :: items) = Eager.nth position items := by
  simp [Eager.nth, leadingNodes, firstError?]

theorem nth (position : Nat) (cut : CutBy error left right) :
    CutBy error (Eager.nth position left) (Eager.nth position right) := by
  cases cut with
  | never => exact .never _
  | behind front cut whole =>
      induction front generalizing position with
      | nil =>
          rw [List.nil_append, nth_error]
          exact atOnce _ _
      | cons item front ih =>
          cases item with
          | error other =>
              simp only [List.cons_append, nth_error]
              exact .never _
          | ok node =>
              cases position with
              | zero =>
                  simp only [List.cons_append, nth_zero]
                  exact .never _
              | succ position =>
                  simp only [List.cons_append, nth_succ]
                  exact ih position

end CutBy

/-- Two outcomes that fail alike, or whose lists are cut by the error. -/
inductive OutcomesCutBy (error : Error) :
    Except QueryError (List (Item Node)) → Except QueryError (List (Item Node)) → Prop where
  | failed (fault : QueryError) : OutcomesCutBy error (.error fault) (.error fault)
  | made {left right : List (Item Node)} (cut : CutBy error left right) :
      OutcomesCutBy error (.ok left) (.ok right)

/-- The items of a group; one that cannot be set up has an error instead. -/
def outcomeItems : Except QueryError (List (Item Node)) → List (Item Node)
  | .ok items => items
  | .error fault => [.error (.query fault)]

namespace OutcomesCutBy

variable {error : Error} {left right : Except QueryError (List (Item Node))}

theorem bind {f g : List (Item Node) → Except QueryError (List (Item Node))}
    (outcomes : OutcomesCutBy error left right)
    (onward : ∀ {items others}, CutBy error items others →
      OutcomesCutBy error (f items) (g others)) :
    OutcomesCutBy error (left >>= f) (right >>= g) := by
  cases outcomes with
  | failed fault => exact .failed fault
  | made cut => exact onward cut

theorem items (outcomes : OutcomesCutBy error left right) :
    CutBy error (outcomeItems left) (outcomeItems right) := by
  cases outcomes with
  | failed fault => exact .never _
  | made cut => exact cut

end OutcomesCutBy

/-! ## Two limits -/

/-- The error of a walk that is cut off at the limit. -/
def depthError (limit : Nat) : Error := .query (.depthLimitExceeded limit)

section

variable {provider : Provider Node} {limit deeper : Nat}

/-- A listing that goes deeper is the same up to the first node whose children are cut off. -/
theorem cutBy_preorder {depth more : Nat} (le : depth ≤ more) (node : Node) :
    CutBy (depthError limit) (preorder provider limit depth node)
      (preorder provider deeper more node) := by
  induction depth generalizing more node with
  | zero =>
      by_cases leaf : (provider.childList node).isEmpty
      · -- A leaf is listed alike at every depth.
        have listed : preorder provider deeper more node = [.ok node] := by
          cases more with
          | zero => simp [preorder, leaf]
          | succ more => simp [preorder, List.isEmpty_iff.mp leaf]
        rw [preorder, if_pos leaf, listed]
        exact .never _
      · rw [preorder, if_neg leaf]
        exact .atOnce _ _
  | succ depth ih =>
      obtain ⟨more, rfl⟩ : ∃ rest, more = rest + 1 := ⟨more - 1, by omega⟩
      have below := CutBy.flatMap (ih (Nat.le_of_succ_le_succ le)) (provider.childList node)
      exact (CutBy.never [.ok node]).append below

theorem cutBy_walk (le : limit ≤ deeper) (node : Node) :
    CutBy (depthError limit) (walk provider limit node) (walk provider deeper node) :=
  (cutBy_preorder le node).untilError

variable (model : NodeModel Node Key) {error : Error} {left right : List (Item Node)}

/-- Each step passes on the error that it meets, and what it makes of the items in front of the
error does not depend on those behind it. -/
theorem cutBy_step
    (walks : ∀ node, CutBy error (walk provider limit node) (walk provider deeper node))
    (cut : CutBy error left right) (step : NodeQuery.Step) :
    OutcomesCutBy error (Eager.step model provider limit left step)
      (Eager.step model provider deeper right step) := by
  cases step with
  | any => exact .made cut
  | tag name => exact .made (cut.keepNodes _)
  | «class» name => exact .made (cut.keepNodes _)
  | id name => exact .made (cut.keepNodes _)
  | predicate body => exact .made (cut.replaceNodes_same _)
  | pseudo name =>
      simp only [Eager.step, pseudo]
      split
      · exact .made cut.take_one
      · split
        · exact .made cut.last
        · exact .failed _
  | function name args =>
      simp only [Eager.step, function]
      split
      · cases Registry.position? args with
        | none => exact .failed _
        | some position =>
            by_cases negative : position < 0
            · simpa [negative] using OutcomesCutBy.made (.never [])
            · simpa [negative] using OutcomesCutBy.made (cut.nth position.toNat)
      · split
        · split
          · exact .failed _
          · exact .made (cut.replaceNodes_same _)
        · exact .failed _
  | descendants => exact .made (cut.replaceNodes walks)
  | children => exact .made (cut.replaceNodes_same _)
  | unsupported link => exact .failed _

/-- A row of steps does what its steps do. -/
theorem cutBy_steps
    (walks : ∀ node, CutBy error (walk provider limit node) (walk provider deeper node))
    (steps : List NodeQuery.Step) (cut : CutBy error left right) :
    OutcomesCutBy error (steps.foldlM (Eager.step model provider limit) left)
      (steps.foldlM (Eager.step model provider deeper) right) := by
  induction steps generalizing left right with
  | nil => exact .made cut
  | cons step steps ih =>
      rw [List.foldlM_cons, List.foldlM_cons]
      exact (cutBy_step model walks cut step).bind ih

theorem cutBy_group (le : limit ≤ deeper) (steps : List NodeQuery.Step) (root : Node) :
    OutcomesCutBy (depthError limit) (group model provider limit steps root)
      (group model provider deeper steps root) :=
  cutBy_steps model (cutBy_walk le) steps (cutBy_walk le root)

end

end Eager

open Eager

/-! ## Whole queries -/

section

variable {model : NodeModel Node Key} {limits deeper : Limits}

/-- A group's items are those of its steps. -/
theorem groupItems_eq {steps : List Step} {stages : List (Stage Node)}
    (names : List.Forall₂ (fun step stage => step.resolve .builtin = .ok stage) steps stages)
    (context : Context Node) (root : Node) :
    groupItems model context stages root =
      outcomeItems (group model context.provider context.limits.maxDepth steps root) := by
  have row := Stage.toList_foldlM_apply model context names
    (Candidates.descendants context.provider context.limits.maxDepth (.singleton (.ok root)))
  rw [toList_implicitWalk, ← group] at row
  rw [← row, groupItems, groupCandidates]
  cases stages.foldlM (Stage.apply model context) _ <;> rfl

/-- All items of a query are those of its steps below the roots. -/
theorem allItems_eq {program : Program} {plan : List (List (Stage Node))}
    (resolved : program.resolve .builtin = .ok plan) (context : Context Node) (roots : List Node) :
    allItems model context plan roots =
      roots.flatMap fun root => program.groups.flatMap fun steps =>
        outcomeItems (group model context.provider context.limits.maxDepth steps root) := by
  have groups := forall₂_of_mapM_eq_ok resolved
  clear resolved
  rw [allItems]
  congr 1
  funext root
  generalize program.groups = rows at groups
  induction groups with
  | nil => rfl
  | cons names _ ih =>
      rw [List.flatMap_cons, List.flatMap_cons, groupItems_eq (forall₂_of_mapM_eq_ok names), ih]

/-- All items of a query are cut where the first of its groups is. -/
theorem cutBy_allItems (model : NodeModel Node Key) (provider : Provider Node)
    (le : limits.maxDepth ≤ deeper.maxDepth) {program : Program} {plan : List (List (Stage Node))}
    (resolved : program.resolve .builtin = .ok plan)
    (roots : List Node) :
    CutBy (depthError limits.maxDepth) (allItems model ⟨provider, limits⟩ plan roots)
      (allItems model ⟨provider, deeper⟩ plan roots) := by
  rw [allItems_eq resolved, allItems_eq resolved]
  apply CutBy.flatMap
  intro root
  apply CutBy.flatMap
  intro steps
  exact (cutBy_group model le steps root).items

/-- A run over items ends where they are cut, unless it has ended before. -/
theorem Eager.CutBy.foldlM_addItem [BEq Key] [Hashable Key] {error : Error}
    {left right : List (Item Node)} (cut : CutBy error left right) (results : ResultSet Node Key)
    (uncut : left.foldlM (ResultSet.addItem model) results ≠ .error error) :
    right.foldlM (ResultSet.addItem model) results =
      left.foldlM (ResultSet.addItem model) results := by
  cases cut with
  | never => rfl
  | behind front cut whole =>
      rw [List.foldlM_append] at uncut ⊢
      rw [List.foldlM_append]
      cases gathered : front.foldlM (ResultSet.addItem model) results with
      | error other => rfl
      | ok reached =>
          rw [gathered] at uncut
          exact absurd rfl uncut

end

variable [BEq Key] [Hashable Key]

/-- A query's answer under a depth limit is its answer under every higher one, unless it is the
error of that limit.  Nothing is assumed of the graph of children, and an error stays an answer. -/
theorem run_eq_of_maxDepth_le (program : Program) (model : NodeModel Node Key)
    (provider : Provider Node) (roots : List Node) (limits deeper : Limits)
    (le : limits.maxDepth ≤ deeper.maxDepth)
    (uncut : program.run model provider .builtin limits roots ≠
      .error (.query (.depthLimitExceeded limits.maxDepth))) :
    program.run model provider .builtin deeper roots =
      program.run model provider .builtin limits roots := by
  cases resolved : program.resolve (Registry.builtin : Registry Node) with
  | error fault => simp only [Program.run, resolved]; rfl
  | ok plan =>
      rw [run_eq_foldlM resolved] at uncut ⊢
      rw [run_eq_foldlM resolved]
      have cut := cutBy_allItems model provider le resolved roots
      congr 1
      apply cut.foldlM_addItem
      intro failed
      rw [failed] at uncut
      exact uncut rfl

/-- A ring of two nodes, which every walk goes around until its limit.  The item asked for stands in
front of the cut, so the answer does not change with the limit; asking for all items does not get
that far. -/
theorem run_eq_of_maxDepth_le_on_ring :
    let ring : NodeModel Nat Nat := { key := id, children := fun
      | 0 => some [1]
      | _ => some [0] }
    let second : Program := ⟨"*:nth-child(1)", ⟨[]⟩, [[.any, .function "nth-child" "1"]]⟩
    let all : Program := ⟨"*", ⟨[]⟩, [[.any]]⟩
    second.run ring ring.hooks .builtin ⟨2, 1⟩ [0] = .ok [1] ∧
      second.run ring ring.hooks .builtin ⟨9, 1⟩ [0] = .ok [1] ∧
      all.run ring ring.hooks .builtin ⟨2, 1⟩ [0] = .error (.query (.depthLimitExceeded 2)) := by
  intro ring second all
  have answer : second.run ring ring.hooks .builtin ⟨2, 1⟩ [0] = .ok [1] := by
    rw [run_of_resolved rfl]
    rfl
  have uncut : second.run ring ring.hooks .builtin ⟨2, 1⟩ [0] ≠
      .error (.query (.depthLimitExceeded 2)) := by simp [answer]
  refine ⟨answer, ?_, rfl⟩
  rw [run_eq_of_maxDepth_le second ring ring.hooks [0] ⟨2, 1⟩ ⟨9, 1⟩ (by decide) uncut]
  exact answer

end NodeQuery
