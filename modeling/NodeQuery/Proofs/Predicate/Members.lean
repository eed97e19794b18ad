import NodeQuery.Node.Document
import NodeQuery.Proofs.Outcome
import NodeQuery.Proofs.Predicate.Quotation
import NodeQuery.Proofs.Value.Equality

/-!
# Members of documents

There are two ways to a member of a document.  A path with dots walks from part to part and takes
the value of the last one; indexing takes the value of the first part as a whole and then looks for
one key after the other.  Both come to the same value, since the value of a member is the member of
the value.  They differ where a member is missing: the path fails and the index is `null`.
-/

namespace NodeQuery

/-! ## Paths -/

namespace Provider

variable {Node : Type} {provider : Provider Node}

theorem resolve_cons_eq_some {node target : Node} {name : String} {path : List String} :
    provider.resolve node (name :: path) = some target ↔
      ∃ next, provider.attr node name = some next ∧ provider.resolve next path = some target := by
  rw [resolve]
  cases provider.attr node name <;> simp

/-- A longer path goes on where the shorter one ends. -/
theorem resolve_append (provider : Provider Node) (node : Node) (front behind : List String) :
    provider.resolve node (front ++ behind) =
      (provider.resolve node front).bind fun middle => provider.resolve middle behind := by
  induction front generalizing node with
  | nil => rfl
  | cons name front ih =>
      rw [List.cons_append, resolve, resolve]
      cases provider.attr node name with
      | none => rfl
      | some next => exact ih next

end Provider

/-! ## Parts and their values -/

namespace Document

/-- The member of an object of the given name. -/
def member? (name : String) : Document → Option Document
  | .object members => members.lookup name
  | _ => none

theorem lookup_toEntries (members : List (String × Document)) (name : String) :
    (toEntries members).lookup name = (members.lookup name).map toValue := by
  induction members with
  | nil => rfl
  | cons member members ih =>
      rw [toEntries, List.lookup_cons, List.lookup_cons, ih]
      cases name == member.1 <;> rfl

/-- The member of the value is the value of the member. -/
theorem indexValue_object (members : List (String × Document)) (name : String) :
    Predicate.indexValue (object members).toValue (.string name) =
      .ok (((members.lookup name).map toValue).getD .null) := by
  rw [toValue, Predicate.indexValue, lookup_toEntries]

/-- Where all members are found, the one way leads to the value of what the other leads to. -/
theorem foldlM_indexValue_of_members {document part : Document} {names : List String}
    (found : names.foldlM (fun document name => document.member? name) document = some part) :
    names.foldlM (fun value name => Predicate.indexValue value (.string name)) document.toValue =
      .ok part.toValue := by
  induction names generalizing document with
  | nil =>
      cases found
      rfl
  | cons name names ih =>
      rw [List.foldlM_cons] at found ⊢
      obtain ⟨next, first, behind⟩ := Option.bind_eq_some_iff.mp found
      cases document with
      | object members =>
          rw [member?] at first
          rw [indexValue_object, first]
          exact ih behind
      | _ => cases first

end Document

/-- The first member of a name stands at the first position of the name. -/
theorem bind_findIdx? (members : List (String × Document)) (name : String) :
    ((members.findIdx? fun (member, _) => member == name).bind fun position =>
      members[position]?.map Prod.snd) = members.lookup name := by
  induction members with
  | nil => rfl
  | cons member members ih =>
      obtain ⟨other, value⟩ := member
      by_cases same : other = name
      · simp [List.findIdx?_cons, same]
      · have different : (name == other) = false := beq_false_of_ne (Ne.symm same)
        simp [List.findIdx?_cons, List.lookup_cons, same, different, ← ih, Option.bind_map]

namespace DocumentNode

theorem content_attr (node : DocumentNode) (name : String) :
    (node.attr name).map content = node.content.member? name := by
  obtain ⟨path, document⟩ := node
  cases document with
  | object members =>
      simp only [attr, Document.member?, Option.bind_eq_bind]
      rw [← bind_findIdx?, Option.map_bind]
      congr 1
      funext position
      simp only [Function.comp_apply]
      cases members[position]? <;> rfl
  | _ => rfl

/-- A path is followed through the contents of the parts. -/
theorem members_of_resolve {node target : DocumentNode} {path : List String}
    (resolved : model.hooks.resolve node path = some target) :
    path.foldlM (fun document name => document.member? name) node.content =
      some target.content := by
  induction path generalizing node with
  | nil =>
      cases resolved
      rfl
  | cons name path ih =>
      obtain ⟨next, found, behind⟩ := Provider.resolve_cons_eq_some.mp resolved
      have first : node.content.member? name = some next.content := by
        rw [← content_attr]
        exact congrArg (Option.map content) found
      rw [List.foldlM_cons, first]
      exact ih behind

end DocumentNode

/-! ## Expressions -/

namespace Predicate

/-- `p₁["p₂"]…["pₖ"]` -/
def Expr.indexed (first : String) (others : List String) : Expr :=
  others.foldl (fun target name => .index target (.literal (.string name))) (.path [first])

/-- The expression as it is written, the keys between double quotes. -/
def indexedText (first : String) (others : List String) : String :=
  others.foldl (fun text name => text ++ "[" ++ QuoteMark.double.quote name ++ "]") first

theorem Reads.foldl_index (names : List String) {text : String} {target : Expr}
    (reads : Reads Grammar.Indexing text.toList target 1) :
    Reads Grammar.Indexing
      (names.foldl (fun text name => text ++ "[" ++ QuoteMark.double.quote name ++ "]")
        text).toList
      (names.foldl (fun target name => .index target (.literal (.string name))) target) 1 := by
  induction names generalizing text target with
  | nil => exact reads
  | cons name names ih =>
      apply ih
      have key := (Reads.quote .double name).disjunction.expression
      simpa using reads.index key

variable {table : PatternTable} {view : View}

theorem Expr.eval_foldl_index (names : List String) (target : Expr) :
    (names.foldl (fun target name => .index target (.literal (.string name))) target).eval table
        view =
      target.eval table view >>= fun value =>
        names.foldlM (fun value name => indexValue value (.string name)) value := by
  induction names generalizing target with
  | nil => exact (bind_pure _).symm
  | cons name names ih =>
      rw [List.foldl_cons, ih, Expr.eval]
      cases target.eval table view <;> rfl

end Predicate

open Predicate

section

variable {table : PatternTable} {node : DocumentNode} {first : String} {others : List String}

theorem eval_path_of_resolve {path : List String} {target : DocumentNode}
    (resolved : DocumentNode.model.hooks.resolve node path = some target) :
    (Expr.path path).eval table (nodeView DocumentNode.model DocumentNode.model.hooks node) =
      .ok target.content.toValue := by
  rw [Expr.eval, nodeView, resolved]
  rfl

/-- Where the path resolves, indexing finds the value of its target. -/
theorem eval_indexed_of_resolve {target : DocumentNode}
    (resolved : DocumentNode.model.hooks.resolve node (first :: others) = some target) :
    (Expr.indexed first others).eval table
        (nodeView DocumentNode.model DocumentNode.model.hooks node) =
      .ok target.content.toValue := by
  obtain ⟨next, found, behind⟩ := Provider.resolve_cons_eq_some.mp resolved
  have single : DocumentNode.model.hooks.resolve node [first] = some next :=
    Provider.resolve_cons_eq_some.mpr ⟨next, found, rfl⟩
  rw [Expr.indexed, Expr.eval_foldl_index, eval_path_of_resolve single]
  exact Document.foldlM_indexValue_of_members (DocumentNode.members_of_resolve behind)

theorem resolve_of_missing {parent : DocumentNode} {members : List (String × Document)}
    {path : List String} {last : String}
    (resolved : DocumentNode.model.hooks.resolve node path = some parent)
    (content : parent.content = .object members) (absent : members.lookup last = none) :
    DocumentNode.model.hooks.resolve node (path ++ [last]) = none := by
  have unknown : DocumentNode.model.hooks.attr parent last = none := by
    have missing := parent.content_attr last
    rw [content, Document.member?, absent] at missing
    exact Option.map_eq_none_iff.mp missing
  rw [Provider.resolve_append, resolved, Option.bind_some, Provider.resolve, unknown]

end

/-- On documents, a path and the same segments as indices have the same value wherever the path has
one.  If only the last segment is missing, as a member of an object, the index is `null` and the
path an error that names the whole path.  The two expressions are what their texts are read as. -/
theorem paths_agree_with_indices (node : DocumentNode) (first : String) (others : List String)
    (table : PatternTable) :
    let provider := DocumentNode.model.hooks
    let view := nodeView DocumentNode.model provider node
    (∀ value, (Expr.path (first :: others)).eval table view = .ok value →
      (Expr.indexed first others).eval table view = .ok value) ∧
    (∀ parent members last, provider.resolve node (first :: others) = some parent →
      parent.content = .object members → last ∉ members.map Prod.fst →
      let longer := first :: (others ++ [last])
      (Expr.indexed first (others ++ [last])).eval table view = .ok .null ∧
        (Expr.path longer).eval table view = .error (.unknownAttribute longer) ∧
        PredicateError.message (.unknownAttribute longer) =
          "unknown attribute `" ++ (Expr.path longer).text ++ "`") ∧
    ((∀ name ∈ first :: others, IsName name) → ∀ limit, 2 ≤ limit →
      parse (".".intercalate (first :: others)) limit = .ok (.path (first :: others)) ∧
        parse (indexedText first others) limit = .ok (.indexed first others)) := by
  intro provider view
  refine ⟨?_, ?_, ?_⟩
  · intro value evaluated
    cases resolved : provider.resolve node (first :: others) with
    | none =>
        have failed : view (first :: others) = none := Option.map_eq_none_iff.mpr resolved
        rw [Expr.eval, failed] at evaluated
        cases evaluated
    | some target =>
        rw [eval_path_of_resolve resolved] at evaluated
        exact (eval_indexed_of_resolve resolved).trans evaluated
  · intro parent members last resolved content missing longer
    have absent : members.lookup last = none := Entries.lookup_eq_none.mpr missing
    refine ⟨?_, ?_, rfl⟩
    · have extended : Expr.indexed first (others ++ [last]) =
          .index (.indexed first others) (.literal (.string last)) := by
        simp [Expr.indexed]
      rw [extended, Expr.eval, eval_indexed_of_resolve resolved, content]
      exact (Document.indexValue_object members last).trans (by rw [absent]; rfl)
    · have failed : view longer = none :=
        Option.map_eq_none_iff.mpr (resolve_of_missing resolved content absent)
      rw [Expr.eval, failed]
  · intro names limit room
    constructor
    · have read := (Reads.path (List.cons_ne_nil _ _) names).disjunction.expression.parse
        (Nat.le_trans (by decide) room)
      rwa [String.ofList_toList] at read
    · have start := (Reads.name (names first List.mem_cons_self)).mono (Nat.zero_le 1)
      have read := (Reads.foldl_index others start).disjunction.expression.parse room
      rwa [String.ofList_toList] at read

/-- The member `b` is a list with an object in it; there is no member `c`. -/
theorem paths_agree_with_indices_below_object :
    let list : Document := .array [.int 1, .object [("c", .null)]]
    let node : DocumentNode := ⟨[], .object [("x", .null), ("a", .object [("b", list)])]⟩
    let view := nodeView DocumentNode.model DocumentNode.model.hooks node
    (Expr.indexed "a" ["b"]).eval [] view = .ok (.list [.int 1, .map [("c", .null)]]) ∧
      (Expr.indexed "a" ["c"]).eval [] view = .ok .null ∧
      (Expr.path ["a", "c"]).eval [] view = .error (.unknownAttribute ["a", "c"]) ∧
      PredicateError.message (.unknownAttribute ["a", "c"]) = "unknown attribute `a.c`" ∧
      parse "a.b" 2 = .ok (.path ["a", "b"]) ∧ parse "a[\"b\"]" 2 = .ok (.indexed "a" ["b"]) := by
  intro list node view
  obtain ⟨values, _, read⟩ := paths_agree_with_indices node "a" ["b"] []
  obtain ⟨_, missing, _⟩ := paths_agree_with_indices node "a" [] []
  have evaluated : (Expr.path ["a", "b"]).eval [] view =
      .ok (.list [.int 1, .map [("c", .null)]]) := by rfl
  have isName (name : String) (member : name ∈ ["a", "b"]) : IsName name := by
    rcases List.mem_pair.mp member with rfl | rfl <;> exact ⟨⟨rfl, rfl⟩, rfl⟩
  obtain ⟨null, failed, named⟩ := missing _ _ "c" rfl rfl (by decide)
  obtain ⟨dotted, indexed⟩ := read isName 2 (Nat.le_refl 2)
  exact ⟨values _ evaluated, null, failed, named, dotted, indexed⟩

end NodeQuery
