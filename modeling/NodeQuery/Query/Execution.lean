import NodeQuery.Query.Program
import NodeQuery.Query.ResultSet

/-!
# Running programs

All names are resolved before anything runs.  Then, for each root and each group, the candidates of
the group are asked for one after the other.  The first error ends the query.
-/

namespace NodeQuery

/-- A step with its name resolved. -/
inductive Stage (Node : Type) where
  | any
  | tag (name : String)
  | class (name : String)
  | id (name : String)
  | predicate (body : Predicate.Compiled)
  | pseudo (transform : Pseudo Node)
  | function (transform : Function Node) (args : String)
  | descendants
  | children

section

variable {Node Key : Type}

/-- Resolves the name of a step. -/
def Step.resolve (registry : Registry Node) : Step → Except QueryError (Stage Node)
  | .any => .ok .any
  | .tag name => .ok (.tag name)
  | .class name => .ok (.class name)
  | .id name => .ok (.id name)
  | .predicate body => .ok (.predicate body)
  | .pseudo name =>
      match registry.pseudo? name with
      | some transform => .ok (.pseudo transform)
      | none => .error (.unknownPseudo name)
  | .function name args =>
      match registry.function? name with
      | some transform => .ok (.function transform args)
      | none => .error (.unknownFunction name)
  | .descendants => .ok .descendants
  | .children => .ok .children
  | .unsupported link => .error (.unsupportedCombinator link)

/-- Resolves the names of all steps, in the order of the text. -/
def Program.resolve (program : Program) (registry : Registry Node) :
    Except QueryError (List (List (Stage Node))) :=
  program.groups.mapM fun steps => steps.mapM (Step.resolve registry)

/-- What a predicate sees of a node. -/
def nodeView (model : NodeModel Node Key) (provider : Provider Node) (node : Node) :
    Predicate.View :=
  fun path => (provider.resolve node path).map model.value

/-- The candidates behind a stage. -/
def Stage.apply (model : NodeModel Node Key) (context : Context Node)
    (candidates : Candidates Node) : Stage Node → Except QueryError (Candidates Node)
  | .any => .ok candidates
  | .tag name =>
      .ok (candidates.filterNodes fun node => context.provider.tag node == some name)
  | .class name => .ok (candidates.filterNodes fun node => context.provider.hasClass node name)
  | .id name => .ok (candidates.filterNodes fun node => context.provider.id node == some name)
  | .predicate body =>
      .ok (candidates.tryFilter fun node =>
        body.matches? (nodeView model context.provider node))
  | .pseudo transform => .ok (transform context candidates)
  | .function transform args => transform context args candidates
  | .descendants => .ok (candidates.descendants context.provider context.limits.maxDepth)
  | .children => .ok (candidates.children context.provider)

/-- The candidates of a group below one root.  The first step looks at the root and everything
below it. -/
def groupCandidates (model : NodeModel Node Key) (context : Context Node)
    (stages : List (Stage Node)) (root : Node) : Except QueryError (Candidates Node) :=
  stages.foldlM (Stage.apply model context)
    (Candidates.descendants context.provider context.limits.maxDepth (.singleton (.ok root)))

variable [BEq Key] [Hashable Key]

/-- Adds all candidates to the results, or stops at the first error. -/
def ResultSet.addAll (model : NodeModel Node Key) (results : ResultSet Node Key) :
    LazyCell (Item Node) → Except Error (ResultSet Node Key)
  | .done => .ok results
  | .item (.error error) _ => .error error
  | .item (.ok node) rest => addAll model (results.insert (model.key node) node) (rest ())

/-- Adds the results of one group below one root. -/
def ResultSet.addGroup (model : NodeModel Node Key) (context : Context Node)
    (results : ResultSet Node Key) (root : Node) (stages : List (Stage Node)) :
    Except Error (ResultSet Node Key) := do
  let candidates ← (groupCandidates model context stages root).mapError Error.query
  results.addAll model (candidates.pull ())

/-- The nodes that a program finds at and below the roots. -/
def Program.run (program : Program) (model : NodeModel Node Key) (provider : Provider Node)
    (registry : Registry Node) (limits : Limits) (roots : List Node) :
    Except Error (List Node) := do
  let groups ← (program.resolve registry).mapError Error.query
  let context : Context Node := ⟨provider, limits⟩
  let results ← roots.foldlM
    (fun results root =>
      groups.foldlM (fun results stages => results.addGroup model context root stages) results)
    (ResultSet.empty : ResultSet Node Key)
  .ok results.toList

end

end NodeQuery
