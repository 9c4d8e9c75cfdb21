import Columnar.Yaml.Node

namespace Columnar.Yaml.Node.Parser

variable {α β : Type}

/-- What is met behind the tokens stays as it is; a failure is one of form, or is met there. -/
def Keeps (p : Parser α) : Prop :=
  ∀ r : Reading, match p r with
    | .ok (_, r') => r'.stream.stop = r.stream.stop
    | .error f => f = .malformed ∨ r.stream.stop = some f

theorem keeps_pure (a : α) : Keeps (pure a : Parser α) := fun _ => rfl

theorem keeps_fail : Keeps (fail : Parser α) := fun _ => .inl rfl

theorem bind_apply (p : Parser α) (f : α → Parser β) (r : Reading) :
    (p >>= f) r = (p r).bind fun q => f q.1 q.2 := rfl

theorem Keeps.bind {p : Parser α} {f : α → Parser β} (first : Keeps p)
    (second : ∀ a, Keeps (f a)) : Keeps (p >>= f) := by
  intro r
  have start := first r
  rw [bind_apply]
  cases same : p r with
  | error e =>
    rw [same] at start
    exact start
  | ok q =>
    rw [same] at start
    rw [← start]
    exact second q.1 q.2

theorem keeps_get : Keeps (get : Parser Reading) := fun _ => rfl

theorem keeps_modify {f : Reading → Reading} (same : ∀ r, (f r).stream.stop = r.stream.stop) :
    Keeps (modify f : Parser PUnit) := fun r => same r

theorem keeps_drop : Keeps drop := keeps_modify fun _ => rfl

theorem keeps_peek : Keeps peek := by
  rintro ⟨⟨tokens, stop⟩, anchors, handles⟩
  cases tokens with
  | cons t ts => rfl
  | nil =>
    -- Only here, where all tokens are taken, is it met what stands behind them.
    cases stop with
    | none => rfl
    | some f => exact .inr rfl

theorem keeps_ite {p : Prop} [Decidable p] {q q' : Parser α} (yes : Keeps q) (no : Keeps q') :
    Keeps (if p then q else q') := by
  split
  · exact yes
  · exact no

theorem fullTag_keeps (handle : Option String) (rest : String) : Keeps (fullTag handle rest) := by
  cases handle with
  | none => exact keeps_pure _
  | some h =>
    refine keeps_get.bind fun r => ?_
    split
    · exact keeps_pure _
    · exact keeps_fail

theorem properties_keeps : Keeps properties := by
  refine keeps_peek.bind fun t => ?_
  split
  · refine keeps_drop.bind fun _ => keeps_peek.bind fun t => ?_
    split
    · exact keeps_drop.bind fun _ => (fullTag_keeps _ _).bind fun _ => keeps_pure _
    · exact keeps_pure _
  · refine keeps_drop.bind fun _ => keeps_peek.bind fun t => ?_
    split
    · exact keeps_drop.bind fun _ => (fullTag_keeps _ _).bind fun _ => keeps_pure _
    · exact (fullTag_keeps _ _).bind fun _ => keeps_pure _
  · exact keeps_pure _

theorem openAnchor_keeps (p : Properties) : Keeps (openAnchor p) := by
  unfold openAnchor
  split
  · exact keeps_pure _
  · exact keeps_get.bind fun r => keeps_ite keeps_fail (keeps_modify fun _ => rfl)

theorem closeAnchor_keeps (p : Properties) (n : Node) : Keeps (closeAnchor p n) := by
  unfold closeAnchor
  split
  · exact keeps_pure _
  · refine Keeps.bind ?_ fun _ => keeps_pure _
    exact keeps_modify fun _ => rfl

theorem ofAlias_keeps (a : String) : Keeps (ofAlias a) := by
  refine keeps_get.bind fun r => ?_
  split
  · exact keeps_pure _
  · exact keeps_fail

theorem scalar_keeps (p : Properties) (text : Text) (plain : Bool) : Keeps (scalar p text plain) :=
  (openAnchor_keeps p).bind fun _ => closeAnchor_keeps p _

theorem sequence_keeps (p : Properties) {items : Parser (List Node)} (parts : Keeps items) :
    Keeps (sequence p items) :=
  (openAnchor_keeps p).bind fun _ => parts.bind fun _ => closeAnchor_keeps p _

theorem mapping_keeps (p : Properties) {entries : Parser (List (Node × Node))}
    (parts : Keeps entries) : Keeps (mapping p entries) :=
  (openAnchor_keeps p).bind fun _ => parts.bind fun _ => closeAnchor_keeps p _

theorem before_keeps (marks : List Token) : Keeps (before marks) :=
  keeps_peek.bind fun _ => keeps_pure _

theorem flowEnds_keeps (first : Bool) (last : Token) : Keeps (flowEnds first last) := by
  refine keeps_peek.bind fun t => ?_
  split
  · exact keeps_drop.bind fun _ => keeps_peek.bind fun _ => keeps_pure _
  · exact keeps_ite (keeps_pure _) (keeps_ite (keeps_pure _) keeps_fail)

structure NodesKeep (fuel : Nat) : Prop where
  read : ∀ block indentless, Keeps (read block indentless fuel)
  readUnless : ∀ marks block indentless, Keeps (readUnless marks block indentless fuel)
  readValue : ∀ marks block indentless, Keeps (readValue marks block indentless fuel)
  blockItems : Keeps (blockItems fuel)
  indentlessItems : Keeps (indentlessItems fuel)
  blockEntries : Keeps (blockEntries fuel)
  flowItems : ∀ first, Keeps (flowItems first fuel)
  flowEntries : ∀ first, Keeps (flowEntries first fuel)

theorem nodes_keep (fuel : Nat) : NodesKeep fuel := by
  induction fuel with
  | zero =>
    constructor <;> intros
    · unfold Parser.read; exact keeps_fail
    · unfold Parser.readUnless; exact keeps_fail
    · unfold Parser.readValue; exact keeps_fail
    · unfold Parser.blockItems; exact keeps_fail
    · unfold Parser.indentlessItems; exact keeps_fail
    · unfold Parser.blockEntries; exact keeps_fail
    · unfold Parser.flowItems; exact keeps_fail
    · unfold Parser.flowEntries; exact keeps_fail
  | succ fuel ih =>
    constructor
    · intro block indentless
      unfold Parser.read
      refine keeps_peek.bind fun t => ?_
      split
      · exact keeps_drop.bind fun _ => ofAlias_keeps _
      · refine properties_keeps.bind fun p => keeps_peek.bind fun t => ?_
        split
        · exact keeps_drop.bind fun _ => scalar_keeps p _ _
        · exact keeps_drop.bind fun _ => sequence_keeps p (ih.flowItems true)
        · exact keeps_drop.bind fun _ => mapping_keeps p (ih.flowEntries true)
        · exact keeps_drop.bind fun _ => sequence_keeps p ih.blockItems
        · exact keeps_drop.bind fun _ => mapping_keeps p ih.blockEntries
        · refine keeps_ite (sequence_keeps p ih.indentlessItems) ?_
          exact keeps_ite keeps_fail (scalar_keeps p _ _)
    · intro marks block indentless
      unfold Parser.readUnless
      exact (before_keeps marks).bind fun _ => keeps_ite (keeps_pure _) (ih.read block indentless)
    · intro marks block indentless
      unfold Parser.readValue
      refine keeps_peek.bind fun t => ?_
      split
      · exact keeps_drop.bind fun _ => ih.readUnless marks block indentless
      · exact keeps_pure _
    · unfold Parser.blockItems
      refine keeps_peek.bind fun t => ?_
      split
      · exact keeps_drop.bind fun _ => (ih.readUnless _ _ _).bind fun _ =>
          ih.blockItems.bind fun _ => keeps_pure _
      · exact keeps_drop.bind fun _ => keeps_pure _
      · exact keeps_fail
    · unfold Parser.indentlessItems
      refine keeps_peek.bind fun t => ?_
      split
      · exact keeps_drop.bind fun _ => (ih.readUnless _ _ _).bind fun _ =>
          ih.indentlessItems.bind fun _ => keeps_pure _
      · exact keeps_pure _
    · unfold Parser.blockEntries
      refine keeps_peek.bind fun t => ?_
      split
      · exact keeps_drop.bind fun _ => (ih.readUnless _ _ _).bind fun _ =>
          (ih.readValue _ _ _).bind fun _ => ih.blockEntries.bind fun _ => keeps_pure _
      · exact keeps_drop.bind fun _ => keeps_pure _
      · exact keeps_fail
    · intro first
      unfold Parser.flowItems
      refine (flowEnds_keeps first _).bind fun ends => ?_
      refine keeps_ite (keeps_drop.bind fun _ => keeps_pure _) (keeps_peek.bind fun t => ?_)
      split
      · exact keeps_drop.bind fun _ => (ih.readUnless _ _ _).bind fun _ =>
          (ih.readValue _ _ _).bind fun _ => (ih.flowItems false).bind fun _ => keeps_pure _
      · exact (ih.read _ _).bind fun _ => (ih.flowItems false).bind fun _ => keeps_pure _
    · intro first
      unfold Parser.flowEntries
      refine (flowEnds_keeps first _).bind fun ends => ?_
      refine keeps_ite (keeps_drop.bind fun _ => keeps_pure _) (keeps_peek.bind fun t => ?_)
      split
      · exact keeps_drop.bind fun _ => (ih.readUnless _ _ _).bind fun _ =>
          (ih.readValue _ _ _).bind fun _ => (ih.flowEntries false).bind fun _ => keeps_pure _
      · exact (ih.read _ _).bind fun _ => (ih.flowEntries false).bind fun _ => keeps_pure _

theorem directives_keeps (version : Bool) (handles : List (String × String)) (fuel : Nat) :
    Keeps (directives version handles fuel) := by
  induction fuel generalizing version handles with
  | zero => exact keeps_fail
  | succ fuel ih =>
    refine keeps_peek.bind fun t => ?_
    split
    · refine keeps_drop.bind fun _ => ?_
      split
      · exact keeps_ite keeps_fail (ih _ _)
      · exact keeps_ite keeps_fail (ih _ _)
      · exact ih _ _
    · exact keeps_pure _

theorem documentStart_keeps (fuel : Nat) : Keeps (documentStart fuel) := by
  refine (directives_keeps _ _ _).bind fun handles => keeps_peek.bind fun t => ?_
  split
  · exact keeps_drop.bind fun _ => keeps_modify fun _ => rfl
  · exact keeps_fail

theorem documentEnds_keeps (fuel : Nat) : Keeps (documentEnds fuel) := by
  induction fuel with
  | zero => exact keeps_fail
  | succ fuel ih =>
    refine keeps_peek.bind fun t => ?_
    split
    · exact keeps_drop.bind fun _ => ih
    · exact keeps_pure _

theorem rootBehindMark_keeps (fuel : Nat) : Keeps (rootBehindMark fuel) := by
  refine keeps_peek.bind fun t => ?_
  split
  all_goals first | exact keeps_pure _ | exact (nodes_keep fuel).read _ _

theorem onlyDocument_keeps (root : Node) (fuel : Nat) : Keeps (onlyDocument root fuel) := by
  refine (documentEnds_keeps fuel).bind fun _ => keeps_peek.bind fun t => ?_
  split
  · exact keeps_pure _
  · exact (documentStart_keeps fuel).bind fun _ => keeps_fail

theorem document_keeps (fuel : Nat) : Keeps (document fuel) := by
  have only (root : Node) := onlyDocument_keeps root fuel
  refine keeps_peek.bind fun t => ?_
  split
  · exact keeps_pure _
  · exact (documentStart_keeps fuel).bind fun _ => (rootBehindMark_keeps fuel).bind only
  · exact (documentStart_keeps fuel).bind fun _ => (rootBehindMark_keeps fuel).bind only
  · exact ((nodes_keep fuel).read _ _).bind only

end Columnar.Yaml.Node.Parser

namespace Columnar.Yaml.Node

/-- No tree is found for the form of the text only, or for what is met behind its tokens. -/
theorem ofStream_error {s : Stream} {f : Fault} (failed : ofStream s = .error f) :
    f = .malformed ∨ s.stop = some f := by
  let start : Reading := ⟨s, [], coreHandles⟩
  have keeps := Parser.document_keeps (4 * s.tokens.length + 4) start
  change (Parser.document (4 * s.tokens.length + 4) start).map Prod.fst = _ at failed
  cases ends : Parser.document (4 * s.tokens.length + 4) start with
  | ok q => rw [ends] at failed; cases failed
  | error g =>
    rw [ends] at failed keeps
    cases failed
    exact keeps

end Columnar.Yaml.Node
