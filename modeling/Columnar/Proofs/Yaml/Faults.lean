import Columnar.Proofs.Yaml.Marks
import Columnar.Proofs.Yaml.Tree
import Columnar.Yaml.Read

namespace Columnar.Yaml

namespace Node

inductive Inside : Node → Node → Prop
  | self {n : Node} : Inside n n
  | item {tag : Tag} {items : List Node} {m n : Node} :
      m ∈ items → Inside m n → Inside (.sequence tag items) n
  | key {tag : Tag} {entries : List (Node × Node)} {e : Node × Node} {n : Node} :
      e ∈ entries → Inside e.1 n → Inside (.mapping tag entries) n
  | value {tag : Tag} {entries : List (Node × Node)} {e : Node × Node} {n : Node} :
      e ∈ entries → Inside e.2 n → Inside (.mapping tag entries) n

theorem Inside.trans {a b c : Node} (first : a.Inside b) (second : b.Inside c) : a.Inside c := by
  induction first with
  | self => exact second
  | item member _ ih => exact .item member (ih second)
  | key member _ ih => exact .key member (ih second)
  | value member _ ih => exact .value member (ih second)

def ScalarFault (n : Node) (u : Unreadable) : Prop :=
  ∃ m, n.Inside m ∧ m.scalarValue = .error (.unreadable u)

theorem ScalarFault.within {a b : Node} {u : Unreadable} (fault : b.ScalarFault u)
    (inside : a.Inside b) : a.ScalarFault u := by
  obtain ⟨m, place, value⟩ := fault
  exact ⟨m, inside.trans place, value⟩

end Node

theorem Blames.within {α : Type} {a b : Node} {r : Except Fault α}
    (blames : Blames (Stops b.ScalarFault) r) (inside : a.Inside b) : Blames (Stops a.ScalarFault) r :=
  blames.weaken fun _ fault => fault.within inside

namespace Node

theorem ofUnreadable_stops {α : Type} (r : Except Unreadable α) :
    Blames (Stops fun _ => True) (Fault.ofUnreadable r) := by
  intro f failed
  cases r with
  | error u => cases failed; exact .unreadable trivial
  | ok a => cases failed

theorem valueAs_stops (kind : Kind) (text : Text) :
    Blames (Stops fun _ => True) (valueAs kind text) := by
  cases kind with
  | null | str => exact blames_ok _
  | merge | default | mark => exact blames_malformed
  | bool | int | float | timestamp => exact ofUnreadable_stops _
  | binary =>
    rw [valueAs, bytesOf]
    split
    · exact blames_ok _
    · exact blames_malformed

theorem taggedValue_stops (tag : String) (n : Node) :
    Blames (Stops fun _ => True) (taggedValue tag n) := by
  unfold taggedValue
  split
  · exact blames_malformed
  · rintro _ ⟨⟩
    exact .unreadable trivial
  · exact valueAs_stops _ _

theorem scalarValue_stops (n : Node) : Blames (Stops fun _ => True) n.scalarValue := by
  unfold scalarValue
  split
  · exact blames_ite (valueAs_stops _ _) (blames_ok _)
  · exact valueAs_stops _ _
  all_goals exact taggedValue_stops _ _

theorem scalarValue_blames (n : Node) : Blames (Stops n.ScalarFault) n.scalarValue := by
  intro f failed
  cases scalarValue_stops n f failed with
  | malformed => exact .malformed
  | unreadable => exact .unreadable ⟨n, .self, failed⟩

theorem checkHead_blames (n : Node) : Blames (Stops n.ScalarFault) n.checkHead := by
  unfold checkHead
  split
  · exact blames_malformed
  · exact n.scalarValue_blames.map _
  · exact blames_ok _

theorem keyValue_blames (n : Node) : Blames (Stops n.ScalarFault) n.keyValue := by
  unfold keyValue
  split
  · cases n.text? with
    | none => exact blames_malformed
    | some text => exact blames_ok _
  · split
    · exact n.scalarValue_blames
    · exact blames_malformed

theorem flatten_blames (depth : Nat) (entries : List (Node × Node)) :
    Blames (Stops fun _ => False) (flatten depth entries) := by
  induction depth generalizing entries with
  | zero => exact blames_malformed
  | succ depth ih =>
    unfold flatten
    refine (blames_mapM fun e _ => ?_).bind fun _ _ => blames_ok _
    split
    · split
      · exact ih _
      · refine (blames_mapM fun m _ => ?_).bind fun _ _ => blames_ok _
        split
        · exact ih _
        · exact blames_malformed
      · exact blames_malformed
    · exact blames_ok _

def HoldsEntry (n : Node) (e : Node × Node) : Prop := n.Inside e.1 ∧ n.Inside e.2

theorem HoldsEntry.within {a b : Node} {e : Node × Node} (holds : b.HoldsEntry e)
    (inside : a.Inside b) : a.HoldsEntry e :=
  ⟨inside.trans holds.1, inside.trans holds.2⟩

/-- What merging brings in stands below the merge keys. -/
theorem flatten_holds {depth : Nat} {entries merged : List (Node × Node)}
    (done : flatten depth entries = .ok merged) (tag : Tag) :
    ∀ e ∈ merged, (Node.mapping tag entries).HoldsEntry e := by
  induction depth generalizing entries merged tag with
  | zero => cases done
  | succ depth ih =>
    obtain ⟨parts, read, same⟩ := bind_ok done
    cases same
    intro e member
    rcases List.mem_append.mp member with brought | own
    · -- Under a merge key stands one mapping, or a list of them.
      obtain ⟨part, inPart, there⟩ := List.mem_flatten.mp brought
      obtain ⟨x, inside, merge⟩ := mapM_ok read part inPart
      have below : (Node.mapping tag entries).Inside x.2 := .value inside .self
      split at merge
      · split at merge
        · rename_i same
          exact (ih merge _ e there).within (same ▸ below)
        · rename_i t ns same
          obtain ⟨lists, each, joined⟩ := bind_ok merge
          cases joined
          obtain ⟨list, inList, deep⟩ := List.mem_flatten.mp there
          obtain ⟨m, position, flat⟩ := mapM_ok each list (List.mem_reverse.mp inList)
          split at flat
          · exact (ih flat _ e deep).within ((same ▸ below).trans (.item position .self))
          · cases flat
        · cases merge
      · cases merge
        cases there
    · have inside := (List.mem_filter.mp own).1
      exact ⟨.key inside .self, .value inside .self⟩

theorem checkEntries_blames (depth : Nat) (tag : Tag) (entries : List (Node × Node)) :
    Blames (Stops (ScalarFault (.mapping tag entries))) (checkInside.checkEntries depth entries) := by
  unfold checkInside.checkEntries
  refine (flatten_blames depth entries).never.bind fun merged done => ?_
  refine (blames_forM fun e member => ?_).bind fun _ _ => blames_ok _
  obtain ⟨key, value⟩ := flatten_holds done tag e member
  exact ((keyValue_blames e.1).within key).bind fun _ _ => (checkHead_blames e.2).within value

theorem checkEntries_inside {depth : Nat} {entries : List (Node × Node)} {ns : List Node}
    (done : checkInside.checkEntries depth entries = .ok ns) (tag : Tag) :
    ∀ m ∈ ns, (Node.mapping tag entries).Inside m := by
  obtain ⟨merged, flat, rest⟩ := bind_ok done
  obtain ⟨_, _, same⟩ := bind_ok rest
  cases same
  intro m member
  obtain ⟨e, inside, rfl⟩ := List.mem_map.mp (List.mem_filter.mp member).1
  exact (flatten_holds flat tag e inside).2

theorem pair_blames (n : Node) : Blames (Stops fun _ => False) (pair? n) := by
  unfold pair?
  split
  · exact blames_ok _
  · exact blames_malformed

theorem pair_holds {n : Node} {e : Node × Node} (done : pair? n = .ok e) : n.HoldsEntry e := by
  unfold pair? at done
  split at done
  · cases done
    exact ⟨.key List.mem_cons_self .self, .value List.mem_cons_self .self⟩
  · cases done

theorem checkInside_blames (depth : Nat) (n : Node) :
    Blames (Stops n.ScalarFault) (checkInside depth n) := by
  unfold checkInside
  split
  · refine (blames_forM fun m member => ?_).bind fun _ _ => blames_ok _
    exact (checkHead_blames m).within (.item member .self)
  · rename_i tag items _
    refine (blames_mapM fun m member => ?_).bind fun _ _ => blames_ok _
    refine (pair_blames m).never.bind fun e done => ?_
    have inside : (Node.sequence tag items).Inside m := .item member .self
    obtain ⟨key, value⟩ := (pair_holds done).within inside
    refine ((checkHead_blames e.1).within key).bind fun _ _ => ?_
    exact ((checkHead_blames e.2).within value).bind fun _ _ => blames_ok _
  · exact checkEntries_blames depth _ _
  · exact checkEntries_blames depth _ _
  · exact blames_malformed

theorem checkInside_inside {depth : Nat} {n : Node} {ns : List Node}
    (done : checkInside depth n = .ok ns) : ∀ m ∈ ns, n.Inside m := by
  unfold checkInside at done
  split at done
  · obtain ⟨_, _, same⟩ := bind_ok done
    cases same
    exact fun m member => .item (List.mem_filter.mp member).1 .self
  · obtain ⟨lists, read, same⟩ := bind_ok done
    cases same
    intro m member
    obtain ⟨list, inList, there⟩ := List.mem_flatten.mp member
    obtain ⟨item, place, checked⟩ := mapM_ok read list inList
    obtain ⟨e, pair, rest⟩ := bind_ok checked
    obtain ⟨_, _, rest⟩ := bind_ok rest
    obtain ⟨_, _, same⟩ := bind_ok rest
    cases same
    obtain ⟨key, value⟩ := pair_holds pair
    have side : m = e.1 ∨ m = e.2 := by simpa using (List.mem_filter.mp there).1
    rcases side with rfl | rfl
    · exact .item place key
    · exact .item place value
  · exact checkEntries_inside done _
  · exact checkEntries_inside done _
  · cases done

/-- Level by level, the check stops only at a scalar below one of the nodes it was given. -/
theorem checkLevels_blames (depth levels : Nat) (ns : List Node) :
    Blames (Stops fun u => ∃ n ∈ ns, n.ScalarFault u) (checkLevels depth levels ns) := by
  induction levels generalizing ns with
  | zero => exact blames_ok _
  | succ levels ih =>
    cases ns with
    | nil => exact blames_ok _
    | cons n ns =>
      refine (blames_mapM fun m member => ?_).bind fun inner read => ?_
      · exact (checkInside_blames depth m).weaken fun u fault => ⟨m, member, fault⟩
      · refine (ih inner.flatten).weaken fun u fault => ?_
        obtain ⟨m, deep, scalar⟩ := fault
        obtain ⟨list, inList, there⟩ := List.mem_flatten.mp deep
        obtain ⟨above, place, checked⟩ := mapM_ok read list inList
        exact ⟨above, place, scalar.within (checkInside_inside checked m there)⟩

theorem entriesOf_blames {fuel : Nat} (values : ∀ n, Blames (Stops n.ScalarFault) (valueOf fuel n))
    (tag : Tag) (entries : List (Node × Node)) :
    Blames (Stops (ScalarFault (.mapping tag entries))) (valueOf.entriesOf fuel entries) := by
  unfold valueOf.entriesOf
  refine (flatten_blames (fuel + 1) entries).never.bind fun merged done => ?_
  refine (blames_mapM fun e member => ?_).bind fun _ _ => blames_ok _
  obtain ⟨key, value⟩ := flatten_holds done tag e member
  refine ((keyValue_blames e.1).within key).bind fun _ _ => ?_
  exact ((values e.2).within value).bind fun _ _ => blames_ok _

theorem valueOf_blames (fuel : Nat) (n : Node) : Blames (Stops n.ScalarFault) (valueOf fuel n) := by
  induction fuel generalizing n with
  | zero =>
    rw [valueOf]
    exact blames_malformed
  | succ fuel ih =>
    unfold valueOf
    split
    · rename_i tag items _
      refine (blames_mapM fun m member => ?_).map _
      refine (pair_blames m).never.bind fun e done => ?_
      have inside : (Node.sequence tag items).Inside m := .item member .self
      obtain ⟨key, value⟩ := (pair_holds done).within inside
      refine ((ih e.1).within key).bind fun _ _ => ?_
      exact ((ih e.2).within value).bind fun _ _ => blames_ok _
    · refine (blames_mapM fun m member => ?_).map _
      exact (ih m).within (.item member .self)
    · exact (entriesOf_blames ih _ _).map _
    · exact (entriesOf_blames ih _ _).map _
    · exact scalarValue_blames _

end Node

/-- Where a text stops being read other than for its form: at a mark that spells what cannot be
read, or at a scalar in its tree. -/
inductive Unread (f : Feed) (u : Unreadable) : Prop
  | mark : Misspelt f.text (.unreadable u) → Unread f u
  | scalar {root : Node} : Node.ofStream f.tokens = .ok (some root) → root.ScalarFault u → Unread f u

theorem Misspelt.stops {f : Feed} {g : Fault} (misspelt : Misspelt f.text g) :
    Stops (Unread f) g := by
  cases misspelt with
  | malformed => exact .malformed
  | version within number long place => exact .unreadable (.mark (.version within number long place))
  | escape digits number beyond place =>
    exact .unreadable (.mark (.escape digits number beyond place))

theorem read_blames (f : Feed) :
    Blames (fun g => f.stop = some g ∨ Stops (Unread f) g) (read f) := by
  unfold read
  -- The tree stops for its form or with its tokens; the value stops at scalars of the tree only.
  refine Blames.bind (fun g failed => ?_) fun tree found => ?_
  · rcases Node.ofStream_error failed with rfl | met
    · exact .inr .malformed
    · exact (tokens_stops met).imp_right Misspelt.stops
  · cases tree with
    | none => exact blames_ok _
    | some root =>
      suffices scalars : Blames (Stops root.ScalarFault) _ from
        scalars.mono fun g stops => .inr (stops.mono fun u fault => .scalar found fault)
      refine root.checkHead_blames.bind fun _ _ => ?_
      refine Blames.bind ?_ fun _ _ => root.valueOf_blames _
      refine (Node.checkLevels_blames _ _ _).weaken fun u fault => ?_
      obtain ⟨n, member, scalar⟩ := fault
      cases List.mem_singleton.mp (List.mem_filter.mp member).1
      exact scalar

end Columnar.Yaml
