import StagedSql.Proofs.Graph.Dependencies
import StagedSql.Proofs.JoinedName

/-!
# Inputs found under the name of a join

Joins whose tables are cut from one text make the same name known, and so does a LOAD stage of that
name. A stage that refers to the name of a join has the join as an input if none of these stands in
between. Ids may repeat here: it matters only that no later stage takes the id of the one that refers.
-/

namespace StagedSql

namespace Stage

open TableName

structure JoinsOver (s : Stage) (left right : String) : Prop where
  kind_eq : s.kind = .join
  left_given : (s.entry "leftTable").isGiven
  right_given : (s.entry "rightTable").isGiven
  left_eq : (s.entry "leftTable").display = left
  right_eq : (s.entry "rightTable").display = right

/-- The stage makes the name of the join of `a` and `b` known: it loads a table of that name, or it is a
join whose tables are cut from the same text. -/
def TakesJoinName (s : Stage) (a b : String) : Prop :=
  (s.kind = .load ∧ (s.entry "tableName").givenText? = some (joined a b)) ∨
    ∃ c d, s.JoinsOver c d ∧ CutAlike a b c d

variable {s : Stage} {a b name : String} {i : Nat}

theorem joinsAs_iff : s.JoinsAs name ↔ ∃ c d, s.JoinsOver c d ∧ name = joined c d := by
  constructor
  · rintro ⟨hkind, hleft, hright, rfl⟩
    exact ⟨_, _, ⟨hkind, hleft, hright, rfl, rfl⟩, rfl⟩
  · rintro ⟨c, d, ⟨hkind, hleft, hright, rfl, rfl⟩, rfl⟩
    exact ⟨hkind, hleft, hright, rfl⟩

theorem joined_mem_producedTables_iff : joined a b ∈ s.producedTables i ↔ s.TakesJoinName a b := by
  have houtput : s.outputName? i = some (joined a b) ↔
      s.kind = .load ∧ (s.entry "tableName").givenText? = some (joined a b) := by
    by_cases hkind : s.kind = .load
    · rw [outputName?_of_load hkind]
      exact ⟨fun h => ⟨hkind, h⟩, fun h => h.2⟩
    · rw [outputName?_of_ne_load hkind, Option.some.injEq]
      exact iff_of_false (joined_ne_result a b i s.kind).symm fun h => hkind h.1
  rw [mem_producedTables_iff, houtput, joinsAs_iff]
  simp only [joined_eq_iff, TakesJoinName]

theorem JoinsOver.takesJoinName (h : s.JoinsOver a b) : s.TakesJoinName a b :=
  .inr ⟨a, b, h, .inl ⟨rfl, rfl⟩⟩

end Stage

namespace Graph

open Outcome

/-! ### Nodes of the last stage with an id -/

section

variable {done rest : List Stage} {g next : Progress} {stage : Stage} {id : String} {i : Nat}

theorem passAll_append (g : Progress) (i : Nat) (front rest : List Stage) :
    g.passAll i (front ++ rest) =
      g.passAll i front >>= fun g => g.passAll (i + front.length) rest := by
  induction front generalizing g i with
  | nil => rfl
  | cons stage front ih =>
    rw [List.cons_append, Progress.passAll, Progress.passAll, List.length_cons]
    cases g.pass i stage with
    | error fault => rfl
    | ok g' =>
      show g'.passAll (i + 1) (front ++ rest) = _
      rw [ih, Nat.add_assoc, Nat.add_comm 1]
      rfl

theorem producers_of_pass (hproducers : ∀ name, g.producers.lookup? name = producerId? done name)
    (h : g.pass done.length stage = .ok next) (name : String) :
    next.producers.lookup? name = producerId? (done ++ [stage]) name := by
  obtain ⟨names, -, hnext⟩ := exists_of_bind_ok h
  obtain rfl := Except.ok.inj hnext
  dsimp only
  rw [lookup?_registered, producerId?, lastProducer?_concat, hproducers]
  split <;> rfl

theorem producers_of_passAll (hproducers : ∀ name, g.producers.lookup? name = producerId? done name)
    (h : g.passAll done.length rest = .ok next) (name : String) :
    next.producers.lookup? name = producerId? (done ++ rest) name := by
  induction rest generalizing done g with
  | nil =>
    obtain rfl := Except.ok.inj h
    rw [List.append_nil, hproducers]
  | cons stage rest ih =>
    obtain ⟨g', hfirst, hrest⟩ := exists_of_bind_ok h
    rw [List.append_cons]
    refine ih (producers_of_pass hproducers hfirst) ?_
    rw [List.length_append, List.length_singleton]
    exact hrest

theorem lookup?_of_passAll (h : g.passAll i rest = .ok next) (hid : id ∉ rest.map (·.id)) :
    next.nodes.lookup? id = g.nodes.lookup? id := by
  induction rest generalizing g i with
  | nil =>
    obtain rfl := Except.ok.inj h
    rfl
  | cons stage rest ih =>
    obtain ⟨g', hfirst, hrest⟩ := exists_of_bind_ok h
    obtain ⟨names, -, hnodes⟩ := names_of_pass hfirst
    rw [List.map_cons, List.mem_cons, not_or] at hid
    rw [ih hrest hid.2, hnodes, Keyed.lookup?_put_of_ne hid.1, Keyed.lookup?_put_of_ne hid.1]

theorem resolves_of_pass (hproducers : ∀ name, g.producers.lookup? name = producerId? done name)
    (h : g.pass done.length stage = .ok next) :
    ∃ node, next.nodes.lookup? stage.id = some node ∧ Resolves done stage node := by
  obtain ⟨names, hnames, hnodes⟩ := names_of_pass h
  rw [hnodes]
  refine ⟨_, Keyed.lookup?_put_self .., rfl, names, hnames, ?_⟩
  rw [inputsOf_eq, funext hproducers]

end

variable {stages : List Stage} {nodes : Keyed Node} {stage join : Stage} {j k : Nat} {a b : String}

/-- The last stage with an id has its node, with the last producers before it as inputs. -/
theorem resolves_of_build (h : build stages = .ok nodes) (hk : stages[k]? = some stage)
    (hlast : stage.id ∉ (stages.drop (k + 1)).map (·.id)) :
    ∃ node, nodes.lookup? stage.id = some node ∧ Resolves (stages.take k) stage node := by
  obtain ⟨hlt, hget⟩ := List.getElem?_eq_some_iff.mp hk
  have hsplit : stages = stages.take k ++ stage :: stages.drop (k + 1) := by
    rw [← hget, ← List.drop_eq_getElem_cons hlt, List.take_append_drop]
  have hlength : (stages.take k).length = k := List.length_take_of_le (Nat.le_of_lt hlt)
  obtain ⟨g, hpass, rfl⟩ := exists_passAll_of_build h
  rw [hsplit, passAll_append] at hpass
  obtain ⟨before, hbefore, hafter⟩ := exists_of_bind_ok hpass
  obtain ⟨after, hstage, hrest⟩ := exists_of_bind_ok hafter
  have hstart : ∀ name, (Progress.mk [] []).producers.lookup? name = producerId? [] name := fun _ => rfl
  have hproducers := producers_of_passAll hstart hbefore
  rw [Nat.zero_add] at hstage
  obtain ⟨node, hnode, hresolves⟩ := resolves_of_pass hproducers hstage
  exact ⟨node, (lookup?_of_passAll hrest hlast).trans hnode, hresolves⟩

/-- A stage that refers to a name has the last stage before it that makes the name known as an input. -/
theorem Resolves.mem_inputs {earlier : List Stage} {node : Node} {names : List String} {name : String}
    {source : Stage} (h : Resolves earlier stage node) (hnames : stage.referencedTables = .ok names)
    (hname : name ∈ names) (hsource : lastProducer? earlier name = some (source, j)) :
    source.id ∈ node.inputs := by
  obtain ⟨same, hsame, hinputs⟩ := h.inputs_eq
  obtain rfl := Except.ok.inj (hnames.symm.trans hsame)
  rw [hinputs, inputsBy_eq_eraseDups, List.mem_eraseDups]
  exact List.mem_filterMap.mpr ⟨name, hname, by rw [producerId?, hsource, Option.map_some]⟩

theorem join_mem_inputs {node : Node} {names : List String}
    (hresolves : Resolves (stages.take k) stage node) (hnames : stage.referencedTables = .ok names)
    (hname : TableName.joined a b ∈ names) (hjk : j < k) (hj : stages[j]? = some join)
    (hjoin : join.JoinsOver a b)
    (hbetween : ∀ (i : Nat) (other : Stage), j < i → i < k → stages[i]? = some other →
      ¬ other.TakesJoinName a b) :
    join.id ∈ node.inputs :=
  hresolves.mem_inputs hnames hname <| lastProducer?_take_eq_some_iff.mpr
    ⟨hjk, hj, Stage.joined_mem_producedTables_iff.mpr hjoin.takesJoinName, fun i other hji hik hi =>
      fun hproduced => hbetween i other hji hik hi (Stage.joined_mem_producedTables_iff.mp hproduced)⟩

end Graph

end StagedSql
