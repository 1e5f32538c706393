import Mathlib.Data.List.Induction
import Mathlib.Logic.Relation
import Mathlib.Order.Bounds.Defs
import StagedSql.Proofs.Graph.Producers
import StagedSql.Proofs.Outcome

/-!
# The graph of dependencies

The nodes stand in the order of the stages. Each has the last producers of the names in its stage as
its inputs, so no chain of inputs leads back to its start, and its level is the length of the longest
chain that ends at it.
-/

namespace StagedSql.Graph

open Outcome

/-! ### Inputs in the order of first mention -/

theorem inputsBy_concat (producer? : String → Option String) (names : List String) (name : String) :
    inputsBy producer? (names ++ [name]) =
      match producer? name with
      | some p =>
        if p ∈ inputsBy producer? names then inputsBy producer? names
        else inputsBy producer? names ++ [p]
      | none => inputsBy producer? names := by
  simp only [inputsBy, List.foldl_append, List.foldl_cons, List.foldl_nil]
  rfl

theorem eraseDups_concat (items : List String) (last : String) :
    (items ++ [last]).eraseDups =
      if last ∈ items then items.eraseDups else items.eraseDups ++ [last] := by
  have hsingle : [last].eraseDups = [last] := rfl
  rw [List.eraseDups_append]
  by_cases h : last ∈ items <;> simp [List.removeAll, h, hsingle]

/-- The inputs are the producers without repeats, each at the place of its first mention. -/
theorem inputsBy_eq_eraseDups (producer? : String → Option String) (names : List String) :
    inputsBy producer? names = (names.filterMap producer?).eraseDups := by
  induction names using List.reverseRecOn with
  | nil => rfl
  | append_singleton names name ih =>
    rw [inputsBy_concat, ih, List.filterMap_append]
    cases hp : producer? name with
    | none => simp [hp]
    | some p =>
      have hlast : [name].filterMap producer? = [p] := by simp [hp]
      simp only [hlast, eraseDups_concat, List.mem_eraseDups]

theorem Resolves.mem_earlier {earlier : List Stage} {stage : Stage} {node : Node}
    (h : Resolves earlier stage node) {id : String} (hid : id ∈ node.inputs) :
    id ∈ earlier.map (·.id) := by
  obtain ⟨names, -, hinputs⟩ := h.inputs_eq
  rw [hinputs, inputsBy_eq_eraseDups, List.mem_eraseDups] at hid
  obtain ⟨name, -, hproducer⟩ := List.mem_filterMap.mp hid
  obtain ⟨p, hp, rfl⟩ := Option.map_eq_some_iff.mp hproducer
  exact List.mem_map_of_mem (List.mem_of_getElem? (produces_of_lastProducer? hp).1)

theorem index_eq_of_id_eq {stages : List Stage} (hids : (stages.map (·.id)).Nodup) {j k : Nat}
    {s t : Stage} (hj : stages[j]? = some s) (hk : stages[k]? = some t) (hid : s.id = t.id) :
    j = k := by
  have hlt : j < (stages.map (·.id)).length := by
    rw [List.length_map]
    exact (List.getElem?_eq_some_iff.mp hj).1
  refine (List.getElem?_inj hlt hids).mp ?_
  rw [List.getElem?_map, List.getElem?_map, hj, hk, Option.map_some, Option.map_some, hid]

/-! ### Levels -/

theorem levelOf_concat (nodes : Keyed Node) (inputs : List String) (id : String) :
    levelOf nodes (inputs ++ [id]) =
      max (levelOf nodes inputs) (((nodes.lookup? id).map (·.level + 1)).getD 0) := by
  simp only [levelOf, List.foldl_append, List.foldl_cons, List.foldl_nil]

theorem levelOf_congr {nodes others : Keyed Node} {inputs : List String}
    (h : ∀ id ∈ inputs, nodes.lookup? id = others.lookup? id) :
    levelOf nodes inputs = levelOf others inputs := by
  induction inputs using List.reverseRecOn with
  | nil => rfl
  | append_singleton inputs id ih =>
    rw [levelOf_concat, levelOf_concat, ih fun i hi => h i (List.mem_append_left _ hi),
      h id (List.mem_append_right _ (List.mem_singleton_self _))]

theorem lt_levelOf {nodes : Keyed Node} {inputs : List String} {id : String} {node : Node}
    (hid : id ∈ inputs) (hnode : nodes.lookup? id = some node) :
    node.level < levelOf nodes inputs := by
  induction inputs using List.reverseRecOn with
  | nil => cases hid
  | append_singleton inputs last ih =>
    rw [levelOf_concat]
    rcases List.mem_append.mp hid with hid | hid
    · exact Nat.lt_of_lt_of_le (ih hid) (Nat.le_max_left ..)
    · rw [← List.mem_singleton.mp hid, hnode]
      exact Nat.lt_of_lt_of_le (Nat.lt_succ_self _) (Nat.le_max_right ..)

theorem exists_of_levelOf {nodes : Keyed Node} {inputs : List String} {n : Nat}
    (h : levelOf nodes inputs = n + 1) :
    ∃ id ∈ inputs, ∃ node, nodes.lookup? id = some node ∧ node.level = n := by
  induction inputs using List.reverseRecOn with
  | nil => cases h
  | append_singleton inputs last ih =>
    rw [levelOf_concat] at h
    have hlast := List.mem_append_right inputs (List.mem_singleton_self last)
    cases hl : nodes.lookup? last with
    | none =>
      rw [hl, Option.map_none, Option.getD_none, Nat.max_zero] at h
      obtain ⟨id, hid, hnode⟩ := ih h
      exact ⟨id, List.mem_append_left _ hid, hnode⟩
    | some node =>
      rw [hl, Option.map_some, Option.getD_some] at h
      by_cases hlevel : node.level = n
      · exact ⟨last, hlast, node, hl, hlevel⟩
      · obtain ⟨id, hid, hnode⟩ := ih (by omega)
        exact ⟨id, List.mem_append_left _ hid, hnode⟩

/-! ### Chains of inputs -/

/-- The stage `source` is an input of the stage `target`. -/
def Feeds (nodes : Keyed Node) (source target : String) : Prop :=
  ∃ node, nodes.lookup? target = some node ∧ source ∈ node.inputs

/-- A chain of `n` steps from a stage to one that it is an input of, up to the stage `id`. -/
inductive Chain (nodes : Keyed Node) : Nat → String → Prop
  | start (id : String) : Chain nodes 0 id
  | step {n : Nat} {source target : String} (chain : Chain nodes n source)
      (feeds : Feeds nodes source target) : Chain nodes (n + 1) target

/-- Every input has a node, and every level is told by those of the inputs. -/
structure Levelled (nodes : Keyed Node) : Prop where
  inputs_mem : ∀ {id node}, nodes.lookup? id = some node → ∀ i ∈ node.inputs, i ∈ nodes.keys
  level_eq : ∀ {id node}, nodes.lookup? id = some node → node.level = levelOf nodes node.inputs

section

variable {nodes : Keyed Node} {id : String} {node : Node} (h : Levelled nodes)
include h

theorem Levelled.chain (hnode : nodes.lookup? id = some node) : Chain nodes node.level id := by
  induction hn : node.level generalizing id node with
  | zero => exact .start id
  | succ n ih =>
    obtain ⟨source, hsource, m, hm, hlevel⟩ := exists_of_levelOf ((h.level_eq hnode).symm.trans hn)
    exact .step (ih hm hlevel) ⟨node, hnode, hsource⟩

theorem Levelled.lt_of_feeds {source : String} (hfeeds : Feeds nodes source id)
    (hnode : nodes.lookup? id = some node) :
    ∃ m, nodes.lookup? source = some m ∧ m.level < node.level := by
  obtain ⟨_, hsame, hsource⟩ := hfeeds
  obtain rfl := Option.some.inj (hnode.symm.trans hsame)
  obtain ⟨m, hm⟩ := (Keyed.mem_keys_iff _ _).mp (h.inputs_mem hnode source hsource)
  exact ⟨m, hm, h.level_eq hnode ▸ lt_levelOf hsource hm⟩

theorem Levelled.le_of_chain {n : Nat} (hchain : Chain nodes n id)
    (hnode : nodes.lookup? id = some node) : n ≤ node.level := by
  induction hchain generalizing node with
  | start id => exact Nat.zero_le _
  | step chain feeds ih =>
    obtain ⟨m, hm, hlt⟩ := h.lt_of_feeds feeds hnode
    exact Nat.lt_of_le_of_lt (ih hm) hlt

/-- The level of a stage is the length of the longest chain that ends at it. -/
theorem Levelled.isGreatest (hnode : nodes.lookup? id = some node) :
    IsGreatest {n | Chain nodes n id} node.level :=
  ⟨h.chain hnode, fun _ hchain => h.le_of_chain hchain hnode⟩

/-- Levels rise along every path, so none leads back. -/
theorem Levelled.acyclic (id : String) : ¬ Relation.TransGen (Feeds nodes) id id := by
  have hrises : ∀ {source target : String}, Relation.TransGen (Feeds nodes) source target →
      ∀ {node}, nodes.lookup? target = some node →
        ∃ m, nodes.lookup? source = some m ∧ m.level < node.level := by
    intro source target hpath
    induction hpath with
    | single hfeeds => exact h.lt_of_feeds hfeeds
    | tail _ hfeeds ih =>
      intro node hnode
      obtain ⟨m, hm, hlt⟩ := h.lt_of_feeds hfeeds hnode
      obtain ⟨first, hfirst, hlt'⟩ := ih hm
      exact ⟨first, hfirst, hlt'.trans hlt⟩
  intro hcycle
  obtain ⟨node, hnode⟩ : ∃ node, nodes.lookup? id = some node := by
    cases hcycle with
    | single hfeeds => exact ⟨hfeeds.choose, hfeeds.choose_spec.1⟩
    | tail _ hfeeds => exact ⟨hfeeds.choose, hfeeds.choose_spec.1⟩
  obtain ⟨m, hm, hlt⟩ := hrises hcycle hnode
  obtain rfl := Option.some.inj (hnode.symm.trans hm)
  exact Nat.lt_irrefl _ hlt

end

/-! ### The pass -/

section

variable {done rest : List Stage} {g next : Progress} {stage : Stage}

theorem names_of_pass {i : Nat} (h : g.pass i stage = .ok next) :
    ∃ names, stage.referencedTables = .ok names ∧
      next.nodes = (g.nodes.put stage.id ⟨stage, inputsOf g.producers names, 0⟩).put stage.id
        ⟨stage, inputsOf g.producers names,
          levelOf (g.nodes.put stage.id ⟨stage, inputsOf g.producers names, 0⟩)
            (inputsOf g.producers names)⟩ := by
  obtain ⟨names, hnames, hnext⟩ := exists_of_bind_ok h
  obtain rfl := Except.ok.inj hnext
  exact ⟨names, hnames, rfl⟩

structure Ranked (done : List Stage) (g : Progress) : Prop where
  passed : Passed done g
  keys_eq : g.nodes.keys = done.map (·.id)
  levelled : Levelled g.nodes

theorem Ranked.pass (h : Ranked done g) (hpass : g.pass done.length stage = .ok next)
    (hid : stage.id ∉ done.map (·.id)) : Ranked (done ++ [stage]) next := by
  obtain ⟨names, hnames, hnodes⟩ := names_of_pass hpass
  obtain ⟨_, hsame, hpassed⟩ := h.passed.pass hnames hid
  obtain rfl := Except.ok.inj (hpass.symm.trans hsame)
  have hnew : stage.id ∉ g.nodes.keys := h.keys_eq ▸ hid
  have hkeys : next.nodes.keys = g.nodes.keys ++ [stage.id] := by
    rw [hnodes, Keyed.keys_put, Keyed.keys_put, if_neg hnew,
      if_pos (List.mem_append_right _ (List.mem_singleton_self _))]
  have hold : ∀ id ∈ g.nodes.keys, next.nodes.lookup? id = g.nodes.lookup? id := by
    intro id hmem
    have hne : id ≠ stage.id := fun heq => hnew (heq ▸ hmem)
    rw [hnodes, Keyed.lookup?_put_of_ne hne, Keyed.lookup?_put_of_ne hne]
  have hinputs : ∀ id ∈ inputsOf g.producers names, id ∈ g.nodes.keys := by
    intro id hmem
    have hresolves : Resolves done stage ⟨stage, inputsOf g.producers names, 0⟩ :=
      ⟨rfl, names, hnames, by rw [inputsOf_eq, funext h.passed.producers]⟩
    rw [h.keys_eq]
    exact hresolves.mem_earlier hmem
  -- A node is the new one, or it was there before with inputs that were there before.
  have hnode : ∀ {id node}, next.nodes.lookup? id = some node →
      (∀ i ∈ node.inputs, i ∈ g.nodes.keys) ∧ node.level = levelOf g.nodes node.inputs := by
    intro id node hlookup
    by_cases heq : id = stage.id
    · rw [heq, hnodes, Keyed.lookup?_put_self] at hlookup
      obtain rfl := Option.some.inj hlookup
      refine ⟨hinputs, levelOf_congr fun i hi => Keyed.lookup?_put_of_ne ?_ _ _⟩
      exact fun heq => hnew (heq ▸ hinputs i hi)
    · rw [hnodes, Keyed.lookup?_put_of_ne heq, Keyed.lookup?_put_of_ne heq] at hlookup
      exact ⟨h.levelled.inputs_mem hlookup, h.levelled.level_eq hlookup⟩
  refine ⟨hpassed, by rw [hkeys, h.keys_eq, List.map_append]; rfl, ?_, ?_⟩
  · intro id node hlookup i hi
    rw [hkeys]
    exact List.mem_append_left _ ((hnode hlookup).1 i hi)
  · intro id node hlookup
    obtain ⟨hmem, hlevel⟩ := hnode hlookup
    rw [hlevel]
    exact levelOf_congr fun i hi => (hold i (hmem i hi)).symm

theorem Ranked.passAll (h : Ranked done g) (hpass : g.passAll done.length rest = .ok next)
    (hids : ((done ++ rest).map (·.id)).Nodup) : Ranked (done ++ rest) next := by
  induction rest generalizing done g with
  | nil =>
    obtain rfl := Except.ok.inj hpass
    rwa [List.append_nil]
  | cons stage rest ih =>
    obtain ⟨g', hfirst, hrest⟩ := exists_of_bind_ok hpass
    have hid : stage.id ∉ done.map (·.id) := by
      rw [List.map_append, List.nodup_append] at hids
      exact fun hmem => hids.2.2 _ hmem _ (List.mem_cons_self ..) rfl
    rw [List.append_cons] at hids ⊢
    refine ih (h.pass hfirst hid) ?_ hids
    rw [List.length_append, List.length_singleton]
    exact hrest

end

theorem ranked_start : Ranked [] ⟨[], []⟩ where
  passed := ⟨fun _ => rfl, fun i stage hi => by cases hi⟩
  keys_eq := rfl
  levelled := ⟨nofun, nofun⟩

variable {stages : List Stage} {nodes : Keyed Node}

theorem exists_passAll_of_build (h : build stages = .ok nodes) :
    ∃ g, (Progress.mk [] []).passAll 0 stages = .ok g ∧ g.nodes = nodes := by
  unfold build at h
  cases hpass : (Progress.mk [] []).passAll 0 stages with
  | error fault =>
    rw [hpass] at h
    cases h
  | ok g =>
    rw [hpass] at h
    exact ⟨g, rfl, Except.ok.inj h⟩

theorem ranked_of_build (hids : (stages.map (·.id)).Nodup) (h : build stages = .ok nodes) :
    ∃ g, g.nodes = nodes ∧ Ranked stages g := by
  obtain ⟨g, hpass, hnodes⟩ := exists_passAll_of_build h
  exact ⟨g, hnodes, ranked_start.passAll hpass hids⟩

/-- The nodes have the ids of the stages in their order. The inputs of a stage are the last stages before
it that produce the names in it, in the order of first mention and without repeats. So no path of
inputs leads back to where it starts, and the level of a stage is the length of the longest chain of
inputs that ends at it. -/
theorem build_dependencies (hids : (stages.map (·.id)).Nodup) (h : build stages = .ok nodes) :
    nodes.keys = stages.map (·.id) ∧
      (∀ (k : Nat) (stage : Stage), stages[k]? = some stage → ∃ node names,
        nodes.lookup? stage.id = some node ∧ node.stage = stage ∧
        stage.referencedTables = .ok names ∧
        node.inputs = (names.filterMap fun name =>
          (lastProducer? (stages.take k) name).map (·.1.id)).eraseDups ∧
        (∀ id ∈ node.inputs, ∃ (j : Nat) (source : Stage), j < k ∧ stages[j]? = some source ∧
          source.id = id ∧ id ≠ stage.id) ∧
        (node.inputs = [] → node.level = 0) ∧
        IsGreatest {n | Chain nodes n stage.id} node.level) ∧
      ∀ id, ¬ Relation.TransGen (Feeds nodes) id id := by
  obtain ⟨g, rfl, hranked⟩ := ranked_of_build hids h
  refine ⟨hranked.keys_eq, ?_, hranked.levelled.acyclic⟩
  intro k stage hk
  obtain ⟨node, hnode, hresolves⟩ := hranked.passed.nodes k stage hk
  obtain ⟨names, hnames, hinputs⟩ := hresolves.inputs_eq
  rw [inputsBy_eq_eraseDups] at hinputs
  refine ⟨node, names, hnode, hresolves.stage_eq, hnames, hinputs, ?_, ?_,
    hranked.levelled.isGreatest hnode⟩
  · intro id hid
    obtain ⟨source, hsource, rfl⟩ := List.mem_map.mp (hresolves.mem_earlier hid)
    obtain ⟨j, hj⟩ := List.getElem?_of_mem hsource
    rw [List.getElem?_take] at hj
    split at hj
    · next hjk =>
      exact ⟨j, source, hjk, hj, rfl, fun heq =>
        Nat.ne_of_lt hjk (index_eq_of_id_eq hids hj hk heq)⟩
    · cases hj
  · intro hnone
    rw [hranked.levelled.level_eq hnode, hnone]
    rfl

/-- Two tables are joined, the left one from the later of its two loads, and the result is put together
with one of them. It is named in both of its ways. -/
def joinedAndUnited : List Stage :=
  [⟨"a", .load, "", [("tableName", .text "orders")]⟩,
    ⟨"b", .load, "", [("tableName", .text "items")]⟩,
    ⟨"c", .load, "", [("tableName", .text "orders")]⟩,
    ⟨"d", .join, "", [("leftTable", .text "orders"), ("rightTable", .text "items"),
      ("leftKey", .text "id"), ("rightKey", .text "id")]⟩,
    ⟨"e", .union, "", [("tables", .list [.text "result_stage_3_join", .text "items",
      .text "joined_orders_items", .text "elsewhere"])]⟩]

theorem joinedAndUnited_dependencies : (joinedAndUnited.map (·.id)).Nodup ∧
    ∃ nodes join united, build joinedAndUnited = .ok nodes ∧
      nodes.lookup? "d" = some join ∧ join.inputs = ["c", "b"] ∧
      nodes.lookup? "e" = some united ∧ united.inputs = ["d", "b"] ∧
      IsGreatest {n | Chain nodes n "e"} 2 := by
  have hids : (joinedAndUnited.map (·.id)).Nodup := by decide
  have hbuilt : ((build joinedAndUnited).toOption.bind (·.lookup? "e")).map (·.level) = some 2 := by
    decide +kernel
  obtain ⟨nodes, hbuild⟩ : ∃ nodes, build joinedAndUnited = .ok nodes := by
    cases h : build joinedAndUnited with
    | ok nodes => exact ⟨nodes, rfl⟩
    | error fault =>
      rw [h] at hbuilt
      cases hbuilt
  obtain ⟨-, hnodes, -⟩ := build_dependencies hids hbuild
  obtain ⟨join, names, hjoin, -, hnames, hinputs, -⟩ := hnodes 3 _ rfl
  obtain ⟨united, more, hunited, -, hmore, hinputs', -, -, hlevel⟩ := hnodes 4 _ rfl
  obtain rfl := Except.ok.inj hnames
  obtain rfl := Except.ok.inj hmore
  rw [hbuild] at hbuilt
  have hunited' : nodes.lookup? "e" = some united := hunited
  have htwo : united.level = 2 := by simpa [Except.toOption, hunited'] using hbuilt
  exact ⟨hids, nodes, join, united, hbuild, hjoin, hinputs.trans (by decide +kernel), hunited,
    hinputs'.trans (by decide +kernel), htwo ▸ hlevel⟩

end StagedSql.Graph
