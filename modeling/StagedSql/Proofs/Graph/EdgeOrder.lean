import Mathlib.Data.List.Nodup
import StagedSql.Proofs.Graph.Dependencies
import StagedSql.Proofs.Graph.Edges

/-!
# Edges in the order of the stages

Every edge points to a later stage, and no two edges join the same stages. What leads into a stage are the
edges from its inputs or, if it has none, an edge from the stage right before it. Only LOAD stages and
the stages without inputs that stand first or right after a LOAD stage have no edge leading into them.
-/

namespace StagedSql.Graph

/-- The edges that end at the stage `id`, in the order in which they are shown. -/
def edgesTo (stages : List Stage) (nodes : Keyed Node) (id : String) : List Edge :=
  (edges stages nodes).filter fun e => e.target = id

/-- The stage at a position is the first one or stands right after a LOAD stage. -/
def Opens (stages : List Stage) : Nat → Prop
  | 0 => True
  | k + 1 => ∃ p, stages[k]? = some p ∧ p.kind = .load

/-- What leads into the stage at position `k`: nothing, an edge from each input and no other, or an
implicit edge from the stage before it alone. -/
inductive Entered (stages : List Stage) (stage : Stage) (node : Node) : Nat → List Edge → Prop
  | bare {k : Nat} (bare : stage.kind = .load ∨ node.inputs = [] ∧ Opens stages k) :
      Entered stages stage node k []
  | explicit {k : Nat} (kind : stage.kind ≠ .load) (inputs : node.inputs ≠ []) :
      Entered stages stage node k (node.inputs.map fun i => ⟨i, stage.id, false⟩)
  | implicit {k : Nat} {p : Stage} (kind : stage.kind ≠ .load) (inputs : node.inputs = [])
      (before : stages[k]? = some p) (builds : p.kind ≠ .load) :
      Entered stages stage node (k + 1) [⟨p.id, stage.id, true⟩]

variable {stages : List Stage} {nodes : Keyed Node} {stage : Stage} {node : Node} {k : Nat}

/-! ### Edges into one stage -/

theorem edgesInto_entered (hk : stages[k]? = some stage) (hnode : nodes.lookup? stage.id = some node) :
    Entered stages stage node k (edgesInto nodes (stageBefore? none stages k) stage) := by
  unfold edgesInto
  by_cases hkind : stage.kind = .load
  · rw [if_pos hkind]
    exact .bare (.inl hkind)
  rw [if_neg hkind, hnode]
  by_cases hinputs : node.inputs = []
  · simp only [hinputs, ne_eq, not_true, if_false]
    cases k with
    | zero => exact .bare (.inr ⟨hinputs, trivial⟩)
    | succ i =>
      have hlt := (List.getElem?_eq_some_iff.mp hk).1
      have hbefore : stages[i]? = some stages[i] := List.getElem?_eq_getElem (Nat.lt_of_succ_lt hlt)
      rw [stageBefore?, hbefore]
      by_cases hload : stages[i].kind = .load
      · simp only [hload, if_true]
        exact .bare (.inr ⟨hinputs, stages[i], hbefore, hload⟩)
      · simp only [hload, if_false]
        exact .implicit hkind hinputs hbefore hload
  · simp only [ne_eq, hinputs, not_false_eq_true, if_true]
    exact .explicit hkind hinputs

variable {entering : List Edge}

theorem Entered.eq_nil_iff (h : Entered stages stage node k entering) :
    entering = [] ↔ stage.kind = .load ∨ node.inputs = [] ∧ Opens stages k := by
  cases h with
  | bare bare => exact iff_of_true rfl bare
  | explicit kind inputs =>
    rw [List.map_eq_nil_iff]
    exact iff_of_false inputs fun h => h.elim kind fun h => inputs h.1
  | implicit kind inputs before builds =>
    refine iff_of_false (List.cons_ne_nil _ _) ?_
    rintro (h | ⟨-, p, hp, hload⟩)
    · exact kind h
    · exact builds (Option.some.inj (before.symm.trans hp) ▸ hload)

theorem Entered.kind_ne {edge : Edge} (h : Entered stages stage node k entering) (hedge : edge ∈ entering) :
    stage.kind ≠ .load := by
  cases h with
  | bare bare => cases hedge
  | explicit kind inputs => exact kind
  | implicit kind inputs before builds => exact kind

theorem Entered.source {edge : Edge} (h : Entered stages stage node k entering)
    (hresolves : Resolves (stages.take k) stage node) (hedge : edge ∈ entering) :
    ∃ (j : Nat) (source : Stage), j < k ∧ stages[j]? = some source ∧ edge.source = source.id := by
  cases h with
  | bare bare => cases hedge
  | explicit kind inputs =>
    obtain ⟨id, hid, rfl⟩ := List.mem_map.mp hedge
    obtain ⟨source, hsource, rfl⟩ := List.mem_map.mp (hresolves.mem_earlier hid)
    obtain ⟨j, hj⟩ := List.getElem?_of_mem hsource
    rw [List.getElem?_take] at hj
    split at hj
    · next hjk => exact ⟨j, source, hjk, hj, rfl⟩
    · cases hj
  | implicit kind inputs before builds =>
    rw [List.mem_singleton.mp hedge]
    exact ⟨_, _, Nat.lt_succ_self _, before, rfl⟩

theorem nodup_inputsBy (producer? : String → Option String) (names : List String) :
    (inputsBy producer? names).Nodup := by
  induction names using List.reverseRecOn with
  | nil => exact List.nodup_nil
  | append_singleton names name ih =>
    rw [inputsBy_concat]
    split
    · next p _ =>
      split
      · exact ih
      · next hp => exact ih.append (List.nodup_singleton p) (List.disjoint_singleton.mpr hp)
    · exact ih

theorem Resolves.nodup_inputs {earlier : List Stage} (h : Resolves earlier stage node) :
    node.inputs.Nodup := by
  obtain ⟨names, -, hinputs⟩ := h.inputs_eq
  rw [hinputs]
  exact nodup_inputsBy _ names

theorem Entered.nodup_sources (h : Entered stages stage node k entering) (hnodup : node.inputs.Nodup) :
    (entering.map (·.source)).Nodup := by
  cases h with
  | bare bare => exact List.nodup_nil
  | explicit kind inputs => rwa [List.map_map, Function.comp_def, List.map_id']
  | implicit kind inputs before builds => exact List.nodup_singleton _

/-! ### Edges of a whole list -/

theorem target_of_mem_edgesAfter {previous : Option Stage} {edge : Edge}
    (h : edge ∈ edgesAfter nodes previous stages) : edge.target ∈ stages.map (·.id) := by
  obtain ⟨i, stage, hi, hedge⟩ := mem_edgesAfter.mp h
  rw [target_of_mem_edgesInto hedge]
  exact List.mem_map_of_mem (List.mem_of_getElem? hi)

theorem filter_edgesAfter (hids : (stages.map (·.id)).Nodup) (previous : Option Stage)
    (hk : stages[k]? = some stage) :
    (edgesAfter nodes previous stages).filter (fun e => e.target = stage.id) =
      edgesInto nodes (stageBefore? previous stages k) stage := by
  induction stages generalizing previous k with
  | nil => cases hk
  | cons first rest ih =>
    rw [List.map_cons, List.nodup_cons] at hids
    rw [edgesAfter, List.filter_append]
    cases k with
    | zero =>
      obtain rfl : first = stage := Option.some.inj hk
      have hown : (edgesInto nodes previous first).filter (fun e => e.target = first.id) =
          edgesInto nodes previous first :=
        List.filter_eq_self.mpr fun e he => decide_eq_true (target_of_mem_edgesInto he)
      have hother : (edgesAfter nodes (some first) rest).filter (fun e => e.target = first.id) = [] :=
        List.filter_eq_nil_iff.mpr fun e he heq =>
          hids.1 (of_decide_eq_true heq ▸ target_of_mem_edgesAfter he)
      rw [hown, hother, List.append_nil]
      rfl
    | succ k =>
      have hother : (edgesInto nodes previous first).filter (fun e => e.target = stage.id) = [] :=
        List.filter_eq_nil_iff.mpr fun e he heq => hids.1
          (target_of_mem_edgesInto he ▸ of_decide_eq_true heq ▸
            List.mem_map_of_mem (List.mem_of_getElem? hk))
      rw [hother, List.nil_append, stageBefore?_cons]
      exact ih hids.2 (some first) hk

theorem nodup_edgesAfter (hids : (stages.map (·.id)).Nodup) (previous : Option Stage)
    (hsources : ∀ (k : Nat) (stage : Stage), stages[k]? = some stage →
      ((edgesInto nodes (stageBefore? previous stages k) stage).map (·.source)).Nodup) :
    ((edgesAfter nodes previous stages).map fun e => (e.source, e.target)).Nodup := by
  induction stages generalizing previous with
  | nil => exact List.nodup_nil
  | cons first rest ih =>
    rw [List.map_cons, List.nodup_cons] at hids
    rw [edgesAfter, List.map_append]
    have hfirst : ((edgesInto nodes previous first).map fun e => (e.source, e.target)).Nodup := by
      refine List.Nodup.of_map Prod.fst ?_
      rw [List.map_map]
      exact hsources 0 first rfl
    have hrest := ih hids.2 (some first) fun k stage hk => by
      rw [← stageBefore?_cons previous]
      exact hsources (k + 1) stage hk
    refine hfirst.append hrest fun pair hinto hafter => ?_
    obtain ⟨e, he, rfl⟩ := List.mem_map.mp hinto
    obtain ⟨e', he', heq⟩ := List.mem_map.mp hafter
    have htarget : e'.target = first.id :=
      (Prod.mk.inj heq).2.trans (target_of_mem_edgesInto he)
    exact hids.1 (htarget ▸ target_of_mem_edgesAfter he')

/-- Every edge leads from a stage to a later one that is no LOAD stage, and no two edges have the same
ends. A stage is entered by an edge from each of its inputs, which have lower levels, or by an implicit
edge from the stage before it, or by none: that is so for LOAD stages and for the stages without inputs
that stand first or right after a LOAD stage. -/
theorem edges_lead_on (hids : (stages.map (·.id)).Nodup) (h : build stages = .ok nodes) :
    (∀ edge ∈ edges stages nodes, ∃ (j k : Nat) (source target : Stage), j < k ∧
      stages[j]? = some source ∧ stages[k]? = some target ∧ edge.source = source.id ∧
      edge.target = target.id ∧ target.kind ≠ .load) ∧
    ((edges stages nodes).map fun e => (e.source, e.target)).Nodup ∧
    ∀ (k : Nat) (stage : Stage), stages[k]? = some stage →
      ∃ node, nodes.lookup? stage.id = some node ∧
        Entered stages stage node k (edgesTo stages nodes stage.id) ∧
        (edgesTo stages nodes stage.id = [] ↔
          stage.kind = .load ∨ node.inputs = [] ∧ Opens stages k) ∧
        ∀ id ∈ node.inputs, ∃ source, nodes.lookup? id = some source ∧ source.level < node.level := by
  obtain ⟨g, rfl, hranked⟩ := ranked_of_build hids h
  have hentered : ∀ (k : Nat) (stage : Stage), stages[k]? = some stage →
      ∃ node, g.nodes.lookup? stage.id = some node ∧ Resolves (stages.take k) stage node ∧
        Entered stages stage node k (edgesInto g.nodes (stageBefore? none stages k) stage) := by
    intro k stage hk
    obtain ⟨node, hnode, hresolves⟩ := hranked.passed.nodes k stage hk
    exact ⟨node, hnode, hresolves, edgesInto_entered hk hnode⟩
  refine ⟨?_, ?_, ?_⟩
  · intro edge hedge
    obtain ⟨k, target, hk, hinto⟩ := mem_edgesAfter.mp hedge
    obtain ⟨node, -, hresolves, hinto'⟩ := hentered k target hk
    obtain ⟨j, source, hjk, hj, hsource⟩ := hinto'.source hresolves hinto
    exact ⟨j, k, source, target, hjk, hj, hk, hsource, target_of_mem_edgesInto hinto,
      hinto'.kind_ne hinto⟩
  · refine nodup_edgesAfter hids none fun k stage hk => ?_
    obtain ⟨node, -, hresolves, hinto⟩ := hentered k stage hk
    exact hinto.nodup_sources hresolves.nodup_inputs
  · intro k stage hk
    obtain ⟨node, hnode, -, hinto⟩ := hentered k stage hk
    rw [← filter_edgesAfter hids none hk] at hinto
    exact ⟨node, hnode, hinto, hinto.eq_nil_iff, fun id hid =>
      hranked.levelled.lt_of_feeds ⟨node, hnode, hid⟩ hnode⟩

def filteredAndSorted : List Stage :=
  [⟨"a", .load, "", [("tableName", .text "orders")]⟩,
    ⟨"b", .filter, "", [("table", .text "orders")]⟩,
    ⟨"c", .sort, "", []⟩,
    ⟨"d", .load, "", [("tableName", .text "items")]⟩,
    ⟨"e", .select, "", []⟩]

theorem filteredAndSorted_lead_on : (filteredAndSorted.map (·.id)).Nodup ∧
    ∃ nodes filter sort select, build filteredAndSorted = .ok nodes ∧
      edges filteredAndSorted nodes = [⟨"a", "b", false⟩, ⟨"b", "c", true⟩] ∧
      nodes.lookup? "b" = some filter ∧ filter.inputs = ["a"] ∧
      Entered filteredAndSorted ⟨"b", .filter, "", [("table", .text "orders")]⟩ filter 1
        [⟨"a", "b", false⟩] ∧
      nodes.lookup? "c" = some sort ∧
      Entered filteredAndSorted ⟨"c", .sort, "", []⟩ sort 2 [⟨"b", "c", true⟩] ∧
      nodes.lookup? "e" = some select ∧ select.inputs = [] ∧ Opens filteredAndSorted 4 := by
  have hids : (filteredAndSorted.map (·.id)).Nodup := by decide
  have hbuilt : (build filteredAndSorted).toOption.map (fun nodes =>
      (edges filteredAndSorted nodes, (nodes.lookup? "b").map (·.inputs))) =
      some ([⟨"a", "b", false⟩, ⟨"b", "c", true⟩], some ["a"]) := by decide +kernel
  obtain ⟨nodes, hnodes, hshown⟩ := Option.map_eq_some_iff.mp hbuilt
  have hbuild := Outcome.ok_of_toOption hnodes
  obtain ⟨hedges, hinputs⟩ := Prod.mk.inj hshown
  obtain ⟨-, -, hstages⟩ := edges_lead_on hids hbuild
  obtain ⟨filter, hfilter, hb, -⟩ := hstages 1 _ rfl
  obtain ⟨sort, hsort, hc, -⟩ := hstages 2 _ rfl
  obtain ⟨select, hselect, -, hnone, -⟩ := hstages 4 _ rfl
  rw [edgesTo, hedges] at hb hc hnone
  have hfilter' : nodes.lookup? "b" = some filter := hfilter
  rw [hfilter'] at hinputs
  have hbare := (hnone.mp (by decide)).resolve_left (by decide)
  exact ⟨hids, nodes, filter, sort, select, hbuild, hedges, hfilter, Option.some.inj hinputs, hb,
    hsort, hc, hselect, hbare⟩

end StagedSql.Graph
