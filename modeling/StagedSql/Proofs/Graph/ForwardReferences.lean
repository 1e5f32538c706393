import StagedSql.Proofs.Graph.Dependencies

/-!
# Forward references

The graph keeps the last producer of a name before a stage, the report of forward references looks for the
first one in the whole list. Every reference is told by one of the two, unless no stage produces the name.
-/

namespace StagedSql.Graph

open Outcome

variable {stages : List Stage} {name : String} {stage : Stage}

/-! ### The first producer of a name -/

def firstProducer? (stages : List Stage) (name : String) : Option Nat :=
  (stages.zipIdx.find? fun s => name ∈ s.1.producedTables s.2).map (·.2)

theorem lookup?_registeredOnce (names : List String) (i : Nat) (known : Keyed Nat) (name : String) :
    (names.foldl (fun known name => if (known.lookup? name).isSome then known else known.put name i)
      known).lookup? name = (known.lookup? name).or (if name ∈ names then some i else none) := by
  induction names generalizing known with
  | nil => simp
  | cons first rest ih =>
    rw [List.foldl_cons, ih]
    by_cases hname : name = first
    · subst hname
      cases hk : known.lookup? name with
      | none => simp [Keyed.lookup?_put_self]
      | some p => simp [hk]
    · cases hk : known.lookup? first with
      | none => simp [Keyed.lookup?_put_of_ne, hname]
      | some p => simp [hname]

theorem lookup?_firstProducers (stages : List Stage) (name : String) :
    (firstProducers stages).lookup? name = firstProducer? stages name := by
  induction stages using List.reverseRecOn with
  | nil => rfl
  | append_singleton stages last ih =>
    unfold firstProducers firstProducer? at ih ⊢
    simp only [List.zipIdx_append, List.zipIdx_singleton, List.foldl_append, List.foldl_cons,
      List.foldl_nil, List.find?_append, Option.map_or, Nat.zero_add]
    rw [lookup?_registeredOnce, ih]
    by_cases h : name ∈ last.producedTables stages.length <;> simp [h]

theorem firstProducer?_eq_none_iff :
    firstProducer? stages name = none ↔
      ∀ (i : Nat) (s : Stage), stages[i]? = some s → name ∉ s.producedTables i := by
  simp only [firstProducer?, Option.map_eq_none_iff, List.find?_eq_none, decide_eq_true_eq,
    Prod.forall, List.mem_zipIdx_iff_getElem?]
  exact ⟨fun h i s hi => h s i hi, fun h s i hi => h i s hi⟩

theorem produced_of_firstProducer? {p : Nat} (h : firstProducer? stages name = some p) :
    ∃ s, stages[p]? = some s ∧ name ∈ s.producedTables p := by
  obtain ⟨e, he, rfl⟩ := Option.map_eq_some_iff.mp h
  exact ⟨e.1, List.mem_zipIdx_iff_getElem?.mp (List.mem_of_find?_eq_some he),
    by simpa using List.find?_some he⟩

theorem not_produced_before {p : Nat} (h : firstProducer? stages name = some p) {j : Nat}
    (hj : j < p) {s : Stage} (hs : stages[j]? = some s) : name ∉ s.producedTables j := by
  obtain ⟨e, he, rfl⟩ := Option.map_eq_some_iff.mp h
  obtain ⟨-, i, hi, rfl, hbefore⟩ := List.find?_eq_some_iff_getElem.mp he
  rw [List.getElem_zipIdx, Nat.zero_add] at hj
  obtain ⟨hlt, rfl⟩ := List.getElem?_eq_some_iff.mp hs
  simpa using hbefore j hj

/-! ### Names that are awaited -/

/-- A stage of the list produces the name, but none before position `k` does. -/
def isAwaited (stages : List Stage) (k : Nat) (name : String) : Bool :=
  (lastProducer? (stages.take k) name).isNone && (lastProducer? stages name).isSome

theorem lastProducer?_take_eq_none_iff {k : Nat} :
    lastProducer? (stages.take k) name = none ↔
      ∀ (j : Nat) (s : Stage), j < k → stages[j]? = some s → name ∉ s.producedTables j := by
  rw [lastProducer?_eq_none_iff]
  constructor
  · exact fun h j s hj hs => h j s (by rwa [List.getElem?_take_of_lt hj])
  · intro h j s hs
    rw [List.getElem?_take] at hs
    split at hs
    · next hj => exact h j s hj hs
    · cases hs

theorem lastProducer?_ne_none_of_take {k : Nat} (h : lastProducer? (stages.take k) name ≠ none) :
    lastProducer? stages name ≠ none := by
  intro hnone
  rw [lastProducer?_eq_none_iff] at hnone
  exact h (lastProducer?_take_eq_none_iff.mpr fun j s _ hs => hnone j s hs)

theorem isAwaited_iff {k : Nat} :
    isAwaited stages k name = true ↔ ∃ p, firstProducer? stages name = some p ∧ k ≤ p := by
  have hnone : lastProducer? stages name = none ↔ firstProducer? stages name = none :=
    lastProducer?_eq_none_iff.trans firstProducer?_eq_none_iff.symm
  simp only [isAwaited, Bool.and_eq_true, Option.isNone_iff_eq_none, Option.isSome_iff_ne_none,
    ne_eq, hnone, lastProducer?_take_eq_none_iff]
  cases hp : firstProducer? stages name with
  | none => simp
  | some p =>
    obtain ⟨s, hs, hname⟩ := produced_of_firstProducer? hp
    constructor
    · rintro ⟨hbefore, -⟩
      exact ⟨p, rfl, Nat.le_of_not_lt fun hlt => hbefore p s hlt hs hname⟩
    · rintro ⟨_, heq, hle⟩
      obtain rfl := Option.some.inj heq
      exact ⟨fun j t hj ht => not_produced_before hp (Nat.lt_of_lt_of_le hj hle) ht, nofun⟩

theorem awaited_of_firstProducers (stages : List Stage) (k : Nat) (name : String) :
    (match (firstProducers stages).lookup? name with
      | some p => decide (k ≤ p)
      | none => false) = isAwaited stages k name := by
  rw [Bool.eq_iff_iff, isAwaited_iff, lookup?_firstProducers]
  cases firstProducer? stages name with
  | none => simp
  | some p => simp

/-! ### The report -/

/-- The names that a stage mentions and waits for at its position, each with the id of the stage. -/
def awaitedBy (stages : List Stage) (mention : (Stage × List String) × Nat) : List (String × String) :=
  (mention.1.2.filter (isAwaited stages mention.2)).map (mention.1.1.id, ·)

theorem forwardIn_eq {k : Nat} {names : List String} (h : stage.referencedTables = .ok names) :
    forwardIn (firstProducers stages) k stage = .ok (awaitedBy stages ((stage, names), k)) := by
  have hfilter := List.filter_congr (l := names) fun name _ =>
    awaited_of_firstProducers stages k name
  unfold forwardIn awaitedBy
  rw [h, ← hfilter]
  rfl

theorem names_of_forwardIn {producers : Keyed Nat} {k : Nat}
    (h : ∃ found, forwardIn producers k stage = .ok found) :
    ∃ names, stage.referencedTables = .ok names := by
  obtain ⟨found, h⟩ := h
  cases hr : stage.referencedTables with
  | ok names => exact ⟨names, rfl⟩
  | error fault =>
    rw [forwardIn, hr] at h
    cases h

theorem mapM_forwardIn {all : List Stage} {mentions : List (List String)}
    (h : stages.mapM Stage.referencedTables = .ok mentions) (k : Nat) :
    (stages.zipIdx k).mapM (fun s => forwardIn (firstProducers all) s.2 s.1) =
      .ok (((stages.zip mentions).zipIdx k).map (awaitedBy all)) := by
  induction stages generalizing mentions k with
  | nil =>
    obtain rfl := Except.ok.inj h
    rfl
  | cons stage rest ih =>
    rw [List.mapM_cons] at h
    obtain ⟨names, hnames, h⟩ := exists_of_bind_ok h
    obtain ⟨more, hmore, h⟩ := exists_of_bind_ok h
    obtain rfl := Except.ok.inj h
    rw [List.zipIdx_cons, List.mapM_cons, forwardIn_eq hnames, ih hmore]
    rfl

/-- The report lists the awaited names in the order of the stages and of their payloads. -/
theorem forwardReferences_eq {refs : List (String × String)}
    (h : forwardReferences stages = .ok refs) :
    ∃ mentions, stages.mapM Stage.referencedTables = .ok mentions ∧
      refs = (stages.zip mentions).zipIdx.flatMap (awaitedBy stages) := by
  have hfound : ∃ found, (stages.zipIdx.mapM fun s =>
      forwardIn (firstProducers stages) s.2 s.1) = .ok found := by
    unfold forwardReferences at h
    cases hm : stages.zipIdx.mapM fun s => forwardIn (firstProducers stages) s.2 s.1 with
    | error fault =>
      rw [hm] at h
      cases h
    | ok found => exact ⟨found, rfl⟩
  have hnames : ∀ s ∈ stages, ∃ names, s.referencedTables = .ok names := by
    intro s hs
    obtain ⟨k, hk⟩ := List.getElem?_of_mem hs
    exact names_of_forwardIn
      (exists_mapM_ok_iff.mp hfound (s, k) (List.mem_zipIdx_iff_getElem?.mpr hk))
  obtain ⟨mentions, hmentions⟩ := exists_mapM_ok_iff.mpr hnames
  refine ⟨mentions, hmentions, ?_⟩
  rw [forwardReferences, mapM_forwardIn hmentions] at h
  exact (Except.ok.inj h).symm

theorem mem_report_iff {mentions : List (List String)} {k : Nat} {names : List String}
    (hids : (stages.map (·.id)).Nodup) (hk : stages[k]? = some stage)
    (hnames : mentions[k]? = some names) (hname : name ∈ names) :
    (stage.id, name) ∈ (stages.zip mentions).zipIdx.flatMap (awaitedBy stages) ↔
      isAwaited stages k name = true := by
  simp only [List.mem_flatMap, Prod.exists, List.mem_zipIdx_iff_getElem?,
    List.getElem?_zip_eq_some, awaitedBy, List.mem_map, List.mem_filter]
  constructor
  · rintro ⟨other, more, j, ⟨hj, -⟩, found, ⟨-, hawaited⟩, heq⟩
    obtain ⟨hid, rfl⟩ := Prod.mk.inj heq
    obtain rfl := index_eq_of_id_eq hids hj hk hid
    exact hawaited
  · exact fun hawaited => ⟨stage, names, k, ⟨hk, hnames⟩, name, ⟨hname, hawaited⟩, rfl⟩

/-! ### Graph and report -/

theorem referencedTables_of_mapM {mentions : List (List String)} {k : Nat} {names : List String}
    (h : stages.mapM Stage.referencedTables = .ok mentions) (hk : stages[k]? = some stage)
    (hnames : mentions[k]? = some names) : stage.referencedTables = .ok names := by
  induction stages generalizing mentions k with
  | nil => cases hk
  | cons first rest ih =>
    rw [List.mapM_cons] at h
    obtain ⟨own, hown, h⟩ := exists_of_bind_ok h
    obtain ⟨more, hmore, h⟩ := exists_of_bind_ok h
    obtain rfl := Except.ok.inj h
    cases k with
    | zero =>
      obtain rfl : first = stage := Option.some.inj hk
      obtain rfl : own = names := Option.some.inj hnames
      exact hown
    | succ k => exact ih hmore hk hnames

/-- The last producer of the name before position `k` is an input of the node with the id. -/
def Resolved (stages : List Stage) (nodes : Keyed Node) (k : Nat) (id name : String) : Prop :=
  ∃ producer j node, lastProducer? (stages.take k) name = some (producer, j) ∧
    nodes.lookup? id = some node ∧ producer.id ∈ node.inputs

def Unproduced (stages : List Stage) (name : String) : Prop :=
  ∀ (j : Nat) (s : Stage), stages[j]? = some s → name ∉ s.producedTables j

def ExactlyOne (a b c : Prop) : Prop := (a ∧ ¬ b ∧ ¬ c) ∨ (¬ a ∧ b ∧ ¬ c) ∨ (¬ a ∧ ¬ b ∧ c)

theorem ExactlyOne.first {a b c : Prop} (h : ExactlyOne a b c) (hb : ¬ b) (hc : ¬ c) : a := by
  rcases h with ⟨ha, -⟩ | ⟨-, hb', -⟩ | ⟨-, -, hc'⟩
  · exact ha
  · exact absurd hb' hb
  · exact absurd hc' hc

theorem resolved_iff {nodes : Keyed Node} {node : Node} {k : Nat} {names : List String}
    (hnode : nodes.lookup? stage.id = some node) (hresolves : Resolves (stages.take k) stage node)
    (hnames : stage.referencedTables = .ok names) (hname : name ∈ names) :
    Resolved stages nodes k stage.id name ↔ lastProducer? (stages.take k) name ≠ none := by
  constructor
  · rintro ⟨producer, j, -, hproducer, -⟩
    rw [hproducer]
    exact Option.some_ne_none _
  · intro hsome
    obtain ⟨⟨producer, j⟩, hproducer⟩ := Option.ne_none_iff_exists'.mp hsome
    refine ⟨producer, j, node, hproducer, hnode, ?_⟩
    obtain ⟨own, hown, hinputs⟩ := hresolves.inputs_eq
    obtain rfl := Except.ok.inj (hown.symm.trans hnames)
    rw [hinputs, inputsBy_eq_eraseDups, List.mem_eraseDups]
    exact List.mem_filterMap.mpr ⟨name, hname, by rw [producerId?, hproducer]; rfl⟩

/-- Each name that a stage mentions is resolved by the graph, or reported as a forward reference, or
produced by no stage, and only one of the three. The report has one pair for each mention, in the order of
the stages and of their payloads. -/
theorem forwardReferences_complement {nodes : Keyed Node} {refs : List (String × String)}
    (hids : (stages.map (·.id)).Nodup) (hbuild : build stages = .ok nodes)
    (hrefs : forwardReferences stages = .ok refs) :
    ∃ mentions, stages.mapM Stage.referencedTables = .ok mentions ∧
      (∀ (k : Nat) (stage : Stage) (names : List String), stages[k]? = some stage →
        mentions[k]? = some names → ∀ name ∈ names,
          ExactlyOne (Resolved stages nodes k stage.id name) ((stage.id, name) ∈ refs)
            (Unproduced stages name)) ∧
      refs = (stages.zip mentions).zipIdx.flatMap fun mention =>
        (mention.1.2.filter (isAwaited stages mention.2)).map (mention.1.1.id, ·) := by
  obtain ⟨mentions, hmentions, rfl⟩ := forwardReferences_eq hrefs
  refine ⟨mentions, hmentions, ?_, rfl⟩
  intro k stage names hk hnames name hname
  obtain ⟨g, rfl, hranked⟩ := ranked_of_build hids hbuild
  obtain ⟨node, hnode, hresolves⟩ := hranked.passed.nodes k stage hk
  have hread : stage.referencedTables = .ok names := referencedTables_of_mapM hmentions hk hnames
  have hlater : lastProducer? (stages.take k) name ≠ none → lastProducer? stages name ≠ none :=
    lastProducer?_ne_none_of_take
  rw [resolved_iff hnode hresolves hread hname, mem_report_iff hids hk hnames hname, Unproduced,
    ← lastProducer?_eq_none_iff]
  unfold ExactlyOne isAwaited
  cases hbefore : lastProducer? (stages.take k) name with
  | some p => simpa [hbefore] using hlater
  | none => cases lastProducer? stages name <;> simp

/-- A union names a table that is loaded before it, its own result, the result of the stage after it twice,
and a table that no stage makes. -/
def unitedTooEarly : List Stage :=
  [⟨"a", .load, "", [("tableName", .text "orders")]⟩,
    ⟨"b", .union, "", [("tables", .list [.text "orders", .text "result_stage_1_union",
      .text "result_stage_2_sort", .text "elsewhere", .text "result_stage_2_sort"])]⟩,
    ⟨"c", .sort, "", [("table", .text "result_stage_1_union")]⟩]

theorem unitedTooEarly_complement : (unitedTooEarly.map (·.id)).Nodup ∧
    ∃ nodes refs, build unitedTooEarly = .ok nodes ∧ forwardReferences unitedTooEarly = .ok refs ∧
      refs = [("b", "result_stage_1_union"), ("b", "result_stage_2_sort"),
        ("b", "result_stage_2_sort")] ∧
      Resolved unitedTooEarly nodes 1 "b" "orders" ∧ Unproduced unitedTooEarly "elsewhere" ∧
      Resolved unitedTooEarly nodes 2 "c" "result_stage_1_union" := by
  have hids : (unitedTooEarly.map (·.id)).Nodup := by decide
  have hbuilt : (build unitedTooEarly).toOption.isSome = true := by decide +kernel
  have hreported : (forwardReferences unitedTooEarly).toOption = some [("b", "result_stage_1_union"),
      ("b", "result_stage_2_sort"), ("b", "result_stage_2_sort")] := by decide +kernel
  obtain ⟨nodes, hbuild⟩ := Option.isSome_iff_exists.mp hbuilt
  have hbuild := Outcome.ok_of_toOption hbuild
  have hrefs := Outcome.ok_of_toOption hreported
  have hmentioned : (unitedTooEarly.mapM Stage.referencedTables).toOption = some [[],
      ["orders", "result_stage_1_union", "result_stage_2_sort", "elsewhere", "result_stage_2_sort"],
      ["result_stage_1_union"]] := by decide +kernel
  obtain ⟨mentions, hmentions, hone, -⟩ := forwardReferences_complement hids hbuild hrefs
  obtain rfl := Except.ok.inj (hmentions.symm.trans (Outcome.ok_of_toOption hmentioned))
  have hunion := hone 1 _ _ rfl rfl
  have hsort := hone 2 _ _ rfl rfl
  have hproduced : ∀ {name : String}, lastProducer? unitedTooEarly name ≠ none →
      ¬ Unproduced unitedTooEarly name := fun h hnone => h (lastProducer?_eq_none_iff.mpr hnone)
  refine ⟨hids, nodes, _, hbuild, hrefs, rfl, ?_, ?_, ?_⟩
  · exact (hunion "orders" (by decide)).first (by decide) (hproduced (by decide))
  · exact lastProducer?_eq_none_iff.mp (by decide)
  · exact (hsort "result_stage_1_union" (by decide)).first (by decide) (hproduced (by decide))

end StagedSql.Graph
