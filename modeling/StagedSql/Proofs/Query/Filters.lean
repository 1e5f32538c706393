import StagedSql.Proofs.Identifier
import StagedSql.Proofs.Query.Parts

/-!
# Filters by one condition and by many

A filter compares by itself or by a list of conditions. The list takes precedence, a list of one is the same as the
comparison, and every further condition only adds to the end of the statement.
-/

namespace StagedSql

open Outcome Query

/-- The text is the word in any case, with blanks on both sides of it or none. -/
def Spells (word text : String) : Prop :=
  ∃ before letters after, text.toList = before ++ letters ++ after ∧
    (∀ c ∈ before, Text.isBlank c) ∧ (∀ c ∈ after, Text.isBlank c) ∧
    letters.map Char.toUpper = word.toList

/-- The condition is joined to those before it in this way, which is `AND` if it says nothing about it. -/
def ConditionEntry.JoinsBy (c : ConditionEntry) (logic : Logic) : Prop :=
  given? c.logic = none ∧ logic = .and ∨ ∃ text, given? c.logic = some text ∧ Spells logic.keyword text

namespace Query

/-! ### Words -/

theorem upper_stripped_spells {logic : Logic} {text : String} (h : Spells logic.keyword text) :
    Text.upper (Text.stripped text) = logic.keyword := by
  obtain ⟨before, letters, after, htext, hbefore, hafter, hletters⟩ := h
  have hword : IsIdentifier logic.keyword := by cases logic <;> decide
  exact Identifier.upper_stripped_spelled hword.2 htext hbefore hafter hletters

theorem logic_of_joinsBy {c : ConditionEntry} {logic : Logic} (h : c.JoinsBy logic) :
    Logic.ofText? (normalWord "AND" c.logic) = some logic := by
  have hkeyword : normalWord "AND" c.logic = logic.keyword := by
    unfold normalWord
    rcases h with ⟨hnone, rfl⟩ | ⟨text, hgiven, hspells⟩
    · rw [hnone]
      decide +kernel
    · rw [hgiven]
      exact upper_stripped_spells hspells
  rw [hkeyword]
  cases logic <;> rfl

/-! ### Queries -/

section

variable {p : FilterPayload} {q : Query}

theorem ofFilter_congr (hconditions : p.conditions.getD [] ≠ []) (column operator : Option String)
    (value : Value) : ofFilter { p with column, operator, value } = ofFilter p := by
  obtain ⟨table, _, _, _, conditions⟩ := p
  rcases conditions with _ | _ | ⟨first, more⟩
  · exact absurd rfl hconditions
  · exact absurd rfl hconditions
  · rfl

theorem ofFilter_single {c : ConditionEntry} {column operator : String}
    (hconditions : p.conditions = some [c]) (hcolumn : given? c.column = some column)
    (hoperator : given? c.operator = some operator) :
    ofFilter p = (do
      let table ← require .filter "table" p.table
      .ok (.filter table ⟨column, operator, c.value⟩ [])) := by
  have hcondition : conditionOf c = .ok ⟨column, operator, c.value⟩ :=
    conditionOf_eq.mpr ⟨hcolumn, hoperator, rfl⟩
  rw [ofFilter_conditions hconditions, hcondition]
  rfl

theorem ofFilter_concat {conditions : List ConditionEntry} (hconditions : p.conditions = some conditions)
    (hne : conditions ≠ []) (h : ofFilter p = .ok q) {x : ConditionEntry} {d : Condition} {logic : Logic}
    (hx : conditionOf x = .ok d) (hlogic : x.JoinsBy logic) :
    ∃ table first more, q = .filter table first more ∧
      ofFilter { p with conditions := some (conditions ++ [x]) } =
        .ok (.filter table first (more ++ [(logic, d)])) := by
  cases conditions with
  | nil => exact absurd rfl hne
  | cons c rest =>
    rw [ofFilter_conditions hconditions] at h
    obtain ⟨table, htable, h⟩ := exists_of_bind_ok h
    obtain ⟨first, hfirst, h⟩ := exists_of_bind_ok h
    obtain ⟨more, hmore, h⟩ := exists_of_bind_ok h
    -- the new condition is never the first, so the word that joins it is read
    have hfurther : furtherConditionOf x = .ok (logic, d) :=
      furtherConditionOf_eq.mpr ⟨hx, logic_of_joinsBy hlogic⟩
    have hconcat : ({ p with conditions := some (c :: rest ++ [x]) } : FilterPayload).conditions =
        some (c :: (rest ++ [x])) := rfl
    refine ⟨table, first, more, (Except.ok.inj h).symm, ?_⟩
    rw [ofFilter_conditions hconcat, htable, hfirst, List.mapM_append, hmore, List.mapM_cons, hfurther]
    rfl

end

/-! ### Statements -/

theorem text_filter_single (table : String) (d : Condition) : text (.filter table d []) =
    "SELECT * FROM " ++ table ++ " WHERE " ++ d.column ++ " " ++ d.operator ++ " " ++ literal d.value := by
  unfold text
  simp only [List.map_nil, String.join_nil, String.append_empty, Condition.text, String.append_assoc]

theorem text_filter_concat (table : String) (first : Condition) (more : List (Logic × Condition))
    (logic : Logic) (d : Condition) :
    text (.filter table first (more ++ [(logic, d)])) =
      text (.filter table first more) ++ " " ++ logic.keyword ++ " " ++ d.column ++ " " ++ d.operator ++
        " " ++ literal d.value := by
  unfold text
  simp only [List.map_append, List.map_cons, List.map_nil, String.join_append, String.join_cons,
    String.join_nil, String.append_empty, furtherText, Condition.text, String.append_assoc]

/-- Beside a list of conditions the comparison of the payload itself does not matter; a list of one condition has the
statement of the comparison; and a further condition adds its word, column, operator and literal to the
end. -/
theorem compile_filter {s : Stage} {p : FilterPayload} (hs : Payload.ofStage s = .ok (.filter p))
    (resolved : Option String) :
    (p.conditions.getD [] ≠ [] → ∀ t column operator value,
      Payload.ofStage t = .ok (.filter { p with column, operator, value }) →
        compile t resolved = compile s resolved) ∧
    (∀ c column operator, p.conditions = some [c] → given? c.column = some column →
      given? c.operator = some operator → c.value ≠ .null → ∀ t empty, empty.getD [] = [] →
        Payload.ofStage t = .ok (.filter ⟨p.table, c.column, c.operator, c.value, empty⟩) →
          compile t resolved = compile s resolved ∧ ∀ table, given? p.table = some table →
            compile s resolved = .ok ("SELECT * FROM " ++ table ++ " WHERE " ++ column ++ " " ++
              operator ++ " " ++ literal c.value)) ∧
    ∀ conditions statement, p.conditions = some conditions → conditions ≠ [] →
      compile s resolved = .ok statement → ∀ x logic column operator, given? x.column = some column →
        given? x.operator = some operator → x.JoinsBy logic → ∀ t,
          Payload.ofStage t = .ok (.filter { p with conditions := some (conditions ++ [x]) }) →
            compile t resolved = .ok (statement ++ " " ++ logic.keyword ++ " " ++ column ++ " " ++
              operator ++ " " ++ literal x.value) := by
  refine ⟨?precedence, ?single, ?further⟩
  case precedence =>
    intro hconditions t column operator value ht
    rw [compile_eq ht, compile_eq hs, ofPayload, ofPayload, ofFilter_congr hconditions]
  case single =>
    intro c column operator hconditions hcolumn hoperator hvalue t empty hempty ht
    have hsingle := ofFilter_single hconditions hcolumn hoperator
    have hcomparison := ofFilter_comparison (p := ⟨p.table, c.column, c.operator, c.value, empty⟩)
      hempty hcolumn hoperator hvalue
    constructor
    · rw [compile_eq ht, compile_eq hs, ofPayload, ofPayload, hsingle, hcomparison]
    · intro table htable
      rw [compile_eq hs, ofPayload, hsingle, require_eq.mpr htable]
      exact congrArg Except.ok (text_filter_single table ⟨column, operator, c.value⟩)
  case further =>
    intro conditions statement hconditions hne h x logic column operator hcolumn hoperator hlogic t ht
    obtain ⟨q, hq, rfl⟩ := exists_of_compile_ok hs h
    have hx : conditionOf x = .ok ⟨column, operator, x.value⟩ :=
      conditionOf_eq.mpr ⟨hcolumn, hoperator, rfl⟩
    obtain ⟨table, first, more, rfl, hmore⟩ := ofFilter_concat hconditions hne hq hx hlogic
    rw [compile_eq ht, ofPayload, hmore, Except.map, text_filter_concat]

/-- A filter by one condition. The condition has a word that joins it to none, and the comparison of the payload
itself is left open. -/
def listed : Stage :=
  ⟨"f", .filter, "", [("table", .text "orders"), ("conditions", .list [
    .object [("column", .text "total"), ("operator", .text ">"), ("value", .int 1),
      ("logic", .text "xor")]])]⟩

def compared : Stage :=
  ⟨"f", .filter, "", [("table", .text "orders"), ("column", .text "total"), ("operator", .text ">"),
    ("value", .int 1)]⟩

def listedBeside : Stage := { listed with data := ("column", .text "id") :: listed.data }

def listedFurther : Stage :=
  ⟨"f", .filter, "", [("table", .text "orders"), ("conditions", .list [
    .object [("column", .text "total"), ("operator", .text ">"), ("value", .int 1),
      ("logic", .text "xor")],
    .object [("column", .text "name"), ("operator", .text "="), ("value", .text "a"),
      ("logic", .text " oR ")]])]⟩

theorem listed_compiled :
    compile listedBeside none = compile listed none ∧ compile compared none = compile listed none ∧
      compile listedFurther none = .ok "SELECT * FROM orders WHERE total > 1 OR name = 'a'" := by
  have hlisted : compile listed none = .ok "SELECT * FROM orders WHERE total > 1" := rfl
  obtain ⟨hbeside, hsingle, hfurther⟩ := compile_filter (s := listed) rfl none
  have hspells : Spells Logic.or.keyword " oR " :=
    ⟨[' '], ['o', 'R'], [' '], rfl, List.forall_mem_singleton.mpr rfl,
      List.forall_mem_singleton.mpr rfl, rfl⟩
  refine ⟨hbeside (List.cons_ne_nil _ _) listedBeside _ _ _ rfl,
    (hsingle _ "total" ">" rfl rfl rfl nofun compared none rfl rfl).1, ?_⟩
  exact hfurther _ _ rfl (List.cons_ne_nil _ _) hlisted
    ⟨some "name", some "=", .text "a", some " oR ", []⟩ .or "name" "=" rfl rfl
    (.inr ⟨" oR ", rfl, hspells⟩) listedFurther rfl

end Query

end StagedSql
