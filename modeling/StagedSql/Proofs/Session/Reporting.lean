import StagedSql.Proofs.Session.Restoring

/-!
# What an import reports

An import that returns has reported its start, the candidates that were dropped, every stage as it
began and as it was done, and how the run has ended. Progress never falls, and only the last event is
a terminal one.
-/

namespace StagedSql

open Outcome

namespace Flow.Event

def mark (e : Event) : String × Int := (e.stage, e.progress)

def terminal : List String := ["completed", "failed"]

/-- The marks of the stages that were done, from number `i` of `total` on. -/
def stepMarks (total i done : Nat) : List (String × Int) :=
  (List.range' i done).flatMap fun i =>
    [("materializing", Int.ofNat (100 * i / total)),
      ("materialized", Int.ofNat (100 * (i + 1) / total))]

def endMarks (total done : Nat) (succeeded : Bool) : List (String × Int) :=
  if succeeded then [("completed", 100)]
  else
    [("materializing", Int.ofNat (100 * done / total)), ("failed", Int.ofNat (100 * done / total))]

/-- The marks of all events of an import. -/
def protocol (dropped total done : Nat) (succeeded : Bool) : List (String × Int) :=
  ("started", 0) :: (List.replicate dropped ("dropped", 0) ++
    stepMarks total 0 done ++ endMarks total done succeeded)

def ofResults (total : Nat) : Nat → List (Stage × Materialization) → List Event
  | _, [] => []
  | i, (stage, m) :: rest =>
    .materializing (percent i total) stage :: .materialized (percent (i + 1) total) m ::
      ofResults total (i + 1) rest

/-- The events that end a run of `stages`, the first one as number `i` of `total`: all of them are
done, or the next one has failed. -/
inductive Ending (total i : Nat) (stages : List Stage) (results : List Materialization) :
    Option (String × PipelineError) → List Event → Prop
  | completed (all : results.length = stages.length) :
      Ending total i stages results none [.completed]
  | failed (stage : Stage) (e : PipelineError) (next : stages[results.length]? = some stage) :
      Ending total i stages results (some (Action.failedStage stage e, e))
        [.materializing (percent (i + results.length) total) stage,
          .failed (percent (i + results.length) total) stage e]

theorem Ending.cons {total i : Nat} {stages : List Stage} {results : List Materialization}
    {failure : Option (String × PipelineError)} {ending : List Event} (stage : Stage)
    (m : Materialization) (h : Ending total (i + 1) stages results failure ending) :
    Ending total i (stage :: stages) (m :: results) failure ending := by
  have hnumber : i + (m :: results).length = i + 1 + results.length := by
    rw [List.length_cons]
    omega
  cases h with
  | completed all => exact .completed (congrArg Nat.succ all)
  | failed next e hnext =>
    rw [← hnumber]
    exact .failed next e hnext

/-! ### Marks -/

theorem percent_eq (done total : Nat) : percent done total = 100 * done / total := by
  rw [percent, Nat.mul_comm]

theorem marks_opening (candidates : Nat) (dropped : List Dropped) :
    (opening candidates dropped).map mark =
      ("started", 0) :: List.replicate dropped.length ("dropped", 0) := by
  have hdropped : mark ∘ Event.dropped = fun _ => ("dropped", 0) := rfl
  rw [opening, List.map_cons, List.map_map, hdropped, List.map_const']
  rfl

theorem marks_ofResults (total i : Nat) (done : List (Stage × Materialization)) :
    (ofResults total i done).map mark = stepMarks total i done.length := by
  induction done generalizing i with
  | nil => rfl
  | cons d rest ih =>
    simp only [ofResults, List.map_cons, ih, stepMarks, List.length_cons, List.range'_succ,
      List.flatMap_cons, percent_eq]
    rfl

theorem Ending.marks {total : Nat} {stages : List Stage} {results : List Materialization}
    {failure : Option (String × PipelineError)} {ending : List Event}
    (h : Ending total 0 stages results failure ending) :
    ending.map mark = endMarks total results.length failure.isNone := by
  cases h with
  | completed all => rfl
  | failed stage e next =>
    simp only [List.map_cons, List.map_nil, Nat.zero_add, percent_eq]
    rfl

theorem Ending.length_le {total i : Nat} {stages : List Stage} {results : List Materialization}
    {failure : Option (String × PipelineError)} {ending : List Event}
    (h : Ending total i stages results failure ending) : results.length ≤ stages.length := by
  cases h with
  | completed all => exact Nat.le_of_eq all
  | failed stage e next => exact Nat.le_of_lt (List.getElem?_eq_some_iff.mp next).1

/-! ### Progress -/

theorem percent_mono (total : Nat) {j k : Nat} (h : j ≤ k) : 100 * j / total ≤ 100 * k / total :=
  Nat.div_le_div_right (Nat.mul_le_mul_left 100 h)

theorem percent_le {total done : Nat} (h : done ≤ total) : 100 * done / total ≤ 100 := by
  refine Nat.div_le_of_le_mul ?_
  rw [Nat.mul_comm total]
  exact Nat.mul_le_mul_left 100 h

theorem progress_stepMarks (total i done : Nat) :
    ((stepMarks total i done).map (·.2)).Pairwise (· ≤ ·) ∧
      ∀ p ∈ (stepMarks total i done).map (·.2),
        Int.ofNat (100 * i / total) ≤ p ∧ p ≤ Int.ofNat (100 * (i + done) / total) := by
  induction done generalizing i with
  | zero => exact ⟨.nil, by simp [stepMarks]⟩
  | succ done ih =>
    obtain ⟨hsorted, hbounds⟩ := ih (i + 1)
    have hfirst := percent_mono total (Nat.le_succ i)
    have hlast := percent_mono total (Nat.le_add_right (i + 1) done)
    have hend : i + 1 + done = i + (done + 1) := by omega
    rw [hend] at hbounds hlast
    have hcons : (stepMarks total i (done + 1)).map (·.2) =
        Int.ofNat (100 * i / total) :: Int.ofNat (100 * (i + 1) / total) ::
          (stepMarks total (i + 1) done).map (·.2) := by
      simp [stepMarks, List.range'_succ]
    rw [hcons]
    constructor
    · refine .cons ?_ (.cons (fun p hp => (hbounds p hp).1) hsorted)
      intro p hp
      rcases List.mem_cons.mp hp with rfl | hp
      · exact Int.ofNat_le.mpr hfirst
      · exact Int.le_trans (Int.ofNat_le.mpr hfirst) (hbounds p hp).1
    · intro p hp
      rcases List.mem_cons.mp hp with rfl | hp
      · exact ⟨Int.le_refl _, Int.ofNat_le.mpr (Nat.le_trans hfirst hlast)⟩
      rcases List.mem_cons.mp hp with rfl | hp
      · exact ⟨Int.ofNat_le.mpr hfirst, Int.ofNat_le.mpr hlast⟩
      · exact ⟨Int.le_trans (Int.ofNat_le.mpr hfirst) (hbounds p hp).1, (hbounds p hp).2⟩

theorem progress_endMarks {total done : Nat} (succeeded : Bool) (h : done ≤ total) :
    ((endMarks total done succeeded).map (·.2)).Pairwise (· ≤ ·) ∧
      ∀ p ∈ (endMarks total done succeeded).map (·.2),
        Int.ofNat (100 * done / total) ≤ p ∧ p ≤ 100 := by
  have hle : Int.ofNat (100 * done / total) ≤ 100 := Int.ofNat_le.mpr (percent_le h)
  cases succeeded with
  | true => simpa [endMarks] using hle
  | false => simpa [endMarks] using hle

/-- Progress never falls from one event to a later one, and it stays between 0 and 100. -/
theorem progress_protocol {total done : Nat} (dropped : Nat) (succeeded : Bool)
    (h : done ≤ total) :
    ((protocol dropped total done succeeded).map (·.2)).Pairwise (· ≤ ·) ∧
      ∀ p ∈ (protocol dropped total done succeeded).map (·.2), 0 ≤ p ∧ p ≤ 100 := by
  obtain ⟨hsteps, hstep⟩ := progress_stepMarks total 0 done
  obtain ⟨hends, hend⟩ := progress_endMarks succeeded h
  rw [Nat.zero_add] at hstep
  have hle : Int.ofNat (100 * done / total) ≤ 100 := Int.ofNat_le.mpr (percent_le h)
  have hpositive : ∀ n, 0 ≤ Int.ofNat n := fun n => Int.natCast_nonneg n
  have hbounds : ∀ p ∈ (protocol dropped total done succeeded).map (·.2), 0 ≤ p ∧ p ≤ 100 := by
    intro p hp
    simp only [protocol, List.map_cons, List.map_append, List.map_replicate, List.mem_cons,
      List.mem_append] at hp
    rcases hp with rfl | (hp | hp) | hp
    · decide
    · rw [List.eq_of_mem_replicate hp]
      decide
    · exact ⟨Int.le_trans (hpositive _) (hstep p hp).1, Int.le_trans (hstep p hp).2 hle⟩
    · exact ⟨Int.le_trans (hpositive _) (hend p hp).1, (hend p hp).2⟩
  refine ⟨?_, hbounds⟩
  simp only [protocol, List.map_cons, List.map_append, List.map_replicate] at hbounds ⊢
  refine .cons (fun p hp => (hbounds p (List.mem_cons_of_mem _ hp)).1) ?_
  rw [List.append_assoc, List.pairwise_append, List.pairwise_append]
  refine ⟨List.pairwise_replicate.mpr (.inr (Int.le_refl _)), ⟨hsteps, hends, ?_⟩, ?_⟩
  · exact fun p hp q hq => Int.le_trans (hstep p hp).2 (hend q hq).1
  · intro p hp q hq
    rw [List.eq_of_mem_replicate hp]
    refine (hbounds q ?_).1
    rw [List.append_assoc]
    exact List.mem_cons_of_mem _ (List.mem_append_right _ hq)

/-- One terminal event is reported, and it is the last one. -/
theorem terminal_protocol (dropped total done : Nat) (succeeded : Bool) :
    ∃ before last, protocol dropped total done succeeded = before ++ [last] ∧
      last.1 ∈ terminal ∧ ∀ m ∈ before, m.1 ∉ terminal := by
  have hbegun : "materializing" ∉ terminal := by decide
  have hdone : "materialized" ∉ terminal := by decide
  have hfailed : "failed" ∈ terminal := by decide
  have hsteps : ∀ m ∈ stepMarks total 0 done, m.1 ∉ terminal := by
    intro m hm
    obtain ⟨i, -, hm⟩ := List.mem_flatMap.mp hm
    rcases List.mem_cons.mp hm with rfl | hm
    · exact hbegun
    · exact List.mem_singleton.mp hm ▸ hdone
  have hstart : ∀ m ∈ ("started", (0 : Int)) :: (List.replicate dropped ("dropped", 0) ++
      stepMarks total 0 done), m.1 ∉ terminal := by
    intro m hm
    rcases List.mem_cons.mp hm with rfl | hm
    · decide
    rcases List.mem_append.mp hm with hm | hm
    · rw [List.eq_of_mem_replicate hm]
      decide
    · exact hsteps m hm
  cases succeeded with
  | true => exact ⟨_, ("completed", 100), rfl, by decide, hstart⟩
  | false =>
    refine ⟨("started", 0) :: (List.replicate dropped ("dropped", 0) ++ stepMarks total 0 done) ++
      [("materializing", Int.ofNat (100 * done / total))],
      ("failed", Int.ofNat (100 * done / total)), by simp [protocol, endMarks], hfailed, ?_⟩
    intro m hm
    rcases List.mem_append.mp hm with hm | hm
    · exact hstart m hm
    · exact List.mem_singleton.mp hm ▸ hbegun

/-! ### Events with the marks of the protocol -/

section

variable {told : List Event} {dropped total done : Nat} {succeeded : Bool}
  (h : told.map mark = protocol dropped total done succeeded)
include h

theorem progress_of_marks (hdone : done ≤ total) :
    (told.map (·.progress)).Pairwise (· ≤ ·) ∧ ∀ e ∈ told, 0 ≤ e.progress ∧ e.progress ≤ 100 := by
  have hprogress : told.map (·.progress) = (told.map mark).map (·.2) := by
    rw [List.map_map]
    rfl
  obtain ⟨hsorted, hbounds⟩ := progress_protocol dropped succeeded hdone
  rw [← h, ← hprogress] at hsorted hbounds
  exact ⟨hsorted, fun e he => hbounds _ (List.mem_map_of_mem he)⟩

theorem terminal_of_marks : ∃ before last, told = before ++ [last] ∧ last.stage ∈ terminal ∧
    ∀ e ∈ before, e.stage ∉ terminal := by
  obtain ⟨before, last, hsplit, hlast, hbefore⟩ :=
    terminal_protocol dropped total done succeeded
  rw [← h] at hsplit
  obtain ⟨events, ends, rfl, rfl, hends⟩ := List.map_eq_append_iff.mp hsplit
  obtain ⟨event, rfl, rfl⟩ := List.map_eq_singleton_iff.mp hends
  exact ⟨events, event, rfl, hlast, fun e he => hbefore _ (List.mem_map_of_mem he)⟩

end

end Flow.Event

/-! ### Reports of a run -/

open StagedSql.Flow (Event)

theorem events_addStage (stage : Stage) (active : Option String) (s : Session) :
    (final (Action.addStage stage active) s).events = s.events := by
  refine Action.addStage_rule (I := fun t => t.events = s.events) (fun _ _ ht => ht) ?_ stage
    active rfl
  intro stage active t ht
  rw [← ht]
  have houtcome := Materialization.execute_outcome stage active t
  generalize hr : Action.execute stage active t = r at houtcome
  cases houtcome with
  | refused e refusal => rw [final_of_error hr]
  | broken sql input fault c kind planned ran => rw [final_of_error hr]
  | loaded table kind found => rw [final_of_ok hr]
  | built sql input output failure kind planned =>
    rw [final_of_ok hr]
    rfl

/-- A run that returns has reported every stage that is done, and then how it ended. -/
theorem runStages_events {total : Nat} {before : Option Store} {report r : ImportReport} {i : Nat}
    {stages : List Stage} {s t : Session} (hnone : report.failure = none)
    (h : Action.runStages total before report i stages s = .ok r t) :
    ∃ results ending, r.dropped = report.dropped ∧ r.results = report.results ++ results ∧
      Event.Ending total i stages results r.failure ending ∧
      t.events = s.events ++ (Event.ofResults total i (stages.zip results) ++ ending) := by
  induction stages generalizing i report s with
  | nil =>
    have hemit : Action.emit .completed s = .ok () { s with events := s.events ++ [.completed] } :=
      rfl
    unfold Action.runStages at h
    rw [bind_of_ok hemit] at h
    cases h
    exact ⟨[], [.completed], rfl, (List.append_nil _).symm, hnone ▸ .completed rfl, rfl⟩
  | cons stage rest ih =>
    have hemit : Action.emit (.materializing (Event.percent i total) stage) s = .ok ()
        { s with events := s.events ++ [.materializing (Event.percent i total) stage] } := rfl
    have hevents := events_addStage stage none
      { s with events := s.events ++ [.materializing (Event.percent i total) stage] }
    unfold Action.runStages at h
    rw [bind_of_ok hemit] at h
    cases ha : Action.addStage stage none { s with events :=
        s.events ++ [.materializing (Event.percent i total) stage] } with
    | ok m u =>
      rw [final_of_ok ha] at hevents
      rw [bind_of_ok (Action.orPipelineError_of_ok ha)] at h
      have hmore : ({ report with results := report.results ++ [m] } : ImportReport).failure = none :=
        hnone
      obtain ⟨results, ending, hdropped, hresults, hending, htold⟩ := ih hmore h
      refine ⟨m :: results, ending, hdropped, ?_, hending.cons stage m, ?_⟩
      · rw [hresults, List.append_assoc, List.singleton_append]
      · rw [htold]
        simp [hevents, Event.ofResults]
    | error fault u =>
      rw [final_of_error ha] at hevents
      have hcaught := Action.orPipelineError_of_error ha
      cases fault with
      | pipeline e =>
        rw [bind_of_ok hcaught] at h
        have hended : Event.Ending total i (stage :: rest) []
            (some (Action.failedStage stage e, e))
            [.materializing (Event.percent i total) stage,
              .failed (Event.percent i total) stage e] := .failed stage e rfl
        cases before with
        | none =>
          cases h
          exact ⟨[], _, rfl, (List.append_nil _).symm, hended, by simp [hevents, Event.ofResults]⟩
        | some earlier =>
          cases h
          exact ⟨[], _, rfl, (List.append_nil _).symm, hended, by simp [hevents, Event.ofResults]⟩
      | _ =>
        rw [bind_of_error hcaught] at h
        cases h

theorem importFlow_events {mode : ImportMode} {keepIds : Bool} {candidates : List Value}
    {s t : Session} {report : ImportReport} {screening : Flow.Screening}
    (hscreen : Flow.screen keepIds 0 s.stagesMinted candidates = screening)
    (h : Action.importFlow mode keepIds candidates s = .ok report t) :
    ∃ ending, report.dropped = screening.dropped ∧
      Event.Ending (max 1 screening.accepted.length) 0 screening.accepted report.results
        report.failure ending ∧
      t.events = s.events ++ (Event.opening candidates.length report.dropped ++
        Event.ofResults (max 1 screening.accepted.length) 0
          (screening.accepted.zip report.results) ++ ending) := by
  rw [Action.importFlow_eq mode keepIds candidates s hscreen] at h
  split at h
  · cases h
  · obtain ⟨results, ending, hdropped, hresults, hending, htold⟩ := runStages_events rfl h
    rw [List.nil_append] at hresults
    rw [hresults, hdropped]
    refine ⟨ending, rfl, hending, ?_⟩
    rw [htold]
    simp only [List.append_assoc]

namespace Session

/-- An import that returns has reported its start, every candidate dropped, every stage as it began
and as it was done, and how it ended. Progress never falls, and the last event alone is terminal. -/
theorem events_follow_protocol {mode : Value} {keepIds : Bool} {candidates : List Value}
    {s t : Session} {report : ImportReport}
    (h : Action.importAs mode keepIds (.list candidates) s = .ok report t) :
    let accepted := (Flow.screen keepIds 0 s.stagesMinted candidates).accepted
    let total := max 1 accepted.length
    ∃ told ending, t.events = s.events ++ told ∧
      told = Event.opening candidates.length report.dropped ++
        Event.ofResults total 0 (accepted.zip report.results) ++ ending ∧
      Event.Ending total 0 accepted report.results report.failure ending ∧
      told.map Event.mark =
        Event.protocol report.dropped.length total report.results.length report.succeeded ∧
      (told.map (·.progress)).Pairwise (· ≤ ·) ∧
      (∀ e ∈ told, 0 ≤ e.progress ∧ e.progress ≤ 100) ∧
      ∃ before last, told = before ++ [last] ∧ last.stage ∈ Event.terminal ∧
        ∀ e ∈ before, e.stage ∉ Event.terminal := by
  intro accepted total
  obtain ⟨m, hr⟩ : ∃ m, Action.importFlow m keepIds candidates s = .ok report t := by
    rcases Action.importAs_cases mode keepIds (.list candidates) with
      ⟨fault, heq⟩ | ⟨m, items, hitems, heq⟩
    · rw [heq] at h
      cases h
    · obtain rfl := Option.some.inj hitems
      exact ⟨m, heq ▸ h⟩
  obtain ⟨ending, -, hending, htold⟩ := importFlow_events rfl hr
  have hdone : report.results.length ≤ accepted.length := hending.length_le
  have hzip : (accepted.zip report.results).length = report.results.length := by
    rw [List.length_zip, Nat.min_eq_right hdone]
  generalize hall : Event.opening candidates.length report.dropped ++
    Event.ofResults total 0 (accepted.zip report.results) ++ ending = told at htold
  have hmarks : told.map Event.mark =
      Event.protocol report.dropped.length total report.results.length report.succeeded := by
    rw [← hall, List.map_append, List.map_append, Event.marks_opening, Event.marks_ofResults, hzip,
      hending.marks]
    rfl
  obtain ⟨hsorted, hbounds⟩ := Event.progress_of_marks hmarks
    (Nat.le_trans hdone (Nat.le_max_right 1 accepted.length))
  exact ⟨told, ending, htold, hall.symm, hending, hmarks, hsorted, hbounds,
    Event.terminal_of_marks hmarks⟩

/-- One candidate is dropped, one of two stages runs, and the other one fails. -/
theorem halted_reported : ∃ report t told,
    Action.importAs (.text "replace") false (.list (.null :: halting)) paired = .ok report t ∧
      t.events = paired.events ++ told ∧ told.map Event.mark =
        [("started", 0), ("dropped", 0), ("materializing", 0), ("materialized", 50),
          ("materializing", 50), ("failed", 50)] := by
  have h : (result? (Action.importAs (.text "replace") false (.list (.null :: halting))) paired).map
      (fun r => (r.dropped.length, r.results.length, r.succeeded)) = some (1, 1, false) := by
    decide +kernel
  have haccepted : (Flow.screen false 0 paired.stagesMinted (.null :: halting)).accepted.length = 2 := by
    decide +kernel
  obtain ⟨report, hr, heq⟩ := Option.map_eq_some_iff.mp h
  obtain ⟨hdropped, heq⟩ := Prod.mk.inj heq
  obtain ⟨hresults, hfailed⟩ := Prod.mk.inj heq
  obtain ⟨told, -, hevents, -, -, hmarks, -⟩ := events_follow_protocol (ok_of_result? hr)
  refine ⟨report, _, told, ok_of_result? hr, hevents, ?_⟩
  rw [hmarks, haccepted, hdropped, hresults, hfailed]
  decide

end Session

end StagedSql
