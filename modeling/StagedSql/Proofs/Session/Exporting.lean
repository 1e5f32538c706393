import StagedSql.Proofs.Session.Rebuilding

/-!
# Exported flows

Screening takes an exported flow without loss, and a pipeline that is rebuilt from it exports it again.
Only the ids of the stages are new.
-/

namespace StagedSql.Session

open Outcome

theorem exportFlow_apply (s : Session) :
    Action.exportFlow s = .ok (Flow.exportStages s.store.stages) s := rfl

/-- A successful import of an exported flow leaves a pipeline that exports the same flow. -/
theorem Consistent.exportFlow_imported {s t : Session} (h : s.Consistent) (hcomplete : s.Complete)
    {keepIds : Bool} {report : ImportReport}
    (hr : Action.importFlow .replace keepIds (Flow.exportStages s.store.stages) s = .ok report t)
    (hsucceeded : report.succeeded = true) :
    Flow.exportStages t.store.stages = Flow.exportStages s.store.stages := by
  have hkept := Flow.mintedId_not_mem_keptIds_export keepIds s.store.stages
  have hnodup : ((Flow.screen keepIds 0 s.stagesMinted
      (Flow.exportStages s.store.stages)).accepted.map (·.id)).Nodup :=
    Flow.nodup_ids_screened fun n _ => hkept n
  obtain ⟨hrebuilt, -⟩ := h.rebuilt hnodup hr hsucceeded
  obtain ⟨hcontents, -⟩ := Flow.screen_exportStages hcomplete keepIds 0 s.stagesMinted
  refine Flow.exportStages_congr ?_
  rw [hrebuilt.stages_eq, hcontents]

/-- Screening an exported flow accepts every stage with its kind, description and payload, in order,
and drops none. If importing the flow in place of the pipeline succeeds, the flow is exported again. -/
theorem export_import_inverse {s : Session} (hs : s.Reachable) :
    ∃ flow, Action.exportFlow s = .ok flow s ∧
      (∀ keepIds index minted,
        (Flow.screen keepIds index minted flow).accepted.map Stage.content =
            s.store.stages.map Stage.content ∧
          (Flow.screen keepIds index minted flow).dropped = []) ∧
      ∀ keepIds report t, Action.importFlow .replace keepIds flow s = .ok report t →
        report.succeeded = true → Action.exportFlow t = .ok flow t := by
  have hcomplete := complete_of_reachable hs
  refine ⟨Flow.exportStages s.store.stages, exportFlow_apply s, ?_, ?_⟩
  · intro keepIds index minted
    exact Flow.screen_exportStages hcomplete keepIds index minted
  · intro keepIds report t hr hsucceeded
    rw [exportFlow_apply, (consistent_of_reachable hs).exportFlow_imported hcomplete hr hsucceeded]

/-- An infinity in a payload comes back, though the interchange form would lose it. -/
theorem unbounded_reimported : ∃ flow report t, unbounded.Reachable ∧
    Action.exportFlow unbounded = .ok flow unbounded ∧
    Action.importFlow .replace false flow unbounded = .ok report t ∧ report.succeeded = true ∧
    unbounded.store.stageIds = ["a"] ∧ t.store.stageIds = [Stage.mintedId 1] ∧
    Action.exportFlow t = .ok flow t := by
  obtain ⟨flow, hflow, -, hagain⟩ := export_import_inverse reachable_unbounded
  obtain rfl : Flow.exportStages unbounded.store.stages = flow :=
    (EStateM.Result.ok.inj ((exportFlow_apply unbounded).symm.trans hflow)).1
  have himport : (result? (Action.importFlow .replace false
      (Flow.exportStages unbounded.store.stages)) unbounded).map (·.succeeded) = some true := by
    decide +kernel
  obtain ⟨report, hr, hsucceeded⟩ := Option.map_eq_some_iff.mp himport
  exact ⟨_, report, _, reachable_unbounded, hflow, ok_of_result? hr, hsucceeded, by decide +kernel,
    by decide +kernel, hagain false report _ (ok_of_result? hr) hsucceeded⟩

end StagedSql.Session
