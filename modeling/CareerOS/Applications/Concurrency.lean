/-
This file is the optimistic concurrency of the pipeline: any number of clients
read one application and write it later, in any interleaving, with any expected
revisions. The general theory of the compare-and-swap reduces an interleaving to
the sequential run of its accepted requests, where the application is
consistent.

A stage event may name the stage the application is in already: the writer asks
the transitions only about a stage that differs. So the stages in the timeline
are a path that may stay where it is.
-/

import CareerOS.Applications.Pipeline

namespace CareerOS

section

variable [Pydantic] [TextTables] [NamedIds]

end

/-! ### A session of two clients -/

section

open Optimistic

attribute [local instance] Pydantic.canonical TextTables.plain NamedIds.single

/-- Two clients read the same application. The first records that it is saved, which it is
already; the second comes too late. -/
def savedTwice : Session Application PipelineRequest Bool :=
  [Event.receive false (.appendEvent (stageRequest 1 .saved none) savedAt),
    .receive true (.appendEvent (stageRequest 1 .applied none) savedAt),
    .finish false, .finish true].foldl pipelineProtocol.advance
      (Session.start (savedApplication savedAt))

theorem reached_savedTwice :
    (pipelineProtocol.sessions Bool pipeline.Reachable).Reachable savedTwice :=
  pipelineProtocol.reachable_events (.initial ⟨savedApplication savedAt,
    .initial (opened_savedApplication savedAt), rfl⟩) _

theorem stages_savedTwice : savedTwice.current.stages = [.saved, .saved] := by
  decide

end

end CareerOS
