import CertApproval.Control.Controller
import Mathlib.Data.List.Infix

/-!
Sessions one after the other. Main statements: what a session comes to that nobody stops, and
that the loop begins each session where the one before has left off.
-/

namespace CertApproval

namespace Cluster.Session

/-- Whether a session ends because the cluster has forgotten the version that it began with. -/
def Gone (failure : Option Refusal) : Prop :=
  ∃ refusal ∈ failure, refusal.hasCode goneCode = true

instance (failure : Option Refusal) : Decidable (Gone failure) :=
  inferInstanceAs (Decidable (∃ refusal ∈ failure, _))

theorem cursor_close (failure : Option Refusal) (cursor : Option String) :
    (close failure cursor).cursor = if Gone failure then none else cursor := by
  cases failure with
  | none =>
      simp [close, Gone, finished]
  | some refusal =>
      by_cases gone : refusal.hasCode goneCode = true
      · simp [close, Gone, gone]
      · simp [close, Gone, gone]

theorem names_close (failure : Option Refusal) (cursor : Option String) :
    (close failure cursor).names = [] := by
  unfold close
  split
  · rfl
  · split <;> rfl

/-- A session that nobody stops tells of all changes but deletions, and it comes to an end
where the last change has brought it. -/
theorem follow_unstopped (failure : Option Refusal) (number : Nat) (cursor : Option String)
    (changes : List Change) :
    follow (fun _ => false) failure none number cursor changes =
      { close failure (changes.foldl advance cursor) with
        names := (changes.filter fun change => !change.deleted).map Change.name } := by
  induction changes generalizing number cursor with
  | nil =>
      rw [follow, List.foldl_nil, List.filter_nil, List.map_nil, ← names_close failure cursor]
  | cons change changes inductionHypothesis =>
      cases deleted : change.deleted <;>
        simp [follow, deleted, inductionHypothesis, yielding]

theorem run_unstopped (cursor : Option String) (stream : Stream) :
    run (fun _ => false) none cursor stream =
      { close stream.failure (stream.changes.foldl advance cursor) with
        names := (stream.changes.filter fun change => !change.deleted).map Change.name } :=
  follow_unstopped stream.failure 0 cursor stream.changes

/-- The version where the next session begins after some. -/
def cursorAfter (cursor : Option String) (streams : List Stream) : Option String :=
  streams.foldl (fun cursor stream => (run (fun _ => false) none cursor stream).cursor) cursor

theorem cursorAfter_snoc (cursor : Option String) (streams : List Stream) (stream : Stream) :
    cursorAfter cursor (streams ++ [stream]) =
      if Gone stream.failure then none
      else stream.changes.foldl advance (cursorAfter cursor streams) := by
  simp [cursorAfter, run_unstopped, cursor_close]

end Cluster.Session

namespace Control.Controller

open CertApproval.Cluster (Session Stream Subscription)

theorem world_foldl_enqueue (names : List String) (controller : Controller) :
    (names.foldl enqueue controller).world = controller.world := by
  induction names generalizing controller with
  | nil =>
      rfl
  | cons name names inductionHypothesis =>
      rw [List.foldl_cons, inductionHypothesis, enqueue]
      split <;> rfl

theorem world_absorb (settings : Settings) (controller : Controller) (session : Session) :
    (controller.absorb settings session).world = controller.world :=
  world_foldl_enqueue session.names.reduceOption controller

/-- The loop begins every session where the one before has left off. -/
theorem subscriptions_watch (settings : Settings) (streams : List Stream)
    (controller : Controller) (running : controller.world.stopped = false) :
    (watch settings streams controller).1 =
      streams.inits.map fun earlier =>
        .start settings.rules.signerName (Session.cursorAfter controller.cursor earlier) := by
  induction streams generalizing controller with
  | nil =>
      rw [watch, running, if_neg Bool.false_ne_true]
      rfl
  | cons stream streams inductionHypothesis =>
      have next := inductionHypothesis
        (controller.absorb settings (Session.run (fun _ => false) none controller.cursor stream))
        ((congrArg World.stopped (world_absorb _ _ _)).trans running)
      rw [watch, running, if_neg Bool.false_ne_true]
      simp only [next, List.inits_cons, List.map_cons, List.map_map]
      rfl

end Control.Controller

end CertApproval
