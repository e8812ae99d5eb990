import RemoteWay.Base.Runs
import RemoteWay.Display.Thread

/-!
# The newest frame of each surface

The surfaces share one ring and one pending frame.  While frames of a single
surface are held and popped in an iteration, the last popped frame of every
surface has been committed or is still pending.
-/

namespace RemoteWay.Display

open RemoteWay.Base

namespace DisplayThread

variable {profile : Profile} {capacity : Nat}
variable {before after : DisplayThread}

/-- The last frame of a surface that was popped from the ring. -/
def lastPopped (thread : DisplayThread) (surfaceId : UInt16) :
    Option Queued :=
  (thread.popped.filter fun item =>
    item.frame.surfaceId == surfaceId).getLast?

/-- The last popped frame of every surface has been committed or is
pending. -/
def KeepsLatest (thread : DisplayThread) : Prop :=
  ∀ surfaceId item, item ∈ thread.lastPopped surfaceId →
    item ∈ thread.committed.map Prod.fst ∨ item ∈ thread.pendingFrame

/-- A frame is popped only while no frame of another surface is held. -/
def HoldsOneSurface (thread : DisplayThread) : DisplayAction → Prop
  | .pop =>
      ∀ held, held ∈ thread.pendingFrame →
        ∀ item, item ∈ thread.ring.head? →
          held.frame.surfaceId = item.frame.surfaceId
  | _ => True

instance (thread : DisplayThread) :
    ∀ action, Decidable (thread.HoldsOneSurface action)
  | .pop =>
      inferInstanceAs (Decidable (∀ held : Queued, held ∈ _ →
        ∀ item : Queued, item ∈ _ →
          held.frame.surfaceId = item.frame.surfaceId))
  | .sendFrame _ => inferInstanceAs (Decidable True)
  | .dispatch _ => inferInstanceAs (Decidable True)
  | .drained => inferInstanceAs (Decidable True)
  | .created _ => inferInstanceAs (Decidable True)
  | .present _ _ => inferInstanceAs (Decidable True)

theorem surfaceId_of_lastPopped {surfaceId : UInt16} {item : Queued}
    (last : item ∈ before.lastPopped surfaceId) :
    item.frame.surfaceId = surfaceId := by
  have member := List.mem_of_getLast? last
  exact beq_iff_eq.mp (List.mem_filter.mp member).2

/-- A popped frame is the last of its surface, and of no other. -/
private theorem lastPopped_concat {popped : List Queued} {item : Queued}
    (same : after.popped = popped ++ [item]) (surfaceId : UInt16) :
    after.lastPopped surfaceId =
      if item.frame.surfaceId = surfaceId then
        some item
      else
        (popped.filter fun item =>
          item.frame.surfaceId == surfaceId).getLast? := by
  rw [lastPopped, same, List.filter_append]
  by_cases here : item.frame.surfaceId = surfaceId
  · have kept : [item].filter
        (fun item => item.frame.surfaceId == surfaceId) = [item] :=
      List.filter_cons_of_pos (beq_iff_eq.mpr here)
    rw [if_pos here, kept]
    exact List.getLast?_concat
  · have removed : [item].filter
        (fun item => item.frame.surfaceId == surfaceId) = [] :=
      List.filter_cons_of_neg fun matched => here (beq_iff_eq.mp matched)
    rw [if_neg here, removed, List.append_nil]

theorem KeepsLatest.pop (keeps : before.KeepsLatest)
    (performed : before.perform profile capacity .pop = some after)
    (holds : before.HoldsOneSurface .pop) : after.KeepsLatest := by
  obtain ⟨item, ring, queued, rfl⟩ := perform_pop performed
  intro surfaceId latest last
  rw [lastPopped_concat rfl] at last
  by_cases here : item.frame.surfaceId = surfaceId
  · rw [if_pos here] at last
    exact Or.inr last
  · rw [if_neg here] at last
    rcases keeps surfaceId latest last with done | held
    · exact Or.inl done
    · have same := holds latest held item (by rw [queued]; rfl)
      have latestHere : latest.frame.surfaceId = surfaceId :=
        surfaceId_of_lastPopped (show latest ∈ before.lastPopped surfaceId
          from last)
      exact absurd (same.symm.trans latestHere) here

/-- Every step with the condition keeps the newest frames. -/
theorem KeepsLatest.perform {action : DisplayAction}
    (keeps : before.KeepsLatest)
    (performed : before.perform profile capacity action = some after)
    (holds : before.HoldsOneSurface action) : after.KeepsLatest := by
  cases action with
  | sendFrame frame =>
      rcases perform_sendFrame performed with ⟨_, rfl⟩ | ⟨_, rfl⟩
      · exact keeps
      · exact keeps
  | dispatch event =>
      obtain ⟨_, rfl⟩ := perform_dispatch performed
      exact keeps
  | pop => exact keeps.pop performed holds
  | drained =>
      obtain ⟨_, ⟨_, rfl⟩ | ⟨item, _, ⟨_, rfl⟩ | ⟨display, _, _, rfl⟩⟩⟩ :=
        perform_drained performed
      · exact keeps
      · exact keeps
      · exact keeps
  | created memory =>
      obtain ⟨item, display, _, _, rfl⟩ := perform_created performed
      exact keeps
  | present clock memory =>
      obtain ⟨item, resized, display, outcome, pending, _, _, result⟩ :=
        perform_present performed
      rcases result with ⟨_, rfl⟩ | ⟨commit, _, rfl⟩
      · exact keeps
      · intro surfaceId latest last
        apply Or.inl
        rw [List.map_append, List.mem_append]
        rcases keeps surfaceId latest last with done | held
        · exact Or.inl done
        · rw [pending] at held
          injection held with same
          rw [← same]
          exact Or.inr (List.mem_singleton_self _)

/-- In every state of every run in which no frame is popped while one of
another surface is held, the last popped frame of each surface has been
committed or is pending. -/
theorem keepsLatest_of_run {actions : List DisplayAction}
    {last : DisplayThread}
    (run : Run (fun before action after =>
        Step profile capacity before action after ∧
          before.HoldsOneSurface action) spawn actions last) :
    last.KeepsLatest := by
  apply run.keeps
  · intro before action after performed keeps
    exact keeps.perform performed.1 performed.2
  · nofun

/-! ## Two surfaces -/

/-- A frame of one pixel. -/
def onePixel (surfaceId : UInt16) : DisplayFrame where
  surfaceId := surfaceId
  data := [1, 1, 1, 1]
  damage := []
  width := 1
  height := 1
  stride := 4
  timestampNs := 0

/-- The surface of the pending frame is created, and the frame presented. -/
def presentOnNewSurface (surfaceId : UInt16) : List DisplayAction :=
  [.drained, .dispatch (.configure surfaceId), .created fun _ => .ok (),
    .present ⟨0, 0⟩ fun _ => .ok ()]

/-- The frames of two surfaces are popped in one iteration. -/
def oneIteration : List DisplayAction :=
  [.sendFrame (onePixel 0), .sendFrame (onePixel 1), .pop, .pop] ++
    presentOnNewSurface 1

/-- The frame of the first surface is neither committed nor pending. -/
theorem keepsLatest_fails :
    ¬ ∀ profile capacity actions last,
      Run (Step profile capacity) spawn actions last →
        last.phase = .dispatching → last.KeepsLatest := by
  intro keeps
  have evaluated : (oneIteration.foldlM (perform .dev ringCapacity)
      spawn).map (fun last => (last.phase, last.lastPopped 0,
        last.committed.map Prod.fst, last.pendingFrame)) =
      some (.dispatching, some ⟨0, none, onePixel 0⟩,
        [⟨1, some (onePixel 0), onePixel 1⟩], none) := by
    decide +kernel
  obtain ⟨last, iterated, state⟩ := Option.map_eq_some_iff.mp evaluated
  injection state with phase state
  injection state with popped state
  injection state with committed pending
  have kept := keeps .dev ringCapacity _ last (run_iff_foldlM.mpr iterated)
    phase 0 _ popped
  rw [committed, pending] at kept
  exact absurd kept (by decide)

/-- The frames of two surfaces are popped one iteration after the other. -/
def twoIterations : List DisplayAction :=
  [.sendFrame (onePixel 0), .pop] ++ presentOnNewSurface 0 ++
    [.sendFrame (onePixel 1), .pop] ++ presentOnNewSurface 1

theorem keepsLatest_of_run_twoIterations :
    ∃ last, Run (fun before action after =>
        Step .dev ringCapacity before action after ∧
          before.HoldsOneSurface action) spawn twoIterations last ∧
      last.committed.length = 2 ∧ last.KeepsLatest := by
  have evaluated :
      (twoIterations.foldlM (fun (before : DisplayThread) action =>
          if before.HoldsOneSurface action then
            before.perform .dev ringCapacity action
          else none) spawn).map
        (fun last => last.committed.length) = some 2 := by
    decide +kernel
  obtain ⟨last, iterated, committed⟩ := Option.map_eq_some_iff.mp evaluated
  have run := run_iff_foldlM_guarded.mpr iterated
  exact ⟨last, run, committed, keepsLatest_of_run run⟩

end DisplayThread

end RemoteWay.Display
