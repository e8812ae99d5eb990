import RemoteWay.Display.DamageCoverage

/-!
# The order of frames on the screen

Frames are committed in the order in which they were passed to `send_frame`,
each at most once.  Those that the full ring refuses or that are replaced
while they wait are left out, but not the newest one that the ring took.
-/

namespace RemoteWay.Display

open RemoteWay.Base

namespace DisplayThread

variable {profile : Profile} {capacity : Nat}
variable {before after : DisplayThread}

/-- The frames that the ring took, oldest first. -/
def taken (thread : DisplayThread) : List Queued :=
  thread.popped ++ thread.ring

structure InOrder (thread : DisplayThread) : Prop where
  frames : List.Sublist (thread.line.map Queued.frame) thread.offered
  newest : thread.line.getLast? = thread.taken.getLast?
  numbered : ∀ item, item ∈ thread.taken →
    thread.offered[item.seq]? = some item.frame

theorem inOrder_spawn : spawn.InOrder where
  frames := List.Sublist.refl _
  newest := rfl
  numbered := by
    intro item member
    cases member

/-- A step that takes no frame out of the line. -/
theorem InOrder.of_line (inOrder : before.InOrder)
    (line : after.line = before.line) (taken : after.taken = before.taken)
    (offered : after.offered = before.offered) : after.InOrder where
  frames := by
    rw [line, offered]
    exact inOrder.frames
  newest := by
    rw [line, taken]
    exact inOrder.newest
  numbered := by
    rw [taken, offered]
    exact inOrder.numbered

/-- The numbers of the frames stay as more frames are passed. -/
theorem InOrder.numbered_append (inOrder : before.InOrder)
    (frame : DisplayFrame) {item : Queued} (member : item ∈ before.taken) :
    (before.offered ++ [frame])[item.seq]? = some item.frame := by
  have here := inOrder.numbered item member
  obtain ⟨inside, _⟩ := List.getElem?_eq_some_iff.mp here
  rw [List.getElem?_append_left inside]
  exact here

theorem InOrder.sendFrame (inOrder : before.InOrder) {frame : DisplayFrame}
    (performed : before.perform profile capacity (.sendFrame frame) =
      some after) : after.InOrder := by
  rcases perform_sendFrame performed with ⟨_, rfl⟩ | ⟨_, rfl⟩
  · let item : Queued :=
      ⟨before.offered.length, before.offered.getLast?, frame⟩
    have longer : ({ before with
        offered := before.offered ++ [frame]
        ring := before.ring ++ [item] } : DisplayThread).line =
          before.line ++ [item] := (List.append_assoc _ _ _).symm
    have more : ({ before with
        offered := before.offered ++ [frame]
        ring := before.ring ++ [item] } : DisplayThread).taken =
          before.taken ++ [item] := (List.append_assoc _ _ _).symm
    refine ⟨?_, ?_, ?_⟩
    · rw [longer, List.map_append]
      exact List.Sublist.append inOrder.frames (List.Sublist.refl _)
    · rw [longer, more, List.getLast?_concat, List.getLast?_concat]
    · rw [more]
      intro other member
      rcases List.mem_append.mp member with old | new
      · exact inOrder.numbered_append frame old
      · rw [List.mem_singleton.mp new]
        exact List.getElem?_concat_length
  · exact ⟨inOrder.frames.trans (List.sublist_append_left _ _),
      inOrder.newest,
      fun _ member => inOrder.numbered_append frame member⟩

/-- The popped frame takes the place of the pending one. -/
theorem InOrder.pop (inOrder : before.InOrder)
    (performed : before.perform profile capacity .pop = some after) :
    after.InOrder := by
  obtain ⟨item, ring, queued, rfl⟩ := perform_pop performed
  have lineEq : before.line = before.committed.map Prod.fst ++
      before.pendingFrame.toList ++ item :: ring := by
    rw [line, queued]
  have shorter : ({ before with
      ring := ring
      pendingFrame := some item
      phase := .draining
      popped := before.popped ++ [item] } : DisplayThread).line =
        before.committed.map Prod.fst ++ item :: ring :=
    List.append_assoc _ _ _
  have sameTaken : ({ before with
      ring := ring
      pendingFrame := some item
      phase := .draining
      popped := before.popped ++ [item] } : DisplayThread).taken =
        before.taken := by
    rw [taken, taken, queued]
    exact List.append_assoc _ _ _
  have newest := inOrder.newest
  have frames := inOrder.frames
  rw [lineEq] at newest frames
  refine ⟨?_, ?_, ?_⟩
  · rw [shorter]
    refine List.Sublist.trans (List.Sublist.map _ ?_) frames
    exact List.Sublist.append (List.sublist_append_left _ _)
      (List.Sublist.refl _)
  · rw [shorter, sameTaken, ← newest]
    rw [List.getLast?_append_of_ne_nil _ (List.cons_ne_nil item ring),
      List.getLast?_append_of_ne_nil _ (List.cons_ne_nil item ring)]
  · rw [sameTaken]
    exact inOrder.numbered

/-- Every step keeps the order of the frames. -/
theorem InOrder.perform {action : DisplayAction} (inOrder : before.InOrder)
    (performed : before.perform profile capacity action = some after) :
    after.InOrder := by
  cases action with
  | sendFrame frame => exact inOrder.sendFrame performed
  | dispatch event =>
      obtain ⟨_, rfl⟩ := perform_dispatch performed
      exact inOrder.of_line rfl rfl rfl
  | pop => exact inOrder.pop performed
  | drained =>
      obtain ⟨_, ⟨_, rfl⟩ | ⟨item, _, ⟨_, rfl⟩ | ⟨display, _, _, rfl⟩⟩⟩ :=
        perform_drained performed
      · exact inOrder.of_line rfl rfl rfl
      · exact inOrder.of_line rfl rfl rfl
      · exact inOrder.of_line rfl rfl rfl
  | created memory =>
      obtain ⟨item, display, _, _, rfl⟩ := perform_created performed
      exact inOrder.of_line rfl rfl rfl
  | present clock memory =>
      obtain ⟨item, resized, display, outcome, pending, _, _, result⟩ :=
        perform_present performed
      rcases result with ⟨_, rfl⟩ | ⟨commit, _, rfl⟩
      · exact inOrder.of_line rfl rfl rfl
      · refine inOrder.of_line ?_ rfl rfl
        rw [line, line, pending, List.map_append]
        simp only [List.map_cons, List.map_nil, Option.toList_none,
          Option.toList_some, List.append_nil]

/-- The frames on the screen, in order, are among those passed. -/
theorem InOrder.committed_sublist (inOrder : before.InOrder) :
    List.Sublist (before.committed.map fun entry => entry.1.frame)
      before.offered := by
  refine List.Sublist.trans ?_ inOrder.frames
  rw [line, List.append_assoc, List.map_append, List.map_map]
  exact List.sublist_append_left _ _

/-- Once no frame is waiting, the newest one that the ring took is on the
screen. -/
theorem InOrder.committed_newest (inOrder : before.InOrder)
    (empty : before.ring = []) (nothing : before.pendingFrame = none)
    {item : Queued} (last : item ∈ before.popped.getLast?) :
    before.offered[item.seq]? = some item.frame ∧
      ∃ commit, (item, commit) ∈ before.committed.getLast? := by
  have newest := inOrder.newest
  rw [line, taken, empty, nothing, Option.toList_none, List.append_nil,
    List.append_nil, List.append_nil] at newest
  constructor
  · apply inOrder.numbered
    rw [taken]
    exact List.mem_append_left _ (List.mem_of_getLast? last)
  · rw [last, List.getLast?_map, Option.map_eq_some_iff] at newest
    obtain ⟨⟨other, commit⟩, here, same⟩ := newest
    subst same
    exact ⟨commit, here⟩

end DisplayThread

end RemoteWay.Display
