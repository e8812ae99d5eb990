import RemoteWay.Base.Overtaking
import RemoteWay.Base.Runs
import RemoteWay.System.Delivery
import RemoteWay.Transport.SshTransport

/-!
# The order of frames on the wire

The server's loop, other senders of inputs and `write_loop`, interleaved in
any order.  Anchors have priority: one goes in front of the updates that are
queued when it is accepted, of which there are at most two.  Otherwise
messages are written in the order in which they were accepted.
-/

namespace RemoteWay.System

open RemoteWay.Base RemoteWay.Proto RemoteWay.Compress
open RemoteWay.Capture RemoteWay.Server RemoteWay.Transport

/-! ## The system -/

/-- The sending side.  `accepted` is the history of what the transport
accepted on the anchor and frame channels, with the number of queued updates
that each anchor goes in front of. -/
structure SendState where
  loop : LoopState
  transport : SshTransport
  accepted : List (Arrival Packet)
  deriving DecidableEq, Repr

/-- What happens next on the sending side.  A round comes with the
transport's answer. -/
inductive SendAction where
  | round (input : RoundInput)
  | sendInput (data : List UInt8)
  | write (flushed : Bool)
  | disconnect
  deriving DecidableEq, Repr

/-- The loop starts after the handshake was sent. -/
def SendState.initial (handshake : List UInt8) : SendState where
  loop := LoopState.initial
  transport := (SshTransport.new.sendAnchor handshake).2
  accepted := [⟨⟨.anchor, handshake⟩, 0⟩]

/-- Hand a message to the transport: an anchor to `send_anchor`, an update to
`try_send_frame`. -/
def offer (transport : SshTransport) (message : FrameMessage) :
    Bool × SshTransport :=
  if message.msgType = .anchorFrame then
    transport.sendAnchor message.wire
  else
    transport.trySendFrame message.wire

/-- How an accepted message arrives. -/
def arrivalOf (transport : SshTransport) (message : FrameMessage) :
    Arrival Packet :=
  if message.msgType = .anchorFrame then
    ⟨⟨.anchor, message.wire⟩, transport.frameRx.length⟩
  else
    ⟨⟨.frame, message.wire⟩, 0⟩

/-- A round that ends with the transport's answer. -/
def sendRound (profile : Profile) (config : ServerConfig)
    (state : SendState) (input : RoundInput) : Option SendState :=
  match round profile config state.loop input with
  | .error _ => none
  | .ok step =>
      let (sent, transport) := offer state.transport step.message
      if sent = input.sent then
        some
          { loop := step.after
            transport := transport
            accepted :=
              if sent then
                state.accepted ++ [arrivalOf state.transport step.message]
              else
                state.accepted }
      else
        none

def SendState.perform (profile : Profile) (config : ServerConfig)
    (state : SendState) : SendAction → Option SendState
  | .round input => sendRound profile config state input
  | .sendInput data =>
      some { state with transport := (state.transport.sendInput data).2 }
  | .write flushed =>
      (state.transport.writeRound flushed).map fun transport =>
        { state with transport := transport }
  | .disconnect =>
      some { state with transport := state.transport.disconnect }

/-! ## The invariant -/

/-- What has been written, and what is queued, follows the arrangement of
the accepted messages. -/
structure Ordered (state : SendState) : Prop where
  written : state.transport.framesWritten <+: arrange state.accepted
  pending : state.transport.connected = true →
    state.transport.wireOrder = arrange state.accepted
  depth : state.transport.frameRx.length ≤ frameQueueDepth
  overtaken : ∀ arrival, arrival ∈ state.accepted →
    arrival.overtaken ≤ frameQueueDepth ∧
      (arrival.item.channel = .frame → arrival.overtaken = 0)

theorem ordered_initial (handshake : List UInt8) :
    Ordered (SendState.initial handshake) where
  written := List.nil_prefix
  pending := fun _ => rfl
  depth := Nat.zero_le _
  overtaken := by
    intro arrival member
    rw [List.mem_singleton.mp member]
    exact ⟨Nat.zero_le _, fun _ => rfl⟩

/-- A refused message changes nothing.  An accepted one takes its place in
the order of the wire. -/
theorem offer_eq (transport : SshTransport) (message : FrameMessage) :
    offer transport message = (false, transport) ∨
      ∃ after, offer transport message = (true, after) ∧
        transport.connected = true ∧
        after.wireOrder =
          insertBefore transport.wireOrder
            (arrivalOf transport message).overtaken
            (arrivalOf transport message).item ∧
        after.frameRx.length ≤
          max transport.frameRx.length frameQueueDepth := by
  rw [offer, arrivalOf]
  by_cases anchor : message.msgType = .anchorFrame
  · rw [if_pos anchor, if_pos anchor]
    rcases transport.sendAnchor_eq message.wire with
      ⟨_, refused⟩ | ⟨connected, accepted⟩
    · exact Or.inl refused
    · exact Or.inr ⟨_, accepted, connected, SshTransport.wireOrder_anchor,
        Nat.le_max_left _ _⟩
  · rw [if_neg anchor, if_neg anchor]
    rcases transport.trySendFrame_eq message.wire with
      refused | ⟨connected, free, accepted⟩
    · exact Or.inl refused
    · refine Or.inr ⟨_, accepted, connected, ?_, ?_⟩
      · rw [insertBefore_zero]
        exact SshTransport.wireOrder_frame
      · rw [List.length_append]
        exact Nat.le_trans free (Nat.le_max_right _ _)

theorem overtaken_arrivalOf (transport : SshTransport)
    (message : FrameMessage) :
    (arrivalOf transport message).overtaken ≤ transport.frameRx.length ∧
      ((arrivalOf transport message).item.channel = .frame →
        (arrivalOf transport message).overtaken = 0) := by
  rw [arrivalOf]
  by_cases anchor : message.msgType = .anchorFrame
  · rw [if_pos anchor]
    refine ⟨Nat.le_refl _, ?_⟩
    intro impossible
    cases impossible
  · rw [if_neg anchor]
    exact ⟨Nat.zero_le _, fun _ => rfl⟩

section Steps

variable {profile : Profile} {config : ServerConfig}
variable {before after : SendState}

/-- A round of the loop, as a step of the sending side. -/
theorem sendRound_eq_some {input : RoundInput}
    (done : sendRound profile config before input = some after) :
    ∃ step, round profile config before.loop input = .ok step ∧
      after.loop = step.after ∧
      offer before.transport step.message =
        (input.sent, after.transport) ∧
      after.accepted =
        if input.sent then
          before.accepted ++ [arrivalOf before.transport step.message]
        else
          before.accepted := by
  rw [sendRound] at done
  cases stepped : round profile config before.loop input with
  | error panic =>
      rw [stepped] at done
      cases done
  | ok step =>
      rw [stepped] at done
      cases offered : offer before.transport step.message with
      | mk sent transport =>
          simp only [offered] at done
          by_cases answered : sent = input.sent
          · rw [if_pos answered] at done
            injection done with same
            rw [← same, ← answered]
            exact ⟨step, rfl, rfl, offered, rfl⟩
          · rw [if_neg answered] at done
            cases done

/-- A step that accepts nothing either keeps the order of the wire or ends
the connection. -/
theorem Ordered.of_order (ordered : Ordered before)
    (sameAccepted : after.accepted = before.accepted)
    (shorter : after.transport.frameRx.length ≤
      before.transport.frameRx.length)
    (kept : (after.transport.connected = before.transport.connected ∧
        after.transport.framesWritten = before.transport.framesWritten ∧
        after.transport.wireOrder = before.transport.wireOrder) ∨
      (before.transport.connected = true ∧
        after.transport.wireOrder = before.transport.wireOrder) ∨
      (after.transport.connected = false ∧
        after.transport.framesWritten =
          before.transport.framesWritten)) : Ordered after where
  written := by
    rw [sameAccepted]
    rcases kept with ⟨_, same, _⟩ | ⟨connected, same⟩ | ⟨_, same⟩
    · rw [same]
      exact ordered.written
    · rw [← ordered.pending connected, ← same]
      exact SshTransport.framesWritten_prefix
    · rw [same]
      exact ordered.written
  pending := by
    intro still
    rw [sameAccepted]
    rcases kept with ⟨connected, _, same⟩ | ⟨connected, same⟩ | ⟨ended, _⟩
    · rw [same]
      exact ordered.pending (connected.symm.trans still)
    · rw [same]
      exact ordered.pending connected
    · rw [ended] at still
      cases still
  depth := Nat.le_trans shorter ordered.depth
  overtaken := by
    rw [sameAccepted]
    exact ordered.overtaken

/-- Every step keeps the order. -/
theorem ordered_perform {action : SendAction}
    (performed : before.perform profile config action = some after)
    (ordered : Ordered before) : Ordered after := by
  cases action with
  | round input =>
      obtain ⟨step, _, _, offered, acceptedEq⟩ :=
        sendRound_eq_some performed
      rcases offer_eq before.transport step.message with
        refused | ⟨transport, taken, connected, order, shorter⟩
      · rw [refused] at offered
        injection offered with notSent same
        rw [← notSent] at acceptedEq
        apply ordered.of_order acceptedEq
        · exact Nat.le_of_eq (by rw [← same])
        · rw [← same]
          exact Or.inl ⟨rfl, rfl, rfl⟩
      · rw [taken] at offered
        injection offered with sent same
        rw [← sent, if_pos rfl] at acceptedEq
        have arranged :
            after.transport.wireOrder = arrange after.accepted := by
          rw [acceptedEq, arrange_concat, ← same, order,
            ordered.pending connected]
        exact
          { written := by
              rw [← arranged]
              exact SshTransport.framesWritten_prefix
            pending := fun _ => arranged
            depth := by
              rw [← same]
              exact Nat.le_trans shorter
                (Nat.max_le.mpr ⟨ordered.depth, Nat.le_refl _⟩)
            overtaken := by
              intro arrival member
              rw [acceptedEq] at member
              rcases List.mem_append.mp member with earlier | last
              · exact ordered.overtaken arrival earlier
              · rw [List.mem_singleton.mp last]
                obtain ⟨few, update⟩ :=
                  overtaken_arrivalOf before.transport step.message
                exact ⟨Nat.le_trans few ordered.depth, update⟩ }
  | sendInput data =>
      injection performed with same
      obtain ⟨order, writtenEq, frames, connectedEq⟩ :=
        before.transport.sendInput_keeps data
      rw [← same]
      apply ordered.of_order
      · rfl
      · exact Nat.le_of_eq (congrArg List.length frames)
      · refine Or.inl ⟨connectedEq, ?_, order⟩
        exact congrArg (List.filter fun packet =>
          packet.channel != .input) writtenEq
  | write flushed =>
      rw [SendState.perform] at performed
      cases done : before.transport.writeRound flushed with
      | none =>
          rw [done] at performed
          cases performed
      | some transport =>
          rw [done] at performed
          injection performed with same
          obtain ⟨connected, shorter, outcome⟩ :=
            SshTransport.writeRound_eq_some done
          rw [← same]
          apply ordered.of_order
          · rfl
          · exact shorter
          · rcases outcome with ⟨_, order⟩ | ended
            · exact Or.inr (Or.inl ⟨connected, order⟩)
            · exact Or.inr (Or.inr ended)
  | disconnect =>
      injection performed with same
      rw [← same]
      apply ordered.of_order
      · rfl
      · exact Nat.le_refl _
      · exact Or.inr (Or.inr ⟨rfl, rfl⟩)

end Steps

/-! ## Whole runs -/

/-- The frames that the loop finds in a run. -/
def roundInputs (actions : List SendAction) : List RoundInput :=
  actions.filterMap fun action =>
    match action with
    | .round input => some input
    | _ => none

section Runs

variable {profile : Profile} {config : ServerConfig}

/-- The rounds of a run are a run of the loop, and the history is what the
transport accepted of it. -/
theorem compressSendLoop_of_run {actions : List SendAction}
    {start last : SendState}
    (run : Run (fun before action after =>
      before.perform profile config action = some after)
        start actions last) :
    ∃ steps,
      compressSendLoop profile config start.loop (roundInputs actions) =
          .ok steps ∧
        last.accepted.map (fun arrival => arrival.item.data) =
          start.accepted.map (fun arrival => arrival.item.data) ++
            (acceptedSteps steps).map fun step => step.message.wire := by
  induction run with
  | nil here =>
      exact ⟨[], rfl, by simp [acceptedSteps]⟩
  | @cons before after last action actions performed _
      inductionHypothesis =>
      obtain ⟨steps, looped, history⟩ := inductionHypothesis
      cases action with
      | round input =>
          obtain ⟨step, done, loopEq, _, acceptedEq⟩ :=
            sendRound_eq_some performed
          obtain ⟨inputEq, _, _, _⟩ := round_eq_ok done
          refine ⟨step :: steps, ?_, ?_⟩
          · rw [loopEq] at looped
            change compressSendLoop profile config before.loop
              (input :: roundInputs actions) = _
            rw [compressSendLoop, done]
            simp only [bind, Except.bind]
            rw [looped]
            rfl
          · rw [history, acceptedEq, acceptedSteps, acceptedSteps,
              List.filter_cons, inputEq]
            cases input.sent with
            | false => rfl
            | true =>
                rw [if_pos rfl, if_pos rfl, List.map_append,
                  List.append_assoc, arrivalOf]
                split <;> rfl
      | sendInput data =>
          injection performed with same
          rw [← same] at looped history
          exact ⟨steps, looped, history⟩
      | write flushed =>
          rw [SendState.perform] at performed
          cases wrote : before.transport.writeRound flushed with
          | none =>
              rw [wrote] at performed
              cases performed
          | some transport =>
              rw [wrote] at performed
              injection performed with same
              rw [← same] at looped history
              exact ⟨steps, looped, history⟩
      | disconnect =>
          injection performed with same
          rw [← same] at looped history
          exact ⟨steps, looped, history⟩

/-- In every interleaving of the loop, senders of inputs and the write loop,
the frames on the wire are a prefix of the accepted messages, each anchor
put in front of the at most two updates that were queued when it was
accepted; while the connection holds, the rest is queued.  If no update was
queued whenever an anchor was accepted, this is the order of acceptance. -/
theorem framesWritten_prefix_arrange (handshake : List UInt8)
    {actions : List SendAction} {last : SendState}
    (run : Run (fun before action after =>
      before.perform profile config action = some after)
        (SendState.initial handshake) actions last) :
    (∃ steps,
      compressSendLoop profile config LoopState.initial
          (roundInputs actions) = .ok steps ∧
        last.accepted.map (fun arrival => arrival.item.data) =
          handshake ::
            (acceptedSteps steps).map fun step => step.message.wire) ∧
      last.transport.framesWritten <+: arrange last.accepted ∧
      (last.transport.connected = true →
        last.transport.wireOrder = arrange last.accepted) ∧
      (∀ arrival, arrival ∈ last.accepted →
        arrival.overtaken ≤ frameQueueDepth ∧
          (arrival.item.channel = .frame → arrival.overtaken = 0)) ∧
      ((∀ arrival, arrival ∈ last.accepted → arrival.overtaken = 0) →
        last.transport.framesWritten <+:
          last.accepted.map Arrival.item) := by
  have ordered := run.keeps
    (fun _ _ _ performed kept => ordered_perform performed kept)
    (ordered_initial handshake)
  refine ⟨compressSendLoop_of_run run, ordered.written, ordered.pending,
    ordered.overtaken, ?_⟩
  intro none
  rw [← arrange_of_forall_zero none]
  exact ordered.written

end Runs

/-! ## An anchor that overtakes -/

/-- A single pixel that never changes. -/
def pixelFrame : CapturedFrame :=
  ⟨[1, 2, 3, 4], [⟨0, 0, 1, 1⟩], .argb8888, 1, 1, 4, 0⟩

def pixelRound (sent : Bool) : SendAction :=
  .round ⟨pixelFrame, [], false, sent⟩

/-- The first anchor, two updates that fill the queue, refused updates up to
the next anchor, and that anchor; then everything is written. -/
def overtakingActions : List SendAction :=
  List.replicate 3 (pixelRound true) ++
    List.replicate 297 (pixelRound false) ++
    pixelRound true :: List.replicate 5 (.write true)

/-- The second anchor reaches the wire before both updates. -/
theorem framesWritten_out_of_order :
    ∃ last, Run (fun before action after =>
        before.perform .dev plainServer action = some after)
          (SendState.initial []) overtakingActions last ∧
      last.accepted.map (fun arrival => arrival.item.channel) =
        [.anchor, .anchor, .frame, .frame, .anchor] ∧
      last.transport.framesWritten.map Packet.channel =
        [.anchor, .anchor, .anchor, .frame, .frame] ∧
      ¬ last.transport.framesWritten <+:
        last.accepted.map Arrival.item := by
  have evaluated :
      (overtakingActions.foldlM (SendState.perform .dev plainServer)
          (SendState.initial [])).map (fun last =>
        (last.accepted.map (fun arrival => arrival.item.channel),
          last.transport.framesWritten.map Packet.channel,
          decide (last.transport.framesWritten <+:
            last.accepted.map Arrival.item))) =
      some ([.anchor, .anchor, .frame, .frame, .anchor],
        [.anchor, .anchor, .anchor, .frame, .frame], false) := by
    decide +kernel
  obtain ⟨last, iterated, outcome⟩ := Option.map_eq_some_iff.mp evaluated
  injection outcome with accepted outcome
  injection outcome with written unordered
  exact ⟨last, run_iff_foldlM.mpr iterated, accepted, written,
    of_decide_eq_false unordered⟩

/-- An anchor, an update and an input, each written at once. -/
def promptActions : List SendAction :=
  [.write true, pixelRound true, .write true, pixelRound true,
    .sendInput [7], .write true, .write true]

theorem framesWritten_prefix_arrange_prompt :
    ∃ last, (promptActions.foldlM (SendState.perform .dev plainServer)
        (SendState.initial [])) = some last ∧
      last.transport.framesWritten <+: last.accepted.map Arrival.item := by
  have evaluated :
      (promptActions.foldlM (SendState.perform .dev plainServer)
          (SendState.initial [])).map (fun last =>
        last.accepted.map Arrival.overtaken) = some [0, 0, 0] := by
    decide +kernel
  obtain ⟨last, iterated, none⟩ := Option.map_eq_some_iff.mp evaluated
  obtain ⟨_, _, _, _, inOrder⟩ :=
    framesWritten_prefix_arrange [] (run_iff_foldlM.mpr iterated)
  refine ⟨last, iterated, inOrder ?_⟩
  intro arrival member
  have value : arrival.overtaken ∈
      last.accepted.map Arrival.overtaken := List.mem_map_of_mem member
  rw [none] at value
  simpa using value

end RemoteWay.System
