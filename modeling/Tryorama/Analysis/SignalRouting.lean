import Tryorama.Model.Client
import Tryorama.Model.TaggedCodec

/-!
# Which handler a signal reaches

`setSignalHandler(port, h)` writes `signalHandlers[port]`, and nothing else writes that
table: every other step keeps each client's handlers. So after any run the handler a
client calls for a port is the last one a `setSignalHandler` call set for it there
(`handlerOf_run`), with `undefined` and never set alike meaning none. A signal frame
calls that handler once, with the decoded signal, when there is a handler and the
signal's data decodes; otherwise it calls nothing, also when a handler is set and the
data does not decode (`deserializeTryCpSignal` throws, and the listener's `catch` drops
the frame). Signal frames change no promise and no entry, and response frames call no
handler (`signal_frame_invokes_last_handler`).
-/

set_option autoImplicit false

namespace Tryorama.Analysis.SignalRouting

open Tryorama.Model

variable {mp : MsgPack} {util : Util}

/-- The handler client `c` calls for a signal on `port`: `signalHandlers[port]`, when it
is set and not `undefined`. -/
def handlerOf (clients : List Client) (c port : Nat) : Option Handler :=
  clients[c]?.bind fun cl => (cl.signalHandlers.get port).join

/-- The handler for `port` on client `c` after one more action: the one it sets, if it is
a `setSignalHandler` for them. -/
def setsHandler (c port : Nat) (h : Option Handler) : Action → Option Handler
  | .setSignalHandler c' port' h' => if c' = c ∧ port' = port then h' else h
  | _ => h

/-- The handler for `port` on client `c` after a run: the one the last `setSignalHandler`
call for them set, or `start` when there is none. -/
def lastHandler (start : Option Handler) (c port : Nat) (as : List Action) : Option Handler :=
  as.foldl (setsHandler c port) start

/-- INTERNAL: replacing a client by one with the same handlers keeps every handler. -/
theorem handlerOf_set {clients : List Client} {c' : Nat} {cl cl' : Client}
    (hc : clients[c']? = some cl) (h : cl'.signalHandlers = cl.signalHandlers) (c port : Nat) :
    handlerOf (clients.set c' cl') c port = handlerOf clients c port := by
  unfold handlerOf
  rw [getElem?_set_of_getElem? hc]
  split_ifs with hcc
  · subst hcc; simp [hc, h]
  · rfl

/-- Every step keeps each handler but the one a `setSignalHandler` sets. -/
theorem handlerOf_step {w w' : World} {a : Action} (hs : step mp util w a = some w')
    (c port : Nat) :
    handlerOf w'.clients c port = setsHandler c port (handlerOf w.clients c port) a := by
  rcases step_cases hs with ⟨rfl, rfl⟩ | ⟨c', cl, request, rfl, hc, rfl⟩ |
      ⟨c', cl, port', h, rfl, hc, rfl⟩ | ⟨c', cl, frame, rfl, hc, -, rfl⟩ |
      ⟨c', cl, rfl, hc, rfl⟩ | ⟨c', cl, rfl, hc, -, rfl⟩
  · simp only [handlerOf, setsHandler]
    rcases Nat.lt_or_ge c w.clients.length with hlt | hge
    · rw [List.getElem?_append_left hlt]
    · rw [List.getElem?_append_right hge, List.getElem?_eq_none hge]
      rcases Nat.eq_or_lt_of_le hge with heq | hlt
      · simp [← heq, Client.init]
      · have hnone : [Client.init][c - w.clients.length]? = none :=
          List.getElem?_eq_none (by simp; omega)
        simp [hnone]
  · rcases World.call_cases mp w c' cl request with h | ⟨_, cl', h, -, hsh, -⟩ <;> rw [h]
    · rfl
    · exact handlerOf_set hc hsh c port
  · simp only [setsHandler, handlerOf, getElem?_set_of_getElem? hc]
    by_cases hcc : c' = c
    · subst hcc
      by_cases hp : port' = port
      · subst hp; simp [Client.setSignalHandler]
      · simp [Client.setSignalHandler, hp, Record.get_set_ne _ _ (Ne.symm hp), hc]
    · simp [hcc]
  · exact handlerOf_set hc (Client.onMessage_signalHandlers cl util frame) c port
  · exact handlerOf_set hc (Client.close_signalHandlers cl) c port
  · exact handlerOf_set hc (show cl.socketClosed.signalHandlers = cl.signalHandlers from rfl) c port

/-- After any run, each client's handler for each port is the last one set for it. -/
theorem handlerOf_run {w w' : World} {as : List Action} (h : run mp util w as = some w')
    (c port : Nat) :
    handlerOf w'.clients c port = lastHandler (handlerOf w.clients c port) c port as := by
  induction as generalizing w with
  | nil => cases Option.some.inj h; rfl
  | cons a as ih =>
    obtain ⟨w₁, h₁, h₂⟩ := Option.bind_eq_some.mp h
    rw [ih h₂, handlerOf_step h₁]
    rfl

/-- In the state any run from the start reaches, a frame on client `c` that decodes to a
signal for `port` calls the handler the last `setSignalHandler(port, ·)` call on `c` set,
once, with the decoded signal, and nothing else; it calls nothing when no handler is set or
the signal's data does not decode. It changes no promise and no client's entries. A frame
that decodes to a response calls no handler. -/
theorem signal_frame_invokes_last_handler {as : List Action} {w w' : World} {c : Nat}
    {frame : Bytes} (hrun : run mp util World.init as = some w)
    (hs : step mp util w (.receive c frame) = some w') :
    (∀ port data, util.deserializeTryCpResponse frame = .ok (.signal port data) →
      w'.invoked = w.invoked ++ (match lastHandler none c port as, util.deserializeTryCpSignal data with
        | some h, .ok signal => [(h, signal)]
        | _, _ => []) ∧
      w'.promises = w.promises ∧
      w'.clients.map Client.requestPromises = w.clients.map Client.requestPromises) ∧
    (∀ id response, util.deserializeTryCpResponse frame = .ok (.response id response) →
      w'.invoked = w.invoked) := by
  rcases step_cases hs with ⟨h, -⟩ | ⟨_, _, _, h, -⟩ | ⟨_, _, _, _, h, -⟩ |
      ⟨c', cl, frame', h, hc, -, rfl⟩ | ⟨_, _, h, -⟩ | ⟨_, _, h, -⟩ <;> cases h
  refine ⟨fun port data hd => ?_, fun id response hd => ?_⟩
  · have hl : (cl.signalHandlers.get port).join = lastHandler none c port as := by
      have := handlerOf_run hrun c port
      simp only [handlerOf, hc, Option.some_bind] at this
      exact this
    have hm := cl.onMessage_of_signal util hd
    refine ⟨?_, by simp [World.receive, hm], by simp [World.receive, hm, set_self_of_getElem? hc]⟩
    simp only [World.receive, hm, ← hl]
    split <;> simp_all
  · simp [World.receive, cl.onMessage_of_response_invoke util hd]

/-- A server whose every frame is a signal for port `0`, with data that decodes to `null`. -/
def signalZero : Util := .fixed (.signal 0 [])

/-- One client, with handler `7` set for port `0`. -/
def handlerActions : List Action := [.create, .setSignalHandler 0 0 (some 7)]

/-- The world after `handlerActions`. -/
def handlerWorld : World :=
  (run TaggedCodec.msgPack signalZero World.init handlerActions).getD World.init

/-- `handlerWorld` after one signal frame. -/
def handlerWorldSignalled : World :=
  (step TaggedCodec.msgPack signalZero handlerWorld (.receive 0 [])).getD World.init

theorem handler_seven_gets_signal :
    run TaggedCodec.msgPack signalZero World.init handlerActions = some handlerWorld ∧
    step TaggedCodec.msgPack signalZero handlerWorld (.receive 0 []) = some handlerWorldSignalled ∧
    ((∀ port data, signalZero.deserializeTryCpResponse [] = .ok (.signal port data) →
      handlerWorldSignalled.invoked = handlerWorld.invoked ++
        (match lastHandler none 0 port handlerActions, signalZero.deserializeTryCpSignal data with
          | some h, .ok signal => [(h, signal)]
          | _, _ => []) ∧
      handlerWorldSignalled.promises = handlerWorld.promises ∧
      handlerWorldSignalled.clients.map Client.requestPromises =
        handlerWorld.clients.map Client.requestPromises) ∧
    (∀ id response, signalZero.deserializeTryCpResponse [] = .ok (.response id response) →
      handlerWorldSignalled.invoked = handlerWorld.invoked)) :=
  have hrun : run TaggedCodec.msgPack signalZero World.init handlerActions = some handlerWorld :=
    rfl
  have hs : step TaggedCodec.msgPack signalZero handlerWorld (.receive 0 []) =
      some handlerWorldSignalled := rfl
  ⟨hrun, hs, signal_frame_invokes_last_handler hrun hs⟩

/-- A server whose every frame is a signal for port `0` whose data does not decode. -/
def undecodableSignal : Util :=
  { signalZero with deserializeTryCpSignal := fun _ => .error (.error "Invalid msgpack data") }

/-- With handler `7` set for port `0`, a signal frame for port `0` whose data does not
decode calls no handler. -/
theorem undecodable_signal_invokes_nothing :
    ∃ w, run TaggedCodec.msgPack undecodableSignal World.init
        (handlerActions ++ [.receive 0 []]) = some w ∧
      handlerOf w.clients 0 0 = some 7 ∧ w.invoked = [] :=
  ⟨_, rfl, rfl, rfl⟩

end Tryorama.Analysis.SignalRouting
