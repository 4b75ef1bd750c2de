import Mathlib.Data.List.Nodup
import Tryorama.Analysis.Correlation

/-!
# No request id goes out twice

Every client of the process draws its ids from the one module-level `requestId`, and
`call` moves it on only after a frame was encoded. So over every interleaving of calls on
any clients, with any frames coming back, every frame a socket sent carries an id below
`requestId`, and no two frames sent, on one socket or on two, carry the same id
(`sent_request_ids_unique`). The TryCP server answers by id and the listener settles by
id (`Correlation`); this is what makes every answer name exactly one call.

The invariant is `SentInv`: sent ids are below `requestId`, a socket's ids have no
repeat, and two sockets' ids are disjoint. Only `call` adds a frame, and only with the
current `requestId`, which it then increments.
-/

set_option autoImplicit false

namespace Tryorama.Analysis.RequestIds

open Tryorama.Model

variable {mp : MsgPack} {util : Util}

/-- The ids of the frames a client's socket sent. -/
def sentIds (cl : Client) : List Nat := cl.sent.map Prod.fst

/-- The facts about sent ids that every step keeps. -/
structure SentInv (w : World) : Prop where
  lt : ∀ (c : Nat) (cl : Client), w.clients[c]? = some cl → ∀ id ∈ sentIds cl, id < w.requestId
  nodup : ∀ (c : Nat) (cl : Client), w.clients[c]? = some cl → (sentIds cl).Nodup
  disjoint : ∀ (c₁ c₂ : Nat) (cl₁ cl₂ : Client), c₁ ≠ c₂ → w.clients[c₁]? = some cl₁ →
    w.clients[c₂]? = some cl₂ → ∀ id ∈ sentIds cl₁, id ∉ sentIds cl₂

/-! ## What each step does to sent frames -/

/-- INTERNAL: the listener never sends. -/
@[simp] theorem Client.onMessage_sent (cl : Client) (frame : Bytes) :
    (cl.onMessage util frame).1.sent = cl.sent := by
  rcases cl.onMessage_cases util frame with h | ⟨_, _, _, _, _, _, _, h⟩ | ⟨_, _, _, _, _, _, _, h⟩ <;>
    rw [h]

/-- INTERNAL: `call` replaces client `c` by one that sent nothing more, or one more frame
with the current `requestId`, which it then increments; it never lowers `requestId`. -/
theorem call_sent (w : World) {c : Nat} {cl : Client} (hc : w.clients[c]? = some cl)
    (request : Value) :
    w.requestId ≤ (w.call mp c cl request).requestId ∧ ∃ cl' : Client,
      (w.call mp c cl request).clients = w.clients.set c cl' ∧
      (cl'.sent = cl.sent ∨ ∃ frame, cl'.sent = cl.sent ++ [(w.requestId, frame)] ∧
        (w.call mp c cl request).requestId = w.requestId + 1) := by
  unfold World.call
  split_ifs
  · exact ⟨le_rfl, cl, (set_self_of_getElem? hc).symm, .inl rfl⟩
  split
  · exact ⟨le_rfl, _, rfl, .inl rfl⟩
  · next frame _ =>
    refine ⟨Nat.le_succ _, _, rfl, ?_⟩
    unfold Client.send
    split_ifs
    · exact .inr ⟨frame, rfl, rfl⟩
    · exact .inl rfl

/-! ## The invariant -/

/-- INTERNAL: a step that replaces client `c` by one whose sent ids are the old ones, or
the old ones and then `requestId`, and that moves `requestId` past it in the second case,
keeps the invariant. -/
theorem SentInv.set_client {w w' : World} (hw : SentInv w) {c : Nat} {cl cl' : Client}
    (hc : w.clients[c]? = some cl) (hcl : w'.clients = w.clients.set c cl')
    (hid : w.requestId ≤ w'.requestId)
    (hsent : sentIds cl' = sentIds cl ∨
      (sentIds cl' = sentIds cl ++ [w.requestId] ∧ w'.requestId = w.requestId + 1)) :
    SentInv w' := by
  -- every id client `c` now has is an old one of it, or `requestId`, above all old ones
  have hmem : ∀ id ∈ sentIds cl', id ∈ sentIds cl ∨
      (id = w.requestId ∧ w'.requestId = w.requestId + 1) := by
    intro id h
    rcases hsent with hs | ⟨hs, hr⟩ <;> rw [hs] at h
    · exact .inl h
    · simpa [hr] using h
  have hold : ∀ c₀ cl₀, w.clients[c₀]? = some cl₀ → ∀ id ∈ sentIds cl₀, id ≠ w.requestId :=
    fun c₀ cl₀ h₀ id hid' => Nat.ne_of_lt (hw.lt c₀ cl₀ h₀ id hid')
  have hget : ∀ c₀ cl₀, w'.clients[c₀]? = some cl₀ →
      (c = c₀ ∧ cl₀ = cl') ∨ (c₀ ≠ c ∧ w.clients[c₀]? = some cl₀) := by
    intro c₀ cl₀ h₀
    rw [hcl, getElem?_set_of_getElem? hc] at h₀
    split_ifs at h₀ with hcc
    · exact .inl ⟨hcc, (Option.some.inj h₀).symm⟩
    · exact .inr ⟨Ne.symm hcc, h₀⟩
  refine ⟨fun c₀ cl₀ h₀ id hid' => ?_, fun c₀ cl₀ h₀ => ?_, fun c₁ c₂ cl₁ cl₂ hne h₁ h₂ id h₁' => ?_⟩
  · rcases hget c₀ cl₀ h₀ with ⟨rfl, rfl⟩ | ⟨-, h₀⟩
    · rcases hmem id hid' with h | ⟨rfl, hr⟩
      · exact Nat.lt_of_lt_of_le (hw.lt c cl hc id h) hid
      · omega
    · exact Nat.lt_of_lt_of_le (hw.lt c₀ cl₀ h₀ id hid') hid
  · rcases hget c₀ cl₀ h₀ with ⟨rfl, rfl⟩ | ⟨-, h₀⟩
    · rcases hsent with hs | ⟨hs, -⟩ <;> rw [hs]
      · exact hw.nodup c cl hc
      · exact (hw.nodup c cl hc).append (List.nodup_singleton _)
          (List.disjoint_singleton.mpr fun h => hold c cl hc _ h rfl)
    · exact hw.nodup c₀ cl₀ h₀
  · intro h₂'
    rcases hget c₁ cl₁ h₁ with ⟨rfl, rfl⟩ | ⟨hc₁, h₁⟩ <;> rcases hget c₂ cl₂ h₂ with ⟨rfl, rfl⟩ | ⟨hc₂, h₂⟩
    · exact hne rfl
    · rcases hmem id h₁' with h | ⟨rfl, -⟩
      · exact hw.disjoint c c₂ cl cl₂ hne hc h₂ id h h₂'
      · exact hold c₂ cl₂ h₂ _ h₂' rfl
    · rcases hmem id h₂' with h | ⟨rfl, -⟩
      · exact hw.disjoint c₁ c cl₁ cl hne h₁ hc id h₁' h
      · exact hold c₁ cl₁ h₁ _ h₁' rfl
    · exact hw.disjoint c₁ c₂ cl₁ cl₂ hne h₁ h₂ id h₁' h₂'

/-- Every step keeps `SentInv`. -/
theorem SentInv.step {w w' : World} {a : Action} (hw : SentInv w)
    (hs : step mp util w a = some w') : SentInv w' := by
  rcases step_cases hs with ⟨-, rfl⟩ | ⟨c, cl, request, -, hc, rfl⟩ |
      ⟨c, cl, port, h, -, hc, rfl⟩ | ⟨c, cl, frame, -, hc, -, rfl⟩ | ⟨c, cl, -, hc, rfl⟩ |
      ⟨c, cl, -, hc, -, rfl⟩
  · have hget : ∀ (c₀ : Nat) (cl₀ : Client), (w.clients ++ [Client.init])[c₀]? = some cl₀ →
        w.clients[c₀]? = some cl₀ ∨ sentIds cl₀ = [] := by
      intro c₀ cl₀ h₀
      rcases getElem?_concat_eq_some h₀ with h₀ | ⟨-, rfl⟩
      · exact .inl h₀
      · exact .inr rfl
    refine ⟨fun c₀ cl₀ h₀ id hid => ?_, fun c₀ cl₀ h₀ => ?_,
      fun c₁ c₂ cl₁ cl₂ hne h₁ h₂ id h₁' h₂' => ?_⟩
    · rcases hget c₀ cl₀ h₀ with h₀ | h₀
      · exact hw.lt c₀ cl₀ h₀ id hid
      · simp [h₀] at hid
    · rcases hget c₀ cl₀ h₀ with h₀ | h₀
      · exact hw.nodup c₀ cl₀ h₀
      · simp [h₀]
    · rcases hget c₁ cl₁ h₁ with h₁ | h₁ <;> [skip; simp [h₁] at h₁']
      rcases hget c₂ cl₂ h₂ with h₂ | h₂ <;> [skip; simp [h₂] at h₂']
      exact hw.disjoint c₁ c₂ cl₁ cl₂ hne h₁ h₂ id h₁' h₂'
  · obtain ⟨hle, cl', hcl, hs⟩ := call_sent w hc request
    refine hw.set_client hc hcl hle ?_
    rcases hs with hs | ⟨frame, hs, hr⟩
    · exact .inl (by rw [sentIds, hs, ← sentIds])
    · exact .inr ⟨by simp [sentIds, hs], hr⟩
  · exact hw.set_client hc rfl le_rfl (.inl rfl)
  · exact hw.set_client hc rfl le_rfl (.inl (by simp [sentIds]))
  · exact hw.set_client hc rfl le_rfl (.inl (by unfold Client.close; split <;> rfl))
  · exact hw.set_client hc rfl le_rfl (.inl rfl)

/-- Every reachable world has `SentInv`. -/
theorem SentInv.reachable {w : World} (h : Reachable mp util w) : SentInv w := by
  induction h with
  | init => exact ⟨by simp [World.init], by simp [World.init], by simp [World.init]⟩
  | step a _ hs ih => exact ih.step hs

/-! ## Uniqueness -/

/-- In every reachable world, two frames the sockets sent carry different request ids
unless they are one frame: the same socket, at the same position. -/
theorem sent_request_ids_unique {w : World} (hw : Reachable mp util w) {c₁ c₂ j₁ j₂ id₁ id₂ : Nat}
    {cl₁ cl₂ : Client} {frame₁ frame₂ : Bytes} (h₁ : w.clients[c₁]? = some cl₁)
    (h₂ : w.clients[c₂]? = some cl₂) (hj₁ : cl₁.sent[j₁]? = some (id₁, frame₁))
    (hj₂ : cl₂.sent[j₂]? = some (id₂, frame₂)) (hne : (c₁, j₁) ≠ (c₂, j₂)) : id₁ ≠ id₂ := by
  rintro rfl
  have hi := SentInv.reachable hw
  have hm₁ : (sentIds cl₁)[j₁]? = some id₁ := by simp [sentIds, hj₁]
  have hm₂ : (sentIds cl₂)[j₂]? = some id₁ := by simp [sentIds, hj₂]
  by_cases hc : c₁ = c₂
  · subst hc
    cases h₁.symm.trans h₂
    exact hne (by rw [List.getElem?_inj (List.getElem?_eq_some_iff.mp hm₁).1 (hi.nodup c₁ cl₁ h₁)
      (hm₁.trans hm₂.symm)])
  · exact hi.disjoint c₁ c₂ cl₁ cl₂ hc h₁ h₂ id₁ (List.getElem?_mem hm₁) (List.getElem?_mem hm₂)

/-- Two clients, and one `reset` call on each. -/
def twoCalls : World :=
  (run TaggedCodec.msgPack Correlation.answerZero World.init
    [.create, .create, .call 0 TryCpRequest.reset.toValue, .call 1 TryCpRequest.reset.toValue]).getD
    World.init

/-- Client `c` of `twoCalls`. -/
def twoCallsClient (c : Nat) : Client := twoCalls.clients[c]?.getD Client.init

/-- The frame client `c` of `twoCalls` sent. -/
def twoCallsFrame (c : Nat) : Bytes := ((twoCallsClient c).sent[0]?.getD (0, [])).2

/-- The `reset` frames of two clients: the first carries id `0`, the second id `1`. -/
theorem two_clients_frames_differ :
    twoCalls.clients[0]? = some (twoCallsClient 0) ∧ twoCalls.clients[1]? = some (twoCallsClient 1) ∧
      (twoCallsClient 0).sent[0]? = some (0, twoCallsFrame 0) ∧
      (twoCallsClient 1).sent[0]? = some (1, twoCallsFrame 1) ∧ ((0, 0) : Nat × Nat) ≠ (1, 0) ∧
      (0 : Nat) ≠ 1 :=
  have hw : Reachable TaggedCodec.msgPack Correlation.answerZero twoCalls :=
    .step (.call 1 TryCpRequest.reset.toValue) (.step (.call 0 TryCpRequest.reset.toValue)
      (.step .create (.step .create .init rfl) rfl) rfl) rfl
  have h₀ : twoCalls.clients[0]? = some (twoCallsClient 0) := rfl
  have h₁ : twoCalls.clients[1]? = some (twoCallsClient 1) := rfl
  have hj₀ : (twoCallsClient 0).sent[0]? = some (0, twoCallsFrame 0) := rfl
  have hj₁ : (twoCallsClient 1).sent[0]? = some (1, twoCallsFrame 1) := rfl
  have hne : ((0, 0) : Nat × Nat) ≠ (1, 0) := by decide
  ⟨h₀, h₁, hj₀, hj₁, hne, sent_request_ids_unique hw h₀ h₁ hj₀ hj₁ hne⟩

end Tryorama.Analysis.RequestIds
