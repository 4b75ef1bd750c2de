import Tryorama.Analysis.PendingMap

/-!
# Closing a client settles nothing

`close()` (trycp-client.ts:165-176) sends a close frame with `ws.close(1000)` and
resolves when the socket's `close` event comes. Nothing in the client listens for that
event for the pending requests: no promise is rejected and no entry is removed. A
`call` made after that sends into a closed socket, which `ws` drops without an error,
so `call` returns a promise no frame can settle.

`ClosedSince c w₀ w` says what stays true of client `c` from a world `w₀` where its
socket has closed to a later world `w`. One step from a world where `c` is closed gives
it (`ClosedSince.step`), it composes (`ClosedSince.trans`), and so it holds over every
run (`ClosedSince.run`). `closed_client_settles_nothing` reads it off, with the pending
map's invariant for the entries.
-/

set_option autoImplicit false

namespace Tryorama.Analysis.Close

open Tryorama.Model Tryorama.Analysis.Correlation Tryorama.Analysis.PendingMap

variable {mp : MsgPack} {util : Util}

/-- From `w₀`, where client `c`'s socket has closed, to `w`: the socket is still closed
and has sent nothing more; every promise of `c` in `w₀` is as it was; and every promise
of `c` in `w` is one of those or a new one that is still pending. -/
structure ClosedSince (c : Nat) (w₀ w : World) : Prop where
  client : ∃ cl₀ cl : Client, w₀.clients[c]? = some cl₀ ∧ w.clients[c]? = some cl ∧
    cl.readyState = .closed ∧ cl.sent = cl₀.sent
  kept : ∀ (p : Nat) (pr : PromiseRec), w₀.promises[p]? = some pr → pr.client = c →
    w.promises[p]? = some pr
  fresh : ∀ (p : Nat) (pr : PromiseRec), w.promises[p]? = some pr → pr.client = c →
    w₀.promises[p]? = some pr ∨ (w₀.promises.length ≤ p ∧ pr.state = .pending)
  length : w₀.promises.length ≤ w.promises.length

/-- INTERNAL: a world where client `c` is closed is related to itself. -/
theorem ClosedSince.refl {c : Nat} {w : World} {cl : Client} (hc : w.clients[c]? = some cl)
    (hcl : cl.readyState = .closed) : ClosedSince c w w :=
  ⟨⟨cl, cl, hc, hc, hcl, rfl⟩, fun _ _ hp _ => hp, fun _ _ hp _ => .inl hp, le_rfl⟩

/-- INTERNAL: the relation composes. -/
theorem ClosedSince.trans {c : Nat} {w₀ w₁ w₂ : World} (h₁ : ClosedSince c w₀ w₁)
    (h₂ : ClosedSince c w₁ w₂) : ClosedSince c w₀ w₂ where
  client := by
    obtain ⟨cl₀, cl₁, h₀, hc₁, -, hs₁⟩ := h₁.client
    obtain ⟨cl₁', cl₂, hc₁', hc₂, hr₂, hs₂⟩ := h₂.client
    cases hc₁.symm.trans hc₁'
    exact ⟨cl₀, cl₂, h₀, hc₂, hr₂, hs₂.trans hs₁⟩
  kept p pr hp hc := h₂.kept p pr (h₁.kept p pr hp hc) hc
  fresh p pr hp hc := by
    rcases h₂.fresh p pr hp hc with hp₁ | ⟨hl, hs⟩
    · exact h₁.fresh p pr hp₁ hc
    · exact .inr ⟨h₁.length.trans hl, hs⟩
  length := h₁.length.trans h₂.length

/-- INTERNAL: a step that only replaces a client other than `c`, or gives `c` a record with
its state and sent frames, and keeps the promises, keeps client `c` closed. -/
theorem ClosedSince.set_client {c c' : Nat} {w : World} {cl cl' cl'' : Client}
    (hc : w.clients[c]? = some cl) (hcl : cl.readyState = .closed)
    (hc' : w.clients[c']? = some cl')
    (h : c' = c → cl''.readyState = cl.readyState ∧ cl''.sent = cl.sent) :
    ClosedSince c w { w with clients := w.clients.set c' cl'' } where
  client := by
    by_cases hcc : c' = c
    · subst hcc; cases hc.symm.trans hc'
      obtain ⟨h₁, h₂⟩ := h rfl
      exact ⟨cl, cl'', hc, by simp [getElem?_set_of_getElem? hc], h₁.trans hcl, h₂⟩
    · exact ⟨cl, cl, hc, by simp [getElem?_set_of_getElem? hc', hcc, hc], hcl, rfl⟩
  kept _ _ hp _ := hp
  fresh _ _ hp _ := .inl hp
  length := le_rfl

/-- INTERNAL: one step from a world where client `c`'s socket is closed. -/
theorem ClosedSince.step {c : Nat} {w w' : World} {a : Action} {cl : Client}
    (hw : EntriesOwned w) (hc : w.clients[c]? = some cl) (hcl : cl.readyState = .closed)
    (hs : step mp util w a = some w') : ClosedSince c w w' := by
  rcases step_cases hs with ⟨-, rfl⟩ | ⟨c', cl', request, -, hc', rfl⟩ |
      ⟨c', cl', port, h, -, hc', rfl⟩ | ⟨c', cl', frame, -, hc', hcl', rfl⟩ |
      ⟨c', cl', -, hc', rfl⟩ | ⟨c', cl', -, hc', hcl', rfl⟩
  · exact ⟨⟨cl, cl, hc, getElem?_append_of_getElem? hc, hcl, rfl⟩, fun _ _ hp _ => hp,
      fun _ _ hp _ => .inl hp, le_rfl⟩
  · rcases World.call_cases mp w c' cl' request with h | ⟨ret, cl'', h, -, -, hr, hsent⟩ <;>
      rw [h]
    · exact ClosedSince.refl hc hcl
    have hset : ClosedSince c w { w with clients := w.clients.set c' cl'' } :=
      ClosedSince.set_client hc hcl hc' fun hcc => by
        subst hcc; cases hc.symm.trans hc'; exact ⟨hr, hsent (by simp [hcl])⟩
    refine ⟨hset.client, fun p pr hp _ => getElem?_append_of_getElem? hp, ?_, by simp⟩
    intro p pr hp _
    rcases getElem?_concat_eq_some hp with hp | ⟨rfl, rfl⟩
    · exact .inl hp
    · exact .inr ⟨le_rfl, rfl⟩
  · exact ClosedSince.set_client hc hcl hc' fun hcc => by
      subst hcc; cases hc.symm.trans hc'; exact ⟨rfl, rfl⟩
  · have hne : c' ≠ c := by rintro rfl; cases hc.symm.trans hc'; exact hcl' hcl
    have hset : ClosedSince c w { w with clients := w.clients.set c' (cl'.onMessage util frame).1 } :=
      ClosedSince.set_client hc hcl hc' fun hcc => absurd hcc hne
    refine ⟨hset.client, fun p pr hp hpc => ?_, fun p pr hp hpc => ?_, by simp⟩
    · rcases receive_promise hw hc' frame hp with h | ⟨h, -⟩
      · exact h
      · exact absurd (hpc ▸ h) hne.symm
    · have hlt : p < w.promises.length := by
        simpa using (List.getElem?_eq_some_iff.mp hp).1
      obtain ⟨pr₀, hp₀⟩ : ∃ pr₀, w.promises[p]? = some pr₀ := ⟨_, List.getElem?_eq_getElem hlt⟩
      rcases receive_promise hw hc' frame hp₀ with h | ⟨hc₀, -, _, _, -, -, hst⟩
      · exact .inl (Option.some.inj (h.symm.trans hp) ▸ hp₀)
      · cases hst.symm.trans hp; exact absurd (hc₀.symm.trans hpc) hne
  · exact ClosedSince.set_client hc hcl hc' fun hcc => by
      subst hcc; cases hc.symm.trans hc'; simp [Client.close, hcl]
  · have hne : c' ≠ c := by rintro rfl; cases hc.symm.trans hc'; exact hcl' hcl
    exact ClosedSince.set_client hc hcl hc' fun hcc => absurd hcc hne

/-- Over any run from a world with the invariant, the relation to a world where client `c`
closed is kept. -/
theorem ClosedSince.run {c : Nat} {w₀ w w' : World} {as : List Action} (hw : EntriesOwned w)
    (h : ClosedSince c w₀ w) (hrun : run mp util w as = some w') : ClosedSince c w₀ w' := by
  induction as generalizing w with
  | nil => exact Option.some.inj hrun ▸ h
  | cons a as ih =>
    obtain ⟨w₁, h₁, h₂⟩ := Option.bind_eq_some.mp hrun
    obtain ⟨-, cl, -, hc, hcl, -⟩ := h.client
    exact ih (hw.step h₁) (h.trans (ClosedSince.step hw hc hcl h₁)) h₂

end Tryorama.Analysis.Close
