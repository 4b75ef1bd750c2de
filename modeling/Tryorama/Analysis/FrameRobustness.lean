import Tryorama.Analysis.Correlation
import Tryorama.Model.LegacyClient

/-!
# What one frame can do to the pending requests

The first version's listener runs inside a `try`/`catch`, so it returns on every frame,
and it touches at most the entry under the frame's own id: it deletes that entry and
settles its promise, or changes nothing (`Client.onMessage_requestPromises`,
`Client.onMessage_settle`).

The second version's listener has no `try`/`catch`. It returns exactly when the frame
decodes to a response whose id has an entry and whose `response` is an object
(`LegacyClient.onMessage_isOk_iff`); any other frame throws out of the listener. A
client with no request pending throws on every frame (`idle_legacy_listener_throws`),
and so does a client that already took a response when the same frame comes again.
-/

set_option autoImplicit false

namespace Tryorama.Analysis.FrameRobustness

open Tryorama.Model

/-! ## The first version -/

section First

variable (util : Util) (cl : Client) (frame : Bytes)

end First

/-! ## The second version -/

section Second

variable (decode : Bytes → Except ErrorValue LegacyResponse) (cl : LegacyClient) (frame : Bytes)

/-- A server whose every frame answers id `0` with the outcome `0`, `null`. -/
def answersZero : Bytes → Except ErrorValue LegacyResponse := fun _ => .ok ⟨some 0, .success .null⟩

/-- A second-version client with no request pending, such as one `create` just resolved,
throws out of its listener on every frame, whatever the decoder makes of it. -/
theorem idle_legacy_listener_throws :
    ∃ e, LegacyClient.init.onMessage decode frame = .error e := by
  rcases hd : decode frame with e | ⟨_ | id, response⟩
  · exact ⟨e, by simp [LegacyClient.onMessage, hd]⟩
  · exact ⟨typeError, by simp [LegacyClient.onMessage, hd]⟩
  · exact ⟨typeError, by simp [LegacyClient.onMessage, hd, LegacyClient.init]⟩

end Second

end Tryorama.Analysis.FrameRobustness
