import Tryorama.Analysis.AgentsApps

/-!
# Installing one agent's app, and installing many

`TryCpConductor` has two install paths with one body written twice: `installApp` for one
agent (part_006:802-831) and the loop of `installAgentsApps` (part_006:841-883). The copies
differ in one step: before it sends the request, the loop logs the key through
`encodeHashToBase64(agent_key)`. When the key an entry gets passes it, the loop's body for
the entry at index `i` is `installApp` of the entry's app bundle source, with the entry's
key and membrane proofs and the options' id and network seed, against the conductor as it
answers from index `i` on (`installEntry_eq_installApp`); when it does not, the loop throws
a `TypeError` with nothing sent, where `installApp` sends its request. So one entry through
the loop is one `installApp` exactly when its key passes the log line
(`installAgentsApps_singleton`). A change to either copy of the body that is not made to
the other breaks these theorems.
-/

set_option autoImplicit false

namespace Tryorama.Analysis.InstallPaths

open Tryorama.Model Tryorama.Model.EnableApp Tryorama.Model.InstallAgentsApps
open Tryorama.Analysis.AgentsApps (bytesOnly letterUuids echoAnswers pathApp)

/-- The conductor's answers from index `i` on, counted from `0`. -/
def answersFrom (answers : AdminAnswers) (i : Nat) : AdminAnswers :=
  ⟨fun k => answers.generateAgentPubKey (i + k), fun k => answers.installApp (i + k),
    fun k => answers.enableApp (i + k)⟩

/-- The uuids from index `i` on, counted from `0`. -/
def uuidsFrom (uuids : Uuids) (i : Nat) : Uuids :=
  ⟨fun k => uuids.next (i + k), fun _ _ h => Nat.add_left_cancel (uuids.injective h)⟩

@[simp] theorem answersFrom_zero (answers : AdminAnswers) : answersFrom answers 0 = answers := by
  simp [answersFrom]

@[simp] theorem uuidsFrom_zero (uuids : Uuids) : uuidsFrom uuids 0 = uuids := by
  simp [uuidsFrom]

/-- The `AppOptions` the loop's body has for an entry: the entry's key and membrane proofs,
and the id and network seed of the loop's options. -/
def entryOptions (options : AgentsAppsOptions) (appForAgent : AppForAgent) : AppOptions :=
  ⟨appForAgent.agentPubKey, appForAgent.membraneProofs, options.installedAppId,
    options.networkSeed⟩

/-- INTERNAL: `installApp` of an entry's app with its options, against the conductor and the
uuids from `i` on, is the body of `installAgentsApps`'s loop for the entry without its log
line. -/
theorem installApp_eq_body (uuids : Uuids) (answers : AdminAnswers) (options : AgentsAppsOptions)
    (i : Nat) (appForAgent : AppForAgent) :
    installApp (uuidsFrom uuids i) (answersFrom answers i) appForAgent.app
        (some (entryOptions options appForAgent)) =
      match agentKey answers i appForAgent with
      | .error e => (none, .error e)
      | .ok key =>
        match installAppRequest appForAgent key (installedAppId uuids options i) options.networkSeed with
        | .error e => (none, .error e)
        | .ok request => (some request, do
            let installedAppInfo ← answers.installApp i request
            enableAndGetAgentApp (answers.enableApp i installedAppInfo.installedAppId) key
              installedAppInfo) :=
  rfl

/-- INTERNAL: the `in` test is the one way building a request throws, and it throws a
`TypeError`. -/
theorem installAppRequest_error {appForAgent : AppForAgent} {key : Value} {id : String}
    {networkSeed : Option String} {e : ErrorValue}
    (h : installAppRequest appForAgent key id networkSeed = .error e) : e = typeError := by
  unfold installAppRequest at h
  split at h <;> cases h
  rfl

section Entry

variable (encoder : HashEncoder) (uuids : Uuids) (answers : AdminAnswers)
  (options : AgentsAppsOptions) (i : Nat) (appForAgent : AppForAgent)

/-- The body of `installAgentsApps`'s loop for the entry at index `i` is `installApp` of
the entry's app with its options, against the conductor and the uuids from `i` on, when the
key the entry gets passes `encodeHashToBase64`. -/
theorem installEntry_eq_installApp
    (henc : ∀ key, agentKey answers i appForAgent = .ok key → encoder.encodes key = true) :
    installEntry encoder uuids answers options i appForAgent =
      installApp (uuidsFrom uuids i) (answersFrom answers i) appForAgent.app
        (some (entryOptions options appForAgent)) := by
  rw [installApp_eq_body]
  rcases hkey : agentKey answers i appForAgent with e | key <;> simp only [installEntry, hkey]
  rcases installAppRequest appForAgent key (installedAppId uuids options i) options.networkSeed with
    e | request <;> simp [henc key hkey]

/-- INTERNAL: for an entry whose key does not pass `encodeHashToBase64`, the loop's body
throws a `TypeError` before it sends anything. -/
theorem installEntry_of_not_encodes {key : Value} (hkey : agentKey answers i appForAgent = .ok key)
    (henc : encoder.encodes key = false) :
    installEntry encoder uuids answers options i appForAgent = (none, .error typeError) := by
  simp only [installEntry, hkey]
  rcases hr : installAppRequest appForAgent key (installedAppId uuids options i) options.networkSeed with
    e | request
  · rw [installAppRequest_error hr]
  · simp [henc]

end Entry

/-- `installAgentsApps` of one entry sends the request `installApp` sends for the entry's
app with the entry's key and membrane proofs and the options' id and network seed, and
returns `[app]` exactly when that `installApp` returns `app`, or throws what it throws, when
the key the entry gets passes `encodeHashToBase64`. When it does not, `installAgentsApps`
throws a `TypeError` and sends nothing. -/
theorem installAgentsApps_singleton (encoder : HashEncoder) (uuids : Uuids) (answers : AdminAnswers)
    (appForAgent : AppForAgent) (installedAppId networkSeed : Option String) :
    let single := installApp uuids answers appForAgent.app
      (some ⟨appForAgent.agentPubKey, appForAgent.membraneProofs, installedAppId, networkSeed⟩)
    ((∀ key, agentKey answers 0 appForAgent = .ok key → encoder.encodes key = true) →
      installAgentsApps encoder uuids answers ⟨[appForAgent], installedAppId, networkSeed⟩ =
        (single.1.toList, single.2.map ([·]))) ∧
    (∀ key, agentKey answers 0 appForAgent = .ok key → encoder.encodes key = false →
      installAgentsApps encoder uuids answers ⟨[appForAgent], installedAppId, networkSeed⟩ =
        ([], .error typeError)) := by
  refine ⟨fun henc => ?_, fun key hkey henc => ?_⟩
  · have h := installEntry_eq_installApp encoder uuids answers ⟨[appForAgent], installedAppId, networkSeed⟩
      0 appForAgent henc
    simp only [answersFrom_zero, uuidsFrom_zero] at h
    simp only [installAgentsApps, installFrom, h, entryOptions]
    rcases installApp uuids answers appForAgent.app _ with ⟨sent, e | app⟩ <;> simp [Except.map]
  · simp only [installAgentsApps, installFrom, installEntry_of_not_encodes encoder uuids answers _ 0
      appForAgent hkey henc, Option.toList]

/-- An app installed from a path for an agent whose key is the string `k`. -/
def stringKeyApp : AppForAgent := ⟨pathApp.app, some (.str "k"), none⟩

/-- An entry whose key is a string: `installApp` sends its request, while `installAgentsApps`
throws at the log line, with nothing sent. An entry without a key gets a generated one,
which passes. -/
theorem string_key_stops_loop :
    agentKey echoAnswers 0 stringKeyApp = .ok (.str "k") ∧ bytesOnly.encodes (.str "k") = false ∧
    installAgentsApps bytesOnly letterUuids echoAnswers ⟨[stringKeyApp], none, none⟩ =
      ([], .error typeError) ∧
    (installApp letterUuids echoAnswers stringKeyApp.app
      (some ⟨stringKeyApp.agentPubKey, stringKeyApp.membraneProofs, none, none⟩)).1.isSome ∧
    ((∀ key, agentKey echoAnswers 0 pathApp = .ok key → bytesOnly.encodes key = true) ∧
      installAgentsApps bytesOnly letterUuids echoAnswers ⟨[pathApp], none, none⟩ =
        let single := installApp letterUuids echoAnswers pathApp.app
          (some ⟨pathApp.agentPubKey, pathApp.membraneProofs, none, none⟩)
        (single.1.toList, single.2.map ([·]))) :=
  have hgen : ∀ key, agentKey echoAnswers 0 pathApp = .ok key → bytesOnly.encodes key = true := by
    rintro key ⟨⟩
    rfl
  ⟨rfl, rfl, (installAgentsApps_singleton bytesOnly letterUuids echoAnswers stringKeyApp none none).2 _ rfl rfl,
    rfl, hgen, (installAgentsApps_singleton bytesOnly letterUuids echoAnswers pathApp none none).1 hgen⟩

end Tryorama.Analysis.InstallPaths
