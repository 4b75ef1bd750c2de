import Tryorama.Model.InstallAgentsApps

/-!
# One install per agent

`installAgentsApps` sends the `installApp` requests of its entries in list order, one per
entry, each with the entry's own key or the one generated for it, and the id
`options.installedAppId ?? app-${uuidv4()}`. Without `installedAppId` the ids are pairwise
distinct; with it every request carries that same id (`given_installed_app_id_shared`).
It returns exactly when every entry goes through (its key, its `in` test, the log line of
its key, its install and its enabling), and then returns one `AgentApp` per entry, each
with its request's key and the id of the app installed for it
(`installAgentsApps_one_install_per_entry`).
-/

set_option autoImplicit false

namespace Tryorama.Analysis.AgentsApps

open Tryorama.Model Tryorama.Model.EnableApp Tryorama.Model.InstallAgentsApps

/-! ## One entry -/

/-- The key an entry is installed for, in the words of the spec: its own `agentPubKey` when
it is given, else the key `generateAgentPubKey()` gave for it. -/
def AgentKeyOf (answers : AdminAnswers) (i : Nat) (appForAgent : AppForAgent) (key : Value) :
    Prop :=
  (appForAgent.agentPubKey = some key ∧ key ≠ .null) ∨
    ((∀ v, appForAgent.agentPubKey = some v → v = .null) ∧
      ∃ b, answers.generateAgentPubKey i = .ok b ∧ key = .bin b)

variable {encoder : HashEncoder} {uuids : Uuids} {answers : AdminAnswers} {options : AgentsAppsOptions}

/-- INTERNAL: the key `agentKey` settles on is the entry's own or a generated one. -/
theorem agentKey_ok {i : Nat} {appForAgent : AppForAgent} {key : Value}
    (h : agentKey answers i appForAgent = .ok key) : AgentKeyOf answers i appForAgent key := by
  unfold agentKey at h
  split at h
  case h_3 _ v hv hk => cases h; exact .inl ⟨hk, hv⟩
  all_goals
    rcases hg : answers.generateAgentPubKey i with e | b <;> rw [hg] at h <;> cases h
    exact .inr ⟨fun v hv => by simp_all, b, hg, rfl⟩

/-- INTERNAL: a request carries its key and its id. -/
theorem installAppRequest_fields {appForAgent : AppForAgent} {key : Value} {id : String}
    {networkSeed : Option String} {request : Value}
    (h : installAppRequest appForAgent key id networkSeed = .ok request) :
    request.get? "agent_key" = some key ∧ request.get? "installed_app_id" = some (.str id) := by
  unfold installAppRequest at h
  split at h <;> cases h <;> simp [Value.get?, Fields.ofList, Fields.get]

/-- INTERNAL: the `AgentApp` of an installed app has the app's id and the key it was
installed for. -/
theorem enableAndGetAgentApp_fields {enableApp : Except ErrorValue (List String)} {key : Value}
    {info : AppInfo} {app : AgentApp} (h : enableAndGetAgentApp enableApp key info = .ok app) :
    app.appId = info.installedAppId ∧ app.agentPubKey = key := by
  rcases enableApp with e | errors
  · cases h
  simp only [enableAndGetAgentApp, except_ok_bind] at h
  split at h
  · cases h
  rcases hf : info.cellInfo.foldlM
    (fun acc (role : String × List Value) => role.2.foldlM (addCell key role.1) acc) ([], []) with
    e | acc <;> simp only [hf, except_pure, except_ok_bind, except_error_bind] at h <;> cases h
  exact ⟨rfl, rfl⟩

/-- INTERNAL: the request an entry sends is built from its key and its id. -/
theorem installEntry_sent {i : Nat} {appForAgent : AppForAgent} {request : Value}
    (h : (installEntry encoder uuids answers options i appForAgent).1 = some request) :
    ∃ key, agentKey answers i appForAgent = .ok key ∧
      installAppRequest appForAgent key (installedAppId uuids options i) options.networkSeed =
        .ok request := by
  unfold installEntry at h
  split at h
  · cases h
  next key hk =>
    split at h
    · cases h
    next hr =>
      split at h
      · cases h
      · cases h; exact ⟨key, hk, hr⟩

/-- INTERNAL: an entry that goes through sent its request, had it installed, and pushes
the `AgentApp` of the installed app. -/
theorem installEntry_ok {i : Nat} {appForAgent : AppForAgent} {app : AgentApp}
    (h : (installEntry encoder uuids answers options i appForAgent).2 = .ok app) :
    ∃ key request info, (installEntry encoder uuids answers options i appForAgent).1 = some request ∧
      agentKey answers i appForAgent = .ok key ∧
      installAppRequest appForAgent key (installedAppId uuids options i) options.networkSeed =
        .ok request ∧
      answers.installApp i request = .ok info ∧
      enableAndGetAgentApp (answers.enableApp i info.installedAppId) key info = .ok app := by
  unfold installEntry at h ⊢
  split at h
  · cases h
  next key hk =>
    split at h
    · cases h
    next request hr =>
      split at h
      · cases h
      next henc =>
        simp only [hk, hr, henc, ↓reduceIte]
        rcases hi : answers.installApp i request with e | info <;> rw [hi] at h
        · cases h
        exact ⟨key, request, info, rfl, rfl, hr, hi, h⟩

/-- INTERNAL: an entry that goes through has sent its request. -/
theorem installEntry_sent_of_ok {i : Nat} {appForAgent : AppForAgent} {sent : Option Value}
    {app : AgentApp} (h : installEntry encoder uuids answers options i appForAgent = (sent, .ok app)) :
    ∃ request, sent = some request := by
  obtain ⟨_, request, _, hr, -⟩ := installEntry_ok (show (installEntry encoder uuids answers options i
    appForAgent).2 = .ok app by rw [h])
  rw [h] at hr
  exact ⟨request, hr⟩

/-! ## The loop -/

variable (encoder uuids answers options)

/-- INTERNAL: the `k`-th request the loop sends is the one of its `k`-th entry. -/
theorem installFrom_sent (i : Nat) (entries : List AppForAgent) :
    ∀ j (hj : j < (installFrom encoder uuids answers options i entries).1.length),
      ∃ hn : j < entries.length, (installEntry encoder uuids answers options (i + j) entries[j]).1 =
        some (installFrom encoder uuids answers options i entries).1[j] := by
  induction entries generalizing i with
  | nil => intro j hj; simp [installFrom] at hj
  | cons e rest ih =>
    intro j hj
    rcases he : installEntry encoder uuids answers options i e with ⟨sent, _ | app⟩ <;>
      simp only [installFrom, he] at hj ⊢
    · rcases sent with _ | r
      · simp at hj
      obtain rfl : j = 0 := by simpa using hj
      exact ⟨by simp, by simp [he]⟩
    · obtain ⟨r, rfl⟩ := installEntry_sent_of_ok he
      rcases j with _ | j
      · exact ⟨by simp, by simp [he]⟩
      · obtain ⟨hn, h⟩ := ih (i + 1) j (by simpa using hj)
        refine ⟨by simpa using hn, ?_⟩
        rw [show i + (j + 1) = i + 1 + j by omega]
        simpa using h

/-- INTERNAL: when the loop returns, every entry went through, each sent its request, and
the `k`-th `AgentApp` is the one of the `k`-th entry. -/
theorem installFrom_ok (i : Nat) (entries : List AppForAgent) :
    ∀ apps, (installFrom encoder uuids answers options i entries).2 = .ok apps →
      (installFrom encoder uuids answers options i entries).1.length = entries.length ∧
      apps.length = entries.length ∧
      ∀ j (h₁ : j < entries.length) (h₂ : j < (installFrom encoder uuids answers options i entries).1.length)
        (h₃ : j < apps.length), installEntry encoder uuids answers options (i + j) entries[j] =
          (some (installFrom encoder uuids answers options i entries).1[j], .ok apps[j]) := by
  induction entries generalizing i with
  | nil => intro apps h; cases h; simp [installFrom]
  | cons e rest ih =>
    intro apps h
    rcases he : installEntry encoder uuids answers options i e with ⟨sent, _ | app⟩ <;>
      simp only [installFrom, he] at h ⊢
    · cases h
    obtain ⟨r, rfl⟩ := installEntry_sent_of_ok he
    rcases hn : (installFrom encoder uuids answers options (i + 1) rest).2 with _ | apps' <;>
      rw [hn] at h <;> cases h
    obtain ⟨hlen, happs, hall⟩ := ih (i + 1) apps' hn
    refine ⟨by simp [hlen], by simp [happs], fun j h₁ h₂ h₃ => ?_⟩
    rcases j with _ | j
    · simpa using he
    · rw [show i + (j + 1) = i + 1 + j by omega]
      simpa using hall j (by simpa using h₁) (by simpa using h₂) (by simpa using h₃)

/-- INTERNAL: when every entry goes through, the loop returns. -/
theorem installFrom_returns (i : Nat) (entries : List AppForAgent) :
    (∀ j (hj : j < entries.length), (installEntry encoder uuids answers options (i + j) entries[j]).2.isOk) →
      ∃ apps, (installFrom encoder uuids answers options i entries).2 = .ok apps := by
  induction entries generalizing i with
  | nil => intro _; exact ⟨[], rfl⟩
  | cons e rest ih =>
    intro hall
    have h₀ := hall 0 (by simp)
    rcases he : installEntry encoder uuids answers options i e with ⟨sent, _ | app⟩
    · simp [he, Except.toBool] at h₀
    obtain ⟨apps, happs⟩ := ih (i + 1) fun j hj => by
      simpa [show i + 1 + j = i + (j + 1) by omega] using hall (j + 1) (by simpa using hj)
    exact ⟨app :: apps, by simp only [installFrom, he, happs]; rfl⟩

/-! ## The call -/

/-- The `k`-th request sent, in the words of the spec: it is for the `k`-th entry, with the
entry's agent key, and with the id `installedAppId uuids options k`. -/
def RequestFor (uuids : Uuids) (answers : AdminAnswers) (options : AgentsAppsOptions) (k : Nat)
    (request : Value) : Prop :=
  ∃ (hk : k < options.agentsApps.length) (key : Value),
    AgentKeyOf answers k options.agentsApps[k] key ∧ request.get? "agent_key" = some key ∧
      request.get? "installed_app_id" = some (.str (installedAppId uuids options k))

/-- The `AgentApp`s returned for the requests `sent`: one per request, the `k`-th with the
`k`-th request's agent key and the id of the app the conductor installed for it. -/
def AppsFor (answers : AdminAnswers) (sent : List Value) (apps : List AgentApp) : Prop :=
  apps.length = sent.length ∧ ∀ k (h₁ : k < sent.length) (h₂ : k < apps.length), ∃ info,
    answers.installApp k sent[k] = .ok info ∧ apps[k].appId = info.installedAppId ∧
      sent[k].get? "agent_key" = some apps[k].agentPubKey

/-- INTERNAL: without `installedAppId`, no two entries get the same id. -/
theorem installedAppId_injective (h : options.installedAppId = none) :
    Function.Injective (installedAppId uuids options) := by
  intro a b hab
  simp only [installedAppId, h] at hab
  apply uuids.injective
  exact String.ext (by simpa using congrArg String.data hab)

/-- `installAgentsApps` sends at most one `installApp` request per entry, in list order, the
`k`-th with the `k`-th entry's own key or the key generated for it and the id
`options.installedAppId ?? app-${uuidv4()}`, so that without `installedAppId` the ids are
pairwise distinct. It returns exactly when every entry goes through, and then it has sent
one request per entry and returns one `AgentApp` per entry, the `k`-th with the `k`-th
request's key and the id of the app installed for it. -/
theorem installAgentsApps_one_install_per_entry :
    (installAgentsApps encoder uuids answers options).1.length ≤ options.agentsApps.length ∧
    (∀ k (hk : k < (installAgentsApps encoder uuids answers options).1.length),
      RequestFor uuids answers options k (installAgentsApps encoder uuids answers options).1[k]) ∧
    (options.installedAppId = none →
      ((installAgentsApps encoder uuids answers options).1.map (·.get? "installed_app_id")).Nodup) ∧
    ((∃ apps, (installAgentsApps encoder uuids answers options).2 = .ok apps) ↔
      ∀ k (hk : k < options.agentsApps.length),
        (installEntry encoder uuids answers options k options.agentsApps[k]).2.isOk) ∧
    ∀ apps, (installAgentsApps encoder uuids answers options).2 = .ok apps →
      (installAgentsApps encoder uuids answers options).1.length = options.agentsApps.length ∧
      AppsFor answers (installAgentsApps encoder uuids answers options).1 apps := by
  have hreq : ∀ k (hk : k < (installAgentsApps encoder uuids answers options).1.length),
      RequestFor uuids answers options k (installAgentsApps encoder uuids answers options).1[k] := by
    intro k hk
    obtain ⟨hn, he⟩ := installFrom_sent encoder uuids answers options 0 options.agentsApps k hk
    rw [Nat.zero_add] at he
    obtain ⟨key, hkey, hr⟩ := installEntry_sent he
    exact ⟨hn, key, agentKey_ok hkey, installAppRequest_fields hr⟩
  refine ⟨Nat.le_of_not_lt fun hlt => ?_, hreq, fun hid => ?_, ⟨fun ⟨apps, h⟩ k hk => ?_, fun h => ?_⟩,
    fun apps h => ?_⟩
  · exact lt_irrefl _ (installFrom_sent encoder uuids answers options 0 options.agentsApps _ hlt).1
  · refine List.nodup_iff_injective_get.mpr fun a b hab => Fin.ext ?_
    obtain ⟨-, -, -, -, ha⟩ := hreq a (by simpa using a.2)
    obtain ⟨-, -, -, -, hb⟩ := hreq b (by simpa using b.2)
    simp only [List.get_eq_getElem, List.getElem_map] at hab
    rw [ha, hb] at hab
    exact installedAppId_injective uuids options hid (by simpa using hab)
  · obtain ⟨h₁, h₂, hall⟩ := installFrom_ok encoder uuids answers options 0 options.agentsApps apps h
    have he := hall k hk (by omega) (by omega)
    rw [Nat.zero_add] at he
    simp [he, Except.toBool]
  · exact installFrom_returns encoder uuids answers options 0 options.agentsApps (by simpa using h)
  · obtain ⟨h₁, h₂, hall⟩ := installFrom_ok encoder uuids answers options 0 options.agentsApps apps h
    refine ⟨h₁, by unfold installAgentsApps; omega, fun k hk₁ hk₂ => ?_⟩
    have he := hall k (by omega) hk₁ hk₂
    rw [Nat.zero_add] at he
    obtain ⟨key, request, info, hsent, -, hr, hi, hen⟩ := installEntry_ok (show
      (installEntry encoder uuids answers options k options.agentsApps[k]).2 = .ok _ by rw [he])
    rw [he, Option.some_inj] at hsent
    subst hsent
    exact ⟨info, hi, (enableAndGetAgentApp_fields hen).1,
      (installAppRequest_fields hr).1.trans (congrArg some (enableAndGetAgentApp_fields hen).2.symm)⟩

/-- An `encodeHashToBase64` that returns for byte strings only. -/
def bytesOnly : HashEncoder :=
  ⟨fun | .bin _ => true | _ => false, fun _ => rfl⟩

/-- A `uuidv4` whose `i`-th value is `i` letters `a`. -/
def letterUuids : Uuids :=
  ⟨fun i => ⟨List.replicate i 'a'⟩, fun a b h => by simpa using congrArg String.length h⟩

/-- An app installed from a path, with no key and no membrane proofs. -/
def pathApp : AppForAgent := ⟨.obj (.ofList [("path", .str "fixture.happ")]), none, none⟩

/-- A conductor that installs every request under the id it asks for, with no cells, and
enables it; the key it generates for entry `i` is the byte `i`. -/
def echoAnswers : AdminAnswers where
  generateAgentPubKey i := .ok [i.toUInt8]
  installApp _ request := match request.get? "installed_app_id" with
    | some (.str id) => .ok ⟨id, [], List.nodup_nil⟩
    | _ => .error (.error "invalid request")
  enableApp _ _ := .ok []

/-- A conductor like `echoAnswers` that refuses the second install, as it does an app id
that is already installed. -/
def refusesSecond : AdminAnswers :=
  { echoAnswers with
    installApp := fun i request => if i = 0 then echoAnswers.installApp i request
      else .error (.error "AppAlreadyInstalled") }

/-- Two agents for one app, with one `installedAppId` for both. -/
def twoAgentsOneId : AgentsAppsOptions := ⟨[pathApp, pathApp], some "app", none⟩

/-- With `installedAppId` set, the two requests carry the same id `app`; a conductor that
refuses the second makes the call reject after both were sent. -/
theorem given_installed_app_id_shared :
    (installAgentsApps bytesOnly letterUuids refusesSecond twoAgentsOneId).1.map
        (·.get? "installed_app_id") = [some (.str "app"), some (.str "app")] ∧
      (installAgentsApps bytesOnly letterUuids refusesSecond twoAgentsOneId).2 =
        .error (.error "AppAlreadyInstalled") :=
  ⟨rfl, rfl⟩

/-- Two agents for one app, each with an id of its own. -/
def twoAgents : AgentsAppsOptions := ⟨[pathApp, pathApp], none, none⟩

theorem two_agents_two_ids :
    twoAgents.installedAppId = none ∧
    (∀ k (hk : k < twoAgents.agentsApps.length),
      (installEntry bytesOnly letterUuids echoAnswers twoAgents k twoAgents.agentsApps[k]).2.isOk) ∧
    ((installAgentsApps bytesOnly letterUuids echoAnswers twoAgents).1.map (·.get? "installed_app_id")).Nodup ∧
    ∃ apps, (installAgentsApps bytesOnly letterUuids echoAnswers twoAgents).2 = .ok apps ∧
      (installAgentsApps bytesOnly letterUuids echoAnswers twoAgents).1.length = twoAgents.agentsApps.length ∧
      AppsFor echoAnswers (installAgentsApps bytesOnly letterUuids echoAnswers twoAgents).1 apps := by
  have h := installAgentsApps_one_install_per_entry bytesOnly letterUuids echoAnswers twoAgents
  have hid : twoAgents.installedAppId = none := rfl
  have hok : ∀ k (hk : k < twoAgents.agentsApps.length),
      (installEntry bytesOnly letterUuids echoAnswers twoAgents k twoAgents.agentsApps[k]).2.isOk := by
    decide
  obtain ⟨apps, happs⟩ := h.2.2.2.1.mpr hok
  exact ⟨hid, hok, h.2.2.1 hid, apps, happs, h.2.2.2.2 apps happs⟩

end Tryorama.Analysis.AgentsApps
