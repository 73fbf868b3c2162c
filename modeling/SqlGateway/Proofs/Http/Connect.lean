import SqlGateway.Http.Transport
import SqlGateway.Proofs.Settings
import SqlGateway.Proofs.Url.Endpoint

/-! Which settings are accepted, wherever they are looked at: by themselves, when they are read from
variables, and when a sender or a client is made with them. The demand is the same everywhere, and
settings that do not meet it are told as a fault of the settings. -/
namespace SqlGateway

open Http (Peer Sender isHeaderValue)

theorem Duration.isZero_iff {d : Duration} : d.isZero = true ↔ d.nanos = 0 := by
  rw [isZero, decide_eq_true_eq]

namespace Settings

variable {s : Settings} {e : SettingsError}

/-! ### The endpoint -/

/-- Without the blanks around it the endpoint is the address of a host on the web. -/
structure Addressed (s : Settings) : Prop where
  nonempty : Text.trim s.endpoint ≠ ""
  web : ∃ address, Url.Endpoint.Denotes (Text.trim s.endpoint) address ∧ address.host.text ≠ []

/-- What is wrong with an endpoint that is no such address. -/
inductive Misaddressed (s : Settings) : SettingsError → Prop
  | empty : Text.trim s.endpoint = "" → Misaddressed s .emptyEndpoint
  | unreadable {reason : Url.Error} : Text.trim s.endpoint ≠ "" →
      Url.Endpoint.read (Text.trim s.endpoint) = .error (.unreadable reason) →
      Misaddressed s (.endpoint reason)
  | foreign {name : String} : Url.Endpoint.Foreign (Text.trim s.endpoint) name →
      Misaddressed s (.scheme name)

/-- What is told of an endpoint for which there is no address. -/
def faultOfRefusal : Url.Endpoint.Refusal → SettingsError
  | .unreadable reason => .endpoint reason
  | .scheme name => .scheme name

theorem address_of_ne_empty (h : Text.trim s.endpoint ≠ "") :
    s.address = (Url.Endpoint.read (Text.trim s.endpoint)).mapError faultOfRefusal := by
  have hnonempty : ¬ (Text.trim s.endpoint).isEmpty = true := mt String.isEmpty_iff.mp h
  rw [address, if_neg hnonempty]
  cases Url.Endpoint.read (Text.trim s.endpoint) with
  | ok address => rfl
  | error refusal =>
      cases refusal with
      | unreadable reason => rfl
      | scheme name => rfl

theorem address_of_empty (h : Text.trim s.endpoint = "") :
    s.address = .error .emptyEndpoint := by
  rw [address, if_pos (String.isEmpty_iff.mpr h)]

theorem decides_address (s : Settings) : Decides s.address s.Addressed s.Misaddressed := by
  by_cases hempty : Text.trim s.endpoint = ""
  · rw [address_of_empty hempty]
    apply (Decides.error _).congr (iff_of_false id fun h => h.nonempty hempty)
    intro e
    constructor
    · rintro rfl
      exact .empty hempty
    · intro h
      cases h with
      | empty => rfl
      | unreadable hne => exact absurd hempty hne
      | foreign h => exact absurd hempty h.ne_empty
  · rw [address_of_ne_empty hempty]
    constructor
    · simp only [mapError_eq_ok_iff, Url.Endpoint.read_eq_ok_iff]
      constructor
      · rintro ⟨address, h⟩
        exact ⟨hempty, address, h, h.host_ne_nil⟩
      · intro h
        obtain ⟨address, hdenotes, -⟩ := h.web
        exact ⟨address, hdenotes⟩
    · intro e
      rw [mapError_eq_error_iff]
      constructor
      · rintro ⟨refusal, h, rfl⟩
        cases refusal with
        | unreadable reason => exact .unreadable hempty h
        | scheme name => exact .foreign (Url.Endpoint.read_eq_scheme_iff.mp h)
      · intro h
        cases h with
        | empty h => exact absurd h hempty
        | unreadable _ h => exact ⟨_, h, rfl⟩
        | foreign h => exact ⟨_, Url.Endpoint.read_eq_scheme_iff.mpr h, rfl⟩

/-- The letters of the scheme may be of either case, and any blanks may stand around the whole. -/
example : { default with endpoint := "\u3000HtTp://localhost " }.address.toBool = true := by
  decide +kernel

/-! ### All settings -/

/-- The endpoint is an address, and neither of the timeouts of a request is zero, nor the size of
the pool. The time that idle connections are kept is not looked at. -/
structure Sound (s : Settings) : Prop where
  addressed : s.Addressed
  requestTimeout : 0 < s.requestTimeout.nanos
  connectTimeout : 0 < s.connectTimeout.nanos
  poolSize : 0 < s.poolSize

/-- The first thing that is wrong with settings. -/
inductive Fault (s : Settings) : SettingsError → Prop
  | endpoint {e : SettingsError} : s.Misaddressed e → Fault s e
  | requestTimeout : s.Addressed → s.requestTimeout.nanos = 0 → Fault s .zeroRequestTimeout
  | connectTimeout : s.Addressed → 0 < s.requestTimeout.nanos → s.connectTimeout.nanos = 0 →
      Fault s .zeroConnectTimeout
  | pool : s.Addressed → 0 < s.requestTimeout.nanos → 0 < s.connectTimeout.nanos →
      s.poolSize = 0 → Fault s .zeroPool

theorem check_eq (s : Settings) :
    s.check = s.address >>= fun _ =>
      if s.requestTimeout.isZero then .error .zeroRequestTimeout
      else if s.connectTimeout.isZero then .error .zeroConnectTimeout
      else if s.poolSize = 0 then .error .zeroPool
      else .ok () := rfl

theorem decides_check (s : Settings) : Decides s.check s.Sound s.Fault := by
  rw [check_eq]
  refine (s.decides_address.bind fun _ => .ite_error (.ite_error (.ite_error (.ok ())))).congr ?_ ?_
  · simp only [Duration.isZero_iff, ← Nat.pos_iff_ne_zero, ← UInt64.pos_iff_ne_zero]
    constructor
    · rintro ⟨haddressed, hrequest, hconnect, hpool, -⟩
      exact ⟨haddressed, hrequest, hconnect, hpool⟩
    · rintro ⟨haddressed, hrequest, hconnect, hpool⟩
      exact ⟨haddressed, hrequest, hconnect, hpool, trivial⟩
  · intro e
    simp only [Duration.isZero_iff, ← Nat.pos_iff_ne_zero, ← UInt64.pos_iff_ne_zero]
    constructor
    · rintro (h | ⟨ha, ⟨hr, rfl⟩ | ⟨hr, ⟨hc, rfl⟩ | ⟨hc, ⟨hp, rfl⟩ | ⟨-, h⟩⟩⟩⟩)
      · exact .endpoint h
      · exact .requestTimeout ha hr
      · exact .connectTimeout ha hr hc
      · exact .pool ha hr hc hp
      · exact h.elim
    · intro h
      cases h with
      | endpoint h => exact .inl h
      | requestTimeout ha hr => exact .inr ⟨ha, .inl ⟨hr, rfl⟩⟩
      | connectTimeout ha hr hc => exact .inr ⟨ha, .inr ⟨hr, .inl ⟨hc, rfl⟩⟩⟩
      | pool ha hr hc hp => exact .inr ⟨ha, .inr ⟨hr, .inr ⟨hc, .inl ⟨hp, rfl⟩⟩⟩⟩

theorem check_eq_ok_iff : s.check = .ok () ↔ s.Sound := by
  rw [← s.decides_check.ok_iff]
  exact ⟨fun h => ⟨(), h⟩, fun ⟨_, h⟩ => h⟩

/-! ### What is made with settings -/

/-- Sound settings with a user agent that can be sent. -/
structure Usable (s : Settings) : Prop where
  sound : s.Sound
  userAgent : isHeaderValue s.userAgent = true

/-- Why nothing can be sent with settings. -/
inductive Refusal (s : Settings) : SettingsError → Prop
  | fault {e : SettingsError} : s.Fault e → Refusal s e
  | userAgent : s.Sound → isHeaderValue s.userAgent = false → Refusal s .noHttpClient

theorem decides_ofSettings (s : Settings) : Decides (Sender.ofSettings s) s.Usable s.Refusal := by
  rw [Sender.ofSettings]
  refine (s.decides_check.bind fun _ => s.decides_address.bind fun _ => .ite_ok _).congr ?_ ?_
  · constructor
    · rintro ⟨hsound, -, huser⟩
      exact ⟨hsound, huser⟩
    · rintro ⟨hsound, huser⟩
      exact ⟨hsound, hsound.addressed, huser⟩
  · intro e
    constructor
    -- the address is read once more behind the check, and cannot be at fault only then
    · rintro (h | ⟨hsound, h | ⟨-, huser, rfl⟩⟩)
      · exact .fault h
      · exact .fault (.endpoint h)
      · exact .userAgent hsound (Bool.eq_false_iff.mpr huser)
    · intro h
      cases h with
      | fault h => exact .inl h
      | userAgent hsound huser =>
          exact .inr ⟨hsound, .inr ⟨hsound.addressed, Bool.eq_false_iff.mp huser, rfl⟩⟩

section

variable {σ : Type} {t : Transport σ} {state : σ} {peer : Peer}

theorem connect_eq (s : Settings) (t : Transport σ) (state : σ) :
    Client.connect s t state = s.check.mapError Failure.settings >>= fun _ =>
      .ok
        { settings := s, transport := t, peer := state, hooks := [], sent := []
          emissions := [] } := by
  rw [Client.connect]
  cases s.check with
  | error e => rfl
  | ok u => rfl

theorem decides_connect (s : Settings) (t : Transport σ) (state : σ) :
    Decides (Client.connect s t state) s.Sound fun f => ∃ e, s.Fault e ∧ .settings e = f := by
  rw [connect_eq]
  refine ((s.decides_check.mapError Failure.settings).bind fun _ => .ok _).congr ?_ ?_
  · rw [and_true]
  · intro f
    rw [and_false, or_false]

theorem http_connect_eq (s : Settings) (peer : Peer) :
    Http.connect s peer = (Sender.ofSettings s).mapError Failure.settings >>= fun sender =>
      Client.connect s sender.transport peer := by
  rw [Http.connect]
  cases Sender.ofSettings s with
  | error e => rfl
  | ok sender => simp only [Except.mapError, bind, Except.bind]

theorem decides_http_connect (s : Settings) (peer : Peer) :
    Decides (Http.connect s peer) s.Usable fun f => ∃ e, s.Refusal e ∧ .settings e = f := by
  rw [http_connect_eq]
  refine ((s.decides_ofSettings.mapError Failure.settings).bind fun sender =>
    s.decides_connect sender.transport peer).congr ?_ ?_
  · exact and_iff_left_of_imp Usable.sound
  · intro f
    constructor
    -- a client checks the settings of its sender again, and has no faults of its own to tell
    · rintro (h | ⟨-, e, h, rfl⟩)
      · exact h
      · exact ⟨e, .fault h, rfl⟩
    · intro h
      exact .inl h

theorem settings_of_connect {c : Client σ} (h : Client.connect s t state = .ok c) :
    c.settings = s := by
  rw [connect_eq] at h
  obtain ⟨_, -, h⟩ := bind_eq_ok_iff.mp h
  cases h
  rfl

theorem settings_of_http_connect {c : Client Peer} (h : Http.connect s peer = .ok c) :
    c.settings = s := by
  rw [http_connect_eq] at h
  obtain ⟨sender, -, h⟩ := bind_eq_ok_iff.mp h
  exact settings_of_connect h

end

/-! ### Every place that looks at settings -/

section

variable {lookup : String → Option String}

theorem read_eq_ok_iff_sound : read lookup = .ok s ↔ Described lookup s ∧ s.Sound := by
  rw [read_eq_ok_iff, check_eq_ok_iff]

theorem read_eq_error_iff_fault : read lookup = .error e ↔
    FirstBad lookup numbers e ∨ ∃ s, Described lookup s ∧ s.Fault e := by
  simp only [read_eq_error_iff, (decides_check _).error_iff]

/-- Variables do not change the user agent, so settings that are read from them make a client. -/
theorem exists_http_connect_of_read (h : read lookup = .ok s) (peer : Peer) :
    ∃ c, Http.connect s peer = .ok c ∧ c.settings = s := by
  obtain ⟨hdescribed, hsound⟩ := read_eq_ok_iff_sound.mp h
  have huser : isHeaderValue s.userAgent = true := by
    rw [hdescribed.userAgent]
    rfl
  obtain ⟨c, hc⟩ := (s.decides_http_connect peer).ok_iff.mpr ⟨hsound, huser⟩
  exact ⟨c, hc, settings_of_http_connect hc⟩

/-- Settings are accepted exactly where they are sound, by themselves and when they are read from
variables; a sender or a client over HTTP also asks for a user agent that can be sent. A client
keeps the settings it was made with. Whatever is not accepted makes nothing, and is told as the
first fault of the settings. -/
theorem accepted_iff_sound {σ : Type} (s : Settings) (lookup : String → Option String)
    (t : Transport σ) (state : σ) (peer : Peer) :
    Decides s.check s.Sound s.Fault ∧
    (∀ s', read lookup = .ok s' ↔ Described lookup s' ∧ s'.Sound) ∧
    (∀ e, read lookup = .error e ↔
      FirstBad lookup numbers e ∨ ∃ s', Described lookup s' ∧ s'.Fault e) ∧
    Decides (Sender.ofSettings s) s.Usable s.Refusal ∧
    Decides (Http.connect s peer) s.Usable (fun f => ∃ e, s.Refusal e ∧ .settings e = f) ∧
    Decides (Client.connect s t state) s.Sound (fun f => ∃ e, s.Fault e ∧ .settings e = f) ∧
    (∀ c, Http.connect s peer = .ok c → c.settings = s) ∧
    ∀ c, Client.connect s t state = .ok c → c.settings = s :=
  ⟨s.decides_check, fun _ => read_eq_ok_iff_sound, fun _ => read_eq_error_iff_fault,
    s.decides_ofSettings, s.decides_http_connect peer, s.decides_connect t state,
    fun _ => settings_of_http_connect, fun _ => settings_of_connect⟩

theorem addressed_default : default.Addressed := by
  have hread : default.address.toBool = true := by decide +kernel
  exact default.decides_address.ok_iff.mp (exists_of_toBool hread)

/-- A variable that lets idle connections be kept for no time at all is read and accepted, and a
client is made. -/
theorem idle_timeout_of_zero_is_accepted :
    let lookup : String → Option String := fun name =>
      if name = "SHIMDB_POOL_IDLE_TIMEOUT_MS" then some "0" else none
    let s : Settings := { default with poolIdleTimeout := ⟨0⟩ }
    read lookup = .ok s ∧ s.check = .ok () ∧ s.poolIdleTimeout.isZero = true ∧
      ∃ c, Http.connect s ⟨[], []⟩ = .ok c ∧ c.settings = s := by
  intro lookup s
  have hset : lookup Variable.poolIdleTimeout.name = some "0" := if_pos rfl
  have hunset : ∀ which : Variable, which ≠ .poolIdleTimeout → lookup which.name = none := by
    intro which hwhich
    apply if_neg
    cases which with
    | poolIdleTimeout => exact absurd rfl hwhich
    | _ => decide
  have hzero : Tells "0" 0 := readUInt64_trim_eq_ok_iff.mp (by cbv)
  have hdescribed : Described lookup s :=
    { endpoint := by rw [hunset .endpoint (by decide)]; rfl
      requestTimeout := .unset (hunset _ (by decide))
      connectTimeout := .unset (hunset _ (by decide))
      poolSize := .unset (hunset _ (by decide))
      poolIdleTimeout := .given hset hzero
      bearer := by
        apply filter_nonempty_eq_iff.mp
        rw [hunset .bearer (by decide)]
        rfl
      userAgent := rfl }
  have hsound : s.Sound :=
    { addressed := ⟨addressed_default.nonempty, addressed_default.web⟩
      requestTimeout := by decide
      connectTimeout := by decide
      poolSize := by decide }
  have hread : read lookup = .ok s := read_eq_ok_iff_sound.mpr ⟨hdescribed, hsound⟩
  exact ⟨hread, check_eq_ok_iff.mpr hsound, rfl, exists_http_connect_of_read hread _⟩

end

end Settings

end SqlGateway
