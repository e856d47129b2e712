/-
From the edge to the credential: one request through both programs.

The box authorizes a request (`run_execute`), and opens a session on the daemon with the names the
request selects. The daemon sees the bytes of that session only. `edge_to_credential` reads what it
reaches for them back to the request: the gates the request has passed at the box, the tenant of its
trusted headers, and the first of the names it gives for the kind.

The two programs meet in the `Init` frame. Nothing else is assumed of what the box sends, nor of the
other sessions of the daemon.
-/
import Runlet.Fabricd
import Runlet.Grants
import Runlet.Trusted

set_option autoImplicit false

namespace Runlet.EndToEnd

open Effects Runlet.Wire Runlet.Capabilities Runlet.Identity Runlet.Handler Runlet.Resources
open Runlet.Serve Runlet.Fabricd

/-! ## 1. The message of a session -/

section Box

variable {w : World} {state : AppState} {headers : HeaderMap}
  {payload : Except String ExecRequest} {init : WireInit}

/-- The token a box sends over a transport. -/
def Presents (w : World) (transport : SidecarTransport) (token : Option String) : Prop :=
  (transport = .uds ∧ token = none) ∨ (transport = .quic ∧ w.auth_token = .ok token)

/-- The frame that a handshake opens with is its own. -/
theorem mem_handshake_open {init' : WireInit}
    (h : Effect.open_session init ∈ (handshake w init').effects) : init = init' := by
  unfold handshake at h
  simp only [mem_bind, mem_perform, mem_lift, and_false, exists_false, or_false] at h
  exact Effect.open_session.inj h

/-- The frame that opens a session is the wanted one, with the token that the box presents. -/
theorem mem_connect_session {transport : SidecarTransport} {wanted : WireInit}
    (hwanted : wanted.token = none)
    (h : Effect.open_session init ∈ (connect_session w transport wanted).effects) :
    ∃ token, init = { wanted with token } ∧ Presents w transport token := by
  unfold connect_session at h
  cases transport with
  | none => exact absurd (mem_leave.mp h) id
  | uds =>
      simp only [mem_bind, mem_perform, mem_lift, reduceCtorEq, false_or] at h
      obtain ⟨_, -, _, -, h⟩ := h
      exact ⟨none, (mem_handshake_open h).trans (by rw [← hwanted]), Or.inl ⟨rfl, rfl⟩⟩
  | quic =>
      simp only [mem_bind, mem_perform, mem_lift, reduceCtorEq, false_or] at h
      obtain ⟨token, htoken, _, -, _, -, h⟩ := h
      refine ⟨token, mem_handshake_open h, Or.inr ⟨rfl, ?_⟩⟩
      exact Result.mapError_eq_ok.mp htoken

/-- A session is opened for a request that passed the checks, with its names and its tenant. The
one place where the pipeline opens a session comes behind all of them. -/
theorem init_of_open (h : Effect.open_session init ∈ (run_execute w state headers payload).effects) :
    ∃ c token, Checked w state headers payload c ∧ init = { c.wire_init state with token }
      ∧ Presents w state.transport token := by
  have hplain : ∀ identity, Plain (· ≠ Effect.open_session init) identity :=
    fun identity => ⟨nofun, nofun, nofun, nofun⟩
  have hnot : ∀ {α : Type} {m : Eff Effect Response α}, All (· ≠ Effect.open_session init) m →
      Effect.open_session init ∉ m.effects := by
    intro α m hm hmem
    exact hm _ hmem rfl
  rcases mem_bind.mp h with he | ⟨c, hc, he⟩
  · exact absurd he (hnot (all_check_request (hplain _)))
  refine ⟨c, ?_⟩
  have hchecked := check_request_ok.mp hc
  rcases mem_bind.mp he with he | ⟨guard, -, he⟩
  · have hquota : All (· ≠ Effect.open_session init)
        (enforce_quota w state c.identity w.trace_id (c.error_meta w.trace_id)) :=
      all_enforce_quota (hplain _) _ _ (by simp)
    exact absurd he (hnot (all_handle hquota fun _ _ => all_reject (hplain none) _))
  rcases mem_bind.mp he with he | ⟨session, -, he⟩
  · unfold egress_session at he
    split at he
    · rcases mem_bind.mp he with he | ⟨conn, -, he⟩
      · rcases mem_handle.mp he with he | ⟨err, -, he⟩
        · obtain ⟨token, hinit, hpresents⟩ := mem_connect_session rfl he
          exact ⟨token, hchecked, hinit, hpresents⟩
        · exact absurd he (hnot (all_deny (hplain _) _ _ _))
      · exact absurd he (hnot (all_pure _))
    · exact absurd he (hnot (all_pure _))
  rcases mem_bind.mp he with he | ⟨⟨⟩, -, he⟩
  · have hadmission : All (· ≠ Effect.open_session init)
        (admit_execution w state c.partition (c.error_meta w.trace_id)) :=
      all_admit_execution (by simp) (by simp) _
    refine absurd he (hnot (all_handle hadmission fun _ _ => ?_))
    exact all_bind (all_emit_denied (hplain _) _ _ _) fun _ _ => all_leave _
  rcases mem_bind.mp he with he | ⟨⟨⟩, -, he⟩
  · exact absurd (mem_perform.mp he) nofun
  · exact absurd he (hnot (all_build_response (hplain _) _ _))

/-- The name of a kind is the first one the request gives for it. -/
theorem named_wire_init_with_token (c : Cleared) (state : AppState) (token : Option String)
    (k : Kind) :
    ({ c.wire_init state with token } : WireInit).named k = (c.req.config.io.names k).head? := by
  cases k <;> rfl

end Box

/-! ## 2. The frame -/

/-- A stream that begins with the frame of an `Init` opens the session with it, however the bytes are
cut. -/
theorem init_of_frame {peer : Peer} {init : WireInit} {frame more : List UInt8}
    (hrt : peer.request.RoundTrips) (hframe : write_frame peer.request (.init init) = .ok frame)
    (hstream : peer.stream.bytes = frame ++ more) : peer.init = some init := by
  obtain ⟨body, hbody, hcap, rfl⟩ := write_frame_ok.mp hframe
  have hlen : from_le_bytes (to_le_bytes body.length) = body.length :=
    from_le_bytes_to_le_bytes _ (lt_of_le_of_lt hcap (by decide))
  have hheader : (to_le_bytes body.length).length = 4 := to_le_bytes_length _
  rw [List.append_assoc] at hstream
  have hann : Framing.announced peer.stream.bytes = body.length := by
    rw [hstream, Framing.announced_frame hheader hlen]
  have hwhole : 4 + Framing.announced peer.stream.bytes ≤ peer.stream.bytes.length := by
    rw [hann, hstream, List.length_append, List.length_append, hheader]
    omega
  have hpayload : (peer.stream.bytes.drop 4).take (Framing.announced peer.stream.bytes) = body := by
    rw [hann, hstream, List.drop_left' hheader, List.take_left]
  obtain ⟨-, hgood⟩ := Framing.read_frame_whole peer.request hwhole (hann ▸ hcap)
  obtain ⟨rest, hread, -, -⟩ := hgood (.init init) (hpayload ▸ hrt _ _ hbody)
  unfold Peer.init
  rw [hread]

/-! ## 3. The result -/

/-- A backend that a request may have reached: the tenant's own entry under the first name the request
gives for a kind its caller is entitled to. -/
structure Granted (state : AppState) (headers : HeaderMap) (req : ExecRequest) (tenant : String)
    (config : FabricdConfig) (backend : ResourceBinding) : Prop where
  entry : ∃ k name entry, (req.config.io.names k).head? = some name
    ∧ Entitled state headers k.as_str ∧ config.resources.lookup name = some entry
    ∧ entry.tenant = some tenant ∧ entry.binding.kind = k
    ∧ backend = under_ceiling config.max_statement_timeout_ms entry.binding

/-- **From the edge to the credential.** A box in trusted mode opens a session for a request, and a
daemon serves the stream that begins with its frame, in whatever run. Then the request has passed every
gate of the box, and each backend that is reached is one its caller was granted. Other tenants' entries
have no part in the session. -/
theorem edge_to_credential {w : World} {state : AppState} {trusted : TrustedRuntime}
    {headers : HeaderMap} {payload : Except String ExecRequest} {init : WireInit}
    (htrusted : state.trusted = some trusted)
    (hopen : Effect.open_session init ∈ (run_execute w state headers payload).effects)
    {peer : Peer} {frame more : List UInt8} (hrt : peer.request.RoundTrips)
    (hframe : write_frame peer.request (.init init) = .ok frame)
    (hstream : peer.stream.bytes = frame ++ more) {κ δ : Type} (jwt : SaToken.Jwt κ δ)
    {build_client : Option String → Except String Unit} {env_socket : Option String}
    {config : FabricdConfig} {d₀ d : Daemon δ} {before after : List (Fabricd.Event κ)}
    {listener : Listener} (hstart : start build_client env_socket config = .ok d₀)
    (hrun : Machine.run (Daemon.step jwt) d₀ (before ++ .session listener peer :: after) = some d) :
    ∃ req tenant trace, payload = .ok req ∧ Passed w state trusted headers req tenant
      ∧ Presents w state.transport init.token ∧ Served jwt d₀ before listener peer trace
      ∧ (∀ backend, .reach backend ∈ trace →
        Welcome jwt config before peer.now init.token listener
          ∧ Granted state headers req tenant config backend)
      ∧ ∀ table d₁, start build_client env_socket { config with resources := table } = .ok d₁ →
        Resources.AgreeOn (some tenant) config.resources table →
          Served jwt d₁ before listener peer trace := by
  obtain ⟨req, tenant, hreq, hpassed⟩ := passed_of_work htrusted rfl hopen
  have htenant : init.tenant = some tenant := all_carries htrusted hpassed.accepted _ hopen
  obtain ⟨c, token, hchecked, rfl, hpresents⟩ := init_of_open hopen
  obtain rfl : req = c.req := Except.ok.inj (hreq.symm.trans hchecked.request)
  have hinit := init_of_frame hrt hframe hstream
  obtain ⟨trace, hserved⟩ := served_of_run hrun
  refine ⟨c.req, tenant, trace, hreq, hpassed, hpresents, hserved, ?_, ?_⟩
  · intro backend hbackend
    obtain ⟨init', hinit', hlet, hdone⟩ := hserved.works hstart hbackend (Or.inr ⟨backend, rfl⟩)
    obtain rfl := Option.some.inj (hinit.symm.trans hinit')
    refine ⟨hlet.1, ?_⟩
    cases hdone with
    | @reach k entry hentry =>
        obtain ⟨name, hname, hlookup⟩ := hentry.named
        rw [named_wire_init_with_token] at hname
        have hselects : c.req.config.io.Selects k := by
          unfold RequestIo.Selects
          rintro hnone
          rw [hnone] at hname
          exact absurd hname nofun
        have hentitled : Entitled state headers k.as_str :=
          entitled_of_checked hchecked (mem_requested.mpr hselects)
        exact ⟨k, name, entry, hname, hentitled, hlookup, hentry.tenant.trans htenant, hentry.kind, rfl⟩
  · intro table d₁ hstart₁ hagree
    refine hserved.other_table hstart hstart₁ ?_
    intro init' hinit'
    obtain rfl := Option.some.inj (hinit.symm.trans hinit')
    rw [htenant]
    exact hagree

/-! ### The orders database, over the socket -/

def orders_init : WireInit := { db := some "orders-db", timeout_ms := 1000, tenant := some "ws_acme" }

/-- The text of the session-open message. -/
def orders_text : String :=
  "\x7b\"Init\":\x7b\"db\":\"orders-db\",\"mongo\":null,\"mail\":null,\"redis\":null,\"amq\":null,"
    ++ "\"auth\":null,\"timeout_ms\":1000,\"tenant\":\"ws_acme\"\x7d\x7d"

def query_text : String :=
  "\x7b\"Call\":\x7b\"name\":\"db\",\"action\":\"query\",\"payload\":\"[]\"\x7d\x7d"

def frame_of (text : String) : List UInt8 := to_le_bytes text.utf8ByteSize ++ Text.utf8 text

def orders_messages : List (WireRequest × String) :=
  [(.init orders_init, orders_text), (.call Sidecar.slow_call, query_text)]

/-- The session of the request, with one query. -/
def orders_peer : Peer where
  stream := Framing.ending [frame_of orders_text, frame_of query_text]
  now := 0
  request := Sidecar.table_codec orders_messages
  response := Sidecar.table_codec
    [(.ack, "\"Ack\""), (.reply (.ok "null"), "\x7b\"Reply\":\x7b\"Ok\":\"null\"\x7d\x7d")]
  drivers := fun _ => null_drivers
  join_error := fun _ => none
  metrics := fun _ => {}
  write_all := fun _ => .ok ()

def orders_config : FabricdConfig where
  resources := orders_table

def orders_daemon : Daemon String where
  table := orders_table
  max_statement_timeout_ms := 0
  auth_failures := 0
  uds := some .none
  quic := none

theorem orders_peer_round_trips : orders_peer.request.RoundTrips :=
  Sidecar.table_codec_round_trips orders_messages (by decide +kernel)

theorem orders_frame :
    write_frame orders_peer.request (.init orders_init) = .ok (frame_of orders_text) := by
  decide +kernel

/-- The query reaches the orders database, and that is one the caller was granted: the box cleared
the request for it, and the daemon resolved it for the same tenant. -/
theorem edge_to_credential_orders :
    ∃ trace, Served SaToken.test_jwt orders_daemon [] .uds orders_peer trace
      ∧ .reach (.db orders_db) ∈ trace
      ∧ Granted acme_state acme_headers orders_request "ws_acme" orders_config (.db orders_db) := by
  have hopen : Effect.open_session orders_init
      ∈ (run_execute calm_world acme_state acme_headers (.ok orders_request)).effects := by
    decide +kernel
  have hrun : Machine.run (Daemon.step SaToken.test_jwt) orders_daemon
      ([] ++ Fabricd.Event.session .uds orders_peer :: []) = some { orders_daemon with
        auth_failures := 0 + UInt64.ofNat ((orders_daemon.trace SaToken.test_jwt .none
          orders_peer).countP (· = .auth_failure)) } := rfl
  obtain ⟨req, tenant, trace, hreq, hpassed, -, hserved, hgranted, -⟩ :=
    edge_to_credential rfl hopen orders_peer_round_trips orders_frame
      (show orders_peer.stream.bytes = frame_of orders_text ++ frame_of query_text by decide +kernel)
      SaToken.test_jwt
      (show start (fun _ => .ok ()) none orders_config = .ok orders_daemon from rfl) hrun
  obtain rfl : orders_request = req := Except.ok.inj hreq
  have htenant : tenant = "ws_acme" := by
    have hcarried : some "ws_acme" = some tenant :=
      all_carries rfl hpassed.accepted (.open_session orders_init) hopen
    exact (Option.some.inj hcarried).symm
  have htrace : trace = orders_daemon.trace SaToken.test_jwt .none orders_peer := by
    obtain ⟨mid, authenticator, hmid, hthere, htrace⟩ := hserved
    obtain rfl : orders_daemon = mid := Option.some.inj hmid
    obtain rfl : Authenticator.none = authenticator := Option.some.inj hthere
    exact htrace
  have hreached : .reach (.db orders_db) ∈ trace := by
    rw [htrace]
    decide +kernel
  exact ⟨trace, hserved, hreached, htenant ▸ (hgranted _ hreached).2⟩

end Runlet.EndToEnd
