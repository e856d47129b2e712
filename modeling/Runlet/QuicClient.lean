/-
The box's link to a remote daemon: `QuicClient` (`crates/runlet/src/sidecar.rs`) over the pinned
endpoint of `crates/fabric-wire/src/quic.rs`.

The sessions of a box share one client, and the client has one cached connection behind an async
mutex. `live_connection` keeps the lock while it dials, `invalidate` takes it again, and `open_bi` runs
outside of it. So a session is a small state machine, and the machine below interleaves any number of
them, one lock acquisition, lookup, dial or `open_bi` at a time. Connections are lost at any moment,
and a session whose request is dropped leaves at any await point and gives the lock back.

`attempts` is a ghost: what a round of `connect_any` has tried. `client_runs` collects what holds in
every state of every run.
-/
import Mathlib.Data.List.Forall2
import Mathlib.Logic.Function.Basic
import Runlet.Lib.Machine
import Runlet.Lib.Result
import Runlet.Lib.Text

set_option autoImplicit false

namespace Runlet.Quic

open Text Machine

/-! ## 1. Configuration -/

/-- `FabricdQuic`. -/
structure FabricdQuic where
  replicas : List String
  server_name : String
  server_cert_pin : String
  auth_token : Option String := none
  auth_token_file : Option String := none
  deriving DecidableEq, Repr

/-- `BoxAuth`. -/
inductive BoxAuth
  | none
  | static (secret : String)
  | service_account_file (path : String)
  deriving DecidableEq, Repr

/-- `BoxAuth::token`; the file is read again for every session. -/
def BoxAuth.token (read_to_string : String → Except String String) :
    BoxAuth → Except String (Option String)
  | .none => .ok Option.none
  | .static secret => .ok (some secret)
  | .service_account_file path => do return some (trim (← read_to_string path))

def build_auth (quic : FabricdQuic) : Except String BoxAuth :=
  match quic.auth_token, quic.auth_token_file with
  | some _, some _ => .error "set only one of fabricd_quic.auth_token / auth_token_file"
  | some token, none => .ok (.static token)
  | none, some path => .ok (.service_account_file path)
  | none, none => .ok .none

/-- `parse_pin`; `hex_decode` is `hex::decode`. -/
def parse_pin (hex_decode : String → Except String (List UInt8)) (hex_pin : String) :
    Except String (List UInt8) := do
  let bytes ← (hex_decode (trim hex_pin)).mapError fun err => "invalid server_cert_pin hex: " ++ err
  Result.fail_if (bytes.length ≠ 32) "server_cert_pin must be 32 bytes (64 hex chars)"
  return bytes

/-- `QuicClient`, with the pin its endpoint was built with. -/
structure QuicClient where
  pin : List UInt8
  replicas : List String
  server_name : String
  auth : BoxAuth
  deriving DecidableEq, Repr

/-- `QuicClient::from_config`. -/
def QuicClient.from_config (hex_decode : String → Except String (List UInt8)) (quic : FabricdQuic) :
    Except String QuicClient := do
  let pin ← parse_pin hex_decode quic.server_cert_pin
  let auth ← build_auth quic
  return ⟨pin, quic.replicas, quic.server_name, auth⟩

/-- `SidecarTransport`. -/
inductive SidecarTransport
  | none
  | uds (path : String)
  | quic (client : QuicClient)
  deriving DecidableEq, Repr

/-- `SidecarTransport::from_config`. -/
def SidecarTransport.from_config (hex_decode : String → Except String (List UInt8))
    (socket : Option String) (quic : Option FabricdQuic) : Except String SidecarTransport :=
  match quic, socket with
  | some quic_cfg, _ => do
    Result.fail_if (quic_cfg.replicas = []) "fabricd_quic.replicas must not be empty"
    return .quic (← QuicClient.from_config hex_decode quic_cfg)
  | .none, some path => .ok (.uds path)
  | .none, .none => .ok .none

/-! ## 2. The client -/

/-- What is behind an address: nothing that answers, or a peer with a certificate. `refusal` is how the
handshake with that peer fails, where the verifier turns the certificate down, and `handshake` how it
ends where the verifier does not: the signature, the protocol and the time limit can fail it still. -/
inductive Answer
  | unreachable (message : String)
  | presents (certificate : List UInt8) (refusal : String) (handshake : Except String Unit)

/-- One thing that `connect_any` tried. -/
inductive Attempt
  | lookup (replica : String) (result : Except String (List String))
  | dial (address : String) (answer : Answer)

/-- `connect_any` on its way. -/
structure Round where
  /-- The addresses of the replica at hand that are left. -/
  addresses : List String
  /-- The replicas that are left. -/
  replicas : List String
  last_error : Option String
  attempts : List Attempt

structure Conn where
  address : String
  certificate : List UInt8
  closed : Bool
  attempts : List Attempt

/-- Where a session is in `open_session`; `second` is set once it has invalidated. -/
inductive Phase
  | idle
  | waiting (second : Bool)
  | dialing (second : Bool) (round : Round)
  | opening (second : Bool) (conn : ℕ)
  | invalidating
  | opened (conn : ℕ)
  /-- With what the last round tried, where it is the round that failed. -/
  | failed (err : String) (attempts : Option (List Attempt))
  | cancelled

structure State where
  conns : List Conn
  cache : Option ℕ
  holder : Option ℕ
  invalidations : ℕ
  tasks : ℕ → Phase

def State.fresh : State where
  conns := []
  cache := none
  holder := none
  invalidations := 0
  tasks := fun _ => .idle

/-- `close_reason().is_none()`. -/
def State.is_open (s : State) (c : ℕ) : Bool := (s.conns[c]?).any fun conn => !conn.closed

/-- The cached connection, if it is still open. -/
def State.live (s : State) : Option ℕ := s.cache.filter s.is_open

def State.put (s : State) (i : ℕ) (phase : Phase) : State :=
  { s with tasks := Function.update s.tasks i phase }

inductive Event
  | start (i : ℕ)
  /-- `live_connection` gets the lock. -/
  | enter (i : ℕ)
  | lookup (i : ℕ) (result : Except String (List String))
  | dial (i : ℕ) (answer : Answer)
  /-- `connect_any` has run out of replicas. -/
  | give_up (i : ℕ)
  | open_bi (i : ℕ) (result : Except String Unit)
  | invalidate (i : ℕ)
  /-- A connection is lost. -/
  | close (c : ℕ)
  | cancel (i : ℕ)

/-- The first thing `connect_any` does. -/
def Round.start (client : QuicClient) : Round := ⟨[], client.replicas, none, []⟩

/-- `lookup_host` has answered for a replica. -/
def Round.looked_up (round : Round) (replica : String) (rest : List String) :
    Except String (List String) → Round
  | .ok addresses => ⟨addresses, rest, round.last_error,
      round.attempts ++ [.lookup replica (.ok addresses)]⟩
  | .error err => ⟨[], rest, some err, round.attempts ++ [.lookup replica (.error err)]⟩

/-- `verify_server_cert`. -/
def verify_server_cert (sha256 : List UInt8 → List UInt8) (pin certificate : List UInt8) : Bool :=
  sha256 certificate == pin

/-- `dial`: the handshake, to its end. -/
def dial (sha256 : List UInt8 → List UInt8) (client : QuicClient) :
    Answer → Except String (List UInt8)
  | .unreachable message => .error message
  | .presents certificate refusal handshake =>
    if verify_server_cert sha256 client.pin certificate then handshake.map fun _ => certificate
    else .error refusal

/-- A session has its connection, from the cache or fresh. -/
def State.connected (s : State) (i : ℕ) (second : Bool) (conn : Conn) : State :=
  { s.put i (.opening second s.conns.length) with
    conns := s.conns ++ [conn]
    cache := some s.conns.length
    holder := none }

/-- A connection is lost. -/
def State.closing (s : State) (c : ℕ) : State :=
  { s with conns := s.conns.modify c fun conn => { conn with closed := true } }

def Phase.over : Phase → Bool
  | .idle | .opened _ | .failed _ _ | .cancelled => true
  | _ => false

def step (sha256 : List UInt8 → List UInt8) (client : QuicClient) (s : State) : Event → Option State
  | .start i =>
    match s.tasks i with
    | .idle => some (s.put i (.waiting false))
    | _ => none
  | .enter i =>
    match s.tasks i with
    | .waiting second =>
      if s.holder = none then
        match s.live with
        | some c => some (s.put i (.opening second c))
        | none => some { s.put i (.dialing second (Round.start client)) with holder := some i }
      else none
    | _ => none
  | .lookup i result =>
    match s.tasks i with
    | .dialing second ⟨[], replica :: rest, last_error, attempts⟩ =>
      some (s.put i (.dialing second
        (Round.looked_up ⟨[], replica :: rest, last_error, attempts⟩ replica rest result)))
    | _ => none
  | .dial i answer =>
    match s.tasks i with
    | .dialing second ⟨address :: addresses, replicas, _, attempts⟩ =>
      match dial sha256 client answer with
      | .error err => some (s.put i (.dialing second
          ⟨addresses, replicas, some err, attempts ++ [.dial address answer]⟩))
      | .ok certificate => some (s.connected i second
          ⟨address, certificate, false, attempts ++ [.dial address answer]⟩)
    | _ => none
  | .give_up i =>
    match s.tasks i with
    | .dialing _ ⟨[], [], last_error, attempts⟩ =>
      some { s.put i (.failed (last_error.getD "no fabricd replica addresses to connect to")
        (some attempts)) with holder := none }
    | _ => none
  | .open_bi i result =>
    match s.tasks i, result with
    | .opening _ c, .ok () => if s.is_open c then some (s.put i (.opened c)) else none
    -- a stream is refused only on a connection that is lost
    | .opening second c, .error err =>
      if s.is_open c then none
      else some (s.put i (if second then .failed err none else .invalidating))
    | _, _ => none
  | .invalidate i =>
    match s.tasks i with
    | .invalidating =>
      if s.holder = none then
        some { s.put i (.waiting true) with cache := none, invalidations := s.invalidations + 1 }
      else none
    | _ => none
  | .close c => if s.is_open c then some (s.closing c) else none
  | .cancel i =>
    if (s.tasks i).over then none
    else some { s.put i .cancelled with holder := if s.holder = some i then none else s.holder }

/-! ## 3. A round of `connect_any` -/

section Rounds

variable (sha256 : List UInt8 → List UInt8) (client : QuicClient)

/-- An address was dialled in vain. -/
def Refused (address : String) (attempt : Attempt) : Prop :=
  ∃ answer err, attempt = .dial address answer ∧ dial sha256 client answer = .error err

/-- A replica was tried in vain: its name did not resolve, or each of its addresses was refused. -/
inductive Tried (replica : String) : List Attempt → Prop
  | unresolved {err : String} : Tried replica [.lookup replica (.error err)]
  | refused {addresses : List String} {dials : List Attempt}
    (h : List.Forall₂ (Refused sha256 client) addresses dials) :
    Tried replica (.lookup replica (.ok addresses) :: dials)

/-- Replicas were tried in vain, one after the other. -/
inductive Exhausted : List String → List Attempt → Prop
  | none : Exhausted [] []
  | snoc {replicas : List String} {attempts block : List Attempt} {replica : String}
    (before : Exhausted replicas attempts) (last : Tried sha256 client replica block) :
    Exhausted (replicas ++ [replica]) (attempts ++ block)

/-- How far a round has come: replicas tried in vain, and one of which the first addresses were. -/
inductive Progress : List Attempt → List String → List String → Prop
  | between {tried rest : List String} {attempts : List Attempt}
    (hclient : client.replicas = tried ++ rest) (h : Exhausted sha256 client tried attempts) :
    Progress attempts [] rest
  | within {tried rest dialled addresses : List String} {attempts dials : List Attempt}
    {replica : String} (hclient : client.replicas = tried ++ replica :: rest)
    (h : Exhausted sha256 client tried attempts)
    (hdials : List.Forall₂ (Refused sha256 client) dialled dials) :
    Progress (attempts ++ .lookup replica (.ok (dialled ++ addresses)) :: dials) addresses rest

/-- The first address, in the order of the replicas, at which a peer completes the handshake, and it
does so under the pinned certificate. -/
inductive Reached : List Attempt → String → List UInt8 → Prop
  | at {tried rest dialled addresses : List String} {attempts dials : List Attempt}
    {replica address refusal : String} {certificate : List UInt8}
    (hclient : client.replicas = tried ++ replica :: rest)
    (h : Exhausted sha256 client tried attempts)
    (hdials : List.Forall₂ (Refused sha256 client) dialled dials)
    (hpin : sha256 certificate = client.pin) :
    Reached (attempts ++ .lookup replica (.ok (dialled ++ address :: addresses)) :: dials
      ++ [.dial address (.presents certificate refusal (.ok ()))]) address certificate

/-- The error an attempt ended with. -/
def attempt_error : Attempt → Option String
  | .lookup _ (.error err) => some err
  | .lookup _ (.ok _) => none
  | .dial _ answer =>
    match dial sha256 client answer with
    | .error err => some err
    | .ok _ => none

def final_error (attempts : List Attempt) : Option String :=
  (attempts.filterMap (attempt_error sha256 client)).getLast?

/-- What `connect_any` fails with. -/
def connect_error (attempts : List Attempt) : String :=
  (final_error sha256 client attempts).getD "no fabricd replica addresses to connect to"

/-- The round is what its attempts say. -/
structure Round.Sound (round : Round) : Prop where
  progress : Progress sha256 client round.attempts round.addresses round.replicas
  last : round.last_error = final_error sha256 client round.attempts

variable {sha256 client}

/-- A dial that succeeds met the pinned certificate and the end of the handshake. -/
theorem dial_ok {answer : Answer} {certificate : List UInt8}
    (h : dial sha256 client answer = .ok certificate) :
    ∃ refusal, answer = .presents certificate refusal (.ok ()) ∧ sha256 certificate = client.pin := by
  cases answer with
  | unreachable message => exact absurd h nofun
  | presents presented refusal handshake =>
      unfold dial verify_server_cert at h
      dsimp only at h
      by_cases hpin : sha256 presented = client.pin
      · rw [if_pos (beq_iff_eq.mpr hpin)] at h
        cases handshake with
        | error err => exact absurd h nofun
        | ok done =>
            obtain rfl : presented = certificate := Except.ok.inj h
            exact ⟨refusal, rfl, hpin⟩
      · rw [if_neg (mt beq_iff_eq.mp hpin)] at h
        exact absurd h nofun

/-- The error of a round is that of its last failed attempt. -/
theorem final_error_snoc (attempts : List Attempt) (attempt : Attempt) :
    final_error sha256 client (attempts ++ [attempt])
      = (attempt_error sha256 client attempt).or (final_error sha256 client attempts) := by
  unfold final_error
  rw [List.filterMap_append]
  cases herror : attempt_error sha256 client attempt with
  | none => rw [List.filterMap_cons_none herror, List.filterMap_nil, List.append_nil, Option.none_or]
  | some err =>
      rw [List.filterMap_cons_some herror, List.filterMap_nil, List.getLast?_append,
        List.getLast?_singleton, Option.some_or]

/-- A round that has no address left stands between two replicas. -/
theorem Progress.between_of_nil {attempts : List Attempt} {rest : List String}
    (h : Progress sha256 client attempts [] rest) :
    ∃ tried, client.replicas = tried ++ rest ∧ Exhausted sha256 client tried attempts := by
  cases h with
  | between hclient h => exact ⟨_, hclient, h⟩
  | @within tried _ dialled _ _ _ replica hclient h hdials =>
      rw [List.append_nil]
      refine ⟨tried ++ [replica], ?_, h.snoc (.refused hdials)⟩
      rw [hclient, List.append_assoc]
      rfl

theorem Round.start_sound : (Round.start client).Sound sha256 client :=
  ⟨.between (List.nil_append _).symm .none, rfl⟩

/-- A lookup fills the list of addresses, or is the attempt that failed. The rest of the replicas
stays as it was. -/
theorem Round.looked_up_sound {replica : String} {rest : List String} {last : Option String}
    {attempts : List Attempt}
    (h : (⟨[], replica :: rest, last, attempts⟩ : Round).Sound sha256 client)
    (result : Except String (List String)) :
    (Round.looked_up ⟨[], replica :: rest, last, attempts⟩ replica rest result).Sound sha256
      client := by
  obtain ⟨tried, hclient, hexhausted⟩ := h.progress.between_of_nil
  cases result with
  | error err =>
      refine ⟨?_, ?_⟩
      · refine .between ?_ (hexhausted.snoc .unresolved)
        rw [hclient, List.append_assoc]
        rfl
      · unfold Round.looked_up
        rw [final_error_snoc, attempt_error, Option.some_or]
  | ok addresses =>
      refine ⟨?_, ?_⟩
      · exact .within hclient hexhausted .nil
      · unfold Round.looked_up
        rw [final_error_snoc, attempt_error, Option.none_or]
        exact h.last

/-- An address more was refused. -/
theorem Round.refused_sound {address : String} {addresses replicas : List String}
    {last : Option String} {attempts : List Attempt}
    (h : (⟨address :: addresses, replicas, last, attempts⟩ : Round).Sound sha256 client)
    {answer : Answer} {err : String} (hdial : dial sha256 client answer = .error err) :
    (⟨addresses, replicas, some err, attempts ++ [.dial address answer]⟩ : Round).Sound sha256
      client := by
  have hbefore : Progress sha256 client attempts (address :: addresses) replicas := h.progress
  refine ⟨?_, ?_⟩
  · cases hbefore with
    | @within tried _ dialled _ before dials replica hclient hexhausted hdials =>
        dsimp only
        rw [List.append_assoc, List.cons_append]
        have hlast : Refused sha256 client address (.dial address answer) :=
          ⟨answer, err, rfl, hdial⟩
        have hmore := List.rel_append hdials (.cons hlast .nil)
        have hprogress : Progress sha256 client _ addresses replicas :=
          .within hclient hexhausted hmore
        rw [List.append_assoc, List.singleton_append] at hprogress
        exact hprogress
  · have herror : attempt_error sha256 client (.dial address answer) = some err := by
      rw [attempt_error, hdial]
    rw [final_error_snoc, herror, Option.some_or]

/-- An address was reached. -/
theorem Round.reached {address : String} {addresses replicas : List String} {last : Option String}
    {attempts : List Attempt}
    (h : (⟨address :: addresses, replicas, last, attempts⟩ : Round).Sound sha256 client)
    {answer : Answer} {certificate : List UInt8}
    (hdial : dial sha256 client answer = .ok certificate) :
    Reached sha256 client (attempts ++ [.dial address answer]) address certificate := by
  obtain ⟨refusal, rfl, hpin⟩ := dial_ok hdial
  have hbefore : Progress sha256 client attempts (address :: addresses) replicas := h.progress
  cases hbefore with
  | within hclient hexhausted hdials => exact .at hclient hexhausted hdials hpin

/-- A round gives up when every address of every replica was refused, with the last of the errors. -/
theorem Round.gives_up {last : Option String} {attempts : List Attempt}
    (h : (⟨[], [], last, attempts⟩ : Round).Sound sha256 client) :
    Exhausted sha256 client client.replicas attempts
      ∧ last.getD "no fabricd replica addresses to connect to"
        = connect_error sha256 client attempts := by
  obtain ⟨tried, hclient, hexhausted⟩ := h.progress.between_of_nil
  rw [List.append_nil] at hclient
  rw [hclient, connect_error, ← h.last]
  exact ⟨hexhausted, rfl⟩

end Rounds

/-! ## 4. Every run -/

section Runs

variable (sha256 : List UInt8 → List UInt8) (client : QuicClient)

/-- The connections that were lost. -/
def State.lost (s : State) : ℕ := s.conns.countP Conn.closed

/-- What a phase says about its session. -/
def Phase.Sound (s : State) (i : ℕ) : Phase → Prop
  | .dialing _ round => s.holder = some i ∧ s.live = none ∧ round.Sound sha256 client
  | .opening _ c => c < s.conns.length
  | .opened c => c < s.conns.length
  | .invalidating => 0 < s.lost
  | .failed err (some attempts) => Exhausted sha256 client client.replicas attempts
    ∧ err = connect_error sha256 client attempts
  | _ => True

structure Inv (s : State) : Prop where
  phases : ∀ i, (s.tasks i).Sound sha256 client s i
  /-- Whoever holds the lock is dialling. -/
  held : ∀ i, s.holder = some i → ∃ second round, s.tasks i = .dialing second round
  cached : ∀ c, s.cache = some c → c + 1 = s.conns.length
  reached : ∀ conn ∈ s.conns, Reached sha256 client conn.attempts conn.address conn.certificate
  /-- A connection replaces one that was lost or invalidated, but for the first. -/
  replaced : s.conns.length + (if s.live = none then 1 else 0) ≤ 1 + s.lost + s.invalidations
  stale : 0 < s.invalidations → 0 < s.lost

variable {sha256 client} {s : State}

/-- What a caller knows stays true while the connections and the losses only grow, and the one who
dials goes on dialing. -/
theorem Phase.Sound.mono {t : State} {j : ℕ} {phase : Phase} (h : phase.Sound sha256 client s j)
    (hconns : s.conns.length ≤ t.conns.length) (hlost : s.lost ≤ t.lost)
    (hdialing : s.holder = some j → s.live = none → t.holder = some j ∧ t.live = none) :
    phase.Sound sha256 client t j := by
  cases phase with
  | dialing second round =>
      obtain ⟨hholder, hlive, hround⟩ := h
      obtain ⟨hholder', hlive'⟩ := hdialing hholder hlive
      exact ⟨hholder', hlive', hround⟩
  | opening second c => exact Nat.lt_of_lt_of_le (show c < s.conns.length from h) hconns
  | opened c => exact Nat.lt_of_lt_of_le (show c < s.conns.length from h) hconns
  | invalidating => exact Nat.lt_of_lt_of_le (show 0 < s.lost from h) hlost
  | failed err attempts =>
      cases attempts with
      | none => trivial
      | some attempts => exact h
  | idle => trivial
  | waiting second => trivial
  | cancelled => trivial

theorem tasks_put_self (s : State) (i : ℕ) (phase : Phase) : (s.put i phase).tasks i = phase :=
  Function.update_self _ _ _

theorem tasks_put_ne {i j : ℕ} (h : j ≠ i) (phase : Phase) :
    (s.put i phase).tasks j = s.tasks j :=
  Function.update_of_ne h _ _

/-- A task moves on, and the lock stays where it is. The invariant asks each task for what its
phase promises, so only the new phase is to be checked, and that a holder of the lock is still
dialling. -/
theorem Inv.put (h : Inv sha256 client s) {i : ℕ} {phase : Phase}
    (hphase : phase.Sound sha256 client s i)
    (hheld : s.holder = some i → ∃ second round, phase = .dialing second round) :
    Inv sha256 client (s.put i phase) := by
  refine ⟨?_, ?_, h.cached, h.reached, h.replaced, h.stale⟩
  · intro j
    by_cases hj : j = i
    · rw [hj, tasks_put_self]
      exact hphase.mono (Nat.le_refl _) (Nat.le_refl _) fun hholder hlive => ⟨hholder, hlive⟩
    · rw [tasks_put_ne hj]
      exact (h.phases j).mono (Nat.le_refl _) (Nat.le_refl _) fun hholder hlive => ⟨hholder, hlive⟩
  · intro j hj
    by_cases hji : j = i
    · rw [hji, tasks_put_self]
      exact hheld (hji ▸ hj)
    · rw [tasks_put_ne hji]
      exact h.held j hj

/-- A task that is not dialling does not hold the lock. -/
theorem Inv.not_holder (h : Inv sha256 client s) {i : ℕ}
    (hphase : ∀ second round, s.tasks i ≠ .dialing second round) : s.holder ≠ some i := by
  intro hholder
  obtain ⟨second, round, hdialing⟩ := h.held i hholder
  exact hphase second round hdialing

/-- A task leaves, and gives the lock back. It was the holder or it was not; in both cases nobody
dials without the lock afterwards. -/
theorem Inv.leave (h : Inv sha256 client s) {i : ℕ} {phase : Phase}
    (hphase : phase.Sound sha256 client s i)
    (hleft : ∀ second round, phase ≠ .dialing second round) :
    Inv sha256 client { s.put i phase with
      holder := if s.holder = some i then none else s.holder } := by
  refine ⟨?_, ?_, h.cached, h.reached, h.replaced, h.stale⟩
  · intro j
    by_cases hj : j = i
    · have htask : (s.put i phase).tasks j = phase := by rw [hj, tasks_put_self]
      dsimp only
      rw [htask, hj]
      cases phase with
      | dialing second round => exact absurd rfl (hleft second round)
      | failed err attempts =>
          cases attempts with
          | none => trivial
          | some attempts => exact hphase
      | _ => exact hphase
    · have htask : (s.put i phase).tasks j = s.tasks j := tasks_put_ne hj phase
      dsimp only
      rw [htask]
      refine (h.phases j).mono (Nat.le_refl _) (Nat.le_refl _) fun hholder hlive => ⟨?_, hlive⟩
      have hne : s.holder ≠ some i := by
        rw [hholder]
        exact fun heq => hj (Option.some.inj heq)
      exact (if_neg hne).trans hholder
  · intro j hj
    dsimp only at hj
    by_cases hholder : s.holder = some i
    · rw [if_pos hholder] at hj
      exact absurd hj nofun
    · rw [if_neg hholder] at hj
      have hji : j ≠ i := fun heq => hholder (heq ▸ hj)
      have htask : (s.put i phase).tasks j = s.tasks j := tasks_put_ne hji phase
      dsimp only
      rw [htask]
      exact h.held j hj

/-- A task finds nothing in the cache, and starts to dial. It takes the lock with it, so it is the
only one that dials, and the round it starts has tried nothing yet. -/
theorem Inv.dialling (h : Inv sha256 client s) {i : ℕ} {second : Bool} (hfree : s.holder = none)
    (hlive : s.live = none) :
    Inv sha256 client
      { s.put i (.dialing second (Round.start client)) with holder := some i } := by
  have hself := tasks_put_self s i (.dialing second (Round.start client))
  refine ⟨?_, ?_, h.cached, h.reached, h.replaced, h.stale⟩
  · intro j
    by_cases hj : j = i
    · dsimp only
      rw [hj, hself]
      exact ⟨rfl, hlive, Round.start_sound⟩
    · have htask := tasks_put_ne (s := s) hj (.dialing second (Round.start client))
      dsimp only
      rw [htask]
      refine (h.phases j).mono (Nat.le_refl _) (Nat.le_refl _) fun hholder _ => ?_
      exact absurd (hfree.symm.trans hholder) nofun
  · intro j hj
    obtain rfl : i = j := Option.some.inj hj
    exact ⟨second, Round.start client, hself⟩

/-- An open connection is one that is there and not closed. -/
theorem is_open_iff {c : ℕ} :
    s.is_open c = true ↔ ∃ conn, s.conns[c]? = some conn ∧ conn.closed = false := by
  unfold State.is_open
  rw [Option.any_eq_true]
  simp only [Bool.not_eq_true']

theorem live_eq_some {c : ℕ} : s.live = some c ↔ s.cache = some c ∧ s.is_open c = true := by
  unfold State.live
  rw [Option.filter_eq_some_iff]

/-- A fresh connection takes the place in the cache. There was no live one before it, so a live
connection is still the cached one alone, and the round that made it says which addresses were
passed over. -/
theorem Inv.connected (h : Inv sha256 client s) {i : ℕ} {second : Bool} {conn : Conn}
    (hholder : s.holder = some i) (hlive : s.live = none) (hopen : conn.closed = false)
    (hreached : Reached sha256 client conn.attempts conn.address conn.certificate) :
    Inv sha256 client (s.connected i second conn) := by
  have hlength : (s.connected i second conn).conns.length = s.conns.length + 1 := by
    unfold State.connected
    rw [List.length_append, List.length_singleton]
  have hlost : (s.connected i second conn).lost = s.lost := by
    unfold State.connected State.lost
    dsimp only
    rw [List.countP_append, List.countP_singleton, hopen, if_neg Bool.false_ne_true, Nat.add_zero]
  have hfresh : (s.connected i second conn).live = some s.conns.length := by
    refine live_eq_some.mpr ⟨rfl, is_open_iff.mpr ⟨conn, ?_, hopen⟩⟩
    unfold State.connected
    exact List.getElem?_concat_length
  refine ⟨?_, nofun, ?_, ?_, ?_, ?_⟩
  · intro j
    by_cases hj : j = i
    · have htask : (s.connected i second conn).tasks j = .opening second s.conns.length := by
        rw [hj]
        exact tasks_put_self s i _
      rw [htask]
      show s.conns.length < (s.connected i second conn).conns.length
      omega
    · have htask : (s.connected i second conn).tasks j = s.tasks j := tasks_put_ne hj _
      rw [htask]
      refine (h.phases j).mono (by omega) (Nat.le_of_eq hlost.symm) fun hholder' _ => ?_
      exact absurd (Option.some.inj (hholder'.symm.trans hholder)) hj
  · intro c hc
    obtain rfl : s.conns.length = c := Option.some.inj hc
    exact hlength.symm
  · intro conn' hconn'
    rcases List.mem_append.mp hconn' with hold | hnew
    · exact h.reached conn' hold
    · rw [List.mem_singleton.mp hnew]
      exact hreached
  · have hbefore := h.replaced
    rw [if_pos hlive] at hbefore
    have hinvalidations : (s.connected i second conn).invalidations = s.invalidations := rfl
    rw [hfresh, if_neg (by nofun), hlength, hlost, hinvalidations]
    exact hbefore
  · intro hpositive
    exact hlost ▸ h.stale hpositive

/-- The cached connection is dropped by a session that has met a lost one. One more invalidation
is counted, which is what the next fresh connection is weighed against. -/
theorem Inv.invalidated (h : Inv sha256 client s) {i : ℕ} (hphase : s.tasks i = .invalidating)
    (hfree : s.holder = none) :
    Inv sha256 client { s.put i (.waiting true) with
      cache := none, invalidations := s.invalidations + 1 } := by
  have hlost : 0 < s.lost := by
    have hsound := h.phases i
    rw [hphase] at hsound
    exact hsound
  refine ⟨?_, ?_, nofun, h.reached, ?_, fun _ => hlost⟩
  · intro j
    by_cases hj : j = i
    · have htask : (s.put i (.waiting true)).tasks j = .waiting true := by rw [hj, tasks_put_self]
      dsimp only
      rw [htask]
      trivial
    · have htask := tasks_put_ne (s := s) hj (.waiting true)
      dsimp only
      rw [htask]
      refine (h.phases j).mono (Nat.le_refl _) (Nat.le_refl _) fun hholder _ => ?_
      exact absurd (hfree.symm.trans hholder) nofun
  · intro j hj
    exact absurd (hfree.symm.trans hj) nofun
  · have hbefore := h.replaced
    have hsame : ∀ u : State, u.conns = s.conns → u.lost = s.lost := by
      intro u hu
      unfold State.lost
      rw [hu]
    rw [hsame { s.put i (.waiting true) with
      cache := none, invalidations := s.invalidations + 1 } rfl]
    rw [if_pos (show State.live { s.put i (.waiting true) with
      cache := none, invalidations := s.invalidations + 1 } = none from rfl)]
    have hconns : s.conns.length ≤ 1 + s.lost + s.invalidations := Nat.le_of_add_right_le hbefore
    exact Nat.succ_le_succ hconns

/-- An element of a changed list is an old one or the changed one. -/
theorem mem_modify {α : Type} {f : α → α} {l : List α} {c : ℕ} {a : α} (h : a ∈ l.modify c f) :
    ∃ b ∈ l, a = b ∨ a = f b := by
  obtain ⟨k, hk⟩ := List.mem_iff_getElem?.mp h
  rw [List.getElem?_modify] at hk
  obtain ⟨b, hb, hab⟩ := Option.map_eq_some_iff.mp hk
  refine ⟨b, List.mem_of_getElem? hb, ?_⟩
  by_cases hck : c = k
  · rw [if_pos hck] at hab
    exact Or.inr hab.symm
  · rw [if_neg hck] at hab
    exact Or.inl hab.symm

/-- A change of one element adds one to the count. By induction on the list, down to the element
that is changed. -/
theorem countP_modify {α : Type} {p : α → Bool} {f : α → α} {l : List α} {c : ℕ} {a : α}
    (h : l[c]? = some a) (hbefore : p a = false) (hafter : p (f a) = true) :
    (l.modify c f).countP p = l.countP p + 1 := by
  induction l generalizing c with
  | nil => exact absurd h nofun
  | cons b l ih =>
      cases c with
      | zero =>
          rw [List.getElem?_cons_zero, Option.some.injEq] at h
          rw [List.modify_zero_cons, List.countP_cons, List.countP_cons, h, hbefore, hafter]
          rfl
      | succ c =>
          rw [List.getElem?_cons_succ] at h
          rw [List.modify_succ_cons, List.countP_cons, List.countP_cons, ih h]
          omega

/-- A connection that closes is lost, and is live for nobody. The others are where they were, and
the number of lost connections, which bounds how many there are, is one more. -/
theorem Inv.closing (h : Inv sha256 client s) {c : ℕ} (hopen : s.is_open c = true) :
    Inv sha256 client (s.closing c) := by
  have hlength : (s.closing c).conns.length = s.conns.length := List.length_modify _ _ _
  have hlost : (s.closing c).lost = s.lost + 1 := by
    obtain ⟨conn, hconn, hclosed⟩ := is_open_iff.mp hopen
    exact countP_modify hconn hclosed rfl
  have hstill : ∀ c', (s.closing c).is_open c' = true → s.is_open c' = true := by
    intro c' hc'
    obtain ⟨conn, hconn, hclosed⟩ := is_open_iff.mp hc'
    unfold State.closing at hconn
    rw [List.getElem?_modify] at hconn
    obtain ⟨old, hold, hsame⟩ := Option.map_eq_some_iff.mp hconn
    refine is_open_iff.mpr ⟨old, hold, ?_⟩
    by_cases hc : c = c'
    · rw [if_pos hc] at hsame
      rw [← hsame] at hclosed
      exact absurd hclosed nofun
    · rw [if_neg hc] at hsame
      exact (congrArg Conn.closed hsame).trans hclosed
  have hlive : s.live = none → (s.closing c).live = none := by
    intro hnone
    rw [Option.eq_none_iff_forall_ne_some] at hnone ⊢
    intro c' hc'
    obtain ⟨hcache, hc'⟩ := live_eq_some.mp hc'
    exact hnone c' (live_eq_some.mpr ⟨hcache, hstill c' hc'⟩)
  refine ⟨?_, h.held, ?_, ?_, ?_, ?_⟩
  · intro j
    exact (h.phases j).mono (by omega) (by omega) fun hholder hnone => ⟨hholder, hlive hnone⟩
  · intro c' hc'
    rw [hlength]
    exact h.cached c' hc'
  · intro conn hconn
    obtain ⟨old, hold, rfl | rfl⟩ := mem_modify hconn
    · exact h.reached conn hold
    · exact h.reached old hold
  · have hbefore := Nat.le_of_add_right_le h.replaced
    have hinvalidations : (s.closing c).invalidations = s.invalidations := rfl
    rw [hlength, hlost, hinvalidations]
    split
    · omega
    · omega
  · intro _
    omega

/-- One that is not open any more was lost. -/
theorem lost_of_not_open {c : ℕ} (hc : c < s.conns.length) (hopen : ¬ s.is_open c = true) :
    0 < s.lost := by
  have hconn : s.conns[c]? = some s.conns[c] := List.getElem?_eq_getElem hc
  refine List.countP_pos_iff.mpr ⟨s.conns[c], List.getElem_mem hc, ?_⟩
  by_contra hclosed
  exact hopen (is_open_iff.mpr ⟨_, hconn, Bool.eq_false_iff.mpr hclosed⟩)

/-- What an event does. -/
inductive Move (sha256 : List UInt8 → List UInt8) (client : QuicClient) (s : State) :
    Event → State → Prop
  | start {i : ℕ} (hphase : s.tasks i = .idle) :
    Move sha256 client s (.start i) (s.put i (.waiting false))
  | hit {i : ℕ} {second : Bool} {c : ℕ} (hphase : s.tasks i = .waiting second)
    (hfree : s.holder = none) (hlive : s.live = some c) :
    Move sha256 client s (.enter i) (s.put i (.opening second c))
  | miss {i : ℕ} {second : Bool} (hphase : s.tasks i = .waiting second) (hfree : s.holder = none)
    (hlive : s.live = none) :
    Move sha256 client s (.enter i)
      { s.put i (.dialing second (Round.start client)) with holder := some i }
  | looked_up {i : ℕ} {second : Bool} {replica : String} {rest : List String} {last : Option String}
    {attempts : List Attempt} (result : Except String (List String))
    (hphase : s.tasks i = .dialing second ⟨[], replica :: rest, last, attempts⟩) :
    Move sha256 client s (.lookup i result) (s.put i (.dialing second
      (Round.looked_up ⟨[], replica :: rest, last, attempts⟩ replica rest result)))
  | refused {i : ℕ} {second : Bool} {address : String} {addresses replicas : List String}
    {last : Option String} {attempts : List Attempt} {answer : Answer} {err : String}
    (hphase : s.tasks i = .dialing second ⟨address :: addresses, replicas, last, attempts⟩)
    (hdial : dial sha256 client answer = .error err) :
    Move sha256 client s (.dial i answer) (s.put i (.dialing second
      ⟨addresses, replicas, some err, attempts ++ [.dial address answer]⟩))
  | reached {i : ℕ} {second : Bool} {address : String} {addresses replicas : List String}
    {last : Option String} {attempts : List Attempt} {answer : Answer} {certificate : List UInt8}
    (hphase : s.tasks i = .dialing second ⟨address :: addresses, replicas, last, attempts⟩)
    (hdial : dial sha256 client answer = .ok certificate) :
    Move sha256 client s (.dial i answer)
      (s.connected i second ⟨address, certificate, false, attempts ++ [.dial address answer]⟩)
  | gave_up {i : ℕ} {second : Bool} {last : Option String} {attempts : List Attempt}
    (hphase : s.tasks i = .dialing second ⟨[], [], last, attempts⟩) :
    Move sha256 client s (.give_up i)
      { s.put i (.failed (last.getD "no fabricd replica addresses to connect to")
        (some attempts)) with holder := none }
  | opened {i : ℕ} {second : Bool} {c : ℕ} (hphase : s.tasks i = .opening second c)
    (hopen : s.is_open c = true) : Move sha256 client s (.open_bi i (.ok ())) (s.put i (.opened c))
  | stale {i c : ℕ} {err : String} (hphase : s.tasks i = .opening false c)
    (hopen : ¬ s.is_open c = true) :
    Move sha256 client s (.open_bi i (.error err)) (s.put i .invalidating)
  | broken {i c : ℕ} {err : String} (hphase : s.tasks i = .opening true c)
    (hopen : ¬ s.is_open c = true) :
    Move sha256 client s (.open_bi i (.error err)) (s.put i (.failed err none))
  | invalidated {i : ℕ} (hphase : s.tasks i = .invalidating) (hfree : s.holder = none) :
    Move sha256 client s (.invalidate i) { s.put i (.waiting true) with
      cache := none, invalidations := s.invalidations + 1 }
  | closed {c : ℕ} (hopen : s.is_open c = true) : Move sha256 client s (.close c) (s.closing c)
  | cancelled {i : ℕ} (hphase : ¬ (s.tasks i).over = true) :
    Move sha256 client s (.cancel i) { s.put i .cancelled with
      holder := if s.holder = some i then none else s.holder }

/-- **What a step can do**, one case for each event and what it found. All that follows about runs
is by cases on `Move` and never looks at `step` again. -/
theorem step_cases {e : Event} {t : State} (hstep : step sha256 client s e = some t) :
    Move sha256 client s e t := by
  unfold step at hstep
  cases e with
  | start i =>
      dsimp only at hstep
      split at hstep
      · rename_i hphase
        exact Option.some.inj hstep ▸ .start hphase
      · cases hstep
  | enter i =>
      dsimp only at hstep
      split at hstep
      · rename_i second hphase
        by_cases hfree : s.holder = none
        · rw [if_pos hfree] at hstep
          split at hstep
          · rename_i c hlive
            exact Option.some.inj hstep ▸ .hit hphase hfree hlive
          · rename_i hlive
            exact Option.some.inj hstep ▸ .miss hphase hfree hlive
        · rw [if_neg hfree] at hstep
          cases hstep
      · cases hstep
  | lookup i result =>
      dsimp only at hstep
      split at hstep
      · rename_i hphase
        exact Option.some.inj hstep ▸ .looked_up result hphase
      · cases hstep
  | dial i answer =>
      dsimp only at hstep
      split at hstep
      · rename_i hphase
        cases hdial : dial sha256 client answer with
        | error err =>
            rw [hdial] at hstep
            exact Option.some.inj hstep ▸ .refused hphase hdial
        | ok certificate =>
            rw [hdial] at hstep
            exact Option.some.inj hstep ▸ .reached hphase hdial
      · cases hstep
  | give_up i =>
      dsimp only at hstep
      split at hstep
      · rename_i hphase
        exact Option.some.inj hstep ▸ .gave_up hphase
      · cases hstep
  | open_bi i result =>
      dsimp only at hstep
      split at hstep
      · rename_i second c hphase
        by_cases hopen : s.is_open c = true
        · rw [if_pos hopen] at hstep
          exact Option.some.inj hstep ▸ .opened hphase hopen
        · rw [if_neg hopen] at hstep
          cases hstep
      · rename_i second c err hphase
        by_cases hopen : s.is_open c = true
        · rw [if_pos hopen] at hstep
          cases hstep
        · rw [if_neg hopen] at hstep
          cases second with
          | false => exact Option.some.inj hstep ▸ .stale hphase hopen
          | true => exact Option.some.inj hstep ▸ .broken hphase hopen
      · cases hstep
  | invalidate i =>
      dsimp only at hstep
      split at hstep
      · rename_i hphase
        by_cases hfree : s.holder = none
        · rw [if_pos hfree] at hstep
          exact Option.some.inj hstep ▸ .invalidated hphase hfree
        · rw [if_neg hfree] at hstep
          cases hstep
      · cases hstep
  | close c =>
      dsimp only at hstep
      by_cases hopen : s.is_open c = true
      · rw [if_pos hopen] at hstep
        exact Option.some.inj hstep ▸ .closed hopen
      · rw [if_neg hopen] at hstep
        cases hstep
  | cancel i =>
      dsimp only at hstep
      by_cases hphase : (s.tasks i).over = true
      · rw [if_pos hphase] at hstep
        cases hstep
      · rw [if_neg hphase] at hstep
        exact Option.some.inj hstep ▸ .cancelled hphase

/-- One event keeps the invariant. `Move` says what the event did; each of its cases is one of the
lemmas above. -/
theorem step_inv (h : Inv sha256 client s) {e : Event} {t : State}
    (hstep : step sha256 client s e = some t) : Inv sha256 client t := by
  have hfrom : ∀ {i phase}, s.tasks i = phase → phase.Sound sha256 client s i := by
    rintro i phase rfl
    exact h.phases i
  have hother : ∀ {i phase new}, s.tasks i = phase → (∀ second round, phase ≠ .dialing second round) →
      s.holder = some i → ∃ second round, new = Phase.dialing second round := by
    rintro i phase new rfl hphase hholder
    exact absurd hholder (h.not_holder hphase)
  cases step_cases hstep with
  | start hphase => exact h.put trivial (hother hphase nofun)
  | @hit i second c hphase hfree hlive =>
      refine h.put ?_ (hother hphase nofun)
      have hnewest := h.cached c (live_eq_some.mp hlive).1
      show c < s.conns.length
      omega
  | miss hphase hfree hlive => exact h.dialling hfree hlive
  | looked_up result hphase =>
      obtain ⟨hholder, hlive, hround⟩ := hfrom hphase
      exact h.put ⟨hholder, hlive, Round.looked_up_sound hround result⟩ fun _ => ⟨_, _, rfl⟩
  | refused hphase hdial =>
      obtain ⟨hholder, hlive, hround⟩ := hfrom hphase
      exact h.put ⟨hholder, hlive, Round.refused_sound hround hdial⟩ fun _ => ⟨_, _, rfl⟩
  | reached hphase hdial =>
      obtain ⟨hholder, hlive, hround⟩ := hfrom hphase
      exact h.connected hholder hlive rfl (Round.reached hround hdial)
  | @gave_up i second last attempts hphase =>
      obtain ⟨hholder, hlive, hround⟩ := hfrom hphase
      have hfailed : (Phase.failed _ (some attempts)).Sound sha256 client s i := Round.gives_up hround
      have hleave := h.leave hfailed nofun
      rw [if_pos hholder] at hleave
      exact hleave
  | opened hphase hopen =>
      have hsound := hfrom hphase
      exact h.put hsound (hother hphase nofun)
  | stale hphase hopen => exact h.put (lost_of_not_open (hfrom hphase) hopen) (hother hphase nofun)
  | broken hphase hopen => exact h.put trivial (hother hphase nofun)
  | invalidated hphase hfree => exact h.invalidated hphase hfree
  | closed hopen => exact h.closing hopen
  | cancelled hphase => exact h.leave trivial nofun

theorem fresh_inv : Inv sha256 client State.fresh := by
  refine ⟨fun _ => trivial, nofun, nofun, ?_, Nat.le_refl _, fun h => absurd h (Nat.lt_irrefl 0)⟩
  intro conn hconn
  exact absurd hconn List.not_mem_nil

theorem run_fresh_inv {es : List Event} {t : State}
    (hrun : run (step sha256 client) State.fresh es = some t) : Inv sha256 client t :=
  run_inv (fun _ _ _ h hstep => step_inv h hstep) fresh_inv hrun

/-- The lock acquisitions of `live_connection` that a session has left. -/
def Phase.rounds_left : Phase → ℕ
  | .idle | .waiting false => 2
  | .waiting true | .dialing false _ | .opening false _ | .invalidating => 1
  | _ => 0

def Event.enters (i : ℕ) : Event → Bool
  | .enter j => j == i
  | _ => false

/-- A caller that begins a round has one less to begin. No step of another changes that, and a
caller that has invalidated is on its last one. -/
theorem Move.rounds {e : Event} {t : State} (h : Move sha256 client s e t) (i : ℕ) :
    (if e.enters i then 1 else 0) + (t.tasks i).rounds_left ≤ (s.tasks i).rounds_left := by
  -- a session that the event is not about stays where it is
  have hput : ∀ {j phase new}, s.tasks j = phase → new.rounds_left ≤ phase.rounds_left →
      ((s.put j new).tasks i).rounds_left ≤ (s.tasks i).rounds_left := by
    rintro j phase new rfl hle
    by_cases hj : i = j
    · rw [hj, tasks_put_self]
      exact hle
    · exact Nat.le_of_eq (by rw [tasks_put_ne hj])
  have henter : ∀ {j second new}, s.tasks j = .waiting second →
      new.rounds_left + 1 ≤ (Phase.waiting second).rounds_left →
        (if Event.enters i (.enter j) then 1 else 0) + ((s.put j new).tasks i).rounds_left
          ≤ (s.tasks i).rounds_left := by
    intro j second new hphase hle
    by_cases hj : i = j
    · rw [hj, tasks_put_self, hphase]
      rw [if_pos (show Event.enters j (.enter j) = true from beq_self_eq_true j), Nat.add_comm]
      exact hle
    · rw [tasks_put_ne hj]
      rw [if_neg (show ¬ Event.enters i (.enter j) = true from fun heq => hj (eq_of_beq heq).symm)]
      omega
  have hquiet : ∀ {n : ℕ}, n ≤ (s.tasks i).rounds_left →
      (if false = true then 1 else 0) + n ≤ (s.tasks i).rounds_left := by
    intro n hn
    rw [if_neg Bool.false_ne_true]
    omega
  cases h with
  | start hphase => exact hquiet (hput hphase (Nat.le_refl _))
  | @hit j second c hphase _ _ => exact henter hphase (by cases second <;> exact Nat.le_refl _)
  | @miss j second hphase _ _ => exact henter hphase (by cases second <;> exact Nat.le_refl _)
  | @looked_up j second _ _ _ _ result hphase =>
      exact hquiet (hput hphase (by cases second <;> exact Nat.le_refl _))
  | @refused j second _ _ _ _ _ _ _ hphase hdial =>
      exact hquiet (hput hphase (by cases second <;> exact Nat.le_refl _))
  | @reached j second _ _ _ _ _ _ _ hphase hdial =>
      exact hquiet (hput hphase (by cases second <;> exact Nat.le_refl _))
  | gave_up hphase => exact hquiet (hput hphase (Nat.zero_le _))
  | opened hphase _ => exact hquiet (hput hphase (Nat.zero_le _))
  | stale hphase _ => exact hquiet (hput hphase (Nat.le_refl _))
  | broken hphase _ => exact hquiet (hput hphase (Nat.zero_le _))
  | invalidated hphase _ => exact hquiet (hput hphase (Nat.le_refl _))
  | closed _ => exact hquiet (Nat.le_refl _)
  | cancelled _ => exact hquiet (hput rfl (Nat.zero_le _))

end Runs

/-- The client of a configuration: its pin is the 32 bytes of the configured text. -/
theorem from_config_quic {hex_decode : String → Except String (List UInt8)} {socket : Option String}
    {quic : FabricdQuic} {client : QuicClient}
    (h : SidecarTransport.from_config hex_decode socket (some quic) = .ok (.quic client)) :
    client.replicas = quic.replicas ∧ quic.replicas ≠ []
      ∧ hex_decode (trim quic.server_cert_pin) = .ok client.pin ∧ client.pin.length = 32 := by
  unfold SidecarTransport.from_config at h
  obtain ⟨u, hreplicas, h⟩ := Result.bind_eq_ok.mp h
  obtain ⟨built, hbuilt, h⟩ := Result.bind_eq_ok.mp h
  obtain rfl : built = client := SidecarTransport.quic.inj (Except.ok.inj h)
  unfold QuicClient.from_config parse_pin at hbuilt
  obtain ⟨pin, hpin, hbuilt⟩ := Result.bind_eq_ok.mp hbuilt
  obtain ⟨auth, hauth, hbuilt⟩ := Result.bind_eq_ok.mp hbuilt
  obtain ⟨bytes, hdecoded, hpin⟩ := Result.bind_eq_ok.mp hpin
  obtain ⟨u', hlength, hpin⟩ := Result.bind_eq_ok.mp hpin
  cases hbuilt
  cases hpin
  exact ⟨rfl, Result.fail_if_eq_ok.mp hreplicas, Result.mapError_eq_ok.mp hdecoded,
    not_not.mp (Result.fail_if_eq_ok.mp hlength)⟩

/-- What holds of a client at any moment. -/
structure ClientSafe (sha256 : List UInt8 → List UInt8) (client : QuicClient) (s : State) : Prop where
  /-- A stream is on a connection to the first address, in the order of the configured replicas, where a
  handshake came to its end, and that peer has the pinned certificate. -/
  streams : ∀ i c, s.tasks i = .opened c → ∃ conn, s.conns[c]? = some conn
    ∧ Reached sha256 client conn.attempts conn.address conn.certificate
  /-- One session at a time dials, and only while no open connection is cached. -/
  dials : ∀ i second round, s.tasks i = .dialing second round → s.live = none
    ∧ ∀ j second' round', s.tasks j = .dialing second' round' → i = j
  /-- A session that fails to connect has tried every address of every replica. -/
  fails : ∀ i err attempts, s.tasks i = .failed err (some attempts) →
    Exhausted sha256 client client.replicas attempts ∧ err = connect_error sha256 client attempts
  /-- Each connection but the first replaces one that was lost, or that a session invalidated. -/
  replaced : s.conns.length ≤ 1 + s.lost + s.invalidations
  /-- As long as none is lost, there is one connection, and every stream is on it. -/
  shared : s.lost = 0 → s.conns.length ≤ 1
    ∧ ∀ i j c c', s.tasks i = .opened c → s.tasks j = .opened c' → c = c'

/-- What the client owes its callers is read off the invariant: a stream is on a connection, a
connection was reached by its round, and a failed round has been through every replica. -/
theorem Inv.safe {sha256 : List UInt8 → List UInt8} {client : QuicClient} {s : State}
    (h : Inv sha256 client s) : ClientSafe sha256 client s := by
  have hfrom : ∀ {i phase}, s.tasks i = phase → phase.Sound sha256 client s i := by
    rintro i phase rfl
    exact h.phases i
  have hbound := Nat.le_of_add_right_le h.replaced
  refine ⟨?_, ?_, fun i err attempts hphase => hfrom hphase, hbound, ?_⟩
  · intro i c hphase
    have hc : c < s.conns.length := hfrom hphase
    exact ⟨s.conns[c], List.getElem?_eq_getElem hc, h.reached _ (List.getElem_mem hc)⟩
  · intro i second round hphase
    obtain ⟨hholder, hlive, -⟩ := hfrom hphase
    refine ⟨hlive, ?_⟩
    intro j second' round' hphase'
    obtain ⟨hholder', -, -⟩ := hfrom hphase'
    exact Option.some.inj (hholder.symm.trans hholder')
  · intro hnone
    have hfew : s.conns.length ≤ 1 := by
      have hstale := h.stale
      omega
    refine ⟨hfew, ?_⟩
    intro i j c c' hi hj
    have hc : c < s.conns.length := hfrom hi
    have hc' : c' < s.conns.length := hfrom hj
    omega

/-- **The sessions of a box share one pinned link.** In every run of the client of a configuration,
whatever the replicas answer, whichever connections are lost and whichever requests are dropped. And a
session dials at most twice. -/
theorem client_runs (sha256 : List UInt8 → List UInt8)
    {hex_decode : String → Except String (List UInt8)} {socket : Option String} {quic : FabricdQuic}
    {client : QuicClient}
    (hconfig : SidecarTransport.from_config hex_decode socket (some quic) = .ok (.quic client))
    {es : List Event} {s : State} (hrun : run (step sha256 client) State.fresh es = some s) :
    client.replicas = quic.replicas ∧ hex_decode (trim quic.server_cert_pin) = .ok client.pin
      ∧ client.pin.length = 32 ∧ ClientSafe sha256 client s
      ∧ ∀ i, es.countP (Event.enters i) ≤ 2 := by
  obtain ⟨hreplicas, -, hpin, hlength⟩ := from_config_quic hconfig
  refine ⟨hreplicas, hpin, hlength, (run_fresh_inv hrun).safe, ?_⟩
  intro i
  have hstep : ∀ s e t, step sha256 client s e = some t →
      (if e.enters i then 1 else 0) + (t.tasks i).rounds_left ≤ (s.tasks i).rounds_left :=
    fun _ _ _ h => (step_cases h).rounds i
  have hrounds := run_potential hstep hrun
  have htwo : (State.fresh.tasks i).rounds_left = 2 := rfl
  omega

/-! The first address is down, and behind the second the certificate is another's: it is shown, but its
key is not there to sign. The two sessions share the connection to the third. -/

/-- SHA-256 of `abc`. -/
def abc_digest : List UInt8 :=
  [0xba, 0x78, 0x16, 0xbf, 0x8f, 0x01, 0xcf, 0xea, 0x41, 0x41, 0x40, 0xde, 0x5d, 0xae, 0x22, 0x23,
    0xb0, 0x03, 0x61, 0xa3, 0x96, 0x17, 0x7a, 0x9c, 0xb4, 0x10, 0xff, 0x61, 0xf2, 0x00, 0x15, 0xad]

def abc_pin : String := "ba7816bf8f01cfea414140de5dae2223b00361a396177a9cb410ff61f20015ad"

/-- `hex::decode` at the pin. -/
def decode_abc_pin (text : String) : Except String (List UInt8) :=
  if text = abc_pin then .ok abc_digest else .error "Odd number of digits"

/-- SHA-256 at the certificate. -/
def hash_abc (bytes : List UInt8) : List UInt8 := if bytes = utf8 "abc" then abc_digest else []

def one_name : FabricdQuic where
  replicas := ["fabricd:7000"]
  server_name := "fabricd"
  server_cert_pin := abc_pin
  auth_token := some "old"

def one_name_client : QuicClient := ⟨abc_digest, ["fabricd:7000"], "fabricd", .static "old"⟩

def failover : List Event :=
  [.start 0, .enter 0, .start 1,
    .lookup 0 (.ok ["10.0.0.1:7000", "10.0.0.2:7000", "10.0.0.3:7000"]),
    .dial 0 (.unreachable "timed out"),
    .dial 0 (.presents (utf8 "abc") "bad certificate" (.error "invalid peer signature")),
    .dial 0 (.presents (utf8 "abc") "bad certificate" (.ok ())),
    .enter 1, .open_bi 1 (.ok ()), .open_bi 0 (.ok ())]

theorem one_name_configured :
    SidecarTransport.from_config decode_abc_pin none (some one_name)
      = .ok (.quic one_name_client) := by
  decide +kernel

/-- A run with a failover: the first address does not answer, the handshake with the second fails
behind its certificate, and the third completes it. Both sessions have their stream on that one
connection. -/
theorem client_runs_failover :
    ∃ s, run (step hash_abc one_name_client) State.fresh failover = some s
      ∧ ClientSafe hash_abc one_name_client s ∧ s.conns.length = 1 := by
  have hrun : (run (step hash_abc one_name_client) State.fresh failover).map
      (fun s => s.conns.length) = some 1 := by
    decide +kernel
  obtain ⟨s, hs, hone⟩ := Option.map_eq_some_iff.mp hrun
  exact ⟨s, hs, (client_runs hash_abc one_name_configured hs).2.2.2.1, hone⟩

end Runlet.Quic
