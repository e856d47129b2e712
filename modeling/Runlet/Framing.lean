/-
Sessions of frames: `write_frame` and `read_frame` (`crates/fabric-wire/src/wire.rs`)
over a stream that the transport delivers in pieces.

`Wire` has what one frame is; here a whole stream is written and read. `read_frame`
asks the transport for the header and then for the body, and what it asks for is part
of the model. The stream ends, or the transport fails; nothing is said of when.

Reading undoes writing (`frames_round_trip`). Truncation is told from a clean close
everywhere but inside a length header (`truncation_detected_iff`).
-/
import Runlet.Lib.Effects
import Runlet.Lib.Pieces
import Runlet.Lib.Text
import Runlet.Wire

set_option autoImplicit false

namespace Runlet.Framing

open Effects Pieces Runlet.Wire

variable {α : Type}

/-! ## Writing -/

/-- `write_frame` on a stream that takes what it is given. -/
def write_to (codec : Codec α) (stream : List UInt8) (value : α) :
    Except IoError Unit × List UInt8 :=
  match write_frame codec value with
  | .ok frame => (.ok (), stream ++ frame)
  | .error err => (.error err, stream)

/-- One `write_frame` after the other, up to the first error. -/
def write_frames (codec : Codec α) : List UInt8 → List α → Except IoError Unit × List UInt8
  | stream, [] => (.ok (), stream)
  | stream, value :: values =>
    match write_to codec stream value with
    | (.ok (), stream) => write_frames codec stream values
    | (.error err, stream) => (.error err, stream)

/-! ## Reading -/

/-- The reading end: what is still to come, and how it ends. -/
structure Stream where
  pieces : List (List UInt8)
  failure : Option IoError

def Stream.bytes (s : Stream) : List UInt8 := s.pieces.flatten

/-- A stream that ends. -/
def ending (pieces : List (List UInt8)) : Stream := ⟨pieces, none⟩

def early_eof : IoError := ⟨.unexpected_eof, "early eof"⟩

/-- `AsyncReadExt::read_exact` into a buffer of `n` bytes. -/
def read_exact (n : ℕ) (s : Stream) : Except IoError (List UInt8 × Stream) :=
  match take_exact n s.pieces with
  | some (buf, rest) => .ok (buf, { s with pieces := rest })
  | none => .error (s.failure.getD early_eof)

/-- What `read_frame` asks the transport for. -/
inductive Request
  | header
  | body (size : ℕ)
  deriving DecidableEq, Repr

def over_cap : IoError := ⟨.invalid_data, "frame exceeds size cap"⟩

/-- `read_frame` after the header. -/
def read_body (codec : Codec α) (len : ℕ) (s : Stream) : Eff Request IoError (α × Stream) := do
  perform (.body len)
  let (buf, rest) ← lift (read_exact len s)
  match codec.from_slice buf with
  | .ok value => pure (value, rest)
  | .error err => leave ⟨.invalid_data, err⟩

/-- `read_frame`: the next value with the stream after it, or `none` for `Ok(None)`. -/
def read_frame (codec : Codec α) (s : Stream) : Eff Request IoError (Option (α × Stream)) := do
  perform .header
  match read_exact 4 s with
  | .error err => if err.kind = .unexpected_eof then pure none else leave err
  | .ok (len_buf, rest) =>
    let len := from_le_bytes len_buf
    if MAX_FRAME_BYTES < len then leave over_cap
    else do
      let next ← read_body codec len rest
      pure (some next)

/-! ## One read -/

section Read

variable {codec : Codec α}

/-- So many bytes are read, if they are there, and the rest stays. -/
theorem read_exact_of_le {n : ℕ} {s : Stream} (h : n ≤ s.bytes.length) :
    ∃ rest, read_exact n s = .ok (s.bytes.take n, rest) ∧ rest.bytes = s.bytes.drop n
      ∧ rest.failure = s.failure := by
  obtain ⟨rest, htake, hrest⟩ := take_exact_of_le h
  refine ⟨{ s with pieces := rest }, ?_, hrest, rfl⟩
  rw [read_exact, htake]
  rfl

theorem read_exact_of_lt {n : ℕ} {s : Stream} (h : s.bytes.length < n) :
    read_exact n s = .error (s.failure.getD early_eof) := by
  rw [read_exact, take_exact_of_lt h]

/-- The length a stream announces. -/
def announced (bytes : List UInt8) : ℕ := from_le_bytes (bytes.take 4)

/-- What `read_frame` does past the header: with four bytes there, the announced length is known,
and it is refused over the cap or asked for within it. What the stream holds behind the header is
left untouched until then. -/
theorem read_frame_of_header (codec : Codec α) {s : Stream} (h4 : 4 ≤ s.bytes.length) :
    ∃ rest : Stream, rest.bytes = s.bytes.drop 4 ∧ rest.failure = s.failure
      ∧ (MAX_FRAME_BYTES < announced s.bytes →
          (read_frame codec s).result = .error over_cap)
      ∧ (announced s.bytes ≤ MAX_FRAME_BYTES → (read_frame codec s).result
          = (read_body codec (announced s.bytes) rest).result.map some) := by
  obtain ⟨rest, hread, hrest, hfailure⟩ := read_exact_of_le h4
  refine ⟨rest, hrest, hfailure, ?_, ?_⟩
  · intro hover
    unfold announced at hover
    rw [read_frame, hread, result_bind rfl]
    dsimp only
    rw [if_pos hover]
    rfl
  · intro hle
    unfold announced at hle ⊢
    rw [read_frame, hread, result_bind rfl]
    dsimp only
    rw [if_neg (Nat.not_lt.mpr hle)]
    cases hbody : (read_body codec (from_le_bytes (s.bytes.take 4)) rest).result with
    | ok next =>
        rw [result_bind hbody]
        rfl
    | error err =>
        rw [result_bind_error hbody]
        rfl

/-- A body that is all there decodes, or does not. -/
theorem read_body_of_le (codec : Codec α) {len : ℕ} {s : Stream} (h : len ≤ s.bytes.length) :
    (∀ err, codec.from_slice (s.bytes.take len) = .error err →
        (read_body codec len s).result = .error ⟨.invalid_data, err⟩)
      ∧ ∀ value, codec.from_slice (s.bytes.take len) = .ok value →
        ∃ rest, (read_body codec len s).result = .ok (value, rest)
          ∧ rest.bytes = s.bytes.drop len ∧ rest.failure = s.failure := by
  obtain ⟨rest, hread, hrest, hfailure⟩ := read_exact_of_le h
  constructor
  · intro err herr
    rw [read_body, hread, result_bind rfl, result_bind rfl]
    dsimp only
    rw [herr]
    rfl
  · intro value hvalue
    refine ⟨rest, ?_, hrest, hfailure⟩
    rw [read_body, hread, result_bind rfl, result_bind rfl]
    dsimp only
    rw [hvalue]
    rfl

theorem read_body_of_lt {len : ℕ} {s : Stream} (h : s.bytes.length < len) :
    (read_body codec len s).result = .error (s.failure.getD early_eof) := by
  rw [read_body, read_exact_of_lt h, result_bind rfl]
  exact result_bind_error rfl

/-! Every end of `read_frame`, by the bytes that are left. -/

/-- Fewer than four bytes: the end of the stream, wherever it falls, is `Ok(None)`. -/
theorem read_frame_short {s : Stream} (h : s.bytes.length < 4) (hs : s.failure = none) :
    (read_frame codec s).result = .ok none := by
  rw [read_frame, read_exact_of_lt h, result_bind rfl, hs]
  rfl

/-- The body is cut off, or too long to be asked for. -/
theorem read_frame_cut (codec : Codec α) {s : Stream} (h4 : 4 ≤ s.bytes.length)
    (h : s.bytes.length < 4 + announced s.bytes) :
    ∃ err, (read_frame codec s).result = .error err := by
  obtain ⟨rest, hrest, -, hover, hbody⟩ := read_frame_of_header codec h4
  by_cases hcap : MAX_FRAME_BYTES < announced s.bytes
  · exact ⟨_, hover hcap⟩
  · have hlen : rest.bytes.length < announced s.bytes := by
      rw [hrest, List.length_drop]
      omega
    rw [hbody (Nat.not_lt.mp hcap), read_body_of_lt hlen]
    exact ⟨_, rfl⟩

/-- A whole frame. The body is read to its end and given to the codec: what the codec refuses is
an error of the frame, and what it reads is the message, with the stream standing behind the
frame. -/
theorem read_frame_whole (codec : Codec α) {s : Stream} (h : 4 + announced s.bytes ≤ s.bytes.length)
    (hcap : announced s.bytes ≤ MAX_FRAME_BYTES) :
    (∀ err, codec.from_slice ((s.bytes.drop 4).take (announced s.bytes)) = .error err →
        (read_frame codec s).result = .error ⟨.invalid_data, err⟩)
      ∧ ∀ value, codec.from_slice ((s.bytes.drop 4).take (announced s.bytes)) = .ok value →
        ∃ rest, (read_frame codec s).result = .ok (some (value, rest))
          ∧ rest.bytes = s.bytes.drop (4 + announced s.bytes) ∧ rest.failure = s.failure := by
  -- `body` is the stream behind the header
  obtain ⟨body, hdrop, hfailure, -, hframe⟩ :=
    read_frame_of_header codec (show 4 ≤ s.bytes.length by omega)
  have hlen : announced s.bytes ≤ body.bytes.length := by
    rw [hdrop, List.length_drop]
    omega
  obtain ⟨hbad, hgood⟩ := read_body_of_le codec hlen
  rw [hdrop] at hbad hgood
  constructor
  · intro err herr
    rw [hframe hcap, hbad err herr]
    rfl
  · intro value hvalue
    obtain ⟨rest, hread, hrest, hrestf⟩ := hgood value hvalue
    refine ⟨rest, ?_, ?_, hrestf.trans hfailure⟩
    · rw [hframe hcap, hread]
      rfl
    · rw [hrest, List.drop_drop]

/-- What a frame that was read took off the stream. -/
structure Taken (codec : Codec α) (s : Stream) (value : α) (rest : Stream) : Prop where
  whole : 4 + announced s.bytes ≤ s.bytes.length
  cap : announced s.bytes ≤ MAX_FRAME_BYTES
  decodes : codec.from_slice ((s.bytes.drop 4).take (announced s.bytes)) = .ok value
  rest_bytes : rest.bytes = s.bytes.drop (4 + announced s.bytes)
  rest_failure : rest.failure = s.failure

/-- A frame that is read was on the stream in full, within the cap, and is taken from its front;
all that is relied on of a reader is in `Taken`. -/
theorem read_frame_some {s rest : Stream} {value : α}
    (h : (read_frame codec s).result = .ok (some (value, rest))) :
    Taken codec s value rest := by
  by_cases h4 : s.bytes.length < 4
  -- the header does not arrive
  · rw [read_frame, read_exact_of_lt h4, result_bind rfl] at h
    dsimp only at h
    split at h
    · cases h
    · cases h
  · by_cases hwhole : s.bytes.length < 4 + announced s.bytes
    -- the header arrives, the body does not
    · obtain ⟨err, herr⟩ := read_frame_cut codec (Nat.not_lt.mp h4) hwhole
      rw [herr] at h
      cases h
    · obtain ⟨-, -, -, hover, -⟩ := read_frame_of_header codec (Nat.not_lt.mp h4)
      by_cases hcap : MAX_FRAME_BYTES < announced s.bytes
      · rw [hover hcap] at h
        cases h
      · have hle := Nat.not_lt.mp hcap
        obtain ⟨hbad, hgood⟩ := read_frame_whole codec (Nat.not_lt.mp hwhole) hle
        cases hdecode : codec.from_slice ((s.bytes.drop 4).take (announced s.bytes)) with
        | error err =>
            rw [hbad err hdecode] at h
            cases h
        | ok value' =>
            obtain ⟨rest', hread, hbytes, hfailure⟩ := hgood value' hdecode
            rw [hread, Except.ok.injEq, Option.some.injEq, Prod.mk.injEq] at h
            obtain ⟨rfl, rfl⟩ := h
            exact ⟨Nat.not_lt.mp hwhole, hle, hdecode, hbytes, hfailure⟩

/-- `Ok(None)` only where the header does not arrive. -/
theorem read_frame_none {s : Stream} (h : (read_frame codec s).result = .ok none) :
    s.bytes.length < 4 := by
  by_contra h4
  obtain ⟨rest, -, -, hover, hbody⟩ := read_frame_of_header codec (Nat.not_lt.mp h4)
  by_cases hcap : MAX_FRAME_BYTES < announced s.bytes
  · rw [hover hcap] at h
    cases h
  · rw [hbody (Nat.not_lt.mp hcap)] at h
    cases hread : (read_body codec (announced s.bytes) rest).result with
    | error err =>
        rw [hread] at h
        cases h
    | ok next =>
        rw [hread] at h
        cases h

/-- A frame takes at least its header, so reading to the end comes to one. -/
theorem Taken.shorter {s rest : Stream} {value : α} (h : Taken codec s value rest) :
    rest.bytes.length < s.bytes.length := by
  have hwhole := h.whole
  rw [h.rest_bytes, List.length_drop]
  omega

/-- `read_frame` asks for no body beyond the cap, whatever length a header announces: the
comparison comes before the buffer is made. -/
theorem read_frame_request {s : Stream} {size : ℕ}
    (h : Request.body size ∈ (read_frame codec s).effects) : size ≤ MAX_FRAME_BYTES := by
  rw [read_frame, mem_bind, mem_perform] at h
  rcases h with h | ⟨-, -, h⟩
  · cases h
  · split at h
    · split at h
      · rw [mem_pure] at h
        cases h
      · rw [mem_leave] at h
        cases h
    · dsimp only at h
      split at h
      · rw [mem_leave] at h
        cases h
      -- the request for the body stands behind the check of the cap
      · rename_i hcap
        rw [mem_bind] at h
        rcases h with h | ⟨next, -, h⟩
        · rw [read_body, mem_bind, mem_perform] at h
          rcases h with h | ⟨-, -, h⟩
          · rw [Request.body.inj h]
            exact Nat.not_lt.mp hcap
          · rw [mem_bind, mem_lift] at h
            rcases h with h | ⟨next, -, h⟩
            · cases h
            · dsimp only at h
              split at h
              · rw [mem_pure] at h
                cases h
              · rw [mem_leave] at h
                cases h
        · rw [mem_pure] at h
          cases h

end Read

/-! ### The polling reader

The session model of `Wire` reads a frame by polling on the bytes that have arrived.
It finishes on the same bytes with the same value. -/

section Poll

variable {codec : Codec α}

/-- The poll decodes the bytes that `read_frame` takes. -/
theorem read_frame_poll_of_some {s rest : Stream} {value : α}
    (h : (read_frame codec s).result = .ok (some (value, rest))) :
    read_frame_poll codec (s.bytes.take (4 + announced s.bytes)) = some (.ok value) := by
  obtain ⟨hwhole, hcap, hdecode, -, -⟩ := read_frame_some h
  have hlen : (s.bytes.take (4 + announced s.bytes)).length = 4 + announced s.bytes := by
    rw [List.length_take]
    omega
  have hheader : (s.bytes.take (4 + announced s.bytes)).take 4 = s.bytes.take 4 := by
    rw [List.take_take, min_eq_left (by omega)]
  have hbody : (s.bytes.take (4 + announced s.bytes)).drop 4
      = (s.bytes.drop 4).take (announced s.bytes) := by
    rw [List.drop_take, Nat.add_sub_cancel_left]
  have hann : from_le_bytes ((s.bytes.take (4 + announced s.bytes)).take 4)
      = announced s.bytes := by
    rw [hheader]
    rfl
  rw [read_frame_poll, hann, if_neg (by omega), if_neg (by omega), if_neg (by omega), hbody,
    hdecode]

/-- On fewer bytes than the frame has it waits. -/
theorem read_frame_poll_of_lt {s rest : Stream} {value : α}
    (h : (read_frame codec s).result = .ok (some (value, rest))) {n : ℕ}
    (hn : n < 4 + announced s.bytes) : read_frame_poll codec (s.bytes.take n) = none := by
  obtain ⟨hwhole, hcap, -, -, -⟩ := read_frame_some h
  have hlen : (s.bytes.take n).length = n := by
    rw [List.length_take]
    omega
  rw [read_frame_poll, hlen]
  by_cases h4 : n < 4
  · rw [if_pos h4]
  -- behind the header the length is known, and the body is not all there
  · have hann : from_le_bytes ((s.bytes.take n).take 4) = announced s.bytes := by
      rw [List.take_take, min_eq_left (Nat.not_lt.mp h4)]
      rfl
    rw [if_neg h4, hann, if_neg (Nat.not_lt.mpr hcap), if_pos hn]

end Poll

/-! ## Reading to the end -/

/-- `read_frame` until it returns `Ok(None)` or an error: the values, and how it
stopped. -/
def read_frames (codec : Codec α) (s : Stream) : List α × Except IoError Unit :=
  match h : (read_frame codec s).result with
  | .ok (some (value, rest)) =>
    have := (read_frame_some h).shorter
    let (values, stop) := read_frames codec rest
    (value :: values, stop)
  | .ok none => ([], .ok ())
  | .error err => ([], .error err)
termination_by s.bytes.length

/-- The bytes are complete frames, one after the other, that decode to the values. -/
inductive Complete (codec : Codec α) : List UInt8 → List α → Prop
  | nil : Complete codec [] []
  | cons {header body rest : List UInt8} {value : α} {values : List α} :
      header.length = 4 → from_le_bytes header = body.length → body.length ≤ MAX_FRAME_BYTES →
      codec.from_slice body = .ok value → Complete codec rest values →
      Complete codec (header ++ (body ++ rest)) (value :: values)

section Session

variable {codec : Codec α}

/-- Reading to the end of the stream, past a frame: its value, and what is read behind it. -/
theorem read_frames_some {s rest : Stream} {value : α}
    (h : (read_frame codec s).result = .ok (some (value, rest))) :
    read_frames codec s = (value :: (read_frames codec rest).1, (read_frames codec rest).2) := by
  rw [read_frames]
  split
  · rename_i heq
    rw [h, Except.ok.injEq, Option.some.injEq, Prod.mk.injEq] at heq
    obtain ⟨rfl, rfl⟩ := heq
    rfl
  · rename_i heq
    rw [h] at heq
    cases heq
  · rename_i heq
    rw [h] at heq
    cases heq

/-- Reading ends at a clean end. -/
theorem read_frames_none {s : Stream} (h : (read_frame codec s).result = .ok none) :
    read_frames codec s = ([], .ok ()) := by
  rw [read_frames]
  split
  · rename_i heq
    rw [h] at heq
    cases heq
  · rfl
  · rename_i heq
    rw [h] at heq
    cases heq

/-- Reading ends at the first error. -/
theorem read_frames_error {s : Stream} {err : IoError}
    (h : (read_frame codec s).result = .error err) :
    read_frames codec s = ([], .error err) := by
  rw [read_frames]
  split
  · rename_i heq
    rw [h] at heq
    cases heq
  · rename_i heq
    rw [h] at heq
    cases heq
  · rename_i heq
    rw [h, Except.error.injEq] at heq
    rw [heq]

/-- The announced length of a frame is the length of its body. -/
theorem announced_frame {header body tail : List UInt8} (hheader : header.length = 4)
    (hlen : from_le_bytes header = body.length) :
    announced (header ++ (body ++ tail)) = body.length := by
  rw [announced, List.take_left' hheader, hlen]

/-- **Complete frames are read.** The values come out, and reading goes on behind
them, however the bytes are cut. -/
theorem read_frames_complete {consumed tail : List UInt8} {values : List α}
    (h : Complete codec consumed values) {s : Stream} (hs : s.bytes = consumed ++ tail) :
    ∃ rest : Stream, rest.bytes = tail ∧ rest.failure = s.failure
      ∧ read_frames codec s = (values ++ (read_frames codec rest).1, (read_frames codec rest).2) := by
  induction h generalizing s with
  | nil => exact ⟨s, hs, rfl, rfl⟩
  | @cons header body more value values hheader hlen hcap hdecode _ ih =>
      rw [List.append_assoc, List.append_assoc] at hs
      have hann : announced s.bytes = body.length := by rw [hs, announced_frame hheader hlen]
      have hwhole : 4 + announced s.bytes ≤ s.bytes.length := by
        rw [hann, hs, List.length_append, List.length_append, hheader]
        omega
      have hbody : (s.bytes.drop 4).take (announced s.bytes) = body := by
        rw [hann, hs, List.drop_left' hheader, List.take_left]
      obtain ⟨-, hgood⟩ := read_frame_whole codec hwhole (hann ▸ hcap)
      obtain ⟨next, hread, hnext, hnextf⟩ := hgood value (hbody ▸ hdecode)
      -- behind the frame are the other frames and the tail
      have hrest : next.bytes = more ++ tail := by
        rw [hnext, hann, hs, ← List.drop_drop, List.drop_left' hheader, List.drop_left]
      obtain ⟨rest, hbytes, hfailure, hframes⟩ := ih hrest
      refine ⟨rest, hbytes, hfailure.trans hnextf, ?_⟩
      rw [read_frames_some hread, hframes]
      rfl

/-- **What reading consumes.** The values read are complete frames from the start of
the stream, and a clean stop leaves less than a header. -/
theorem read_frames_spec (codec : Codec α) (s : Stream) (hs : s.failure = none) :
    ∃ consumed tail, s.bytes = consumed ++ tail ∧ Complete codec consumed (read_frames codec s).1
      ∧ ((read_frames codec s).2 = .ok () → tail.length < 4) := by
  cases hread : (read_frame codec s).result with
  | error err =>
      refine ⟨[], s.bytes, rfl, ?_, ?_⟩
      · rw [read_frames_error hread]
        exact .nil
      · rw [read_frames_error hread]
        intro h
        cases h
  | ok next =>
      cases next with
      | none =>
          refine ⟨[], s.bytes, rfl, ?_, fun _ => read_frame_none hread⟩
          rw [read_frames_none hread]
          exact .nil
      | some next =>
          obtain ⟨value, rest⟩ := next
          have htaken := read_frame_some hread
          have hshorter := htaken.shorter
          have hwhole := htaken.whole
          obtain ⟨consumed, tail, hbytes, hcomplete, hstop⟩ :=
            read_frames_spec codec rest (htaken.rest_failure.trans hs)
          -- the frame, as header, body and the bytes behind it
          have hsplit : s.bytes = s.bytes.take 4
              ++ ((s.bytes.drop 4).take (announced s.bytes) ++ (consumed ++ tail)) := by
            rw [← hbytes, htaken.rest_bytes, ← List.drop_drop, List.take_append_drop,
              List.take_append_drop]
          have hheader : (s.bytes.take 4).length = 4 := by
            rw [List.length_take]
            omega
          have hbody : ((s.bytes.drop 4).take (announced s.bytes)).length = announced s.bytes := by
            rw [List.length_take, List.length_drop]
            omega
          refine ⟨s.bytes.take 4 ++ ((s.bytes.drop 4).take (announced s.bytes) ++ consumed), tail,
            ?_, ?_, ?_⟩
          · rw [List.append_assoc, List.append_assoc]
            exact hsplit
          · rw [read_frames_some hread]
            exact .cons hheader hbody.symm (hbody.symm ▸ htaken.cap) htaken.decodes hcomplete
          · rw [read_frames_some hread]
            exact hstop
termination_by s.bytes.length

/-- A clean stop inside the stream of bytes left: less than a header. -/
theorem read_frames_short {s : Stream} (h : s.bytes.length < 4) (hs : s.failure = none) :
    read_frames codec s = ([], .ok ()) :=
  read_frames_none (read_frame_short h hs)

/-- A stream of complete frames is read to its end, and ends cleanly, wherever the transport cut
its bytes. -/
theorem read_frames_ending {bytes : List UInt8} {values : List α}
    (h : Complete codec bytes values) {pieces : List (List UInt8)} (hpieces : pieces.flatten = bytes) :
    read_frames codec (ending pieces) = (values, .ok ()) := by
  have hbytes : (ending pieces).bytes = bytes ++ [] := by
    rw [List.append_nil]
    exact hpieces
  obtain ⟨rest, hrest, hfailure, hread⟩ := read_frames_complete h hbytes
  -- nothing is left behind the last frame, and no byte is a clean end
  have hend : read_frames codec rest = ([], .ok ()) := by
    apply read_frames_short
    · rw [hrest]
      decide
    · exact hfailure
  rw [hread, hend, List.append_nil]

/-! ## The round trip -/

/-- A frame that was written is a complete frame. -/
theorem complete_write (hrt : codec.RoundTrips) {value : α} {frame : List UInt8}
    (hw : write_frame codec value = .ok frame) {bytes : List UInt8} {values : List α}
    (h : Complete codec bytes values) : Complete codec (frame ++ bytes) (value :: values) := by
  obtain ⟨body, hbody, hcap, rfl⟩ := write_frame_ok.mp hw
  have hlen : from_le_bytes (to_le_bytes body.length) = body.length :=
    from_le_bytes_to_le_bytes _ (lt_of_le_of_lt hcap (by decide))
  rw [List.append_assoc]
  exact .cons (to_le_bytes_length _) hlen hcap (hrt value body hbody) h

/-- Messages within the cap are written, each behind the others, and what is then on the stream is
a complete run of frames. By induction on the messages, with the stream they are written to. -/
theorem write_frames_complete (hrt : codec.RoundTrips) {values : List α}
    (h : ∀ value ∈ values, ∃ body, codec.to_vec value = .ok body
      ∧ body.length ≤ MAX_FRAME_BYTES) (stream : List UInt8) :
    ∃ bytes, write_frames codec stream values = (.ok (), stream ++ bytes)
      ∧ Complete codec bytes values := by
  induction values generalizing stream with
  | nil => exact ⟨[], by rw [List.append_nil]; rfl, .nil⟩
  | cons value values ih =>
      obtain ⟨body, hbody, hcap⟩ := h value List.mem_cons_self
      have hw : write_frame codec value = .ok (to_le_bytes body.length ++ body) :=
        write_frame_ok.mpr ⟨body, hbody, hcap, rfl⟩
      obtain ⟨bytes, hwrite, hcomplete⟩ :=
        ih (fun value' hmem => h value' (List.mem_cons_of_mem _ hmem))
          (stream ++ (to_le_bytes body.length ++ body))
      refine ⟨to_le_bytes body.length ++ body ++ bytes, ?_, complete_write hrt hw hcomplete⟩
      rw [write_frames, write_to, hw]
      dsimp only
      rw [hwrite, List.append_assoc, List.append_assoc]

/-- A message over the cap is refused before the first byte. -/
theorem write_to_over_cap {value : α} {body : List UInt8} (hbody : codec.to_vec value = .ok body)
    (hover : MAX_FRAME_BYTES < body.length) (stream : List UInt8) :
    ∃ err, write_to codec stream value = (.error err, stream) := by
  cases hw : write_frame codec value with
  | ok frame =>
      obtain ⟨body', hbody', hcap, -⟩ := write_frame_ok.mp hw
      rw [hbody, Except.ok.injEq] at hbody'
      rw [← hbody'] at hcap
      omega
  | error err =>
      refine ⟨err, ?_⟩
      rw [write_to, hw]

end Session

/-- **The wire framing round trip.** What is written is read back, in order and then
a clean end, however the transport cuts the bytes; a message over the cap writes
nothing; and no reader asks for a body over the cap. -/
theorem frames_round_trip (codec : Codec α) (hrt : codec.RoundTrips) :
    (∀ values : List α, (∀ value ∈ values, ∃ body, codec.to_vec value = .ok body
        ∧ body.length ≤ MAX_FRAME_BYTES) →
      ∃ bytes, write_frames codec [] values = (.ok (), bytes)
        ∧ ∀ pieces : List (List UInt8), pieces.flatten = bytes →
          read_frames codec (ending pieces) = (values, .ok ()))
      ∧ (∀ (value : α) (body stream : List UInt8), codec.to_vec value = .ok body →
          MAX_FRAME_BYTES < body.length → ∃ err, write_to codec stream value = (.error err, stream))
      ∧ ∀ (s : Stream) (size : ℕ), Request.body size ∈ (read_frame codec s).effects →
          size ≤ MAX_FRAME_BYTES := by
  refine ⟨?_, ?_, ?_⟩
  · intro values hcap
    obtain ⟨bytes, hwrite, hcomplete⟩ := write_frames_complete hrt hcap []
    rw [List.nil_append] at hwrite
    exact ⟨bytes, hwrite, fun pieces hpieces => read_frames_ending hcomplete hpieces⟩
  · intro value body stream hbody hover
    exact write_to_over_cap hbody hover stream
  · intro s size hrequest
    exact read_frame_request hrequest

/-- The codec of the requests on the one request of the session below. -/
def drain_codec : Codec WireRequest where
  to_vec request :=
    match request with
    | .drain => .ok (Text.utf8 "\"Drain\"")
    | _ => .error "not in this session"
  from_slice bytes :=
    if bytes = Text.utf8 "\"Drain\"" then .ok .drain else .error "expected value"

/-- The one message of this codec is read as it was written. -/
theorem drain_codec_round_trips : drain_codec.RoundTrips := by
  intro request bytes hbytes
  cases request with
  | drain =>
      rw [← Except.ok.inj hbytes]
      rfl
  | init init => cases hbytes
  | call call => cases hbytes

/-- The two messages are within the cap. -/
theorem drains_within_cap : ∀ value ∈ [WireRequest.drain, .drain], ∃ body,
    drain_codec.to_vec value = .ok body ∧ body.length ≤ MAX_FRAME_BYTES := by
  intro value hmem
  have hdrain : value = .drain := by simpa using hmem
  subst hdrain
  exact ⟨Text.utf8 "\"Drain\"", rfl, by decide⟩

/-- Two requests, delivered a byte at a time or in any other way. -/
theorem frames_round_trip_drains :
    drain_codec.RoundTrips
      ∧ ∃ bytes, write_frames drain_codec [] [.drain, .drain] = (.ok (), bytes)
        ∧ ∀ pieces : List (List UInt8), pieces.flatten = bytes →
          read_frames drain_codec (ending pieces) = ([.drain, .drain], .ok ()) :=
  ⟨drain_codec_round_trips,
    (frames_round_trip drain_codec drain_codec_round_trips).1 [.drain, .drain] drains_within_cap⟩

/-! ## Truncation -/

/-- The bytes left at the end of a stream are a part of a frame, and not all of it. -/
def CutFrame (tail : List UInt8) : Prop :=
  tail ≠ [] ∧ (tail.length < 4 ∨ tail.length < 4 + announced tail)

/-- The stream ends inside a frame, behind complete ones. -/
def EndsInside (codec : Codec α) (bytes : List UInt8) : Prop :=
  ∃ consumed tail values, bytes = consumed ++ tail ∧ Complete codec consumed values ∧ CutFrame tail

/-- The stream ends inside the length header of a frame: behind complete ones there
are one, two or three bytes. -/
def EndsInHeader (codec : Codec α) (bytes : List UInt8) : Prop :=
  ∃ consumed tail values, bytes = consumed ++ tail ∧ Complete codec consumed values
    ∧ tail ≠ [] ∧ tail.length < 4

/-- Truncation is detected: a clean stop has consumed everything, and an end inside
a frame is an error. -/
structure TruncationDetected (codec : Codec α) (pieces : List (List UInt8)) : Prop where
  clean : (read_frames codec (ending pieces)).2 = .ok () →
    Complete codec pieces.flatten (read_frames codec (ending pieces)).1
  inside : EndsInside codec pieces.flatten →
    ∃ err, (read_frames codec (ending pieces)).2 = .error err

theorem read_frames_cut (codec : Codec α) {s : Stream} (h4 : 4 ≤ s.bytes.length)
    (h : s.bytes.length < 4 + announced s.bytes) : ∃ err, (read_frames codec s).2 = .error err := by
  obtain ⟨err, herr⟩ := read_frame_cut codec h4 h
  exact ⟨err, by rw [read_frames_error herr]⟩

/-- **Truncation is detected exactly when the stream does not end inside a length
header.** -/
theorem truncation_detected_iff (codec : Codec α) (pieces : List (List UInt8)) :
    TruncationDetected codec pieces ↔ ¬ EndsInHeader codec pieces.flatten := by
  constructor
  · rintro hdetected ⟨consumed, tail, values, hbytes, hcomplete, hne, hshort⟩
    obtain ⟨err, herr⟩ :=
      hdetected.inside ⟨consumed, tail, values, hbytes, hcomplete, hne, Or.inl hshort⟩
    -- behind the complete frames the reader sees a clean end
    obtain ⟨rest, hrest, hfailure, hread⟩ :=
      read_frames_complete hcomplete (show (ending pieces).bytes = consumed ++ tail from hbytes)
    rw [hread, read_frames_short (by rw [hrest]; exact hshort) hfailure] at herr
    cases herr
  · intro hheader
    constructor
    · intro hclean
      obtain ⟨consumed, tail, hbytes, hcomplete, hstop⟩ :=
        read_frames_spec codec (ending pieces) rfl
      have hempty : tail = [] := by
        by_contra hne
        exact hheader ⟨consumed, tail, _, hbytes, hcomplete, hne, hstop hclean⟩
      rw [hempty, List.append_nil] at hbytes
      have hflatten : pieces.flatten = consumed := hbytes
      rw [hflatten]
      exact hcomplete
    · rintro ⟨consumed, tail, values, hbytes, hcomplete, hne, hcut⟩
      by_cases hshort : tail.length < 4
      · exact absurd ⟨consumed, tail, values, hbytes, hcomplete, hne, hshort⟩ hheader
      · have hbody : tail.length < 4 + announced tail := by
          rcases hcut with hcut | hcut
          · exact absurd hcut hshort
          · exact hcut
        obtain ⟨rest, hrest, -, hread⟩ :=
          read_frames_complete hcomplete (show (ending pieces).bytes = consumed ++ tail from hbytes)
        rw [← hrest] at hshort hbody
        obtain ⟨err, herr⟩ := read_frames_cut codec (Nat.not_lt.mp hshort) hbody
        exact ⟨err, by rw [hread]; exact herr⟩

/-- A request cut after the first byte of its header is a clean close. -/
theorem header_cut_is_a_clean_close : ¬ TruncationDetected drain_codec [[7]] := by
  intro hdetected
  have hinside : EndsInside drain_codec [7] :=
    ⟨[], [7], [], rfl, .nil, by decide, Or.inl (by decide)⟩
  obtain ⟨err, herr⟩ := hdetected.inside hinside
  have hclean : read_frames drain_codec (ending [[7]]) = ([], .ok ()) :=
    read_frames_short (by decide) rfl
  rw [hclean] at herr
  cases herr

end Runlet.Framing
