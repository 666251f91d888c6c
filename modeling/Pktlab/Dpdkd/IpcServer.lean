/-
# A connection of the daemon

`dpdkd/src/ipc_server.c`, `pktlab_ipc_server_handle_client`: frames are read,
handled and answered until the stream ends, a length is invalid, or a write
fails. The handler is a function that the daemon passes in, here over any
state. The loop takes fuel; every frame takes bytes off the stream, so as many
turns as there are bytes are enough.

`Replies` says what a connection answers without buffers, chunks and loops:
one response for each frame, from the frame and the state that the frames
before it left.

Key definitions: `handleClient`, `Replies`.
Key theorems: `handleFrame_replies`, `clientLoop_replies`,
`one_response_per_request`.
-/
import Pktlab.Dpdkd.Framing
import Pktlab.Dpdkd.Dispatch

namespace Pktlab
namespace Dpdkd

open Utf8 Wire JsonProto

variable {σ : Type}

/-- One turn of the loop, once a frame is read: the response that is sent, if
one can be rendered. -/
def serveFrame (handler : σ → IpcRequest → σ × Except DpdkdError (List UInt8)) (s : σ) (frame : List UInt8) :
    σ × Option (List UInt8) :=
  match parseRequest frame with
  | (request, .error (.rejected e)) => (s, makeError (cString request.id) e maxFrameSize)
  | (_, .error _) => (s, none)
  | (request, .ok ()) =>
    match handler s request with
    | (s, .error e) => (s, makeError (cString request.id) e maxFrameSize)
    | (s, .ok response) => (s, some response)

theorem serveFrame_dispatchRequest (d : Daemon) (frame : List UInt8) :
    serveFrame dispatchRequest d frame = handleFrame d frame := by
  unfold serveFrame handleFrame
  rcases parseRequest frame with ⟨request, e | u⟩
  · cases e <;> rfl
  · simp only
    rcases dispatchRequest d request with ⟨d', e | response⟩ <;> rfl

/-- How `pktlab_ipc_server_handle_client` returns: 0 at the end of the stream,
`-1` otherwise; or the model runs out of fuel. -/
inductive ClientEnd
  | closed
  | failed
  | fuel
  deriving DecidableEq, Repr

/-- The `for` of `pktlab_ipc_server_handle_client`: how it ends, the state it
leaves, and the bytes it wrote. -/
def clientLoop (handler : σ → IpcRequest → σ × Except DpdkdError (List UInt8)) :
    ℕ → σ → List Read → List Write → ClientEnd × σ × List UInt8
  | 0, s, _, _ => (.fuel, s, [])
  | fuel + 1, s, reads, writes =>
    match readFrame maxFrameSize reads with
    | (.error .eof, _) => (.closed, s, [])
    | (.error (.error _), _) => (.failed, s, [])
    | (.ok frame, reads) =>
      match serveFrame handler s frame with
      | (s, none) => (.failed, s, [])
      | (s, some response) =>
        match writeFrame writes response with
        | (.error _, sent, _) => (.failed, s, sent)
        | (.ok (), sent, writes) =>
          let rest := clientLoop handler fuel s reads writes
          (rest.1, rest.2.1, sent ++ rest.2.2)

/-- `pktlab_ipc_server_handle_client`. -/
def handleClient (handler : σ → IpcRequest → σ × Except DpdkdError (List UInt8)) (s : σ) (reads : List Read)
    (writes : List Write) : ClientEnd × σ × List UInt8 :=
  clientLoop handler ((bytes reads).length + 1) s reads writes

/-! ### What a connection answers -/

/-- The frames, one after the other, and the response to each. A frame that
fails leaves the daemon as it is and is answered by an error, any other by the
payload of its command in the state in which it arrives. -/
inductive Replies : Daemon → List (List UInt8) → List (List UInt8) → Daemon → Prop
  | done {d : Daemon} : Replies d [] [] d
  | refused {d d' : Daemon} {f : List UInt8} {fs rs : List (List UInt8)} {e : DpdkdError} :
      failure d f = some e → Replies d fs rs d' →
      Replies d (f :: fs) (errorResponse (shownId (storedId f)) e :: rs) d'
  | served {d d' : Daemon} {f : List UInt8} {fs rs : List (List UInt8)} {c : Command} :
      failure d f = none → command? (cString (parseRequest f).1.cmd) = some c →
      Replies (runCommand d c).1 fs rs d' →
      Replies d (f :: fs) (successText (escapeText (storedId f)) (payloadText d c) :: rs) d'

theorem Replies.length_eq {d d' : Daemon} {fs rs : List (List UInt8)} (h : Replies d fs rs d') :
    rs.length = fs.length := by
  induction h with
  | done => rfl
  | refused _ _ ih => rw [List.length_cons, List.length_cons, ih]
  | served _ _ _ ih => rw [List.length_cons, List.length_cons, ih]

/-- Every response fits a frame. -/
theorem successText_payload {id payload : List UInt8} (hlen : id.length ≤ 64) (hp : payload.length < payloadCap) :
    FramePayload maxFrameSize (successText (escapeText id) payload) := by
  refine ⟨?_, success_short hlen hp⟩
  have hne : 1 ≤ (utf8 "\x7b\"id\":\"").length := by decide
  simp only [successText, List.length_append]
  omega

theorem errorResponse_payload {id : List UInt8} {e : DpdkdError} (hlen : id.length ≤ 64)
    (he : Sayable e.message) : FramePayload maxFrameSize (errorResponse id e) := by
  refine ⟨?_, error_short hlen he⟩
  have hne : 1 ≤ (utf8 "\x7b\"id\":\"").length := by decide
  simp only [errorResponse, errorText, List.length_append]
  omega

/-- **One turn.** A frame is answered by one response that fits a frame, and
the daemon goes on serving. -/
theorem handleFrame_replies {n0 n1 : CStr} (h0 : n0.bytes.length < nameLen) (h1 : n1.bytes.length < nameLen)
    {d : Daemon} (hd : Serving n0 n1 d) (f : List UInt8) :
    ∃ d1 r, handleFrame d f = (d1, some r) ∧ Serving n0 n1 d1 ∧ FramePayload maxFrameSize r ∧
      ∀ fs rs d', Replies d1 fs rs d' → Replies d (f :: fs) (r :: rs) d' := by
  cases hf : failure d f with
  | some e =>
    refine ⟨d, _, handleFrame_failure hd h0 h1 hf, hd, ?_, fun fs rs d' h => .refused hf h⟩
    exact errorResponse_payload (shownId_length (storedId_length f)) (failure_sayable hf)
  | none =>
    obtain ⟨c, hc, hh⟩ := handleFrame_success hd h0 h1 hf
    refine ⟨_, _, hh, runCommand_serving hd h0 h1 c, ?_, fun fs rs d' h => .served hf hc h⟩
    exact successText_payload (storedId_length f) (payloadText_short hd h0 h1 c)

/-- The loop on a stream of frames: every turn answers one, and the rest of
the stream starts no further one. -/
theorem clientLoop_replies {n0 n1 : CStr} (h0 : n0.bytes.length < nameLen) (h1 : n1.bytes.length < nameLen)
    {tail : List UInt8} (htail : Stuck maxFrameSize tail) :
    ∀ (frames : List (List UInt8)) (fuel : ℕ) (d : Daemon) (reads : List Read) (writes : List Write),
      Serving n0 n1 d → (∀ f ∈ frames, FramePayload maxFrameSize f) →
      bytes reads = frames.flatMap frame ++ tail → Write.failed ∉ writes → frames.length < fuel →
      ∃ e d' responses, Replies d frames responses d' ∧ e ≠ .fuel ∧
        clientLoop dispatchRequest fuel d reads writes = (e, d', responses.flatMap frame)
  | [], fuel, d, reads, writes, _, _, hb, _, hfuel => by
    obtain ⟨fuel, rfl⟩ := Nat.exists_eq_add_of_le' (show 1 ≤ fuel from hfuel)
    rw [List.flatMap_nil, List.nil_append] at hb
    obtain ⟨status, reads', hr⟩ := readFrame_stuck (hb ▸ htail)
    rw [clientLoop, hr]
    cases status with
    | eof => exact ⟨.closed, d, [], .done, by decide, rfl⟩
    | error e => exact ⟨.failed, d, [], .done, by decide, rfl⟩
  | f :: frames, fuel, d, reads, writes, hd, hf, hb, hw, hfuel => by
    obtain ⟨fuel, rfl⟩ := Nat.exists_eq_add_of_le' (show 1 ≤ fuel by omega)
    obtain ⟨hfirst, hlater⟩ := List.forall_mem_cons.mp hf
    rw [List.flatMap_cons, List.append_assoc] at hb
    rw [List.length_cons] at hfuel
    obtain ⟨reads', hr, hb', -⟩ := readFrame_frame (by decide) hfirst hb
    obtain ⟨d1, r, hh, hd1, hrlen, hreplies⟩ := handleFrame_replies h0 h1 hd f
    obtain ⟨writes', hwr, hw'⟩ := writeFrame_ok hw hrlen.1 (lt_trans hrlen.2 (by decide))
    obtain ⟨e, d', rs, hrs, he, hloop⟩ := clientLoop_replies h0 h1 htail frames fuel d1 reads' writes' hd1 hlater
      hb' hw' (by omega)
    refine ⟨e, d', r :: rs, hreplies _ _ _ hrs, he, ?_⟩
    rw [clientLoop, hr]
    simp only [serveFrame_dispatchRequest, hh, hwr, hloop, List.flatMap_cons]

/-- **One response per request.** Whatever a client sends, in whatever
chunks, it is complete frames of valid length and a rest behind the last of
them. A daemon that serves writes one response frame for each of these frames,
in order, and nothing for the rest. A frame that is refused gets an error,
leaves the daemon as it was, and the frames behind it are answered all the
same. -/
theorem one_response_per_request {config : DatapathConfig} {init : DatapathInit}
    (hinit : datapathInit config = .ok init) (env : StartEnv) {events : List Event} {d : Daemon}
    (hrun : Run.run daemonStep (start env init) events = some d) (reads : List Read) {writes : List Write}
    (hwrites : Write.failed ∉ writes) :
    (∃ frames tail, Splits 16384 (bytes reads) frames tail) ∧
      ∀ frames tail, Splits 16384 (bytes reads) frames tail →
        ∃ responses e d', Replies d frames responses d' ∧ responses.length = frames.length ∧ e ≠ .fuel ∧
          handleClient dispatchRequest d reads writes = (e, d', responses.flatMap frame) := by
  obtain ⟨h0, h1, -, -⟩ := names_of_datapathInit hinit
  refine ⟨exists_splits 16384 _ (bytes reads) le_rfl, fun frames tail h => ?_⟩
  have hfuel : frames.length < (bytes reads).length + 1 := by
    have hle := length_le_flatMap_frame frames
    rw [h.text, List.length_append]
    omega
  obtain ⟨e, d', responses, hreplies, he, hloop⟩ := clientLoop_replies h0 h1 h.stuck frames _ d reads writes
    (run_serving hinit env hrun) h.lengths h.text hwrites hfuel
  exact ⟨responses, e, d', hreplies, hreplies.length_eq, he, hloop⟩

/-- A frame that is no JSON, a ping, and half a header, in two chunks. -/
def mixedReads : List Read :=
  [.data 0 [0, 0, 1, ascii 'x', 0, 0], .interrupted,
    .data 0 (36 :: utf8 "\x7b\"id\":\"a\",\"cmd\":\"ping\",\"payload\":\x7b\x7d\x7d" ++ [0, 0])]

theorem one_response_mixedReads :
    ∃ responses e d', Replies (start .noDpdk defaultInit)
        [utf8 "x", utf8 "\x7b\"id\":\"a\",\"cmd\":\"ping\",\"payload\":\x7b\x7d\x7d"] responses d' ∧
      responses.length = 2 ∧ e ≠ .fuel ∧
      handleClient dispatchRequest (start .noDpdk defaultInit) mixedReads [.took 3, .interrupted] =
        (e, d', responses.flatMap frame) := by
  have hinit : datapathInit defaultConfig = .ok defaultInit := by decide +kernel
  have hrun : Run.run daemonStep (start .noDpdk defaultInit) [] = some (start .noDpdk defaultInit) := rfl
  exact (one_response_per_request hinit .noDpdk hrun mixedReads (by decide)).2 _ [0, 0]
    ⟨by decide +kernel, by decide +kernel, Or.inl (by decide)⟩

end Dpdkd
end Pktlab
