/-
# The server of the daemon and a stop request

`dpdkd/src/ipc_server.c`, `pktlab_ipc_server_run` with the connection it
serves inside, one system call after the other. The signal handler of
`dpdkd/src/main.c` sets `*stop_requested` between any two of them, also while
one of them blocks, which then may end with `EINTR`.

The flag is looked at in one place, the head of the outer loop. While a
connection is served no one looks at it, nor between the poll that reports a
client and the `accept`, so a connection that is open when the stop comes, or
that is accepted right after it, is served as long as its client goes on. What
saves the server from a late dispatch is the client alone: there is none
exactly when every complete frame that starts after the stop is refused by the
parser (`late_dispatch_iff`).

Key definitions: `Phase`, `Move`, `step`, `Conn.LateFrame`, `Watch`, `Inv`.
Key theorems: `step_inv`, `run_inv`, `late_dispatch_iff`.
-/
import Pktlab.Dpdkd.IpcServer

namespace Pktlab
namespace Dpdkd
namespace ServerRun

open Utf8 Wire JsonProto

/-! ### The server -/

/-- Where the server is: at the head of the outer loop, in `poll`, in
`accept`, in `pktlab_json_proto_read_exact` for the header or the payload of a
frame, behind `pktlab_json_proto_read_frame`, in
`pktlab_json_proto_write_exact` for one of the two parts of a response, or
behind its `return`. -/
inductive Phase
  | check
  | polling
  | accepting
  | header (got : List UInt8)
  | payload (length : ℕ) (got : List UInt8)
  | received (frame : List UInt8)
  | sending (part later : List UInt8)
  | returned (status : ℤ)
  deriving DecidableEq, Repr

/-- What `poll` says: an error, `EINTR`, no descriptor in time, one without
`POLLIN`, or a client. -/
inductive PollAnswer
  | failed
  | interrupted
  | timeout
  | other
  | ready
  deriving DecidableEq, Repr

/-- What `accept` says. -/
inductive AcceptAnswer
  | failed
  | interrupted
  | client
  deriving DecidableEq, Repr

variable {σ : Type}

/-- `stopRequested` is `*stop_requested != 0`, or nothing for `NULL`; `handled`
is what the handler works on. -/
structure State (σ : Type) where
  phase : Phase
  stopRequested : Option Bool
  handled : σ

/-- `stop_requested != NULL && *stop_requested != 0`. -/
def State.stopped (s : State σ) : Bool := s.stopRequested = some true

/-- A signal, or the next thing the server does, with what the system answers.
`read` answers nothing at the end of the stream. -/
inductive Move
  | signal
  | check
  | poll (answer : PollAnswer)
  | accept (answer : AcceptAnswer)
  | read (answer : Option Read)
  | handle
  | write (answer : Write)
  deriving DecidableEq, Repr

def afterPoll : PollAnswer → Phase
  | .failed => .returned (-1)
  | .interrupted => .check
  | .timeout => .check
  | .other => .check
  | .ready => .accepting

def afterAccept : AcceptAnswer → Phase
  | .failed => .check
  | .interrupted => .accepting
  | .client => .header []

/-- `read` for the rest of the header. It does not return more than it was
asked for. At the end of the stream, on an error and for an invalid length
the connection is closed. -/
def readHeader (got : List UInt8) : Option Read → Option Phase
  | none => some .check
  | some .failed => some .check
  | some .interrupted => some (.header got)
  | some (.data b bs) =>
    if got.length + (b :: bs).length > 4 then none
    else if got.length + (b :: bs).length < 4 then some (.header (got ++ b :: bs))
    else if ofBe (got ++ b :: bs) = 0 ∨ ofBe (got ++ b :: bs) ≥ maxFrameSize then some .check
    else some (.payload (ofBe (got ++ b :: bs)) [])

/-- `read` for the rest of the payload. -/
def readPayload (length : ℕ) (got : List UInt8) : Option Read → Option Phase
  | none => some .check
  | some .failed => some .check
  | some .interrupted => some (.payload length got)
  | some (.data b bs) =>
    if got.length + (b :: bs).length > length then none
    else if got.length + (b :: bs).length < length then some (.payload length (got ++ b :: bs))
    else some (.received (got ++ b :: bs))

/-- The start of `pktlab_json_proto_write_frame`, or the end of the connection
without a response. -/
def startWrite : Option (List UInt8) → Phase
  | none => .check
  | some json => if json.length = 0 ∨ json.length > 2 ^ 32 - 1 then .check else .sending (be32 json.length) json

/-- `write` of the rest of a part. -/
def sendMore (part later : List UInt8) : Write → Phase
  | .failed => .check
  | .interrupted => .sending part later
  | .took n =>
    if part.drop n ≠ [] then .sending (part.drop n) later
    else if later ≠ [] then .sending later []
    else .header []

/-- The moves of `pktlab_ipc_server_run` and of
`pktlab_ipc_server_handle_client`, and the signal. -/
def step (handler : σ → IpcRequest → σ × Except DpdkdError (List UInt8)) (s : State σ) (m : Move) : Option (State σ) :=
  match m, s.phase with
  | .signal, _ => some { s with stopRequested := s.stopRequested.map fun _ => true }
  | .check, .check => some { s with phase := if s.stopped then .returned 0 else .polling }
  | .poll answer, .polling => some { s with phase := afterPoll answer }
  | .accept answer, .accepting => some { s with phase := afterAccept answer }
  | .read answer, .header got => (readHeader got answer).map fun phase => { s with phase := phase }
  | .read answer, .payload length got => (readPayload length got answer).map fun phase => { s with phase := phase }
  | .handle, .received frame =>
    some { s with
      phase := startWrite (serveFrame handler s.handled frame).2
      handled := (serveFrame handler s.handled frame).1 }
  | .write answer, .sending part later => some { s with phase := sendMore part later answer }
  | _, _ => none

/-- The call of `pktlab_ipc_server_run`. -/
def start (stopRequested : Option Bool) (handled : σ) : State σ := ⟨.check, stopRequested, handled⟩

/-- What each move does, and where the server is for it. -/
inductive Does (handler : σ → IpcRequest → σ × Except DpdkdError (List UInt8)) (s : State σ) : Move → State σ → Prop
  | signal : Does handler s .signal { s with stopRequested := s.stopRequested.map fun _ => true }
  | check : s.phase = .check → Does handler s .check { s with phase := if s.stopped then .returned 0 else .polling }
  | poll (answer : PollAnswer) : s.phase = .polling →
      Does handler s (.poll answer) { s with phase := afterPoll answer }
  | accept (answer : AcceptAnswer) : s.phase = .accepting →
      Does handler s (.accept answer) { s with phase := afterAccept answer }
  | header {got : List UInt8} {answer : Option Read} {phase : Phase} : s.phase = .header got →
      readHeader got answer = some phase → Does handler s (.read answer) { s with phase := phase }
  | payload {length : ℕ} {got : List UInt8} {answer : Option Read} {phase : Phase} : s.phase = .payload length got →
      readPayload length got answer = some phase → Does handler s (.read answer) { s with phase := phase }
  | handle {frame : List UInt8} : s.phase = .received frame →
      Does handler s .handle { s with
        phase := startWrite (serveFrame handler s.handled frame).2
        handled := (serveFrame handler s.handled frame).1 }
  | write {part later : List UInt8} (answer : Write) : s.phase = .sending part later →
      Does handler s (.write answer) { s with phase := sendMore part later answer }

variable {handler : σ → IpcRequest → σ × Except DpdkdError (List UInt8)} {s s' : State σ} {m : Move}

theorem does_of_step (hs : step handler s m = some s') : Does handler s m s' := by
  unfold step at hs
  split at hs
  · exact Option.some.inj hs ▸ .signal
  · exact Option.some.inj hs ▸ .check ‹_›
  · exact Option.some.inj hs ▸ .poll _ ‹_›
  · exact Option.some.inj hs ▸ .accept _ ‹_›
  · obtain ⟨phase, hread, rfl⟩ := Option.map_eq_some_iff.mp hs
    exact .header ‹_› hread
  · obtain ⟨phase, hread, rfl⟩ := Option.map_eq_some_iff.mp hs
    exact .payload ‹_› hread
  · exact Option.some.inj hs ▸ .handle ‹_›
  · exact Option.some.inj hs ▸ .write _ ‹_›
  · cases hs

/-! ### What is seen from outside -/

/-- What was read on a connection before the stop, and what after it. -/
structure Conn where
  early : List UInt8 := []
  late : List UInt8 := []
  deriving DecidableEq, Repr

def Conn.text (c : Conn) : List UInt8 := c.early ++ c.late

def Conn.hear (c : Conn) (stopped : Bool) (chunk : List UInt8) : Conn :=
  if stopped then { c with late := c.late ++ chunk } else { c with early := c.early ++ chunk }

/-- The payload `p` of a complete frame of the connection, of which the first
byte was read after the stop. -/
def Conn.LateFrame (c : Conn) (p : List UInt8) : Prop :=
  ∃ (ps : List (List UInt8)) (rest : List UInt8), c.text = ps.flatMap frame ++ (frame p ++ rest) ∧
    (∀ q ∈ ps, FramePayload maxFrameSize q) ∧ FramePayload maxFrameSize p ∧ c.early.length ≤ (ps.flatMap frame).length

/-- The parser takes the frame for a request. -/
def Accepted (frame : List UInt8) : Prop := ∃ request, parseRequest frame = (request, .ok ())

/-- A call of the handler, and whether the first byte of its frame was read
after the stop. -/
structure Dispatch where
  request : IpcRequest
  late : Bool
  deriving DecidableEq, Repr

/-- The connections, the one that is served last, whether the first byte of
the frame in hand was read after the stop, and the calls of the handler. -/
structure Watch where
  current : Conn := {}
  past : List Conn := []
  late : Bool := false
  dispatched : List Dispatch := []
  deriving DecidableEq, Repr

/-- What a frame in hand adds to the calls of the handler. -/
def Watch.dispatch (w : Watch) (frame : List UInt8) : Watch :=
  match parseRequest frame with
  | (request, .ok ()) => { w with dispatched := w.dispatched ++ [⟨request, w.late⟩] }
  | (_, .error _) => w

/-- What a move adds. -/
def watch (w : Watch) (s : State σ) : Move → Watch
  | .accept .client => { w with current := {}, past := w.current :: w.past }
  | .read (some (.data b bs)) =>
    { w with
      current := w.current.hear s.stopped (b :: bs)
      late := if s.phase = .header [] then s.stopped else w.late }
  | .handle =>
    match s.phase with
    | .received frame => w.dispatch frame
    | _ => w
  | _ => w

/-- A frame of which the first byte was read after the stop was given to the
handler. -/
def Watch.DispatchedLate (w : Watch) : Prop := ∃ d ∈ w.dispatched, d.late = true

/-! ### How far the server is with a connection -/

/-- What a server in `phase` holds of the connection behind its complete
frames. Once a connection is closed this starts no further frame. -/
def InHand (part : List UInt8) : Phase → Prop
  | .header got => part = got ∧ got.length < 4
  | .payload n got => ∃ head, part = head ++ got ∧ head.length = 4 ∧ ofBe head = n ∧ 1 ≤ n ∧ n < maxFrameSize ∧
      got.length < n
  | .received p => part = frame p ∧ FramePayload maxFrameSize p
  | .sending _ _ => part = []
  | _ => Stuck maxFrameSize part

/-- The connection that is served is the frames `ps`, which have been handled,
and `part`. -/
structure Cut (phase : Phase) (w : Watch) (ps : List (List UInt8)) (part : List UInt8) : Prop where
  text : w.current.text = ps.flatMap frame ++ part
  lengths : ∀ q ∈ ps, FramePayload maxFrameSize q
  hand : InHand part phase
  first : part ≠ [] → (w.late = true ↔ w.current.early.length ≤ (ps.flatMap frame).length)
  handled : ∀ qs p rs, ps = qs ++ p :: rs → w.current.early.length ≤ (qs.flatMap frame).length → Accepted p →
    w.DispatchedLate

/-- What every state of a run keeps. -/
structure Inv (phase : Phase) (stopped : Bool) (w : Watch) : Prop where
  early : stopped = false → w.current.late = []
  cut : ∃ ps part, Cut phase w ps part
  past : ∀ c ∈ w.past, ∀ p, c.LateFrame p → Accepted p → w.DispatchedLate
  sound : w.DispatchedLate → ∃ c ∈ w.current :: w.past, ∃ p, c.LateFrame p ∧ Accepted p

variable {phase phase' : Phase} {stopped : Bool} {w : Watch} {part p : List UInt8} {ps : List (List UInt8)}

theorem stuck_nil : Stuck maxFrameSize [] := Or.inl (by decide)

theorem InHand.stuck (h : InHand part phase) (hphase : ∀ p, phase ≠ .received p) : Stuck maxFrameSize part := by
  cases phase with
  | header got =>
    obtain ⟨rfl, hlt⟩ := h
    exact Or.inl hlt
  | payload n got =>
    obtain ⟨head, rfl, hhead, hn, -, -, hlt⟩ := h
    refine Or.inr (Or.inr (Or.inr ?_))
    rw [List.take_left' hhead, List.length_append, hhead, hn]
    omega
  | received p => exact absurd rfl (hphase p)
  | sending part later => exact h ▸ stuck_nil
  | check => exact h
  | polling => exact h
  | accepting => exact h
  | returned status => exact h

/-- Before the stop no frame starts after it. -/
theorem Conn.not_lateFrame {c : Conn} (h : c.late = []) (p : List UInt8) : ¬ c.LateFrame p := by
  rintro ⟨ps, rest, htext, -, ⟨hpos, -⟩, hle⟩
  have hlen := congrArg List.length htext
  rw [Conn.text, h, List.append_nil, List.length_append, List.length_append, frame, List.length_append] at hlen
  omega

theorem Conn.hear_text {c : Conn} (h : stopped = false → c.late = []) (chunk : List UInt8) :
    (c.hear stopped chunk).text = c.text ++ chunk := by
  cases stopped with
  | true => exact (List.append_assoc _ _ _).symm
  | false =>
    show c.early ++ chunk ++ c.late = c.early ++ c.late ++ chunk
    rw [h rfl, List.append_nil, List.append_nil]

theorem Conn.LateFrame.hear {c : Conn} (h : c.LateFrame p) (hearly : stopped = false → c.late = [])
    (chunk : List UInt8) : (c.hear stopped chunk).LateFrame p := by
  have htext := Conn.hear_text hearly chunk
  cases stopped with
  | false => exact absurd h (Conn.not_lateFrame (hearly rfl) p)
  | true =>
    obtain ⟨ps, rest, heq, hps, hp, hle⟩ := h
    refine ⟨ps, rest ++ chunk, ?_, hps, hp, hle⟩
    rw [htext, heq, List.append_assoc, List.append_assoc]

/-- Outside a frame in hand, every late request of the connections has been
given to the handler. -/
theorem Inv.complete (h : Inv phase stopped w) (hphase : ∀ p, phase ≠ .received p) :
    ∀ c ∈ w.current :: w.past, ∀ p, c.LateFrame p → Accepted p → w.DispatchedLate := by
  intro c hc p hlate hacc
  rcases List.mem_cons.mp hc with rfl | hpast
  · obtain ⟨ps, part, hcut⟩ := h.cut
    obtain ⟨qs, rest, htext, hqs, ⟨hpos, hlt⟩, hle⟩ := hlate
    have hsplits : Splits maxFrameSize w.current.text ps part :=
      ⟨hcut.text, hcut.lengths, hcut.hand.stuck hphase⟩
    obtain ⟨rs, hrs⟩ := hsplits.eq_append (by decide) htext hqs hpos hlt
    exact hcut.handled qs p rs hrs hle hacc
  · exact h.past c hpast p hlate hacc

/-- A move that reads nothing and starts nothing. -/
theorem Inv.move (h : Inv phase stopped w) (hhand : ∀ part, InHand part phase → InHand part phase') :
    Inv phase' stopped w := by
  obtain ⟨ps, part, hcut⟩ := h.cut
  exact ⟨h.early, ⟨ps, part, { hcut with hand := hhand part hcut.hand }⟩, h.past, h.sound⟩

theorem Inv.signal (h : Inv phase stopped w) {stopped' : Bool} (hstop : stopped' = false → stopped = false) :
    Inv phase stopped' w := ⟨fun h0 => h.early (hstop h0), h.cut, h.past, h.sound⟩

/-- A client is accepted. -/
theorem Inv.accept (h : Inv .accepting stopped w) :
    Inv (.header []) stopped { w with current := {}, past := w.current :: w.past } := by
  refine ⟨fun _ => rfl, ⟨[], [], rfl, fun q hq => absurd hq List.not_mem_nil, ⟨rfl, by decide⟩,
    fun hne => absurd rfl hne, fun qs p rs heq => by simp at heq⟩, ?_, fun hlate => ?_⟩
  · exact h.complete fun p hp => by cases hp
  · obtain ⟨c, hc, hframe⟩ := h.sound hlate
    exact ⟨c, List.mem_cons_of_mem _ hc, hframe⟩

theorem Conn.early_le_hear (c : Conn) (stopped : Bool) (chunk : List UInt8) :
    c.early.length ≤ (c.hear stopped chunk).early.length := by
  unfold Conn.hear
  cases stopped with
  | true => exact le_rfl
  | false =>
    rw [if_neg Bool.false_ne_true, List.length_append]
    exact Nat.le_add_right _ _

/-- The first byte behind the complete frames is noted as read before the stop
or after it, when it comes, and stays so. -/
theorem Cut.first_hear (hcut : Cut phase w ps part) (hearly : stopped = false → w.current.late = [])
    {chunk : List UInt8} (hchunk : chunk ≠ []) :
    (if part = [] then stopped else w.late) = true ↔
      (w.current.hear stopped chunk).early.length ≤ (ps.flatMap frame).length := by
  have hlen := congrArg List.length hcut.text
  rw [Conn.text, List.length_append, List.length_append] at hlen
  cases stopped with
  | true =>
    -- what was read before the stop stays as it is
    show _ ↔ w.current.early.length ≤ _
    by_cases hpart : part = []
    · rw [hpart, List.length_nil] at hlen
      rw [if_pos hpart]
      exact iff_of_true rfl (by omega)
    · rw [if_neg hpart]
      exact hcut.first hpart
  | false =>
    -- all that was read came before the stop
    have hchunkLen := List.length_pos_of_ne_nil hchunk
    rw [hearly rfl, List.length_nil] at hlen
    have hnot : ¬ (w.current.early ++ chunk).length ≤ (ps.flatMap frame).length := by
      rw [List.length_append]
      omega
    refine iff_of_false ?_ hnot
    by_cases hpart : part = []
    · rw [if_pos hpart]
      exact Bool.false_ne_true
    · have hpartLen := List.length_pos_of_ne_nil hpart
      rw [if_neg hpart, hcut.first hpart]
      omega

/-- A chunk is read. -/
theorem Inv.hear (h : Inv phase stopped w) {chunk : List UInt8} (hchunk : chunk ≠ [])
    (hstart : ∀ part, InHand part phase → (phase = .header [] ↔ part = []))
    (hhand : ∀ part, InHand part phase → InHand (part ++ chunk) phase') :
    Inv phase' stopped { w with
      current := w.current.hear stopped chunk
      late := if phase = .header [] then stopped else w.late } := by
  obtain ⟨ps, part, hcut⟩ := h.cut
  have htext := Conn.hear_text h.early chunk
  have hle := w.current.early_le_hear stopped chunk
  refine ⟨?_, ⟨ps, part ++ chunk, ?_, hcut.lengths, hhand part hcut.hand, fun _ => ?_, ?_⟩, h.past, ?_⟩
  · rintro rfl
    exact h.early rfl
  · rw [htext, hcut.text, List.append_assoc]
  · have hfirst := hcut.first_hear h.early hchunk
    by_cases hpart : part = []
    · rw [if_pos hpart] at hfirst
      rwa [if_pos ((hstart part hcut.hand).mpr hpart)]
    · rw [if_neg hpart] at hfirst
      rwa [if_neg fun hphase => hpart ((hstart part hcut.hand).mp hphase)]
  · exact fun qs p rs heq hqs => hcut.handled qs p rs heq (hle.trans hqs)
  · intro hlate
    obtain ⟨c, hc, p, hframe, hacc⟩ := h.sound hlate
    rcases List.mem_cons.mp hc with rfl | hpast
    · exact ⟨_, List.mem_cons_self, p, hframe.hear h.early chunk, hacc⟩
    · exact ⟨c, List.mem_cons_of_mem _ hpast, p, hframe, hacc⟩

theorem Watch.dispatch_frame (w : Watch) (p : List UInt8) :
    (w.dispatch p).current = w.current ∧ (w.dispatch p).past = w.past ∧
      ((w.dispatch p).DispatchedLate ↔ w.DispatchedLate ∨ (w.late = true ∧ Accepted p)) := by
  unfold Watch.dispatch Accepted
  rcases parseRequest p with ⟨request, e | u⟩
  · refine ⟨rfl, rfl, Iff.symm (or_iff_left ?_)⟩
    rintro ⟨-, r, hr⟩
    cases hr
  · refine ⟨rfl, rfl, ?_⟩
    have hacc : ∃ r, (request, (.ok u : Except Fail Unit)) = (r, .ok ()) := ⟨request, rfl⟩
    rw [and_iff_left hacc]
    unfold Watch.DispatchedLate
    simp only [List.mem_append, List.mem_singleton, or_and_right, exists_or, exists_eq_left]

/-- A frame in hand is handled. -/
theorem Inv.dispatch (h : Inv (.received p) stopped w) (hhand : InHand [] phase') :
    Inv phase' stopped (w.dispatch p) := by
  obtain ⟨ps, part, hcut⟩ := h.cut
  obtain ⟨rfl, hp⟩ := hcut.hand
  obtain ⟨hcurrent, hpast, hlate⟩ := w.dispatch_frame p
  have hne : frame p ≠ [] := by simp [frame, be32]
  have hold : w.DispatchedLate → (w.dispatch p).DispatchedLate := fun hd => hlate.mpr (Or.inl hd)
  constructor
  · rw [hcurrent]
    exact h.early
  · refine ⟨ps ++ [p], [], ?_, ?_, hhand, fun hnil => absurd rfl hnil, ?_⟩
    · rw [hcurrent, hcut.text, List.flatMap_append, List.flatMap_singleton, List.append_nil]
    · exact List.forall_mem_append.mpr ⟨hcut.lengths, List.forall_mem_singleton.mpr hp⟩
    · intro qs q rs heq hle hacc
      rw [hcurrent] at hle
      rcases rs.eq_nil_or_concat with rfl | ⟨rs', x, rfl⟩
      · -- the frame in hand
        obtain ⟨rfl, hq⟩ := List.append_inj' heq rfl
        cases hq
        exact hlate.mpr (Or.inr ⟨(hcut.first hne).mpr hle, hacc⟩)
      · have hsplit : ps ++ [p] = (qs ++ q :: rs') ++ [x] := by
          rw [heq, List.concat_eq_append, List.append_assoc, List.cons_append]
        obtain ⟨hps, -⟩ := List.append_inj' hsplit rfl
        exact hold (hcut.handled qs q rs' hps hle hacc)
  · rw [hpast]
    exact fun c hc q hframe hacc => hold (h.past c hc q hframe hacc)
  · rw [hcurrent, hpast, hlate]
    rintro (hd | ⟨hfirst, hacc⟩)
    · exact h.sound hd
    · have htext : w.current.text = ps.flatMap frame ++ (frame p ++ []) := by rw [hcut.text, List.append_nil]
      exact ⟨w.current, List.mem_cons_self, p, ⟨ps, [], htext, hcut.lengths, hp, (hcut.first hne).mp hfirst⟩, hacc⟩

theorem readHeader_hand {got : List UInt8} {b : UInt8} {bs : List UInt8}
    (h : readHeader got (some (.data b bs)) = some phase') : InHand (got ++ b :: bs) phase' := by
  rw [readHeader] at h
  by_cases hmore : got.length + (b :: bs).length > 4
  · rw [if_pos hmore] at h
    cases h
  rw [if_neg hmore] at h
  by_cases hshort : got.length + (b :: bs).length < 4
  · rw [if_pos hshort] at h
    cases h
    exact ⟨rfl, by rwa [List.length_append]⟩
  have hlen : (got ++ b :: bs).length = 4 := by
    rw [List.length_append]
    omega
  rw [if_neg hshort] at h
  by_cases hbad : ofBe (got ++ b :: bs) = 0 ∨ ofBe (got ++ b :: bs) ≥ maxFrameSize
  · rw [if_pos hbad] at h
    cases h
    refine Or.inr ?_
    rw [List.take_of_length_le hlen.le]
    exact hbad.imp_right Or.inl
  · rw [if_neg hbad] at h
    cases h
    refine ⟨got ++ b :: bs, (List.append_nil _).symm, hlen, rfl, ?_, ?_, ?_⟩
    · omega
    · omega
    · rw [List.length_nil]
      omega

theorem readPayload_hand {n : ℕ} {got : List UInt8} {b : UInt8} {bs : List UInt8}
    (h : readPayload n got (some (.data b bs)) = some phase') (hpart : InHand part (.payload n got)) :
    InHand (part ++ b :: bs) phase' := by
  obtain ⟨head, rfl, hhead, hn, hpos, hlt, -⟩ := hpart
  rw [readPayload] at h
  by_cases hmore : got.length + (b :: bs).length > n
  · rw [if_pos hmore] at h
    cases h
  rw [if_neg hmore] at h
  by_cases hshort : got.length + (b :: bs).length < n
  · rw [if_pos hshort] at h
    cases h
    exact ⟨head, List.append_assoc _ _ _, hhead, hn, hpos, hlt, by rwa [List.length_append]⟩
  · rw [if_neg hshort] at h
    cases h
    have hlen : (got ++ b :: bs).length = n := by
      rw [List.length_append]
      omega
    refine ⟨?_, hlen ▸ hpos, hlen ▸ hlt⟩
    rw [frame, hlen, ← hn, be32_ofBe hhead, List.append_assoc]

theorem startWrite_hand (response : Option (List UInt8)) : InHand [] (startWrite response) := by
  cases response with
  | none => exact stuck_nil
  | some json =>
    rw [startWrite]
    split
    · exact stuck_nil
    · exact rfl

theorem sendMore_hand {now later : List UInt8} (answer : Write) (h : InHand part (.sending now later)) :
    InHand part (sendMore now later answer) := by
  cases answer with
  | failed => exact h.stuck fun p hp => by cases hp
  | interrupted => exact h
  | took n =>
    rw [sendMore]
    split_ifs
    · exact h
    · exact h
    · exact ⟨h, by decide⟩

/-- A read, whatever is read for: `next` is the phase behind it. -/
theorem read_hand (h : Inv s.phase s.stopped w) {next : Option Read → Option Phase} {answer : Option Read}
    (hnext : next answer = some phase') (heof : next none = some .check) (hfailed : next (some .failed) = some .check)
    (hinterrupted : next (some .interrupted) = some s.phase) (hopen : ∀ p, s.phase ≠ .received p)
    (hstart : ∀ part, InHand part s.phase → (s.phase = .header [] ↔ part = []))
    (hdata : ∀ b bs part, next (some (.data b bs)) = some phase' → InHand part s.phase →
      InHand (part ++ b :: bs) phase') :
    Inv phase' s.stopped (watch w s (.read answer)) := by
  have hclosed : ∀ part, InHand part s.phase → InHand part .check := fun part hpart => hpart.stuck hopen
  rcases answer with _ | ⟨b, bs⟩ | _ | _
  · rw [heof] at hnext
    cases hnext
    exact h.move hclosed
  · exact h.hear (List.cons_ne_nil b bs) hstart fun part => hdata b bs part hnext
  · rw [hinterrupted] at hnext
    cases hnext
    exact h
  · rw [hfailed] at hnext
    cases hnext
    exact h.move hclosed

theorem readHeader_inv {got : List UInt8} {answer : Option Read} (h : Inv s.phase s.stopped w)
    (hphase : s.phase = .header got) (hread : readHeader got answer = some phase') :
    Inv phase' s.stopped (watch w s (.read answer)) := by
  refine read_hand h hread rfl rfl (by rw [hphase]; rfl) (by rw [hphase]; exact fun p hp => by cases hp) ?_ ?_
  · intro part hpart
    rw [hphase] at hpart ⊢
    rw [hpart.1, Phase.header.injEq]
  · intro b bs part hdata hpart
    rw [hphase] at hpart
    exact hpart.1 ▸ readHeader_hand hdata

theorem readPayload_inv {length : ℕ} {got : List UInt8} {answer : Option Read} (h : Inv s.phase s.stopped w)
    (hphase : s.phase = .payload length got) (hread : readPayload length got answer = some phase') :
    Inv phase' s.stopped (watch w s (.read answer)) := by
  refine read_hand h hread rfl rfl (by rw [hphase]; rfl) (by rw [hphase]; exact fun p hp => by cases hp) ?_ ?_
  · intro part hpart
    rw [hphase] at hpart ⊢
    obtain ⟨head, rfl, hhead, -⟩ := hpart
    refine iff_of_false (fun hp => by cases hp) fun hnil => ?_
    rw [(List.append_eq_nil_iff.mp hnil).1] at hhead
    cases hhead
  · intro b bs part hdata hpart
    rw [hphase] at hpart
    exact readPayload_hand hdata hpart

/-- **One move.** -/
theorem step_inv (h : Inv s.phase s.stopped w) (hs : step handler s m = some s') :
    Inv s'.phase s'.stopped (watch w s m) := by
  cases does_of_step hs with
  | signal =>
    refine h.signal fun hstop => ?_
    unfold State.stopped at hstop ⊢
    cases hflag : s.stopRequested with
    | none => rfl
    | some b =>
      rw [hflag] at hstop
      cases hstop
  | check hphase =>
    rw [hphase] at h
    refine h.move fun part hpart => ?_
    show InHand part (if s.stopped then .returned 0 else .polling)
    split
    · exact hpart
    · exact hpart
  | poll answer hphase =>
    rw [hphase] at h
    refine h.move fun part hpart => ?_
    cases answer <;> exact hpart
  | accept answer hphase =>
    rw [hphase] at h
    cases answer with
    | failed => exact h.move fun part hpart => hpart
    | interrupted => exact h
    | client => exact h.accept
  | header hphase hread => exact readHeader_inv h hphase hread
  | payload hphase hread => exact readPayload_inv h hphase hread
  | handle hphase =>
    rw [hphase] at h
    rw [watch, hphase]
    exact h.dispatch (startWrite_hand _)
  | write answer hphase =>
    rw [hphase] at h
    exact h.move fun part hpart => sendMore_hand answer hpart

theorem run_inv {stopRequested : Option Bool} {handled : σ} {moves : List Move} {t : State σ} {w : Watch}
    (hrun : Run.run (Run.withGhost (step handler) watch) (start stopRequested handled, {}) moves = some (t, w)) :
    Inv t.phase t.stopped w := by
  refine Run.run_induction (P := fun x : State σ × Watch => Inv x.1.phase x.1.stopped x.2) ?_ ?_ hrun
  · intro x m y hx hy
    obtain ⟨hstep, hghost⟩ := Run.withGhost_eq_some.mp hy
    rw [hghost]
    exact step_inv hx hstep
  · refine ⟨fun _ => rfl, ⟨[], [], rfl, fun q hq => absurd hq List.not_mem_nil, stuck_nil, fun hne => absurd rfl hne,
      fun qs p rs heq => by simp at heq⟩, fun c hc => absurd hc List.not_mem_nil, ?_⟩
    rintro ⟨d, hd, -⟩
    exact absurd hd List.not_mem_nil

/-- **Late dispatches.** In every run of the server, with a signal at any
place: as long as each complete frame that starts after the stop is refused by
the parser, no frame that starts after the stop is given to the handler; and
where the server holds no frame that it has not handled, this is the only way. -/
theorem late_dispatch_iff (handler : σ → IpcRequest → σ × Except DpdkdError (List UInt8))
    (stopRequested : Option Bool) (handled : σ) {moves : List Move} {t : State σ} {w : Watch}
    (hrun : Run.run (Run.withGhost (step handler) watch) (start stopRequested handled, {}) moves = some (t, w)) :
    ((∀ c ∈ w.current :: w.past, ∀ p, c.LateFrame p → ¬ Accepted p) → ∀ d ∈ w.dispatched, d.late = false) ∧
      ((∀ p, t.phase ≠ .received p) → (∀ d ∈ w.dispatched, d.late = false) →
        ∀ c ∈ w.current :: w.past, ∀ p, c.LateFrame p → ¬ Accepted p) := by
  have hinv := run_inv hrun
  refine ⟨fun hrefused d hd => ?_, fun hphase hnone c hc p hframe hacc => ?_⟩
  · by_contra hlate
    obtain ⟨c, hc, p, hframe, hacc⟩ := hinv.sound ⟨d, hd, by simpa using hlate⟩
    exact hrefused c hc p hframe hacc
  · obtain ⟨d, hd, hlate⟩ := hinv.complete hphase c hc p hframe hacc
    rw [hnone d hd] at hlate
    cases hlate

/-- The text of a ping with the identifier `a`. -/
def ping : List UInt8 := utf8 "\x7b\"id\":\"a\",\"cmd\":\"ping\",\"payload\":\x7b\x7d\x7d"

/-- A stop in the header of a ping, which is handled all the same; then a
frame that is no request, and the client closes the connection. -/
def stopInPing : List Move :=
  [.check, .poll .ready, .accept .interrupted, .accept .client, .read (some (.data 0 [0])), .signal,
    .read (some .interrupted), .read (some (.data 0 [36])), .read (some (.data (ascii '\x7b') (ping.drop 1))), .handle,
    .write (.took 4), .write .interrupted, .write (.took 1000), .read (some (.data 0 [0, 0, 1])),
    .read (some (.data (ascii 'x') [])), .handle, .write (.took 4), .write (.took 1000), .read none, .check]

theorem late_dispatch_iff_stopInPing :
    ∃ t w, Run.run (Run.withGhost (step dispatchRequest) watch)
        (start (some false) (Dpdkd.start .noDpdk defaultInit), {}) stopInPing = some (t, w) ∧
      t.phase = .returned 0 ∧ w.dispatched = [⟨⟨utf8 "a", utf8 "ping"⟩, false⟩] ∧
      ∀ c ∈ w.current :: w.past, ∀ p, c.LateFrame p → ¬ Accepted p := by
  have hrun : (Run.run (Run.withGhost (step dispatchRequest) watch)
      (start (some false) (Dpdkd.start .noDpdk defaultInit), {}) stopInPing).map
        (fun x => (x.1.phase, x.2.dispatched)) =
      some (.returned 0, [⟨⟨utf8 "a", utf8 "ping"⟩, false⟩]) := by decide +kernel
  obtain ⟨⟨t, w⟩, hrun, hvalue⟩ := Option.map_eq_some_iff.mp hrun
  obtain ⟨hphase, hdispatched⟩ := Prod.mk.inj hvalue
  have hopen : ∀ p, t.phase ≠ .received p := by
    intro p hp
    rw [hphase] at hp
    cases hp
  refine ⟨t, w, hrun, hphase, hdispatched, ?_⟩
  refine (late_dispatch_iff dispatchRequest (some false) (Dpdkd.start .noDpdk defaultInit) hrun).2 hopen ?_
  rw [hdispatched]
  exact List.forall_mem_singleton.mpr rfl

/-- A stop while the server waits for the next frame of a client, which then
sends a ping. -/
def stopBeforePing : List Move :=
  [.check, .poll .ready, .accept .client, .signal, .read (some .interrupted), .read (some (.data 0 [0, 0, 36])),
    .read (some (.data (ascii '\x7b') (ping.drop 1))), .handle]

/-- The ping is given to the handler. -/
theorem late_dispatch_reached :
    ∃ t w, Run.run (Run.withGhost (step dispatchRequest) watch)
        (start (some false) (Dpdkd.start .noDpdk defaultInit), {}) stopBeforePing = some (t, w) ∧
      t.stopped = true ∧ ∃ d ∈ w.dispatched, d.late = true := by
  have hrun : (Run.run (Run.withGhost (step dispatchRequest) watch)
      (start (some false) (Dpdkd.start .noDpdk defaultInit), {}) stopBeforePing).map
        (fun x => (x.1.stopped, x.2.dispatched)) =
      some (true, [⟨⟨utf8 "a", utf8 "ping"⟩, true⟩]) := by decide +kernel
  obtain ⟨⟨t, w⟩, hrun, hvalue⟩ := Option.map_eq_some_iff.mp hrun
  obtain ⟨hstopped, hdispatched⟩ := Prod.mk.inj hvalue
  refine ⟨t, w, hrun, hstopped, ⟨⟨utf8 "a", utf8 "ping"⟩, true⟩, ?_, rfl⟩
  exact hdispatched ▸ List.mem_singleton_self _

end ServerRun
end Dpdkd
end Pktlab
