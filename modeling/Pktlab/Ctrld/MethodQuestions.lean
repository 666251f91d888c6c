/-
# What the methods ask

Whatever the process and the daemon answer, a method asks only some questions:
a `GET` route asks for nothing that changes the datapath, and a `POST` route
sends the command that it is for, once at most (`route_asks`). So a request
that fails, or that finds the daemon gone, is not repeated, and looking at a
datapath does not touch it. What is asked is read off a run against a backend
that writes the questions down (`Dialogue.logging`).

Key definitions: `Question.mutates`, `Question.Reads`, `Question.Only`, `commandRoutes`.
Key theorems: `asks_statusLocked`, `asks_request`, `route_asks`.
-/
import Pktlab.Ctrld.RestReachable

namespace Pktlab
namespace Ctrld
namespace Methods

open Script Rest

/-- A question that changes the datapath. -/
def Question.mutates : Question → Bool
  | .call .resetStats | .call .pauseDatapath | .call .resumeDatapath => true
  | _ => false

/-- Questions without those that change the datapath. -/
def Question.Reads (q : Question) : Prop := q.mutates = false

/-- Questions that change the datapath by `c` only. -/
def Question.Only (c : DatapathCommand) (q : Question) : Prop := q.mutates = true → q = .call c

section Asks

variable {P : Question → Prop} {n : ℕ}

/-- What reads first, and then asks. -/
theorem asks_then {α β : Type} {x : Method α} {f : α → Method β} (hx : Script.Asks P 0 x)
    (hf : ∀ a, Script.Asks P n (f a)) : Script.Asks P n (x >>= f) := by
  have h := asks_bind hx hf
  rwa [Nat.zero_add] at h

/-- The other way round. -/
theorem asks_first {α β : Type} {x : Method α} {f : α → Method β} (hx : Script.Asks P n x)
    (hf : ∀ a, Script.Asks P 0 (f a)) : Script.Asks P n (x >>= f) := asks_bind hx hf

theorem asks_modifySupervisor (f : LiveSupervisor → LiveSupervisor) : Script.Asks P n (modifySupervisor f) :=
  asks_modify _

theorem asks_raise {α : Type} (e : SupervisorError) : Script.Asks P n (raise e : Method α) := asks_throw _

theorem asks_catch {α : Type} {x : Method α} {handler : MethodError → Method α} (hx : Script.Asks P 0 x)
    (hh : ∀ e, Script.Asks P n (handler e)) : Script.Asks P n (tryCatch x handler) := by
  have h := asks_tryCatch hx hh
  rwa [Nat.zero_add] at h

theorem asks_requireClient : Script.Asks P n requireClient := by
  refine asks_then asks_get fun s => ?_
  split
  · exact asks_pure ()
  · exact asks_raise _

variable (hP : ∀ q, Question.Reads q → P q)

include hP

theorem asks_require {what : String} {c : DatapathCommand} (hc : Question.Reads (.call c)) :
    Script.Asks P n (require what c) := by
  refine asks_then (asks_ask (hP _ hc)) fun answer => ?_
  split
  · exact asks_pure _
  · exact asks_then (asks_modifySupervisor _) fun _ => asks_raise _
  · exact asks_raise _

theorem asks_refreshIpcState (process : Process) : Script.Asks P n (refreshIpcState process) := by
  refine asks_then asks_requireClient fun _ => ?_
  refine asks_then (asks_require hP rfl) fun _ => ?_
  refine asks_then (asks_require hP rfl) fun health => ?_
  refine asks_then (asks_require hP rfl) fun version => ?_
  refine asks_then (asks_modifySupervisor _) fun _ => ?_
  exact asks_then asks_get fun s => asks_pure _

theorem asks_consumeStderr (process : Process) : Script.Asks P n (consumeStderr process) := by
  unfold consumeStderr
  split
  · exact asks_pure _
  · refine asks_then (asks_ask (hP _ rfl)) fun stderr => ?_
    refine asks_then (asks_modifySupervisor _) fun _ => ?_
    split
    · exact asks_pure _
    · exact asks_raise _

/-- A status only reads. -/
theorem asks_statusLocked : Script.Asks P n statusLocked := by
  refine asks_then asks_get fun s => ?_
  split
  · exact asks_pure _
  · refine asks_then (asks_ask (hP _ rfl)) fun exitCode => ?_
    split
    · refine asks_then (asks_consumeStderr hP _) fun stderr => ?_
      refine asks_then (asks_modifySupervisor _) fun _ => ?_
      exact asks_then asks_get fun s => asks_pure _
    · refine asks_catch (asks_refreshIpcState hP _) fun e => ?_
      split
      · refine asks_then (asks_modifySupervisor _) fun _ => ?_
        exact asks_then asks_get fun s => asks_pure _
      · exact asks_throw _

/-- A request reads, and then sends its command. -/
theorem asks_request {what : String} {c : DatapathCommand}
    (hask : Script.Asks P n (Script.ask (Question.call c) : Method (Answer (Payload c)))) :
    Script.Asks P n (request what c) := by
  refine asks_then (asks_statusLocked hP) fun status => ?_
  split
  · exact asks_raise _
  · refine asks_then asks_requireClient fun _ => ?_
    refine asks_first hask fun answer => ?_
    split
    · exact asks_pure _
    · exact asks_raise _

omit hP in
theorem asks_unwrap {α : Type} (result : CommandResult α) : Script.Asks P n (unwrap result) := by
  unfold unwrap
  split
  · exact asks_pure _
  · exact asks_throw _

theorem asks_currentDatapathStatusLocked : Script.Asks P n currentDatapathStatusLocked := by
  refine asks_then asks_get fun s => ?_
  split
  · exact asks_statusLocked hP
  · exact asks_pure _

theorem asks_healthSnapshot : Script.Asks P n healthSnapshot := by
  refine asks_then (asks_currentDatapathStatusLocked hP) fun status => ?_
  refine asks_then asks_get fun s => ?_
  split
  · exact asks_then (asks_modify _) fun _ => asks_then asks_get fun s => asks_pure _
  · exact asks_then asks_get fun s => asks_pure _

theorem asks_datapathStatusSnapshot : Script.Asks P n datapathStatusSnapshot := by
  refine asks_then (asks_healthSnapshot hP) fun snapshot => ?_
  refine asks_then asks_get fun s => ?_
  split
  · refine asks_then (asks_request hP (asks_ask (hP _ rfl))) fun result => ?_
    exact asks_then (asks_unwrap result) fun ports => asks_pure _
  · exact asks_pure _

omit hP in
theorem asks_requireSupervisor : Script.Asks P n requireSupervisor := by
  refine asks_then asks_get fun s => ?_
  split
  · exact asks_pure _
  · exact asks_throw _

theorem asks_datapathStatsSnapshot : Script.Asks P n datapathStatsSnapshot := by
  refine asks_then (asks_currentDatapathStatusLocked hP) fun status => ?_
  refine asks_then asks_requireSupervisor fun _ => ?_
  refine asks_then (asks_request hP (asks_ask (hP _ rfl))) fun result => ?_
  exact asks_then (asks_unwrap result) fun stats => asks_pure _

/-- A reset sends its command, and then reads. -/
theorem asks_resetDatapathStats
    (hask : Script.Asks P n (Script.ask (Question.call .resetStats) : Method (Answer (Payload .resetStats)))) :
    Script.Asks P n resetDatapathStats := by
  refine asks_then asks_requireSupervisor fun _ => ?_
  refine asks_first (asks_request hP hask) fun result => ?_
  refine asks_then (asks_unwrap result) fun ack => ?_
  refine asks_then (asks_currentDatapathStatusLocked hP) fun status => ?_
  refine asks_then (asks_request hP (asks_ask (hP _ rfl))) fun result => ?_
  exact asks_then (asks_unwrap result) fun stats => asks_pure _

/-- So does a pause or a resumption. -/
theorem asks_runDatapathControlCommand {command : Method (CommandResult AckPayload)}
    (hcommand : Script.Asks P n command) : Script.Asks P n (runDatapathControlCommand command) := by
  refine asks_then asks_requireSupervisor fun _ => ?_
  refine asks_first hcommand fun result => ?_
  refine asks_then (asks_unwrap result) fun ack => ?_
  refine asks_then (asks_currentDatapathStatusLocked hP) fun status => ?_
  exact asks_then (asks_modify _) fun _ => asks_pure _

omit hP in
theorem asks_route {α : Type} {context : SupervisorError → List (String × Rfc8259.Json)} {method : Method α}
    {body : α → Option Rfc8259.Json} (h : Script.Asks P n method) : Script.Asks P n (route context method body) :=
  asks_tryCatch (n := 0) (asks_first h fun _ => asks_pure _) fun _ => asks_pure _

end Asks

/-! ### The routes -/

/-- The routes that change the datapath, and how. -/
def commandRoutes : List (String × DatapathCommand) :=
  [("/datapath/stats/reset", .resetStats), ("/datapath/pause", .pauseDatapath), ("/datapath/resume", .resumeDatapath)]

variable {context : SupervisorError → List (String × Rfc8259.Json)} {name path : String} {method : Method HttpResponse}

theorem reads_only {c : DatapathCommand} (q : Question) (h : Question.Reads q) : Question.Only c q := by
  intro hmutates
  rw [Question.Reads] at h
  rw [h] at hmutates
  cases hmutates

/-- A `GET` route only reads; a `POST` route sends its command at most once,
and no other. -/
theorem routeFor_asks (h : routeFor context name path = some method) :
    (name = "GET" ∧ Script.Asks Question.Reads 0 method) ∨
      ∃ c, name = "POST" ∧ (path, c) ∈ commandRoutes ∧ Script.Asks Question.Reads 1 method ∧
        Script.Asks (Question.Only c) 0 method := by
  have hreads : ∀ q, Question.Reads q → Question.Reads q := fun _ hq => hq
  unfold routeFor at h
  split at h
  · cases h
    exact Or.inl ⟨rfl, asks_catch (asks_first (asks_healthSnapshot hreads) fun _ => asks_pure _) fun _ => asks_pure _⟩
  · cases h
    exact Or.inl ⟨rfl, asks_route (asks_datapathStatusSnapshot hreads)⟩
  · cases h
    exact Or.inl ⟨rfl, asks_route (asks_datapathStatsSnapshot hreads)⟩
  · cases h
    exact Or.inr ⟨.resetStats, rfl, by simp [commandRoutes],
      asks_route (asks_resetDatapathStats hreads (asks_ask_once _)),
      asks_route (asks_resetDatapathStats reads_only (asks_ask fun _ => rfl))⟩
  · cases h
    exact Or.inr ⟨.pauseDatapath, rfl, by simp [commandRoutes],
      asks_route (asks_runDatapathControlCommand hreads (asks_request hreads (asks_ask_once _))),
      asks_route (asks_runDatapathControlCommand reads_only (asks_request reads_only (asks_ask fun _ => rfl)))⟩
  · cases h
    exact Or.inr ⟨.resumeDatapath, rfl, by simp [commandRoutes],
      asks_route (asks_runDatapathControlCommand hreads (asks_request hreads (asks_ask_once _))),
      asks_route (asks_runDatapathControlCommand reads_only (asks_request reads_only (asks_ask fun _ => rfl)))⟩
  · cases h

instance (q : Question) : Decidable q.Reads := inferInstanceAs (Decidable (_ = _))

instance (c : DatapathCommand) (q : Question) : Decidable (Question.Only c q) :=
  match q with
  | .poll => isTrue fun h => nomatch h
  | .stderr => isTrue fun h => nomatch h
  | .call c' => decidable_of_iff ((Question.call c').mutates = true → c' = c) (by simp [Question.Only])

/-- **What a route asks.** A `GET` request asks for nothing that changes the
datapath; a `POST` request sends the command of its path once at most, and no
other, whatever the process and the daemon answer. -/
theorem route_asks {context : SupervisorError → List (String × Rfc8259.Json)} {name path : String}
    {method : Method HttpResponse} (hroute : routeFor context name path = some method) {l l' : LiveController}
    {answers : List ((q : Question) → q.Reply)} {r : Except MethodError HttpResponse} {asked : List Question}
    (hrun : perform Dialogue.logging method l [] answers = some ((r, l'), asked)) :
    (asked.filter Question.mutates).length ≤ 1 ∧
      ∀ q ∈ asked, q.mutates = true → name = "POST" ∧ ∃ c, (path, c) ∈ commandRoutes ∧ q = .call c := by
  have hlogged : ∀ {P : Question → Prop} [DecidablePred P] {n : ℕ}, Script.Asks P n method →
      (asked.filter fun q => ¬ P q).length ≤ n := by
    intro P _ n hasks
    obtain ⟨asked', hasked, hlen⟩ := (hasks l).run_logging hrun
    rw [List.nil_append] at hasked
    rwa [hasked]
  have hmutates : (asked.filter Question.mutates).length = (asked.filter fun q => ¬ q.Reads).length := by
    simp [Question.Reads]
  have hall : ∀ {P : Question → Prop} [DecidablePred P], Script.Asks P 0 method → ∀ q ∈ asked, P q := by
    intro P _ hasks q hq
    by_contra hnot
    have hnone := List.eq_nil_of_length_eq_zero (Nat.le_zero.mp (hlogged hasks))
    have hmem : q ∈ asked.filter fun q => ¬ P q := List.mem_filter.mpr ⟨hq, by simpa using hnot⟩
    rw [hnone] at hmem
    cases hmem
  rw [hmutates]
  rcases routeFor_asks hroute with ⟨-, hreads⟩ | ⟨c, hname, hpath, honce, honly⟩
  · refine ⟨(hlogged hreads).trans (Nat.zero_le 1), fun q hq hmut => ?_⟩
    have hread := hall hreads q hq
    rw [Question.Reads, hmut] at hread
    cases hread
  · exact ⟨hlogged honce, fun q hq hmut => ⟨hname, c, hpath, hall honly q hq hmut⟩⟩

/-- A daemon that gets ready, and of which nothing is heard after that. -/
def lostReplies : (q : Question) → q.Reply
  | .poll => none
  | .stderr => none
  | .call .ping => .ok (.ok (AckPayload.mk ⟨"ready", by decide⟩))
  | .call .getHealth => .ok (.ok (HealthPayload.mk ⟨.running, "datapath is running", 0⟩ true false))
  | .call .getVersion => .ok (.ok (VersionPayload.mk "1.0" "23.11"))
  | .call _ => .error (.transport "datapath IPC request timed out")

/-- A pause of which the reply is lost is asked for once. -/
theorem route_asks_lost : ∃ response l' asked,
    perform Dialogue.logging (postControl (fun _ => []) pauseForwarding) startedLive [] (List.replicate 5 lostReplies) =
      some ((response, l'), asked) ∧ (asked.filter Question.mutates).length ≤ 1 := by
  have hroute : routeFor (fun _ => []) "POST" "/datapath/pause" = some (postControl (fun _ => []) pauseForwarding) := rfl
  have hends : (perform Dialogue.logging (postControl (fun _ => []) pauseForwarding) startedLive []
      (List.replicate 5 lostReplies)).isSome = true := by
    decide +kernel
  obtain ⟨⟨⟨r, l'⟩, asked⟩, hrun⟩ := Option.isSome_iff_exists.mp hends
  exact ⟨r, l', asked, hrun, (route_asks hroute hrun).1⟩

end Methods
end Ctrld
end Pktlab
