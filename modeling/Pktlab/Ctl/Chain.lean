/-
# From the command line to the datapath

What an operator sees of a datapath goes through all of it: a command of
`pktlabctl`, its request, the route and the method of the controller, the
exchanges over the socket, the daemon. `Reported` says what a command does to a
`DatapathService` and what it prints or how it fails; a command that is run
through all the layers, while other clients call the daemon and bursts are
merged, reports what it says (`command_reports`).

With `--json` a command prints the body that the controller sent, sorted by
name, whatever the command is (`command_prints_body`).

Key definitions: `Command.request`, `Body`, `Reported`.
Key theorems: `command_prints_body`, `command_reports`.
-/
import Pktlab.Ctl.Output
import Pktlab.Ctrld.LiveMethods
import Pktlab.Ctrld.RestReachable

namespace Pktlab
namespace Ctl

open Utf8 Rfc8259 Ctrld Ctrld.Rest Ctrld.Methods

/-- The request that a command makes. -/
def Command.request (baseUrl : String) : Command → HttpRequest
  | .status => ⟨baseUrl, "GET", "/datapath/status", none⟩
  | .statsShow => ⟨baseUrl, "GET", "/datapath/stats", none⟩
  | .statsReset => ⟨baseUrl, "POST", "/datapath/stats/reset", some (record [])⟩
  | .datapathPause => ⟨baseUrl, "POST", "/datapath/pause", some (record [])⟩
  | .datapathResume => ⟨baseUrl, "POST", "/datapath/resume", some (record [])⟩
  | .topologyApply configPath => ⟨baseUrl, "POST", "/topology/apply", some (record [("config_path", strJson configPath)])⟩
  | .topologyDestroy => ⟨baseUrl, "POST", "/topology/destroy", some (record [])⟩

theorem controllerClient_ok {url : String} (h : ¬ blank url) : controllerClient url = .ok (rstripSlash url) := by
  rw [controllerClient, if_neg h]

/-! ### JSON output -/

/-- The bodies that the API sends in answer to a command. -/
inductive Body : Command → Json → Prop
  | status (m : Rest.DatapathStatusResponseModel) : Body .status (dumpStatus m)
  | statsShow (m : Rest.DatapathStatsResponseModel) : Body .statsShow (dumpStatsResponse m)
  | statsReset (m : Rest.DatapathStatsResetResponseModel) : Body .statsReset (dumpStatsReset m)
  | datapathPause (m : Rest.DatapathControlResponseModel) : Body .datapathPause (dumpControl m)
  | datapathResume (m : Rest.DatapathControlResponseModel) : Body .datapathResume (dumpControl m)
  | topologyApply {configPath : String} (h : ¬ blank configPath) (m : Rest.TopologyOperationResponseModel) :
    Body (.topologyApply configPath) (dumpTopology m)
  | topologyDestroy (m : Rest.TopologyOperationResponseModel) : Body .topologyDestroy (dumpTopology m)

section Fetched

variable {α : Type} {texts : Texts} {http : HttpRequest → HttpOutcome} {what url : String} {read : Json → Option α}
  {r : String → HttpRequest} {m : α} {output : α → Except Fault (List UInt8)}

/-- A command whose response is read prints it. -/
theorem runCommand_fetched {members : List (String × Json)} (hurl : ¬ blank url)
    (hhttp : http (r (rstripSlash url)) = arrived (respond (some (record members))))
    (hread : read (record members) = some m) :
    runCommand texts ((controllerClient url).bind fun baseUrl => fetch http what read (r baseUrl)) output =
      (output m).map printed := by
  have hfetch : fetch http what read (r (rstripSlash url)) = .ok m := fetch_respond hhttp hread
  rw [controllerClient_ok hurl]
  show runCommand texts (fetch http what read (r (rstripSlash url))) output = _
  rw [hfetch, runCommand]

/-- A command whose response is an error prints its status and its detail. -/
theorem runCommand_refused {status : ℕ} {e : Methods.PktlabError} (hurl : ¬ blank url) (hstatus : 300 ≤ status)
    (hhttp : http (r (rstripSlash url)) = arrived (httpException status e)) :
    runCommand texts ((controllerClient url).bind fun baseUrl => fetch http what read (r baseUrl)) output =
      .ok (failed ((ClientError.status status (r (rstripSlash url)).path (some (toDict e))).text texts)) := by
  have hfetch : fetch http what read (r (rstripSlash url)) =
      .error (.client (.status status (r (rstripSlash url)).path (some (toDict e)))) := fetch_httpException hstatus hhttp
  rw [controllerClient_ok hurl]
  show runCommand texts (fetch http what read (r (rstripSlash url))) output = _
  rw [hfetch, runCommand]

/-- What is printed as JSON. -/
theorem printed_json {j : Json} (hj : Printable j) {result : Except Fault Finished}
    (hresult : result = (Except.ok (dumps j)).map printed) :
    ∃ text, result = .ok (printed text) ∧ Text text ∧ decode text = some (sortKeys j) := by
  have hdecode := decode_spells (dumps_spells hj) Ws.nil Ws.nil
  rw [List.nil_append, List.append_nil] at hdecode
  exact ⟨dumps j, hresult, dumps_text hj, hdecode⟩

/-- A command that fetches what it then dumps as it was. -/
theorem fetched_json {members : List (String × Json)} {dump : α → Json} (hurl : ¬ blank url)
    (hhttp : http (r (rstripSlash url)) = arrived (.json 200 (record members)))
    (hread : read (record members) = some m) (houtput : output m = .ok (dumps (dump m)))
    (hdump : dump m = record members) (hmembers : Printable (record members)) :
    ∃ text, runCommand texts ((controllerClient url).bind fun baseUrl => fetch http what read (r baseUrl)) output =
      .ok (printed text) ∧ Text text ∧ decode text = some (sortKeys (record members)) := by
  refine printed_json hmembers ?_
  rw [runCommand_fetched hurl hhttp hread, houtput, hdump]

end Fetched

section Json

variable {texts : Texts} {lax : Coercions} {http : HttpRequest → HttpOutcome}

/-- **With `--json` a command prints what the controller sent.** The output is
a JSON text, and its value is the body with the members sorted by name. -/
theorem command_prints_body {args : Args} (hurl : ¬ blank args.controllerUrl) (hjson : args.jsonOutput = true)
    {body : Json} (hbody : Body args.command body)
    (hhttp : http (args.command.request (rstripSlash args.controllerUrl)) = arrived (.json 200 body)) :
    ∃ text, args.run texts lax http = .ok (printed text) ∧ Text text ∧ decode text = some (sortKeys body) := by
  obtain ⟨url, json, command⟩ := args
  cases hjson
  cases hbody with
  | status m =>
    exact fetched_json hurl hhttp (readStatusResponse_dump lax m) rfl (dump_shownStatus m) (printable_dumpStatus m)
  | statsShow m =>
    exact fetched_json hurl hhttp (readStatsResponse_dump lax m) rfl (dump_shownStats m) (printable_dumpStatsResponse m)
  | statsReset m =>
    exact fetched_json hurl hhttp (readStatsResetResponse_dump lax m) rfl (dump_shownStatsReset m)
      (printable_dumpStatsReset m)
  | datapathPause m | datapathResume m =>
    exact fetched_json hurl hhttp (readControlResponse_dump lax m) rfl (dump_shownControl m) (printable_dumpControl m)
  | @topologyApply configPath hpath m =>
    have hfetch : fetch http "topology apply" (readTopologyResponse lax)
        ((Command.topologyApply configPath).request (rstripSlash url)) = .ok (shownTopology m) :=
      fetch_respond hhttp (readTopologyResponse_dump lax m)
    have hresult : ((controllerClient url).bind fun baseUrl => applyTopology http lax baseUrl configPath) =
        .ok (shownTopology m) := by
      rw [controllerClient_ok hurl]
      show applyTopology http lax (rstripSlash url) configPath = _
      rw [applyTopology, if_neg hpath]
      exact hfetch
    simp only [Args.run, hresult, catchValueError]
    exact printed_json (printable_dumpTopology m) rfl
  | topologyDestroy m =>
    exact fetched_json hurl hhttp (readTopologyResponse_dump lax m) rfl (dump_shownTopology m) (printable_dumpTopology m)

def plainTexts : Texts := ⟨fun _ => none, fun _ _ => "", fun _ => .error .other⟩

/-- A server that answers everything so. -/
def answering (response : HttpResponse) : HttpRequest → HttpOutcome := fun _ => arrived response

/-- The response to a pause. -/
def pausedModel : Rest.DatapathControlResponseModel where
  datapath := ⟨true, true, startedLive.socketPath, none, none, none, none, none⟩
  message := resetReply.message

/-- A slash at the end of the URL makes no difference. -/
theorem command_prints_body_pause :
    ∃ text, Args.run plainTexts ⟨fun _ => none, fun _ => none⟩ (answering (.json 200 (dumpControl pausedModel)))
        ⟨"http://127.0.0.1:8080/", true, .datapathPause⟩ = .ok (printed text) ∧ Text text ∧
      decode text = some (sortKeys (dumpControl pausedModel)) :=
  command_prints_body (by decide) rfl (.datapathPause pausedModel) rfl

end Json

/-! ### What a command does -/

section Reported

variable (texts : Texts) (jsonOutput : Bool) (l : LiveController) (p : Process)

/-- What is shown of a datapath with this health. -/
def reachedModel (health : HealthPayload) : DatapathHealthModel := fromStatus (reachedStatus l p health)

/-- The controller once it has seen this health. -/
def seen (health : HealthPayload) : Runtime := (l.observing (reachedStatus l p health)).runtime

/-- The commands for `paused`. -/
def controlCommand (paused : Bool) : Command := if paused then .datapathPause else .datapathResume

def controlAction (paused : Bool) : String := if paused then "pause" else "resume"

def controlPath (paused : Bool) : String := if paused then "/datapath/pause" else "/datapath/resume"

/-- `Reported c s ts out s'`: on the service `s`, while the events of `ts` go
on, the command `c` leaves the service `s'` and ends as `out`. -/
inductive Reported : Command → DatapathService → List Turn → Except Fault Finished → DatapathService → Prop
  | status {s : DatapathService} {ts : List Turn} {controller : ControllerHealthModel} :
    controllerHealth (seen l p (healthAt s ts)) = some controller →
    Reported .status s ts
      ((renderStatus jsonOutput
        (shownStatus ⟨controller, reachedModel l p (healthAt s ts), (settle s ts).ports⟩)).map printed)
      (settle s ts)
  | statsShow {s : DatapathService} {ts : List Turn} :
    Reported .statsShow s ts
      ((renderStats texts jsonOutput (shownStats ⟨reachedModel l p (healthAt s ts), (settle s ts).stats⟩)).map printed)
      (settle s ts)
  | statsReset {s after : DatapathService} {ts1 ts2 : List Turn} :
    after = { settle s ts1 with counters := {} } →
    Reported .statsReset s (ts1 ++ ts2)
      ((renderStatsReset texts jsonOutput
        (shownStatsReset ⟨reachedModel l p (healthAt after ts2), (settle after ts2).stats, resetReply.message⟩)).map
          printed)
      (settle after ts2)
  | control {paused : Bool} {s after : DatapathService} {ts1 ts2 : List Turn} :
    (settle s ts1).forwarding = true → after = { settle s ts1 with paused := paused } →
    Reported (controlCommand paused) s (ts1 ++ ts2)
      ((renderDatapathControl jsonOutput (controlAction paused)
        (shownControl ⟨reachedModel l p (healthAt after ts2), controlReply (settle s ts1) paused⟩)).map printed)
      (settle after ts2)
  | refused {paused : Bool} {s : DatapathService} {ts : List Turn} :
    (settle s ts).forwarding = false →
    Reported (controlCommand paused) s ts
      (.ok (failed ((ClientError.status 409 (controlPath paused) (some (toDict conflict))).text texts)))
      (settle s ts)

end Reported

section Chain

variable {texts : Texts} {lax clientLax : Coercions} {http : HttpRequest → HttpOutcome} {jsonOutput : Bool}
  {context : SupervisorError → List (String × Json)} {l l' : LiveController} {p : Process} {s s' : DatapathService}
  {ts : List Turn} {url : String} {response : HttpResponse}

/-- The status of a service. -/
theorem status_reports (hl : Attached l p) (hspoken : l.runtime.Spoken) (hurl : ¬ blank url)
    (hrun : Script.perform askService (Rest.getDatapathStatus context) l s ts = some ((.ok response, l'), s'))
    (hhttp : http (Command.status.request (rstripSlash url)) = arrived response) :
    Reported texts jsonOutput l p .status s ts (Args.run texts clientLax http ⟨url, jsonOutput, .status⟩) s' := by
  rcases route_run hrun with ⟨snapshot, hmethod, hresponse⟩ | ⟨e, hmethod, -⟩
  · obtain ⟨hr, rfl⟩ := datapathStatusSnapshot_run hl hmethod
    obtain rfl := Except.ok.inj hr
    obtain rfl := Except.ok.inj hresponse
    obtain ⟨controller, hcontroller⟩ : ∃ controller, controllerHealth (seen l p (healthAt s ts)) = some controller :=
      ⟨_, controllerHealth_spoken (Runtime.finishObserved_spoken hspoken _)⟩
    have hbody : DatapathStatusResponseModel.fromSnapshot
        ⟨⟨seen l p (healthAt s ts), reachedStatus l p (healthAt s ts)⟩, (settle s ts).ports⟩ =
          some ⟨controller, reachedModel l p (healthAt s ts), (settle s ts).ports⟩ := by
      rw [DatapathStatusResponseModel.fromSnapshot, HealthResponseModel.fromSnapshot, hcontroller]
      rfl
    rw [show (l.observing (reachedStatus l p (healthAt s ts))).runtime = seen l p (healthAt s ts) from rfl, hbody] at hhttp
    have hout : Args.run texts clientLax http ⟨url, jsonOutput, .status⟩ =
        (renderStatus jsonOutput
          (shownStatus ⟨controller, reachedModel l p (healthAt s ts), (settle s ts).ports⟩)).map printed :=
      runCommand_fetched hurl hhttp (readStatusResponse_dump clientLax _)
    rw [hout]
    exact .status hcontroller
  · obtain ⟨hr, -⟩ := datapathStatusSnapshot_run hl hmethod
    cases hr

/-- The counters of a service. -/
theorem stats_reports (hl : Attached l p) (hurl : ¬ blank url)
    (hrun : Script.perform askService (Rest.getDatapathStats context) l s ts = some ((.ok response, l'), s'))
    (hhttp : http (Command.statsShow.request (rstripSlash url)) = arrived response) :
    Reported texts jsonOutput l p .statsShow s ts (Args.run texts clientLax http ⟨url, jsonOutput, .statsShow⟩) s' := by
  rcases route_run hrun with ⟨snapshot, hmethod, hresponse⟩ | ⟨e, hmethod, -⟩
  · obtain ⟨hr, rfl⟩ := datapathStatsSnapshot_run hl hmethod
    obtain rfl := Except.ok.inj hr
    obtain rfl := Except.ok.inj hresponse
    have hout : Args.run texts clientLax http ⟨url, jsonOutput, .statsShow⟩ =
        (renderStats texts jsonOutput (shownStats ⟨reachedModel l p (healthAt s ts), (settle s ts).stats⟩)).map printed :=
      runCommand_fetched hurl hhttp (readStatsResponse_dump clientLax _)
    rw [hout]
    exact .statsShow
  · obtain ⟨hr, -⟩ := datapathStatsSnapshot_run hl hmethod
    cases hr

/-- A reset of the counters of a service. -/
theorem reset_reports (hl : Attached l p) (hurl : ¬ blank url)
    (hrun : Script.perform askService (postStatsReset context) l s ts = some ((.ok response, l'), s'))
    (hhttp : http (Command.statsReset.request (rstripSlash url)) = arrived response) :
    Reported texts jsonOutput l p .statsReset s ts (Args.run texts clientLax http ⟨url, jsonOutput, .statsReset⟩)
      s' := by
  rcases route_run hrun with ⟨result, hmethod, hresponse⟩ | ⟨e, hmethod, -⟩
  · obtain ⟨ts1, ts2, after, rfl, hafter, hr, rfl⟩ := resetDatapathStats_run hl hmethod
    obtain rfl := Except.ok.inj hr
    obtain rfl := Except.ok.inj hresponse
    have hout : Args.run texts clientLax http ⟨url, jsonOutput, .statsReset⟩ =
        (renderStatsReset texts jsonOutput
          (shownStatsReset ⟨reachedModel l p (healthAt after ts2), (settle after ts2).stats, resetReply.message⟩)).map
            printed :=
      runCommand_fetched hurl hhttp (readStatsResetResponse_dump clientLax _)
    rw [hout]
    exact .statsReset hafter
  · obtain ⟨ts1, ts2, after, -, -, hr, -⟩ := resetDatapathStats_run hl hmethod
    cases hr

theorem request_controlCommand (baseUrl : String) (paused : Bool) :
    (controlCommand paused).request baseUrl = ⟨baseUrl, "POST", controlPath paused, some (record [])⟩ := by
  cases paused <;> rfl

/-- The commands for `paused` differ in their texts only. -/
theorem run_controlCommand (paused : Bool) :
    ∃ what, Args.run texts clientLax http ⟨url, jsonOutput, controlCommand paused⟩ =
      runCommand texts ((controllerClient url).bind fun baseUrl =>
        fetch http what (readControlResponse clientLax) ((controlCommand paused).request baseUrl))
        (renderDatapathControl jsonOutput (controlAction paused)) := by
  cases paused with
  | true => exact ⟨"datapath pause", rfl⟩
  | false => exact ⟨"datapath resume", rfl⟩

/-- A pause or a resumption of a service. -/
theorem control_reports {paused : Bool} (hl : Attached l p) (hurl : ¬ blank url)
    (hrun : Script.perform askService (postControl context (control paused)) l s ts = some ((.ok response, l'), s'))
    (hhttp : http ((controlCommand paused).request (rstripSlash url)) = arrived response) :
    Reported texts jsonOutput l p (controlCommand paused) s ts
      (Args.run texts clientLax http ⟨url, jsonOutput, controlCommand paused⟩) s' := by
  have hcommand : ∃ what, Args.run texts clientLax http ⟨url, jsonOutput, controlCommand paused⟩ = _ :=
    run_controlCommand paused
  obtain ⟨what, hcommand⟩ := hcommand
  rw [hcommand]
  rcases route_run hrun with ⟨result, hmethod, hresponse⟩ | ⟨e, hmethod, hresponse⟩
  · obtain ⟨ts1, ts2, rfl, ⟨hforwarding, after, hafter, hr, rfl⟩ | ⟨-, -, hr, -⟩⟩ := control_run hl hmethod
    · obtain rfl := Except.ok.inj hr
      obtain rfl := Except.ok.inj hresponse
      rw [runCommand_fetched hurl hhttp (readControlResponse_dump clientLax _)]
      exact .control hforwarding hafter
    · cases hr
  · obtain ⟨ts1, ts2, rfl, ⟨-, after, -, hr, -⟩ | ⟨hforwarding, rfl, hr, rfl⟩⟩ := control_run hl hmethod
    · cases hr
    · obtain rfl := Except.error.inj hr
      obtain rfl := Except.ok.inj hresponse
      have hconflict : http ((controlCommand paused).request (rstripSlash url)) = arrived (httpException 409 conflict) :=
        hhttp
      rw [runCommand_refused hurl (by decide) hconflict, request_controlCommand, List.append_nil]
      exact .refused hforwarding

/-- A route of the datapath, by the command whose request it answers. -/
inductive Routed (context : SupervisorError → List (String × Json)) : Command → Method HttpResponse → Prop
  | status : Routed context .status (Rest.getDatapathStatus context)
  | statsShow : Routed context .statsShow (Rest.getDatapathStats context)
  | statsReset : Routed context .statsReset (postStatsReset context)
  | control (paused : Bool) : Routed context (controlCommand paused) (postControl context (control paused))

/-- The requests of the commands for the datapath are routed. -/
theorem routed_request {command : Command} {baseUrl : String} {method : Method HttpResponse}
    (h : routeFor context (command.request baseUrl).method (command.request baseUrl).path = some method) :
    Routed context command method := by
  cases command with
  | status =>
    cases h
    exact .status
  | statsShow =>
    cases h
    exact .statsShow
  | statsReset =>
    cases h
    exact .statsReset
  | datapathPause =>
    cases h
    exact .control true
  | datapathResume =>
    cases h
    exact .control false
  | topologyApply configPath => cases h
  | topologyDestroy => cases h

/-- A command on a service. -/
theorem routed_reports {command : Command} {method : Method HttpResponse} (hrouted : Routed context command method)
    (hl : Attached l p) (hspoken : l.runtime.Spoken) (hurl : ¬ blank url)
    (hrun : Script.perform askService method l s ts = some ((.ok response, l'), s'))
    (hhttp : http (command.request (rstripSlash url)) = arrived response) :
    Reported texts jsonOutput l p command s ts (Args.run texts clientLax http ⟨url, jsonOutput, command⟩) s' := by
  cases hrouted with
  | status => exact status_reports hl hspoken hurl hrun hhttp
  | statsShow => exact stats_reports hl hurl hrun hhttp
  | statsReset => exact reset_reports hl hurl hrun hhttp
  | control paused => exact control_reports hl hurl hrun hhttp

variable {modelDumpJson : RequestEnvelope → List UInt8} {loads : List UInt8 → Except LoadsError Json}
  {ingress egress : NonEmptyStr} {config : Dpdkd.DatapathConfig} {init : Dpdkd.DatapathInit}

/-- **A command reports the datapath.** A command of an operator is answered by
the controller, whose method asks the daemon while other events go on. What the
command prints, or how it fails, is what it reports of the service that the
daemon showed before, and the daemon that is left shows the service that it
leaves. -/
theorem command_reports (hdump : CompactDump modelDumpJson) (hloads : LoadsJson loads)
    (hs : Started ingress egress config init) (start : Dpdkd.StartEnv) {before : List ExchangeEvent}
    {d d' : Dpdkd.Daemon}
    (hbefore : Run.run (exchangeStep modelDumpJson) (Dpdkd.start start init) before = some d) {n : ℕ}
    {moves : List (Move n)} {c : Controller n}
    (hcontroller : Run.run Controller.step (Controller.initial n true) moves = some c)
    (hruntime : l.runtime = c.shared.runtime) (hl : Attached l p) {args : Args} (hurl : ¬ blank args.controllerUrl)
    {method : Method HttpResponse}
    (hroute : routeFor context (args.command.request (rstripSlash args.controllerUrl)).method
      (args.command.request (rstripSlash args.controllerUrl)).path = some method)
    (hrun : Script.perform (askDaemon modelDumpJson loads lax) method l d ts = some ((.ok response, l'), d'))
    (hhttp : http (args.command.request (rstripSlash args.controllerUrl)) = arrived response) :
    ∃ s', Reported texts args.jsonOutput l p args.command
        (before.foldl serviceAfter (DatapathService.launched start ingress egress)) ts (args.run texts clientLax http) s' ∧
      Shows ingress egress d' s' := by
  have hspoken : l.runtime.Spoken := by
    rw [hruntime]
    exact Controller.run_spoken hcontroller
  obtain ⟨s', hserved, hshows⟩ := method_serves hdump hloads hs start hbefore hrun
  obtain ⟨url, json, command⟩ := args
  exact ⟨s', routed_reports (routed_request hroute) hl hspoken hurl hserved hhttp, hshows⟩

end Chain

/-- A daemon that does not forward. -/
def idleDaemon : Dpdkd.Daemon := Dpdkd.start .noDpdk Dpdkd.defaultInit

/-- A turn in which it is asked at once. -/
def turnOf (c : DatapathCommand) (between : List ExchangeEvent) : Turn where
  between := between
  id := firstId
  short := by decide
  delivery := atOnce idleDaemon (c.request firstId)

/-- The turns of a pause, before which another client resets the counters. -/
def pauseTurns : List Turn :=
  [turnOf .ping [], turnOf .ping [], turnOf .getHealth [], turnOf .getVersion [],
    turnOf .pauseDatapath
      [.call (DatapathCommand.resetStats.request otherId)
        (atOnce idleDaemon (DatapathCommand.resetStats.request otherId))]]

/-- How a pause ends that is asked for over the socket. -/
def pauseEnd : Option ((Except MethodError HttpResponse × LiveController) × Dpdkd.Daemon) :=
  Script.perform (askDaemon compactJson loadsStrict ⟨fun _ => none, fun _ => none⟩)
    (postControl (fun _ => []) pauseForwarding) startedLive idleDaemon pauseTurns

def pauseArgs : Args := ⟨"http://127.0.0.1:8080", false, .datapathPause⟩

theorem command_reports_pause :
    ∃ response s', Reported plainTexts false startedLive ⟨⟨1, by decide⟩, false⟩ .datapathPause
      (DatapathService.launched .noDpdk ⟨"dtap0", by decide⟩ ⟨"dtap1", by decide⟩) pauseTurns
      (pauseArgs.run plainTexts ⟨fun _ => none, fun _ => none⟩ (answering response)) s' := by
  have hinit : Dpdkd.datapathInit Dpdkd.defaultConfig = .ok Dpdkd.defaultInit := by decide +kernel
  have hclean : ∀ s ∈ ["dtap0", "dtap1"], ∀ c ∈ utf8 s, isPlain c = true := by decide
  have hs : Started ⟨"dtap0", by decide⟩ ⟨"dtap1", by decide⟩ Dpdkd.defaultConfig Dpdkd.defaultInit :=
    ⟨hinit, rfl, rfl, Dpdkd.clean_plain (hclean _ (by simp)), Dpdkd.clean_plain (hclean _ (by simp))⟩
  have hbefore : Run.run (exchangeStep compactJson) idleDaemon [] = some idleDaemon := rfl
  obtain ⟨c, hc⟩ : ∃ c, startedController = some c := Option.isSome_iff_exists.mp (by rfl)
  have hruntime : startedLive.runtime = c.shared.runtime := by
    show (startedController.map fun c => c.shared.runtime).getD (Runtime.init true) = _
    rw [hc]
    rfl
  have hl : Attached startedLive ⟨⟨1, by decide⟩, false⟩ := ⟨rfl, rfl, rfl, rfl⟩
  have hurl : ¬ blank pauseArgs.controllerUrl := by decide
  have hroute : routeFor (fun _ => []) "POST" "/datapath/pause" = some (postControl (fun _ => []) pauseForwarding) := rfl
  have hreturns : (pauseEnd.bind fun x => x.1.1.toOption).isSome = true := by decide +kernel
  obtain ⟨response, hresponse⟩ := Option.isSome_iff_exists.mp hreturns
  obtain ⟨⟨⟨r, l'⟩, d'⟩, hend, hr⟩ := Option.bind_eq_some_iff.mp hresponse
  cases r with
  | error e => cases hr
  | ok _ =>
    cases hr
    have hhttp : answering response (pauseArgs.command.request (rstripSlash pauseArgs.controllerUrl)) =
        arrived response := rfl
    obtain ⟨s', hreported, -⟩ :=
      command_reports (fun _ => rfl) loadsStrict_loadsJson hs .noDpdk hbefore hc hruntime hl hurl hroute hend hhttp
    exact ⟨response, s', hreported⟩

end Ctl
end Pktlab
