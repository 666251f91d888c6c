/-
# The controller with its supervisors

In `Pktlab.Ctrld.Controller` a call of a supervisor is one move that returns or
raises. In a `Plant` it is carried out by the `DpdkdSupervisor`, with what the
surroundings answer, and the section goes on with what comes of it. A step of
the plant is a step of the controller, and what it does to a supervisor is a
step of that supervisor, so that what holds along their runs holds in the plant
(`run_controller`, `run_supervisor`).

Key definitions: `DpdkdSupervisor.carryOut`, `Plant`, `PlantMove`,
`Plant.move`, `Plant.step`.
Key theorems: `carryOut_snd`, `run_controller`, `step_supervisor`,
`run_supervisor`.
-/
import Pktlab.Ctrld.DpdkdSupervisor

namespace Pktlab
namespace Ctrld

/-! ### A call carried out -/

/-- What a section goes on with when its call has ended; `status` is the status
that is returned. -/
def ending {α : Type} (status : α → DatapathProcessStatus) : Except SupervisorError α → Choice
  | .ok a => .returned (status a)
  | .error e => .raised e.pktlab

/-- The same for a request over IPC: an error reply of the daemon is raised. -/
def replied : Except SupervisorError (CommandResult Unit) → Choice
  | .ok (.ok _) => .returned unmanagedDatapathStatus
  | .ok (.error _) => .raised true
  | .error e => .raised e.pktlab

/-- The operation of the supervisor; `what` is what a request is for. -/
def SupervisorCall.operation (what : String) : SupervisorCall → DpdkdSupervisor.Operation
  | .start => .start
  | .stop => .stop
  | .status => .status
  | .command => .request what

namespace DpdkdSupervisor

/-- A call, with what the section goes on with and the supervisor it leaves. -/
def carryOut (config : LaunchConfig) (env : ℕ → Moment) (what : String) (s : DpdkdSupervisor) :
    SupervisorCall → Choice × DpdkdSupervisor
  | .start => Prod.map (ending SupervisorStatus.toDatapathProcessStatus) id (start config env s)
  | .stop => Prod.map (ending fun _ => unmanagedDatapathStatus) id (stop env s)
  | .status => Prod.map (ending SupervisorStatus.toDatapathProcessStatus) id (status env s)
  | .command => Prod.map replied id (request env what s)

theorem carryOut_snd (config : LaunchConfig) (env : ℕ → Moment) (what : String) (s : DpdkdSupervisor)
    (call : SupervisorCall) : (s.carryOut config env what call).2 = s.after config env (call.operation what) := by
  cases call with
  | _ => rfl

end DpdkdSupervisor

/-! ### The plant -/

/-- The call that a thread carries out, and of which supervisor. -/
def Pc.calls : Pc → Option (SupervisorCall × ℕ)
  | .inside task k i => some (task.call k, i)
  | _ => none

/-- The controller with `n` threads, what is the same in the configuration of
all its supervisors, and these. -/
structure Plant (n : ℕ) where
  controller : Controller n
  dpdkdBinary : String
  socketPath : String
  supervisor : ℕ → DpdkdSupervisor

/-- What happens in a plant. -/
inductive PlantMove (n : ℕ)
  /-- a thread does something other than a call of a supervisor -/
  | thread (t : Fin n) (choice : Choice)
  /-- a thread carries out its call -/
  | call (t : Fin n) (what : String) (env : ℕ → Moment)
  /-- the process of a supervisor ends -/
  | exits (i : ℕ) (exitCode : ℤ)

namespace Plant

variable {n : ℕ} (p : Plant n)

/-- The configuration of supervisor `i`. -/
def launchConfig (i : ℕ) : LaunchConfig :=
  ⟨(p.controller.shared.supervisors i).config, p.dpdkdBinary, p.socketPath⟩

/-- What comes of a call of supervisor `i`. -/
def outcome (call : SupervisorCall) (i : ℕ) (what : String) (env : ℕ → Moment) : Choice × DpdkdSupervisor :=
  (p.supervisor i).carryOut (p.launchConfig i) env what call

/-- The move of the controller. -/
def move : PlantMove n → Option (Move n)
  | .thread t choice => if (p.controller.pc t).calls.isSome then none else some (.thread t choice)
  | .call t what env =>
    (p.controller.pc t).calls.map fun x => .thread t (p.outcome x.1 x.2 what env).1
  | .exits i _ => if (p.supervisor i).process.isSome then some (.exits i) else none

/-- The supervisors after a move. -/
def supervise : PlantMove n → ℕ → DpdkdSupervisor
  | .thread .. => p.supervisor
  | .call t what env =>
    match (p.controller.pc t).calls with
    | none => p.supervisor
    | some (call, i) => Function.update p.supervisor i (p.outcome call i what env).2
  | .exits i exitCode =>
    let s := p.supervisor i
    match s.process with
    | none => p.supervisor
    | some j => Function.update p.supervisor i (s.updateChild j ((s.child j).seen { exited := some exitCode }))

/-- One move. -/
def step (mv : PlantMove n) : Option (Plant n) :=
  (p.move mv).bind fun m =>
    (p.controller.step m).map fun c => { p with controller := c, supervisor := p.supervise mv }

/-- No method runs yet, and no supervisor has done anything. -/
def initial (n : ℕ) (superviseDatapath : Bool) (dpdkdBinary socketPath : String) : Plant n where
  controller := Controller.initial n superviseDatapath
  dpdkdBinary := dpdkdBinary
  socketPath := socketPath
  supervisor _ := DpdkdSupervisor.initial

/-! ### Its parts -/

variable {p} {p' : Plant n} {mv : PlantMove n}

theorem step_eq_some (h : p.step mv = some p') :
    ∃ m, p.move mv = some m ∧ p.controller.step m = some p'.controller ∧ p'.supervisor = p.supervise mv := by
  obtain ⟨m, hmove, hstep⟩ := Option.bind_eq_some_iff.mp h
  obtain ⟨c, hcontroller, rfl⟩ := Option.map_eq_some_iff.mp hstep
  exact ⟨m, hmove, hcontroller, rfl⟩

theorem supervise_call {t : Fin n} {x : SupervisorCall × ℕ} (h : (p.controller.pc t).calls = some x) (what : String)
    (env : ℕ → Moment) :
    p.supervise (.call t what env) = Function.update p.supervisor x.2 (p.outcome x.1 x.2 what env).2 := by
  simp only [supervise, h]

/-- **The plant refines the controller:** a run of it is one of the
controller. -/
theorem run_controller {mvs : List (PlantMove n)} (h : Run.run step p mvs = some p') :
    ∃ ms, Run.run Controller.step p.controller ms = some p'.controller := by
  refine Run.run_projects (fun p mv p' hstep => ?_) h
  obtain ⟨m, -, hcontroller, -⟩ := step_eq_some hstep
  exact ⟨[m], Run.run_cons_eq_some.mpr ⟨_, hcontroller, rfl⟩⟩

/-- Where one supervisor takes a step, each takes one or none. -/
theorem update_steps {f : ℕ → DpdkdSupervisor} {s' : DpdkdSupervisor} {config : LaunchConfig}
    {event : DpdkdSupervisor.Event} {j : ℕ} (h : DpdkdSupervisor.step config (f j) event = some s') (i : ℕ) :
    Function.update f j s' i = f i ∨
      ∃ config event, DpdkdSupervisor.step config (f i) event = some (Function.update f j s' i) := by
  by_cases hij : i = j
  · rw [hij, Function.update_self]
    exact .inr ⟨config, event, h⟩
  · exact .inl (Function.update_of_ne hij _ _)

/-- **A supervisor** takes a step of its own, or none. -/
theorem step_supervisor (h : p.step mv = some p') (i : ℕ) : p'.supervisor i = p.supervisor i ∨
    ∃ config event, DpdkdSupervisor.step config (p.supervisor i) event = some (p'.supervisor i) := by
  obtain ⟨m, -, -, hsupervisor⟩ := step_eq_some h
  rw [hsupervisor]
  cases mv with
  | thread t choice => exact .inl rfl
  | call t what env =>
    cases hcalls : (p.controller.pc t).calls with
    | none => exact .inl (by simp only [supervise, hcalls])
    | some x =>
      rw [supervise_call hcalls]
      have hcall : DpdkdSupervisor.step (p.launchConfig x.2) (p.supervisor x.2) (.call (x.1.operation what) env) =
          some (p.outcome x.1 x.2 what env).2 :=
        congrArg some (DpdkdSupervisor.carryOut_snd (p.launchConfig x.2) env what (p.supervisor x.2) x.1).symm
      exact update_steps hcall i
  | exits j exitCode =>
    cases hprocess : (p.supervisor j).process with
    | none => exact .inl (by simp only [supervise, hprocess])
    | some child =>
      simp only [supervise, hprocess]
      exact update_steps (rfl : DpdkdSupervisor.step (p.launchConfig j) _ (.exits child exitCode) = _) i

/-- So what a run of the plant does to a supervisor is a run of it. -/
theorem run_supervisor {mvs : List (PlantMove n)} (h : Run.run step p mvs = some p') (i : ℕ) :
    ∃ events, Run.run (fun s (e : LaunchConfig × DpdkdSupervisor.Event) => DpdkdSupervisor.step e.1 s e.2)
      (p.supervisor i) events = some (p'.supervisor i) := by
  refine Run.run_projects (f := fun p => p.supervisor i) (fun p mv p' hstep => ?_) h
  rcases step_supervisor hstep i with hstays | ⟨config, event, hevent⟩
  · exact ⟨[], congrArg some hstays.symm⟩
  · exact ⟨[(config, event)], Run.run_cons_eq_some.mpr ⟨_, hevent, rfl⟩⟩

end Plant

end Ctrld
end Pktlab
