import LittleOrgans.Concurrency.Effects

/-!
# Every program of the daemon

The machine `tasks` runs every program of the daemon, the spawn requests to the runtime
daemon included that come from no session daemon. Of the shims it assumes nothing: a
session that is spawned again has another shim, so that the environment may change the
table of the shims in any way between two steps.
-/

set_option autoImplicit false

namespace LittleOrgans.Concurrency

open LittleOrgans.Core
open LittleOrgans.Library
open LittleOrgans.Store
open LittleOrgans.Daemon

/-- What a program of the daemon was started for. -/
inductive DaemonTask where
  | daemon (origin : Origin)
  /-- A spawn request to the runtime daemon. -/
  | spawn (request : RuntimeSpawnRequest)

/-- The program of a task. -/
def DaemonTask.program : DaemonTask → DaemonProg Reply
  | .daemon origin => origin.program
  | .spawn request => quiet (spawnDomain request)

/-- What the environment does: an event, or a new shim for a session that is spawned again. -/
inductive TaskEnv where
  | event (event : EnvEvent)
  | shims (shims : Table SessionId Shim)

namespace World

/-- Starts a task. -/
def startTask (w : World) : DaemonTask → Option World
  | .daemon origin => w.start origin
  | .spawn _ => guarded (w.stage = .listening) w

/-- The world after the environment has acted. -/
def taskEnv (w : World) : TaskEnv → Option World
  | .event event => w.env event
  | .shims shims => some { w with shims := shims }

/-- A start touches neither the store nor what the spawns keep in memory. -/
theorem startTask_frame {w w' : World} {task : DaemonTask} (h : w.startTask task = some w') :
    w'.db = w.db ∧ w'.runtime.shimPids = w.runtime.shimPids ∧
      w'.runtime.channels = w.runtime.channels := by
  cases task with
  | daemon origin =>
      rw [start_frame h]
      exact ⟨rfl, rfl, rfl⟩
  | spawn request =>
      rw [← (guarded_eq_some.mp h).2]
      exact ⟨rfl, rfl, rfl⟩

theorem taskEnv_frame {w w' : World} {event : TaskEnv} (h : w.taskEnv event = some w') :
    w' = { w with shims := w'.shims } := by
  cases event with
  | event event => exact env_frame h
  | shims shims =>
      cases h
      rfl

end World

/-- The daemon, its shims and their runtimes, with every way to spawn. -/
abbrev tasks : Machine daemonOps DaemonError where
  Shared := World
  Choice := Choice
  Origin := DaemonTask
  Env := TaskEnv
  Result := Reply
  exec := fun choice o w => o.exec choice w
  start := fun task w => w.startTask task
  program := DaemonTask.program
  env := fun event w => w.taskEnv event
  crash := World.crashed

end LittleOrgans.Concurrency
