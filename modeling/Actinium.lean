import Actinium.Lib.Machine
import Actinium.Lib.Channel
import Actinium.Lib.Keyed
import Actinium.Lib.History
import Actinium.Lib.Rounds
import Actinium.Lib.Automaton
import Actinium.Lib.Replay
import Actinium.Lib.Simulation
import Actinium.Lib.Process
import Actinium.Lib.WaitFor
import Actinium.Lib.Potential
import Actinium.Lib.RoundRobin
import Actinium.Actor
import Actinium.Scheduler
import Actinium.SchedulerFairness
import Actinium.SchedulerDrain
import Actinium.Worker
import Actinium.WorkerMoves
import Actinium.WorkerPlaces
import Actinium.WorkerEvents
import Actinium.WorkerTurns
import Actinium.WorkerMail
import Actinium.WorkerSound
import Actinium.WorkerLifecycle
import Actinium.Runtime
import Actinium.RuntimeMoves
import Actinium.RuntimeRouting
import Actinium.Conservation
import Actinium.Bypass
import Actinium.Placement
import Actinium.RuntimeSends
import Actinium.Replies
import Actinium.PanicIsolation
import Actinium.WorkerShutdown
import Actinium.Shutdown
import Actinium.Lifecycle
import Actinium.TurnIsolation
import Actinium.SelfCleaning
import Actinium.RunReturns
import Actinium.ActorSystem
import Actinium.ActorSystemMoves
import Actinium.ActorSystemSound
import Actinium.ActorSystemRuns
import Actinium.ActorSystemServes
import Actinium.Fates
import Actinium.WorkerFates
import Actinium.ActorSystemFates
import Actinium.Agreement
import Actinium.StopRequests
import Actinium.ActorSystemShutdown
import Actinium.TestKit
import Actinium.TestKitProbes
import Actinium.TestKitIdle
import Actinium.Stateful
import Actinium.Supervisor
import Actinium.SupervisorRuns
import Actinium.SupervisorTable
import Actinium.SupervisorRestarts
import Actinium.SupervisorFactories
import Actinium.SupervisorOrphans
import Actinium.WorkerProcesses
import Actinium.ActorSystemProcesses
import Actinium.Processes
import Actinium.ActorSystemPanics
import Actinium.SpawnCalls
import Actinium.Deadlock
import Actinium.ActorSystemSends
import Actinium.OwnerOutcome
import Actinium.RunEnds
import Actinium.Families
import Actinium.Contracts
import Actinium.WorkerContracts
import Actinium.RuntimeContracts
import Actinium.ActorSystemContracts
import Actinium.HostedMachines
import Actinium.SupervisorBudgets
import Actinium.TestKitRecords
