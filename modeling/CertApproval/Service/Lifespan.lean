import CertApproval.Service.Assembly

/-!
The life of the service: a controller is put together or given, it is started, probes are
answered, and in the end it is stopped and its source of addresses is closed.
-/

namespace CertApproval.Service

open CertApproval.Control (Controller Notice World)
open CertApproval.Settings (Configuration)

/-- What a service does with a controller that it was given. -/
inductive LifeEvent where
  | start
  /-- The stop, with the seconds that the workers have to end. -/
  | stop (grace : Floating.Double)
  | close
  deriving DecidableEq, Repr

/-- A controller from elsewhere: whether it runs once it is started, and whether its source
of addresses can be closed. -/
structure GivenController where
  ready : Bool
  closable : Bool
  deriving DecidableEq, Repr

/-- What can be seen of the life of a service. -/
structure Lifespan where
  /-- Whether the service is ready between start and stop. -/
  ready : Bool
  events : List LifeEvent := []
  notices : List Notice := []
  deriving DecidableEq, Repr

/-- What is reported when no controller can be put together. -/
def AssemblyFault.notice (fault : AssemblyFault) : Notice :=
  ⟨.error, s!"调和驱动初始化失败：{fault.message}"⟩

namespace Lifespan

/-- The life of a service with a controller that is given. -/
def ofGiven (given : GivenController) (configuration : Configuration) : Lifespan where
  ready := given.ready
  events := [.start, .stop configuration.control.shutdownGrace] ++
    if given.closable then [.close] else []

/-- The life of a service with a controller of its own, which has nothing to do and so ends
in time. -/
def ofAssembly (assembly : Assembly) (world : World) : Lifespan :=
  let started := Controller.start assembly.settings { world }
  { ready := !world.stopped
    notices := (started.stop []).2.dispatcher.journal }

end Lifespan

end CertApproval.Service
