import CertApproval.Cluster.Server
import CertApproval.Dns.NameService

/-!
What requests are looked at in: a server, a source of addresses, and the signal to stop,
which the source of addresses shares.
-/

namespace CertApproval.Control

open CertApproval.Cluster (Api Server)
open CertApproval.Dns (NameService Resolver)

/-- The surroundings of the program. -/
structure World where
  server : Server
  service : NameService
  stopped : Bool := false

namespace World

/-- A world with another source of addresses, which may bring a signal to stop with it. -/
def withService (world : World) (service : NameService) : World :=
  { world with service, stopped := world.stopped || service.stopped }

def stop (world : World) : World := { world with stopped := true }

/-- The source of addresses as it stands when a name is asked. -/
def serviceNow (world : World) : NameService :=
  if world.stopped then world.service.stop else world.service

def resolver : Resolver World := fun name world =>
  let (lookup, service) := NameService.resolver name world.serviceNow
  (lookup, world.withService service)

def api : Api World where
  read name world :=
    let (answer, server) := Server.read name world.server
    (answer, { world with server })
  write name body world :=
    let (answer, server) := Server.write name body world.server
    (answer, { world with server })

end World

end CertApproval.Control
