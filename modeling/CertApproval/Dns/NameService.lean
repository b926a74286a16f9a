import CertApproval.Dns.Hosts

/-!
A source of addresses of either kind, with its state: fixed records, or the system.
-/

namespace CertApproval.Dns

/-- A source of addresses. Fixed records keep the names that were asked, in order. -/
inductive NameService where
  | records (table : Records) (asked : List String)
  | hosts (table : Hosts) (lookups : Lookups)

namespace NameService

/-- Looks up names in a source of either kind. -/
def resolver : Resolver NameService := fun name => do
  match ← get with
  | .records table asked =>
    let (lookup, asked) := table.resolver name asked
    set (NameService.records table asked)
    return lookup
  | .hosts table lookups =>
    let (lookup, lookups) := table.resolver name lookups
    set (NameService.hosts table lookups)
    return lookup

/-- Whether a source knows of a signal to stop. Fixed records never do. -/
def stopped : NameService → Bool
  | records _ _ => false
  | hosts _ lookups => lookups.stopped

/-- Tells a source of a signal to stop. -/
def stop : NameService → NameService
  | records table asked => .records table asked
  | hosts table lookups => .hosts table { lookups with stopped := true }

/-- The names that were asked, where a source keeps them. -/
def asked? : NameService → Option (List String)
  | records _ asked => some asked
  | hosts _ _ => none

end NameService

end CertApproval.Dns
