import CertApproval.Cluster.Client
import CertApproval.Cluster.Store

/-!
A server in front of a store. It may be told beforehand how its next answers go wrong, or
what others do before them, and it keeps what was asked and what was written.
-/

namespace CertApproval.Cluster

/-- Something that comes between a question and its answer. -/
inductive Incident where
  | refuse (refusal : Refusal)
  /-- Someone else adds a condition first. -/
  | intrude (condition : StoredCondition)
  deriving DecidableEq, Repr

inductive Call where
  | read (name : String)
  | write (name : String)
  deriving DecidableEq, Repr

def Call.text : Call → String
  | read name => s!"read {name}"
  | write name => s!"write {name}"

/-- A write that was accepted. -/
structure Write where
  name : String
  conditions : List StoredCondition
  deriving DecidableEq, Repr

/-- A server. What is to happen at the next reads and writes comes first in its lists; once
they are used up, nothing more happens. -/
structure Server where
  store : Store := .empty
  reads : List (Option Incident) := []
  writes : List (Option Incident) := []
  calls : List Call := []
  accepted : List Write := []

namespace Server

/-- What an incident does to a store, or to the answer. -/
def suffer (store : Store) (name : String) : Option Incident → Except Refusal Store
  | none => .ok store
  | some (.refuse refusal) => .error refusal
  | some (.intrude condition) => .ok (store.addCondition name condition)

def read (name : String) : StateM Server (Except Refusal Object) := fun server =>
  let incident := server.reads.head?.join
  let server := { server with reads := server.reads.tail, calls := server.calls ++ [.read name] }
  match suffer server.store name incident with
  | .error refusal => (.error refusal, server)
  | .ok store =>
    let server := { server with store }
    match store.get? name with
    | some object => (.ok object, server)
    | none => (.error Store.missing, server)

def write (name : String) (body : Object) : StateM Server (Except Refusal Unit) := fun server =>
  let incident := server.writes.head?.join
  let server :=
    { server with writes := server.writes.tail, calls := server.calls ++ [.write name] }
  match suffer server.store name incident with
  | .error refusal => (.error refusal, server)
  | .ok store =>
    match store.replace name body with
    | .error refusal => (.error refusal, { server with store })
    | .ok changed =>
      (.ok (), { server with
        store := changed
        accepted := server.accepted ++ [⟨name, body.conditions⟩] })

def api : Api Server where
  read := read
  write := write

end Server

end CertApproval.Cluster
