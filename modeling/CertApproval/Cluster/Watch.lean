import CertApproval.Cluster.Fault

/-!
Following the changes of all requests of one signer. A session begins where the last one
left off, and begins anew once the cluster has forgotten that version.
-/

namespace CertApproval.Cluster

/-- A change that the cluster tells of. -/
structure Change where
  deleted : Bool
  name : Option String
  version : Option String
  deriving DecidableEq, Repr

/-- What the cluster is asked for when a session begins. -/
structure Subscription where
  selector : String
  timeoutSeconds : Nat
  version : Option String
  deriving DecidableEq, Repr

/-- The time after which a session ends of itself, in seconds. -/
def sessionSeconds : Nat := 60

/-- A session that follows the requests of a signer from a version on. -/
def Subscription.start (signer : String) (cursor : Option String) : Subscription where
  selector := s!"spec.signerName={signer}"
  timeoutSeconds := sessionSeconds
  version := cursor

/-- What the cluster sends in a session: changes, and perhaps a failure after them. -/
structure Stream where
  changes : List Change
  failure : Option Refusal := none

/-- What comes of a session: the names that changed, the version where the next one begins,
what is reported, and whether it failed. -/
structure Session where
  names : List (Option String)
  cursor : Option String
  notices : List String
  ending : Except Failure Unit

namespace Session

def finished (cursor : Option String) : Session := ⟨[], cursor, [], .ok ()⟩

/-- A session with a name before its own. -/
def yielding (name : Option String) (session : Session) : Session :=
  { session with names := name :: session.names }

/-- What is reported when a version has been forgotten. -/
def goneNotice (cursor : Option String) : String :=
  let version := cursor.getD ApiFault.missingText
  s!"监听的 resourceVersion {version} 已过期，重新列出 CSR"

/-- The end of a stream. A forgotten version is no failure: the next session begins anew. -/
def close (failure : Option Refusal) (cursor : Option String) : Session :=
  match failure with
  | none => finished cursor
  | some refusal =>
    if refusal.hasCode goneCode then ⟨[], none, [goneNotice cursor], .ok ()⟩
    else ⟨[], cursor, [], .error (.ofRefusal .watch refusal)⟩

/-- The version to go on from after a change. A change without a version does not move it. -/
def advance (cursor : Option String) (change : Change) : Option String :=
  match change.version with
  | none => cursor
  | some version => if version.isEmpty then cursor else some version

/-- Follows changes, the first of which has a number. `stopped n` says whether a stop is
signalled before the `n`-th change, and `limit` how many names are wanted, if there is a limit.
The version moves on also with a change that gives no name. -/
def follow (stopped : Nat → Bool) (failure : Option Refusal) :
    (limit : Option Nat) → (number : Nat) → (cursor : Option String) → List Change → Session
  | _, _, cursor, [] => close failure cursor
  | limit, number, cursor, change :: changes =>
    if stopped number then finished cursor
    else
      let cursor := advance cursor change
      if change.deleted then follow stopped failure limit (number + 1) cursor changes
      else
        match limit with
        | none => (follow stopped failure none (number + 1) cursor changes).yielding change.name
        | some (more + 2) =>
          (follow stopped failure (some (more + 1)) (number + 1) cursor changes).yielding
            change.name
        | some _ => (finished cursor).yielding change.name

def run (stopped : Nat → Bool) (limit : Option Nat) (cursor : Option String) (stream : Stream) :
    Session :=
  follow stopped stream.failure limit 0 cursor stream.changes

end Session

end CertApproval.Cluster
