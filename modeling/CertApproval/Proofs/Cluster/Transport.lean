import CertApproval.Cluster.Server
import CertApproval.Proofs.Armour.Base64
import CertApproval.Proofs.Stepwise

/-!
Signing requests as they are sent: as bytes, as base-64 of their bytes, or as a text that stands
for itself. Main statements: bytes are read back from what they are sent as, and a text that is
not strictly base-64 is read as itself; and a cluster answers in the same way however the requests
that it holds are written.
-/

namespace CertApproval.Cluster

open CertApproval.Review (Condition)

/-! ## Requests alone -/

namespace Payload

/-- The request of given bytes, sent as base-64. -/
def base64 (bytes : Bytes) : Payload := .text (String.ofList (Base64.encode bytes))

/-- The same request, sent as bytes. -/
def plain (payload : Payload) : Payload := .bytes payload.toBytes

@[simp]
theorem toBytes_plain (payload : Payload) : payload.plain.toBytes = payload.toBytes := rfl

@[simp]
theorem toBytes_base64 (bytes : Bytes) : (base64 bytes).toBytes = bytes := by
  simp [base64, toBytes]

theorem decode?_of_strict {text : String} (strict : Base64.Strict text.toList) :
    Base64.decode? text.toList = some (Payload.text text).toBytes := by
  obtain ⟨bytes, read⟩ := Option.isSome_iff_exists.mp ((Base64.decode?_isSome_iff _).mpr strict)
  rw [read, toBytes, read]
  rfl

/-- A text that is not strictly base-64 stands for itself. -/
theorem toBytes_of_not_strict {text : String} (loose : ¬Base64.Strict text.toList) :
    (Payload.text text).toBytes = Bytes.ofText text := by
  have unread : Base64.decode? text.toList = none :=
    Option.not_isSome_iff_eq_none.mp (mt (Base64.decode?_isSome_iff _).mp loose)
  rw [toBytes, unread]
  rfl

end Payload

/-! ## Objects that carry them -/

namespace Object

/-- An object with a request in it. -/
def carrying (object : Object) (payload : Payload) : Object :=
  { object with payload := some payload }

/-- The same object, the request in which is written as bytes. -/
def plain (object : Object) : Object :=
  { object with payload := object.payload.map Payload.plain }

@[simp]
theorem version_plain (object : Object) : object.plain.version = object.version := rfl

@[simp]
theorem conditions_plain (object : Object) : object.plain.conditions = object.conditions := rfl

theorem plain_addCondition (object : Object) (condition : StoredCondition) :
    (object.addCondition condition).plain = object.plain.addCondition condition := rfl

theorem plain_atVersion (object : Object) (version : String) :
    (object.atVersion version).plain = object.plain.atVersion version := rfl

theorem plain_carrying (object : Object) (payload : Payload) :
    (object.carrying payload).plain = object.carrying payload.plain := rfl

end Object

namespace Snapshot

/-- What was read of an object, the request in which is written as bytes. -/
def plain (snapshot : Snapshot) : Snapshot :=
  { snapshot with source := snapshot.source.map Object.plain }

/-- The request that an object carries does not decide whether the object can be read, nor what
is read of its other parts. -/
theorem ofObject_carrying (object : Object) (payload : Payload) :
    ofObject (object.carrying payload) =
      (ofObject object).map fun snapshot =>
        { snapshot with
          request := payload.toBytes
          source := some (object.carrying payload) } := by
  have same : (object.carrying payload).conditions = object.conditions := rfl
  unfold ofObject
  rw [same]
  cases object.conditions.mapM StoredCondition.read with
  | error issues =>
      rfl
  | ok conditions =>
      cases named : object.name <;> cases signed : object.signerName <;>
        simp [Object.carrying, named, signed, presentText, Fields.Checked.andThen, bind,
          Except.bind, Except.map]

theorem ofObject_plain (object : Object) :
    ofObject object.plain = (ofObject object).map plain := by
  unfold ofObject
  rw [Object.conditions_plain]
  cases object.conditions.mapM StoredCondition.read with
  | error issues =>
      rfl
  | ok conditions =>
      cases named : object.name <;> cases signed : object.signerName <;>
        cases carried : object.payload <;>
          simp [Object.plain, plain, named, signed, carried, presentText, Fields.Checked.andThen,
            bind, Except.bind, Except.map]

end Snapshot

/-! ## Clusters -/

namespace Store

/-- The same objects, the requests in which are written as bytes. -/
def plain (store : Store) : Store := ⟨store.entries.map fun entry => (entry.1, entry.2.plain)⟩

@[simp]
theorem get?_plain (store : Store) (name : String) :
    store.plain.get? name = (store.get? name).map Object.plain := by
  obtain ⟨entries⟩ := store
  simp only [plain, get?]
  induction entries with
  | nil =>
      rfl
  | cons entry entries inductionHypothesis =>
      obtain ⟨key, held⟩ := entry
      by_cases here : name = key
      · simp [here]
      · simpa [List.lookup_cons, beq_eq_false_iff_ne.mpr here] using inductionHypothesis

theorem plain_put (store : Store) (name : String) (object : Object) :
    (store.put name object).plain = store.plain.put name object.plain := by
  obtain ⟨entries⟩ := store
  simp only [plain, put, mk.injEq]
  induction entries with
  | nil =>
      rfl
  | cons entry entries inductionHypothesis =>
      by_cases here : entry.1 = name
      · simp [Table.put, here]
      · simpa [Table.put, here] using inductionHypothesis

theorem plain_addCondition (store : Store) (name : String) (condition : StoredCondition) :
    (store.addCondition name condition).plain = store.plain.addCondition name condition := by
  cases found : store.get? name with
  | none =>
      simp [addCondition, found]
  | some object =>
      simp only [addCondition, get?_plain, found, Option.map_some, plain_put]
      rfl

theorem replace_plain (store : Store) (name : String) (body : Object) :
    store.plain.replace name body.plain = (store.replace name body).map plain := by
  cases found : store.get? name with
  | none =>
      simp [replace, found, Except.map]
  | some object =>
      by_cases current : body.version = object.version
      · simp [replace, found, current, plain_put, Object.plain_atVersion, Except.map]
      · simp [replace, found, current, Except.map]

end Store

namespace Server

/-- A server of the same objects, the requests in which are written as bytes. -/
def plain (server : Server) : Server := { server with store := server.store.plain }

theorem suffer_plain (store : Store) (name : String) (incident : Option Incident) :
    suffer store.plain name incident = (suffer store name incident).map Store.plain := by
  match incident with
  | none | some (.refuse _) =>
      rfl
  | some (.intrude condition) =>
      simp [suffer, Except.map, Store.plain_addCondition]

theorem read_plain (name : String) :
    Carries plain (Except.map Object.plain) (read name) (read name) := by
  intro server
  cases suffered : suffer server.store name server.reads.head?.join with
  | error refusal =>
      simp [read, plain, suffer_plain, suffered, Except.map]
  | ok store =>
      cases found : store.get? name <;>
        simp [read, plain, suffer_plain, suffered, found, Except.map]

theorem write_plain (name : String) (body : Object) :
    Carries plain id (write name body) (write name body.plain) := by
  intro server
  cases suffered : suffer server.store name server.writes.head?.join with
  | error refusal =>
      simp [write, plain, suffer_plain, suffered, Except.map]
  | ok store =>
      cases changed : store.replace name body <;>
        simp [write, plain, suffer_plain, suffered, Store.replace_plain, changed, Except.map]

end Server

/-! ## Exchanges with a cluster -/

namespace Api

variable {σ : Type} {change : σ → σ} {api : Api σ}

/-- Whether a cluster in a changed state answers as it does in the state itself, except that it
writes the requests as bytes. -/
structure Blind (change : σ → σ) (api : Api σ) : Prop where
  read : ∀ name, Carries change (Except.map Object.plain) (api.read name) (api.read name)
  write : ∀ name body, Carries change id (api.write name body) (api.write name body.plain)

theorem blind_server : Blind Server.plain Server.api := ⟨Server.read_plain, Server.write_plain⟩

theorem readAnswer_plain (name : String) (answer : Except Refusal Object) :
    readAnswer name (answer.map Object.plain) =
      (readAnswer name answer).map (Option.map Snapshot.plain) := by
  cases answer with
  | ok object =>
      simp only [Except.map, readAnswer, Snapshot.ofObject_plain]
      cases Snapshot.ofObject object <;> rfl
  | error refusal =>
      simp only [Except.map, readAnswer]
      split <;> rfl

theorem Blind.get (blind : api.Blind change) (name : String) :
    Carries change (Except.map (Option.map Snapshot.plain)) (api.get name) (api.get name) := by
  refine (blind.read name).bind fun answer => ?_
  rw [readAnswer_plain]
  exact Carries.pure _

theorem Blind.decide (blind : api.Blind change) (snapshot : Snapshot) (condition : Condition) :
    Carries change id (api.decide snapshot condition) (api.decide snapshot.plain condition) := by
  cases source : snapshot.source with
  | none =>
      simp only [Api.decide, Snapshot.plain, source, Option.map_none]
      exact Carries.pure _
  | some object =>
      simp only [Api.decide, Snapshot.plain, source, Option.map_some, ← Object.plain_addCondition]
      exact (blind.write _ _).bind fun answer => Carries.pure _

end Api

end CertApproval.Cluster
