import CertApproval.Control.Attempt
import CertApproval.Control.World
import CertApproval.Proofs.Cluster.Transport
import CertApproval.Proofs.Decision.Accepted
import CertApproval.Request.Certification

/-!
Looks at requests that are written in different ways. Main statement: a request that is sent as a
text with the mark of armour is read as it is when it is sent as base-64 of that text, and what
comes of it, and what is written, is the same.
-/

namespace CertApproval

open CertApproval.Dns (Lookup Resolver)

variable {σ : Type} {change : σ → σ}

/-! ## Reviews -/

section Reviews

open CertApproval.Review

variable {resolver : Resolver σ}

theorem Review.carries_resolveAll
    (blind : ∀ name, Carries change id (resolver name) (resolver name)) (names : List String)
    (resolved : Check.Resolved) :
    Carries change id (Check.resolveAll resolver names resolved)
      (Check.resolveAll resolver names resolved) := by
  induction names generalizing resolved with
  | nil =>
      exact Carries.pure _
  | cons name names inductionHypothesis =>
      refine (blind name).bind fun lookup => ?_
      cases lookup with
      | found addresses =>
          exact inductionHypothesis _
      | failed fault =>
          exact inductionHypothesis _
      | aborted name =>
          exact Carries.pure _
      | crashed =>
          exact Carries.pure _

theorem Review.carries_review
    (blind : ∀ name, Carries change id (resolver name) (resolver name)) (policy : Policy)
    (subject : Subject) :
    Carries change id (review resolver policy subject) (review resolver policy subject) := by
  have resolution : Carries change id (checkResolution resolver policy subject)
      (checkResolution resolver policy subject) := by
    unfold checkResolution
    cases policy.bypassResolution with
    | true =>
        exact Carries.pure _
    | false =>
        refine (carries_resolveAll blind subject.dnsNames {}).bind fun resolution => ?_
        cases resolution <;> exact Carries.pure _
  refine resolution.bind fun resolved => ?_
  cases resolved <;> exact Carries.pure _

end Reviews

/-! ## Runs -/

namespace Retry.Run

variable {ε α : Type} {backoff : Backoff} {reason? : ε → Option String}
  {act : Nat → StateM σ (Except ε α)}

theorem carries_continueFrom (blind : ∀ number, Carries change id (act number) (act number))
    (left number : Nat) :
    Carries change id (continueFrom backoff reason? act left number)
      (continueFrom backoff reason? act left number) := by
  intro state
  fun_induction continueFrom backoff reason? act left number state with
  | case1 left number state value next acted =>
      rw [continueFrom, (blind number).apply acted]
      rfl
  | case2 left number state fault next acted final =>
      rw [continueFrom, (blind number).apply acted]
      simp only [id_eq, final]
  | case3 number state fault next acted reason passing =>
      rw [continueFrom, (blind number).apply acted]
      simp only [id_eq, passing]
  | case4 number state fault next acted reason left passing tooLong =>
      rw [continueFrom, (blind number).apply acted]
      simp only [id_eq, passing, tooLong]
  | case5 number state fault next acted reason left passing delay waited rest last ended
      inductionHypothesis =>
      rw [continueFrom, (blind number).apply acted]
      rw [ended] at inductionHypothesis
      simp only [id_eq, passing, waited, inductionHypothesis]

end Retry.Run

/-! ## Looks at requests -/

namespace Control

open CertApproval.Cluster

variable {api : Api σ} {resolver : Resolver σ}

theorem carries_writeDecision (blind : api.Blind change) (snapshot : Snapshot)
    (verdict : Review.Verdict) :
    Carries change id (writeDecision api snapshot verdict)
      (writeDecision api snapshot.plain verdict) := by
  have same : snapshot.plain.conditions = snapshot.conditions := rfl
  unfold writeDecision
  rw [same]
  cases verdict.conditionFor? snapshot.conditions with
  | none =>
      exact Carries.pure _
  | some condition =>
      exact (blind.decide snapshot condition).bind fun answer => Carries.pure _

theorem Judgement.carries_carryOut (blind : api.Blind change) (snapshot : Snapshot)
    (name : String) (attempt : Int) (judgement : Judgement) :
    Carries change id (judgement.carryOut api snapshot name attempt)
      (judgement.carryOut api snapshot.plain name attempt) := by
  cases judgement with
  | report outcome message =>
      exact Carries.pure _
  | decide verdict =>
      exact (carries_writeDecision blind snapshot verdict).bind fun answer => Carries.pure _
  | fail failure =>
      exact Carries.pure _

namespace Rules

variable (rules : Rules)

/-- A judgement looks at what was read of a request, and not at how it is written. -/
theorem carries_judge (blind : ∀ name, Carries change id (resolver name) (resolver name))
    (snapshot : Snapshot) :
    Carries change id (rules.judge resolver snapshot) (rules.judge resolver snapshot.plain) := by
  have same : rules.judge resolver snapshot.plain = rules.judge resolver snapshot := rfl
  rw [same]
  unfold judge
  cases rules.leave? snapshot with
  | some reason =>
      exact Carries.pure _
  | none =>
      cases Request.decode snapshot.request (rules.sender snapshot) with
      | ok parsed =>
          have reviews := Review.carries_review blind rules.policy (.ofParsed parsed)
          refine reviews.bind fun outcome => ?_
          cases outcome <;> exact Carries.pure _
      | error fault =>
          cases fault <;> exact Carries.pure _

theorem carries_attempt (blind : api.Blind change)
    (blindResolver : ∀ name, Carries change id (resolver name) (resolver name)) (name : String)
    (number : Nat) :
    Carries change id (rules.attempt api resolver name number)
      (rules.attempt api resolver name number) := by
  refine (blind.get name).bind fun answer => ?_
  match answer with
  | .error failure | .ok none =>
      exact Carries.pure _
  | .ok (some snapshot) =>
      exact (rules.carries_judge blindResolver snapshot).bind fun judgement =>
        judgement.carries_carryOut blind snapshot name _

/-- What comes of a run does not depend on how the requests are written. -/
theorem carries_run (blind : api.Blind change)
    (blindResolver : ∀ name, Carries change id (resolver name) (resolver name)) (name : String) :
    Carries change id (rules.run api resolver name) (rules.run api resolver name) :=
  Retry.Run.carries_continueFrom (rules.carries_attempt blind blindResolver name) _ _

end Rules

namespace World

/-- The same world, in which the requests are written as bytes. -/
def plain (world : World) : World := { world with server := world.server.plain }

theorem blind_api : World.api.Blind plain where
  read name world := by
    exact congrArg (fun answer => (answer.1, { world with server := answer.2 }))
      (Api.blind_server.read name world.server)
  write name body world := by
    exact congrArg (fun answer => (answer.1, { world with server := answer.2 }))
      (Api.blind_server.write name body world.server)

theorem carries_resolver (name : String) :
    Carries plain id (World.resolver name) (World.resolver name) := fun _ => rfl

/-- A world whose server holds an object. -/
def holding (world : World) (name : String) (object : Object) : World :=
  { world with server := { world.server with store := world.server.store.put name object } }

theorem plain_holding (world : World) (name : String) (object : Object) :
    (world.holding name object).plain = world.plain.holding name object.plain := by
  simp [holding, plain, Server.plain, Store.plain_put]

end World

/-- What comes of a look at a request, what is asked for it and what is written does not depend on
how the requests that the server holds are written. -/
theorem Rules.run_eq_of_plain_eq (rules : Rules) (name : String) {world other : World}
    (same : world.plain = other.plain) :
    let ran := rules.run World.api World.resolver name world
    let ranOther := rules.run World.api World.resolver name other
    ran.1 = ranOther.1 ∧ ran.2.server.accepted = ranOther.2.server.accepted ∧
      ran.2.server.calls = ranOther.2.server.calls ∧
      ∀ held, (ran.2.server.store.get? held).map Object.conditions =
        (ranOther.2.server.store.get? held).map Object.conditions := by
  intro ran ranOther
  have carries := rules.carries_run World.blind_api World.carries_resolver name
  obtain ⟨sameRun, sameWorld⟩ : ran.1 = ranOther.1 ∧ ran.2.plain = ranOther.2.plain :=
    Prod.mk.inj ((carries world).symm.trans ((congrArg _ same).trans (carries other)))
  have sameServer : ran.2.server.plain = ranOther.2.server.plain :=
    congrArg World.server sameWorld
  refine ⟨sameRun, (congrArg Server.accepted sameServer :), (congrArg Server.calls sameServer :),
    fun held => ?_⟩
  have keeps (server : Server) : (server.plain.store.get? held).map Object.conditions =
      (server.store.get? held).map Object.conditions := by
    simp [Server.plain, Function.comp_def]
  rw [← keeps ran.2.server, ← keeps ranOther.2.server, sameServer]

/-! ## Text with the mark of armour -/

/-- The mark of armour has characters that no base-64 text has. -/
theorem not_strict_of_marked {text : String}
    (marked : Bytes.occursIn Request.Certification.armourMark (Bytes.ofText text) = true) :
    ¬Base64.Strict text.toList := by
  intro strict
  have dash : (0x2D : UInt8) ∈ Request.Certification.armourMark := by
    decide +kernel
  have inText : '-' ∈ text.toList :=
    Bytes.mem_of_mem_ofText (by decide) ((Bytes.occursIn_iff.mp marked).subset dash)
  exact absurd (strict.mem inText) (by decide +kernel)

/-- A request survives the way that it is sent. What it is sent as does not decide whether the
object that carries it can be read. Bytes are read back from base-64 and from themselves, text that
is strictly base-64 is read as such, and any other text is read as itself. So a text with the mark
of armour and the base-64 of that text are the same request, and whoever looks at it comes to the
same, asks the same and writes the same. -/
theorem Rules.request_survives (rules : Rules) (object : Object) :
    (∀ payload, Snapshot.ofObject (object.carrying payload) =
      (Snapshot.ofObject object).map fun snapshot =>
        { snapshot with
          request := payload.toBytes
          source := some (object.carrying payload) }) ∧
      (∀ bytes, (Payload.base64 bytes).toBytes = bytes ∧ (Payload.bytes bytes).toBytes = bytes) ∧
      (∀ text : String, Base64.Strict text.toList →
        Base64.decode? text.toList = some (Payload.text text).toBytes) ∧
      (∀ text : String, ¬Base64.Strict text.toList →
        (Payload.text text).toBytes = Bytes.ofText text) ∧
      ∀ text : String,
        Bytes.occursIn Request.Certification.armourMark (Bytes.ofText text) = true →
          (Payload.text text).toBytes = Bytes.ofText text ∧
          (Payload.base64 (Bytes.ofText text)).toBytes = Bytes.ofText text ∧
          ∀ (world : World) (name : String),
            let raw := rules.run World.api World.resolver name
              (world.holding name (object.carrying (.text text)))
            let encoded := rules.run World.api World.resolver name
              (world.holding name (object.carrying (.base64 (Bytes.ofText text))))
            raw.1 = encoded.1 ∧ raw.2.server.accepted = encoded.2.server.accepted ∧
              raw.2.server.calls = encoded.2.server.calls ∧
              ∀ held, (raw.2.server.store.get? held).map Object.conditions =
                (encoded.2.server.store.get? held).map Object.conditions := by
  refine ⟨Snapshot.ofObject_carrying object, fun bytes => ⟨Payload.toBytes_base64 bytes, rfl⟩,
    fun text => Payload.decode?_of_strict, fun text => Payload.toBytes_of_not_strict, ?_⟩
  intro text marked
  have asItself := Payload.toBytes_of_not_strict (not_strict_of_marked marked)
  have back := Payload.toBytes_base64 (Bytes.ofText text)
  refine ⟨asItself, back, fun world name => rules.run_eq_of_plain_eq name ?_⟩
  rw [World.plain_holding, World.plain_holding, Object.plain_carrying, Object.plain_carrying,
    Payload.plain, Payload.plain, asItself, back]

/-- The mark alone is the same request in both ways. Three bytes are read from four characters,
and a letter outside the alphabet is two bytes of its own. -/
theorem Rules.request_survives_mark :
    let mark := "-----BEGIN CERTIFICATE REQUEST-----"
    (Payload.text mark).toBytes = Bytes.ofText mark ∧
      (Payload.base64 (Bytes.ofText mark)).toBytes = Bytes.ofText mark ∧
      Base64.decode? "QUJD".toList = some (Payload.text "QUJD").toBytes ∧
      (Payload.text "é").toBytes = Bytes.ofText "é" := by
  intro mark
  obtain ⟨_, _, strict, loose, armoured⟩ := Scene.nodeRules.request_survives Scene.nodeObject
  have marked : Bytes.occursIn Request.Certification.armourMark (Bytes.ofText mark) = true := by
    decide +kernel
  obtain ⟨asItself, back, _⟩ := armoured mark marked
  have isStrict : Base64.Strict "QUJD".toList :=
    (Base64.decode?_isSome_iff _).mp (by decide +kernel)
  have notStrict : ¬Base64.Strict "é".toList := fun isStrict =>
    absurd (isStrict.mem (List.mem_singleton_self 'é')) (by decide +kernel)
  exact ⟨asItself, back, strict _ isStrict, loose _ notStrict⟩

end Control

end CertApproval
