import CertApproval.Control.Dispatcher
import CertApproval.Proofs.Decision.Judging
import CertApproval.Proofs.Request.Reading

/-!
Requests that cannot be decoded. Main statement: decoding gives what a request says or refuses
the request for a cause, except in three places: at the version, at the subject and at the
extensions. A request that is refused is reported once, one that fails in one of these places
is looked at again.
-/

namespace CertApproval

/-! ## Failures that nobody has prepared for -/

namespace Request

/-- The requests whose decoding fails for a reason that nobody has prepared for, with that
reason. -/
inductive Escapes (bytes : Bytes) : DecodeFault → Prop
  /-- The request is of another version. -/
  | version {request : Certification} (read : Certification.read? bytes = some request)
      (other : request.info.version ≠ 0) :
      Escapes bytes .unknownVersion
  /-- The subject cannot be turned into texts. -/
  | subject {request : Certification} {cause : NameFault} (opens : Opens bytes request)
      (unreadable : Name.texts request.info.subject = .error cause) :
      Escapes bytes (.ofName cause)
  /-- The request is signed, but the first of its extensions that cannot be interpreted is
  neither malformed nor of a name of an unsupported kind. -/
  | extension {request : Certification} {extensions : List Extension} {cause : ExtensionFault}
      (opens : Opens bytes request) (authentic : request.Authentic)
      (read : request.info.extensions? = some extensions)
      (distinct : (extensions.map Extension.id).Nodup)
      (failsFirst : Extension.FailsFirst extensions cause)
      (unforeseen : cause ≠ .malformed ∧ cause ≠ .unsupportedName) :
      Escapes bytes (.ofExtension cause)

theorem DecodeFault.unforeseen_ofName (cause : NameFault) : (ofName cause).Unforeseen := by
  cases cause <;> exact fun _ => nofun

theorem DecodeFault.unforeseen_ofExtension {cause : ExtensionFault} :
    (ofExtension cause).Unforeseen ↔ cause ≠ .malformed ∧ cause ≠ .unsupportedName := by
  cases cause <;> simp [ofExtension, Unforeseen]

variable {bytes : Bytes} {sender : Sender} {fault : DecodeFault}

theorem Escapes.unforeseen (escapes : Escapes bytes fault) : fault.Unforeseen := by
  cases escapes with
  | version _ _ =>
      exact fun _ => nofun
  | subject _ _ =>
      exact DecodeFault.unforeseen_ofName _
  | extension _ _ _ _ _ unforeseen =>
      exact DecodeFault.unforeseen_ofExtension.mpr unforeseen

theorem Escapes.decode (escapes : Escapes bytes fault) :
    Request.decode bytes sender = .error fault := by
  have unforeseen := escapes.unforeseen
  rw [decode_eq_error]
  cases escapes with
  | version read other =>
      exact Or.inl ((load_eq_error unforeseen).mpr ⟨_, read, other, rfl⟩)
  | subject opens unreadable =>
      exact Or.inr ⟨_, opens, Or.inl (subjectTexts_eq_error.mpr (Or.inl ⟨_, unreadable, rfl⟩))⟩
  | extension opens authentic read distinct failsFirst _ =>
      have failed := (furtherNames_eq_error unforeseen).mpr ⟨_, _, read, distinct, failsFirst, rfl⟩
      exact Or.inr ⟨_, opens, Or.inr (Or.inr ⟨authentic, failed⟩)⟩

theorem escapes_of_decode (decoded : decode bytes sender = .error fault)
    (unforeseen : fault.Unforeseen) : Escapes bytes fault := by
  rcases decode_eq_error.mp decoded with
    loaded | ⟨request, opens, read | ⟨_, signed⟩ | ⟨authentic, further⟩⟩
  · obtain ⟨request, read, other, rfl⟩ := (load_eq_error unforeseen).mp loaded
    exact .version read other
  · rcases subjectTexts_eq_error.mp read with ⟨cause, unreadable, rfl⟩ | ⟨_, rfl⟩
    · exact .subject opens unreadable
    · exact absurd rfl (unforeseen .noSubject)
  · rcases authenticate_eq_error signed with rfl | rfl
    · exact absurd rfl (unforeseen .badKey)
    · exact absurd rfl (unforeseen .badSignature)
  · obtain ⟨extensions, cause, read, distinct, failsFirst, rfl⟩ :=
      (furtherNames_eq_error unforeseen).mp further
    exact .extension opens authentic read distinct failsFirst
      (DecodeFault.unforeseen_ofExtension.mp unforeseen)

/-- Decoding succeeds, refuses the request, or fails as one of those that escape. -/
theorem decode_cases (bytes : Bytes) (sender : Sender) :
    (∃ parsed, decode bytes sender = .ok parsed) ∨
      (∃ cause, decode bytes sender = .error (.refused cause)) ∨ ∃ fault, Escapes bytes fault := by
  cases decoded : decode bytes sender with
  | ok parsed =>
      exact Or.inl ⟨parsed, rfl⟩
  | error fault =>
      by_cases refused : ∃ cause, fault = .refused cause
      · obtain ⟨cause, rfl⟩ := refused
        exact Or.inr (Or.inl ⟨cause, rfl⟩)
      · exact Or.inr (Or.inr ⟨fault, escapes_of_decode decoded (not_exists.mp refused)⟩)

end Request

/-! ## What comes of looking at such a request -/

namespace Control.Rules

open CertApproval.Cluster (Api Snapshot)
open CertApproval.Dns (Resolver)
open CertApproval.Request (DecodeFault ParseFault decode)

variable {σ : Type} {rules : Rules} {snapshot : Snapshot}

theorem judge_of_refused (resolver : Resolver σ) (state : σ) {cause : ParseFault}
    (stays : rules.leave? snapshot = none)
    (refused : decode snapshot.request (rules.sender snapshot) = .error (.refused cause)) :
    rules.judge resolver snapshot state = (.report .parseError cause.message, state) := by
  simp [judge, stays, refused]

theorem judge_of_unforeseen (resolver : Resolver σ) (state : σ) {fault : DecodeFault}
    (stays : rules.leave? snapshot = none)
    (failed : decode snapshot.request (rules.sender snapshot) = .error fault)
    (unforeseen : fault.Unforeseen) :
    rules.judge resolver snapshot state = (.fail (.undecodable fault), state) := by
  cases fault with
  | refused cause =>
      exact absurd rfl (unforeseen cause)
  | unknownVersion | unreadableSubject | misplacedBits | unknownFeature | unrangedAddress =>
      simp [judge, stays, failed]

variable {api : Api σ} {resolver : Resolver σ} {name : String} {state next : σ}

theorem result_of_report {outcome : Outcome} {message : String}
    (answered : api.get name state = (.ok (some snapshot), next))
    (judged : rules.judge resolver snapshot next = (.report outcome message, next)) :
    result (rules.run api resolver name state).1 = .ok { name, outcome, message } := by
  have acted : rules.attempt api resolver name 1 state =
      (.ok { name, outcome, message }, next) := by
    simp [attempt, answered, judged, Judgement.carryOut]
  rw [run, Retry.Run.start, Retry.Run.continueFrom, acted]
  rfl

theorem result_of_fail {failure : Failure} (final : failure.passing? = none)
    (answered : api.get name state = (.ok (some snapshot), next))
    (judged : rules.judge resolver snapshot next = (.fail failure, next)) :
    result (rules.run api resolver name state).1 = .error failure := by
  have acted : rules.attempt api resolver name 1 state = (.error failure, next) := by
    simp [attempt, answered, judged, Judgement.carryOut]
  rw [run, Retry.Run.start, Retry.Run.continueFrom, acted]
  simp [final, result]

end Control.Rules

namespace Request

open CertApproval.Cluster (Api Snapshot)
open CertApproval.Control (Dispatcher Rules result)
open CertApproval.Dns (Resolver)

/-- Whatever bytes are decoded and whoever sent them, the outcome is what the request says or a
refusal for a cause, exactly if the request is none of those that escape. A request that is
refused is reported as one that cannot be read, and it is not looked at again; one that escapes
ends in a failure, and it is looked at again. -/
theorem decode_settles_iff (bytes : Bytes) (sender : Sender) :
    (((∃ parsed, decode bytes sender = .ok parsed) ∨
        ∃ cause, decode bytes sender = .error (.refused cause)) ↔
          ∀ fault, ¬Escapes bytes fault) ∧
      ∀ {σ : Type} (rules : Rules) (api : Api σ) (resolver : Resolver σ) (name : String)
        (snapshot : Snapshot) (state next : σ),
        api.get name state = (.ok (some snapshot), next) → rules.leave? snapshot = none →
        snapshot.request = bytes → rules.sender snapshot = sender →
          let ending := result (rules.run api resolver name state).1
          (∀ cause, decode bytes sender = .error (.refused cause) →
            ending = .ok { name, outcome := .parseError, message := cause.message } ∧
              Dispatcher.again ending = false) ∧
          (∀ fault, Escapes bytes fault →
            ending = .error (.undecodable fault) ∧ Dispatcher.again ending = true) := by
  refine ⟨⟨?_, ?_⟩, ?_⟩
  · rintro settled fault escapes
    have failed : decode bytes sender = .error fault := escapes.decode
    rcases settled with ⟨parsed, decoded⟩ | ⟨cause, refused⟩
    · exact absurd (decoded.symm.trans failed) (by simp)
    · rw [failed] at refused
      exact escapes.unforeseen cause (Except.error.inj refused)
  · intro none
    rcases decode_cases bytes sender with decoded | refused | ⟨fault, escapes⟩
    · exact Or.inl decoded
    · exact Or.inr refused
    · exact absurd escapes (none fault)
  · rintro σ rules api resolver name snapshot state next answered stays rfl rfl ending
    constructor
    · intro cause refused
      have ended : ending = .ok { name, outcome := .parseError, message := cause.message } :=
        Rules.result_of_report answered (Rules.judge_of_refused resolver next stays refused)
      exact ⟨ended, by rw [ended]; rfl⟩
    · intro fault escapes
      have judged := Rules.judge_of_unforeseen resolver next stays escapes.decode escapes.unforeseen
      have ended : ending = .error (.undecodable fault) :=
        Rules.result_of_fail rfl answered judged
      exact ⟨ended, by rw [ended]; rfl⟩

/-- A request whose common name is no text: two bytes that do not stand in UTF-8. -/
def garbledSubject : Bytes :=
  [0x30, 0x81, 0xc6, 0x30, 0x6f, 0x02, 0x01, 0x00, 0x30, 0x0d, 0x31, 0x0b, 0x30, 0x09, 0x06, 0x03,
   0x55, 0x04, 0x03, 0x0c, 0x02, 0xff, 0xfe, 0x30, 0x59, 0x30, 0x13, 0x06, 0x07, 0x2a, 0x86, 0x48,
   0xce, 0x3d, 0x02, 0x01, 0x06, 0x08, 0x2a, 0x86, 0x48, 0xce, 0x3d, 0x03, 0x01, 0x07, 0x03, 0x42,
   0x00, 0x04, 0x47, 0x1c, 0x3e, 0x75, 0x8c, 0x49, 0x04, 0x28, 0x5b, 0xba, 0x7e, 0x53, 0x11, 0x8e,
   0xd0, 0xf5, 0x24, 0xad, 0xeb, 0x07, 0x57, 0xd2, 0x5b, 0xd2, 0xf8, 0xe7, 0xb0, 0xd7, 0x6d, 0xfa,
   0x71, 0x4c, 0xdd, 0x52, 0x0f, 0x7a, 0xca, 0x8a, 0x8b, 0x91, 0x7a, 0xcc, 0x37, 0xf5, 0x1d, 0xe8,
   0xf0, 0xc9, 0xbb, 0xe3, 0xad, 0x85, 0x83, 0x82, 0xe7, 0x02, 0xdc, 0x25, 0xa1, 0x2d, 0x09, 0xf7,
   0xa8, 0x58, 0xa0, 0x00, 0x30, 0x0a, 0x06, 0x08, 0x2a, 0x86, 0x48, 0xce, 0x3d, 0x04, 0x03, 0x02,
   0x03, 0x47, 0x00, 0x30, 0x44, 0x02, 0x20, 0x6b, 0x5b, 0xd7, 0x38, 0xc1, 0xf9, 0x8b, 0xad, 0xeb,
   0xac, 0xab, 0x06, 0x2c, 0x76, 0xc1, 0x19, 0xcc, 0x39, 0x38, 0x6e, 0xac, 0x8c, 0x4f, 0x0f, 0x4c,
   0x80, 0x0a, 0x27, 0x84, 0x54, 0x5c, 0xc3, 0x02, 0x20, 0x29, 0xca, 0xe2, 0x74, 0xee, 0xe2, 0x1c,
   0xc0, 0xf9, 0xc1, 0xff, 0x7c, 0x9a, 0xd3, 0xf5, 0x7a, 0xd7, 0xde, 0xb0, 0x8c, 0x00, 0xba, 0x80,
   0xea, 0x6e, 0x48, 0x20, 0x2e, 0x16, 0x2a, 0xa3, 0xaf]

/-- The garbled subject is found before the signature is looked at, and nothing is prepared for
it. -/
theorem decode_garbledSubject :
    let sender : Sender :=
      { username := "system:node:worker-1", defaultExpiration := defaultExpirationSeconds }
    ¬((∃ parsed, decode garbledSubject sender = .ok parsed) ∨
      ∃ cause, decode garbledSubject sender = .error (.refused cause)) := by
  intro sender
  have failed : decode garbledSubject sender = .error .unreadableSubject := by decide +kernel
  simp [failed]

end Request

end CertApproval
