import CertApproval.Proofs.Armour.Blocks
import CertApproval.Proofs.Request.Identities
import CertApproval.Proofs.Decision.Accepted

/-!
Requests with armour and without. Main statement: an armoured request is decoded from the bytes
inside the armour, whatever they are; the bytes alone are decoded in the same way as long as the
mark of armour does not occur in them, and otherwise only if they hold an armoured request that
says the same.
-/

namespace CertApproval.Request

/-! ## Reading -/

/-- What is read of an armoured request is what is read of the bytes inside the armour. -/
theorem Certification.read?_armour (der : Bytes) :
    read? (Bytes.ofText (armour der)) = readDer? der := by
  have plain : 0x2D ∉ Bytes.ofText "CERTIFICATE REQUEST" := by
    decide +kernel
  have blocks : Pem.readAll? (Bytes.ofText (armour der)) = some [⟨"CERTIFICATE REQUEST", der⟩] :=
    Pem.readAll?_write (by simp) plain
  have marked : Bytes.occursIn armourMark (Bytes.ofText (armour der)) = true := by
    rw [Bytes.occursIn_iff]
    have mark : armourMark =
        Pem.beginMark ++ (Bytes.ofText "CERTIFICATE REQUEST" ++ Pem.dashes) := by
      decide +kernel
    rw [armour, Pem.ofText_write, mark]
    exact ⟨[], _, by simp only [List.nil_append, List.append_assoc]; rfl⟩
  rw [read?, if_pos marked, readPem?, blocks]
  rfl

/-! ## Decoding -/

/-- What comes of a request that has been read. -/
def Certification.outcome (request : Certification) (sender : Sender) :
    Except DecodeFault Parsed :=
  if request.info.version = 0 then do
    let texts ← subjectTexts request.info
    authenticate request
    let names ← furtherNames request.info
    return sender.parsed texts names
  else .error .unknownVersion

variable {bytes der : Bytes} {sender : Sender} {request : Certification}

theorem decode_of_read (read : Certification.read? bytes = some request) :
    decode bytes sender = request.outcome sender := by
  have nonempty : bytes ≠ [] := by
    rintro rfl
    rw [Certification.read?_nil] at read
    cases read
  have loaded : load bytes =
      if request.info.version = 0 then .ok request else .error .unknownVersion := by
    simp [load, nonempty, read]
  rw [decode, loaded, Certification.outcome]
  split <;> rfl

theorem decode_of_unread (nonempty : bytes ≠ []) (unread : Certification.read? bytes = none) :
    decode bytes sender = .error (.refused .malformed) := by
  have loaded : load bytes = .error (.refused .malformed) := by
    simp [load, nonempty, unread]
  rw [decode, loaded]
  rfl

/-- A request that has been read is not refused for its structure. -/
theorem outcome_ne_malformed (request : Certification) (sender : Sender) :
    request.outcome sender ≠ .error (.refused .malformed) := by
  unfold Certification.outcome
  split
  · intro failed
    rcases bind_eq_error.mp failed with subject | ⟨texts, _, rest⟩
    · rcases subjectTexts_eq_error.mp subject with ⟨cause, _, same⟩ | ⟨_, same⟩
      · exact DecodeFault.unforeseen_ofName cause .malformed same.symm
      · cases same
    · rcases bind_eq_error.mp rest with signed | ⟨_, _, rest⟩
      · rcases authenticate_eq_error signed with same | same <;> cases same
      · rcases bind_eq_error.mp rest with further | ⟨names, _, done⟩
        · rcases furtherNames_refused further with same | same <;> cases same
        · cases done
  · exact fun failed => nomatch failed

theorem decode_armour (read : Certification.readDer? der = some request) (sender : Sender) :
    decode (Bytes.ofText (Certification.armour der)) sender = request.outcome sender :=
  decode_of_read ((Certification.read?_armour der).trans read)

theorem decode_unmarked (read : Certification.readDer? der = some request) (sender : Sender)
    (unmarked : Bytes.occursIn Certification.armourMark der = false) :
    decode der sender = request.outcome sender := by
  refine decode_of_read ?_
  rw [Certification.read?, unmarked]
  exact read

/-- Bytes in which the mark of armour occurs come to what the armoured request that they hold
comes to. -/
theorem decode_marked (marked : Bytes.occursIn Certification.armourMark der = true)
    (sender : Sender) :
    decode der sender =
      match Certification.readPem? der with
      | some other => other.outcome sender
      | none => .error (.refused .malformed) := by
  have nonempty : der ≠ [] := by
    rintro rfl
    exact absurd marked (by decide +kernel)
  have chosen : Certification.read? der = Certification.readPem? der := by
    rw [Certification.read?, if_pos marked]
  cases inside : Certification.readPem? der with
  | none =>
      exact decode_of_unread nonempty (chosen.trans inside)
  | some other =>
      exact decode_of_read (chosen.trans inside)

/-- The bytes of a request alone are decoded as the request exactly if the mark of armour does
not occur in them, or if they hold an armoured request, too, which comes to the same. -/
theorem decode_bare_iff (read : Certification.readDer? der = some request) (sender : Sender) :
    decode der sender = request.outcome sender ↔
      (Bytes.occursIn Certification.armourMark der = true →
        ∃ other, Certification.readPem? der = some other ∧
          other.outcome sender = request.outcome sender) := by
  cases marked : Bytes.occursIn Certification.armourMark der with
  | false =>
      simp [decode_unmarked read sender marked]
  | true =>
      rw [decode_marked marked sender]
      cases Certification.readPem? der with
      | none =>
          simpa using (outcome_ne_malformed request sender).symm
      | some other =>
          simp

/-- If a request is refused, its bytes alone are refused exactly unless they hold an armoured
request that is not. -/
theorem refused_bare_iff (read : Certification.readDer? der = some request) (sender : Sender)
    (refused : ∃ cause, request.outcome sender = .error (.refused cause)) :
    (∃ cause, decode der sender = .error (.refused cause)) ↔
      (Bytes.occursIn Certification.armourMark der = true →
        ∀ other, Certification.readPem? der = some other →
          ∃ cause, other.outcome sender = .error (.refused cause)) := by
  cases marked : Bytes.occursIn Certification.armourMark der with
  | false =>
      simpa [decode_unmarked read sender marked] using refused
  | true =>
      rw [decode_marked marked sender]
      cases Certification.readPem? der with
      | none =>
          simp
      | some other =>
          simp

/-- Whatever bytes hold a request and whoever sent it, the armoured request is decoded as the
request that the bytes hold. The bytes alone come to the same exactly if the mark of armour does
not occur in them, or if they hold an armoured request, too, which comes to the same. -/
theorem decode_armour_iff (read : Certification.readDer? der = some request) (sender : Sender) :
    decode (Bytes.ofText (Certification.armour der)) sender = request.outcome sender ∧
      (decode der sender = decode (Bytes.ofText (Certification.armour der)) sender ↔
        (Bytes.occursIn Certification.armourMark der = true →
          ∃ other, Certification.readPem? der = some other ∧
            other.outcome sender = request.outcome sender)) := by
  have armoured := decode_armour read sender
  refine ⟨armoured, ?_⟩
  rw [armoured]
  exact decode_bare_iff read sender

/-- The request of a node is decoded with armour and without. -/
theorem decode_armour_iff_node :
    ∃ request, Certification.readDer? Control.Scene.nodeRequest = some request ∧
      decode Control.Scene.nodeRequest crowdedSender =
        decode (Bytes.ofText (Certification.armour Control.Scene.nodeRequest)) crowdedSender := by
  have readable : (Certification.readDer? Control.Scene.nodeRequest).isSome = true := by
    decide +kernel
  have unmarked : Bytes.occursIn Certification.armourMark Control.Scene.nodeRequest = false := by
    decide +kernel
  obtain ⟨request, read⟩ := Option.isSome_iff_exists.mp readable
  refine ⟨request, read, (decode_armour_iff read crowdedSender).2.mpr fun marked => ?_⟩
  exact absurd (marked.symm.trans unmarked) (by decide)

/-- A request for a host whose name is the mark of armour. -/
def markedRequest : Bytes :=
  [0x30, 0x81, 0xe6, 0x30, 0x81, 0x99, 0x02, 0x01, 0x00, 0x30, 0x1f, 0x31, 0x1d, 0x30, 0x1b, 0x06,
   0x03, 0x55, 0x04, 0x03, 0x0c, 0x14, 0x73, 0x79, 0x73, 0x74, 0x65, 0x6d, 0x3a, 0x6e, 0x6f, 0x64,
   0x65, 0x3a, 0x77, 0x6f, 0x72, 0x6b, 0x65, 0x72, 0x2d, 0x31, 0x30, 0x2a, 0x30, 0x05, 0x06, 0x03,
   0x2b, 0x65, 0x70, 0x03, 0x21, 0x00, 0x80, 0xf3, 0xad, 0x9e, 0xaa, 0xac, 0xc3, 0x08, 0x21, 0xfb,
   0x20, 0x34, 0xe6, 0x27, 0xce, 0x6f, 0x48, 0x64, 0x73, 0xa1, 0xde, 0xd1, 0x87, 0xeb, 0xff, 0x5c,
   0xc9, 0x12, 0x5b, 0x78, 0xc3, 0xd9, 0xa0, 0x47, 0x30, 0x45, 0x06, 0x09, 0x2a, 0x86, 0x48, 0x86,
   0xf7, 0x0d, 0x01, 0x09, 0x0e, 0x31, 0x38, 0x30, 0x36, 0x30, 0x34, 0x06, 0x03, 0x55, 0x1d, 0x11,
   0x04, 0x2d, 0x30, 0x2b, 0x82, 0x23, 0x2d, 0x2d, 0x2d, 0x2d, 0x2d, 0x42, 0x45, 0x47, 0x49, 0x4e,
   0x20, 0x43, 0x45, 0x52, 0x54, 0x49, 0x46, 0x49, 0x43, 0x41, 0x54, 0x45, 0x20, 0x52, 0x45, 0x51,
   0x55, 0x45, 0x53, 0x54, 0x2d, 0x2d, 0x2d, 0x2d, 0x2d, 0x87, 0x04, 0x0a, 0x00, 0x01, 0x05, 0x30,
   0x05, 0x06, 0x03, 0x2b, 0x65, 0x70, 0x03, 0x41, 0x00, 0x0d, 0x8d, 0x83, 0x03, 0xbe, 0xb9, 0x64,
   0x5a, 0x53, 0xf5, 0x84, 0xb3, 0xec, 0x1d, 0xe8, 0xc8, 0x57, 0x5d, 0x40, 0x3a, 0xa4, 0xe6, 0x5e,
   0xaf, 0x7d, 0xb4, 0xfb, 0x39, 0xe4, 0x50, 0xa6, 0x08, 0x36, 0x72, 0x8b, 0xc6, 0xac, 0x79, 0xa3,
   0x25, 0x94, 0x1d, 0x24, 0x11, 0x39, 0x8b, 0xf2, 0xf6, 0xab, 0x89, 0x29, 0xe0, 0x17, 0xbf, 0x68,
   0x79, 0x63, 0x36, 0xe5, 0xf9, 0x06, 0x29, 0xba, 0x0a]

theorem read_markedRequest :
    ∃ request, Certification.readDer? markedRequest = some request := by
  have readable : (Certification.readDer? markedRequest).isSome = true := by
    decide +kernel
  exact Option.isSome_iff_exists.mp readable

/-- The request for the mark is refused for its structure, and the same request with armour is
not. -/
theorem decode_markedRequest_differs :
    ∃ request, Certification.readDer? markedRequest = some request ∧
      decode markedRequest crowdedSender = .error (.refused .malformed) ∧
      decode markedRequest crowdedSender ≠
        decode (Bytes.ofText (Certification.armour markedRequest)) crowdedSender := by
  obtain ⟨request, read⟩ := read_markedRequest
  have refused : decode markedRequest crowdedSender = .error (.refused .malformed) := by
    decide +kernel
  refine ⟨request, read, refused, ?_⟩
  rw [refused, decode_armour read crowdedSender]
  exact (outcome_ne_malformed request crowdedSender).symm

end CertApproval.Request
