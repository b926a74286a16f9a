import CertApproval.Proofs.Stepwise
import CertApproval.Request.Decode
import Mathlib.Data.List.Nodup

/-!
What reading a request comes to, part by part: the request itself, its subject, its signature
and its extensions. Main statement: decoding fails at the first of these parts that is at fault,
and a request without such a part is decoded.
-/

namespace CertApproval

namespace Request

open CertApproval.Der (Oid)

/-! ## Subjects -/

namespace Name

theorem hasRepeat_eq_false {α : Type} [DecidableEq α] (items : List α) :
    hasRepeat items = false ↔ items.Nodup := by
  induction items with
  | nil =>
      simp [hasRepeat]
  | cons item items inductionHypothesis =>
      simp [hasRepeat, inductionHypothesis]

/-- Whether the attributes of a name can be turned into texts: each has one, and no set of them
is empty or says a thing twice. -/
def Readable (name : Name) : Prop :=
  ∀ set ∈ name, set ≠ [] ∧ (∀ item ∈ set, ∃ text, item.text = .ok text) ∧
    (set.map fun item => (item.type, item.text)).Nodup

theorem mapM_text_eq_ok {set : List Attribute} {texts : List (Oid × AttributeText)} :
    (set.mapM fun item => item.text.map fun text => (item.type, text)) = .ok texts ↔
      (set.map fun item => (item.type, item.text)) =
        texts.map fun typed => (typed.1, Except.ok typed.2) := by
  have each (item : Attribute) (typed : Oid × AttributeText) :
      (item.text.map fun text => (item.type, text)) = .ok typed ↔
        (item.type, item.text) = (typed.1, Except.ok typed.2) := by
    obtain ⟨type, text⟩ := typed
    cases item.text <;> simp [Except.map]
  rw [mapM_eq_ok, ← List.forall₂_eq_eq_eq, List.forall₂_map_left_iff, List.forall₂_map_right_iff]
  simp only [each]

theorem setTexts_eq_ok {set : List Attribute} {texts : List (Oid × AttributeText)} :
    setTexts set = .ok texts ↔
      (set.map fun item => (item.type, item.text)) =
        (texts.map fun typed => (typed.1, Except.ok typed.2)) ∧ texts ≠ [] ∧ texts.Nodup := by
  rw [← mapM_text_eq_ok, ← hasRepeat_eq_false]
  unfold setTexts
  cases set.mapM fun item => item.text.map fun text => (item.type, text) with
  | error fault =>
      simp
  | ok found =>
      by_cases sound : found ≠ [] ∧ hasRepeat found = false
      · simp only [List.isEmpty_iff, sound.1, sound.2]
        constructor
        · intro same
          cases same
          exact ⟨rfl, sound⟩
        · rintro ⟨same, _⟩
          exact same
      · have refused : found.isEmpty = true ∨ hasRepeat found = true := by
          simpa [or_iff_not_imp_left] using sound
        dsimp only
        rw [if_pos refused]
        refine iff_of_false (by simp) ?_
        rintro ⟨same, rest⟩
        cases same
        exact sound rest

theorem setTexts_succeeds_iff (set : List Attribute) :
    (∃ texts, setTexts set = .ok texts) ↔
      set ≠ [] ∧ (∀ item ∈ set, ∃ text, item.text = .ok text) ∧
        (set.map fun item => (item.type, item.text)).Nodup := by
  have injective : Function.Injective fun typed : Oid × AttributeText =>
      (typed.1, (Except.ok typed.2 : Except NameFault AttributeText)) := by
    rintro ⟨type, text⟩ ⟨other, otherText⟩ equal
    simpa using equal
  constructor
  · rintro ⟨texts, read⟩
    obtain ⟨same, nonempty, once⟩ := setTexts_eq_ok.mp read
    refine ⟨?_, ?_, ?_⟩
    · rintro rfl
      exact nonempty (List.map_eq_nil_iff.mp same.symm)
    · intro item member
      have said : (item.type, item.text) ∈ texts.map fun typed => (typed.1, Except.ok typed.2) :=
        same ▸ List.mem_map_of_mem member
      obtain ⟨typed, _, equal⟩ := List.mem_map.mp said
      exact ⟨typed.2, (Prod.mk.inj equal).2.symm⟩
    · rw [same]
      exact once.map injective
  · rintro ⟨nonempty, each, once⟩
    have succeeds : ∃ texts, (set.mapM fun item => item.text.map fun text => (item.type, text)) =
        .ok texts := by
      rw [mapM_succeeds_iff]
      intro item member
      obtain ⟨text, said⟩ := each item member
      exact ⟨(item.type, text), by rw [said]; rfl⟩
    obtain ⟨texts, read⟩ := succeeds
    have same := mapM_text_eq_ok.mp read
    refine ⟨texts, setTexts_eq_ok.mpr ⟨same, ?_, ?_⟩⟩
    · rintro rfl
      exact nonempty (List.map_eq_nil_iff.mp same)
    · rw [same] at once
      exact once.of_map

theorem texts_succeeds_iff (name : Name) :
    (∃ texts, Name.texts name = .ok texts) ↔ name.Readable := by
  have every : name.Readable ↔ ∃ sets, name.mapM setTexts = .ok sets := by
    rw [mapM_succeeds_iff]
    exact forall₂_congr fun set _ => (setTexts_succeeds_iff set).symm
  rw [every, Name.texts]
  cases name.mapM setTexts <;> simp [Except.map]

/-- A name says nothing exactly if it is empty. -/
theorem texts_eq_nil {name : Name} : Name.texts name = .ok [] ↔ name = [] := by
  constructor
  · intro read
    unfold Name.texts at read
    cases sets : name.mapM setTexts with
    | error fault =>
        simp [sets, Except.map] at read
    | ok texts =>
        cases mapM_eq_ok.mp sets with
        | nil =>
            rfl
        | cons first _ =>
            simp [sets, Except.map, (setTexts_eq_ok.mp first).2.1] at read
  · rintro rfl
    rfl

end Name

theorem subjectTexts_succeeds_iff (info : Info) :
    (∃ texts, subjectTexts info = .ok texts) ↔ info.subject.Readable ∧ info.subject ≠ [] := by
  rw [← Name.texts_succeeds_iff, ne_eq, ← Name.texts_eq_nil]
  unfold subjectTexts
  cases Name.texts info.subject with
  | error fault =>
      simp
  | ok texts =>
      cases texts <;> simp

theorem subjectTexts_eq_error {info : Info} {fault : DecodeFault} :
    subjectTexts info = .error fault ↔
      (∃ cause, Name.texts info.subject = .error cause ∧ fault = .ofName cause) ∨
        info.subject = [] ∧ fault = .refused .noSubject := by
  rw [← Name.texts_eq_nil]
  unfold subjectTexts
  cases Name.texts info.subject with
  | error cause =>
      simp [eq_comm]
  | ok texts =>
      cases texts <;> simp [eq_comm]

/-! ## Extensions -/

namespace Extension

/-- Whether the first of several extensions that cannot be interpreted fails in a given way. -/
def FailsFirst (extensions : List Extension) (fault : ExtensionFault) : Prop :=
  ∃ before extension after, extensions = before ++ extension :: after ∧
    (∀ earlier ∈ before, ∃ meaning, interpret earlier = .ok meaning) ∧
      interpret extension = .error fault

theorem interpretAll_eq_error {extensions : List Extension} {fault : ExtensionFault} :
    interpretAll extensions = .error fault ↔
      ¬(extensions.map Extension.id).Nodup ∧ fault = .malformed ∨
        (extensions.map Extension.id).Nodup ∧ FailsFirst extensions fault := by
  unfold interpretAll FailsFirst
  rw [← Name.hasRepeat_eq_false, ← mapM_eq_error]
  cases Name.hasRepeat (extensions.map Extension.id) with
  | true =>
      simp [eq_comm]
  | false =>
      cases extensions.mapM interpret <;> simp

theorem interpretAll_eq_ok {extensions : List Extension} {meaning : Option (List Identity)}
    (interpreted : interpretAll extensions = .ok meaning) :
    (extensions.map Extension.id).Nodup ∧ ∃ meanings,
      List.Forall₂ (fun extension meaning => interpret extension = .ok meaning)
        extensions meanings ∧ meaning = meanings.findSome? fun meaning => meaning := by
  unfold interpretAll at interpreted
  rw [← Name.hasRepeat_eq_false]
  cases repeated : Name.hasRepeat (extensions.map Extension.id) with
  | true =>
      simp [repeated] at interpreted
  | false =>
      cases each : extensions.mapM interpret with
      | error fault =>
          simp [repeated, each] at interpreted
      | ok meanings =>
          refine ⟨rfl, meanings, mapM_eq_ok.mp each, ?_⟩
          simpa [repeated, each, eq_comm] using interpreted

end Extension

/-- Whether decoding fails for a reason that nobody has prepared for. -/
def DecodeFault.Unforeseen (fault : DecodeFault) : Prop := ∀ cause, fault ≠ .refused cause

theorem FurtherNames.ofIdentities_eq_error {identities : List Identity} {fault : DecodeFault}
    (failed : ofIdentities identities = .error fault) : fault = .refused .addressRange := by
  unfold ofIdentities at failed
  split at failed
  · exact (Except.error.inj failed).symm
  · cases failed

theorem furtherNames_eq_error {info : Info} {fault : DecodeFault} (unforeseen : fault.Unforeseen) :
    furtherNames info = .error fault ↔
      ∃ extensions cause, info.extensions? = some extensions ∧
        (extensions.map Extension.id).Nodup ∧ Extension.FailsFirst extensions cause ∧
          fault = .ofExtension cause := by
  unfold furtherNames
  constructor
  · intro failed
    cases read : info.extensions? with
    | none =>
        rw [read] at failed
        exact absurd (Except.error.inj failed).symm (unforeseen .badExtensions)
    | some extensions =>
        simp only [read] at failed
        cases interpreted : Extension.interpretAll extensions with
        | error cause =>
            obtain rfl : DecodeFault.ofExtension cause = fault := by
              simpa [interpreted] using failed
            rcases Extension.interpretAll_eq_error.mp interpreted with
              ⟨_, rfl⟩ | ⟨distinct, failsFirst⟩
            · exact absurd rfl (unforeseen .badExtensions)
            · exact ⟨extensions, cause, rfl, distinct, failsFirst, rfl⟩
        | ok identities =>
            simp only [interpreted] at failed
            exact absurd (FurtherNames.ofIdentities_eq_error failed) (unforeseen .addressRange)
  · rintro ⟨extensions, cause, read, distinct, failsFirst, rfl⟩
    have failed := Extension.interpretAll_eq_error.mpr (Or.inr ⟨distinct, failsFirst⟩)
    simp only [read, failed]

/-! ## Requests -/

/-- Whether bytes hold a request of the known version. -/
structure Opens (bytes : Bytes) (request : Certification) : Prop where
  read : Certification.read? bytes = some request
  version : request.info.version = 0

/-- Whether a request names its subject and is signed by its own key. -/
structure Certification.Authentic (request : Certification) : Prop where
  readable : request.info.subject.Readable
  named : request.info.subject ≠ []
  signed : ∃ key, request.info.key.load? = some key ∧ request.isSignedBy key = true

theorem Certification.read?_nil : Certification.read? [] = none := by
  decide

theorem load_eq_ok {bytes : Bytes} {request : Certification} :
    load bytes = .ok request ↔ Opens bytes request := by
  unfold load
  constructor
  · intro loaded
    split at loaded
    · cases loaded
    · cases read : Certification.read? bytes with
      | none =>
          simp [read] at loaded
      | some found =>
          by_cases known : found.info.version = 0
          · obtain rfl : found = request := by simpa [read, known] using loaded
            exact ⟨read, known⟩
          · simp [read, known] at loaded
  · rintro ⟨read, known⟩
    cases bytes with
    | nil =>
        simp [Certification.read?_nil] at read
    | cons byte bytes =>
        simp [read, known]

theorem load_eq_error {bytes : Bytes} {fault : DecodeFault} (unforeseen : fault.Unforeseen) :
    load bytes = .error fault ↔
      ∃ request, Certification.read? bytes = some request ∧ request.info.version ≠ 0 ∧
        fault = .unknownVersion := by
  unfold load
  constructor
  · intro failed
    split at failed
    · exact absurd (Except.error.inj failed).symm (unforeseen .empty)
    · cases read : Certification.read? bytes with
      | none =>
          rw [read] at failed
          exact absurd (Except.error.inj failed).symm (unforeseen .malformed)
      | some request =>
          by_cases known : request.info.version = 0
          · simp [read, known] at failed
          · exact ⟨request, rfl, known, by simpa [read, known, eq_comm] using failed⟩
  · rintro ⟨request, read, unknown, rfl⟩
    cases bytes with
    | nil =>
        simp [Certification.read?_nil] at read
    | cons byte bytes =>
        simp [read, unknown]

theorem authenticate_eq_ok {request : Certification} :
    authenticate request = .ok () ↔
      ∃ key, request.info.key.load? = some key ∧ request.isSignedBy key = true := by
  unfold authenticate
  cases request.info.key.load? with
  | none =>
      simp
  | some key =>
      cases signed : request.isSignedBy key <;> simp [signed]

theorem authenticate_eq_error {request : Certification} {fault : DecodeFault}
    (failed : authenticate request = .error fault) :
    fault = .refused .badKey ∨ fault = .refused .badSignature := by
  unfold authenticate at failed
  split at failed
  · exact Or.inl (Except.error.inj failed).symm
  · split at failed
    · cases failed
    · exact Or.inr (Except.error.inj failed).symm

/-- What a request says, once all of its parts have been read. -/
def Sender.parsed (sender : Sender) (texts : List (Oid × AttributeText)) (names : FurtherNames) :
    Parsed where
  commonName := Name.commonName texts
  dnsNames := names.dnsNames
  addresses := names.addresses
  emails := names.emails
  uris := names.uris
  expirationSeconds := sender.expiration.getD sender.defaultExpiration
  username := sender.username

section Decode

variable {bytes : Bytes} {sender : Sender} {request : Certification}

theorem authentic_iff :
    request.Authentic ↔
      (∃ texts, subjectTexts request.info = .ok texts) ∧ authenticate request = .ok () := by
  rw [subjectTexts_succeeds_iff, authenticate_eq_ok]
  constructor
  · rintro ⟨readable, named, signed⟩
    exact ⟨⟨readable, named⟩, signed⟩
  · rintro ⟨⟨readable, named⟩, signed⟩
    exact ⟨readable, named, signed⟩

theorem decode_eq_ok {parsed : Parsed} (decoded : decode bytes sender = .ok parsed) :
    ∃ request texts names, Opens bytes request ∧ request.Authentic ∧
      furtherNames request.info = .ok names ∧ parsed = sender.parsed texts names := by
  simp only [decode, bind_eq_ok] at decoded
  obtain ⟨request, loaded, texts, read, _, signed, names, further, same⟩ := decoded
  refine ⟨request, texts, names, load_eq_ok.mp loaded, ?_, further, (Except.ok.inj same).symm⟩
  exact authentic_iff.mpr ⟨⟨texts, read⟩, signed⟩

/-- Decoding fails at the first part of a request that is at fault. -/
theorem decode_eq_error {fault : DecodeFault} :
    decode bytes sender = .error fault ↔
      load bytes = .error fault ∨ ∃ request, Opens bytes request ∧
        (subjectTexts request.info = .error fault ∨
          (∃ texts, subjectTexts request.info = .ok texts) ∧ authenticate request = .error fault ∨
          request.Authentic ∧ furtherNames request.info = .error fault) := by
  simp only [decode, bind_eq_error, ← load_eq_ok, authentic_iff]
  refine or_congr Iff.rfl (exists_congr fun request => and_congr_right fun _ => ?_)
  refine or_congr Iff.rfl ?_
  constructor
  · rintro ⟨texts, read, failed | ⟨_, signed, failed | ⟨_, _, done⟩⟩⟩
    · exact Or.inl ⟨⟨texts, read⟩, failed⟩
    · exact Or.inr ⟨⟨⟨texts, read⟩, signed⟩, failed⟩
    · cases done
  · rintro (⟨⟨texts, read⟩, failed⟩ | ⟨⟨⟨texts, read⟩, signed⟩, failed⟩)
    · exact ⟨texts, read, Or.inl failed⟩
    · exact ⟨texts, read, Or.inr ⟨(), signed, Or.inl failed⟩⟩

end Decode

end Request

end CertApproval
