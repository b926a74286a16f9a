import CertApproval.Proofs.Armour.Agreement
import CertApproval.Proofs.Net.Addresses
import CertApproval.Proofs.Request.Encoding

/-!
Requests that are written for a list of further names, and decoded. Main statement: decoding
gives back the names of each kind in their order, the set of the addresses, and the first common
name of the subject, whatever else the request carries. With armour that is always so, and
without armour it is so as long as the mark of armour does not occur in the encoding.
-/

namespace CertApproval.Request

open CertApproval.Der
open CertApproval.Net (Address)

/-! ## Names of the kinds that are taken -/

namespace GeneralName

/-- Names of the kinds that are taken, each well-formed: addresses of four or sixteen bytes, or of
eight or thirty-two with a mask. -/
def Supported : GeneralName → Prop
  | other type _ => type.WellFormed
  | directory name => name.WellFormed ∧ name.Readable
  | registered id => id.WellFormed
  | address content => content.length ∈ [4, 16, 8, 32]
  | email _ | dns _ | uri _ => True
  | mailAddress _ | party _ => False

/-- Whether an address has the size of one with a mask. -/
def isRange : GeneralName → Bool
  | address content => content.length = 8 ∨ content.length = 32
  | other _ _ | email _ | dns _ | mailAddress _ | directory _ | party _ | uri _ | registered _ =>
      false

def dnsText? : GeneralName → Option String
  | dns text => some text
  | _ => none

def emailText? : GeneralName → Option String
  | email text => some text
  | _ => none

def uriText? : GeneralName → Option String
  | uri text => some text
  | _ => none

variable {name : GeneralName}

theorem Supported.wellFormed (supported : name.Supported) : name.WellFormed := by
  cases name with
  | other type value | registered id =>
      exact supported
  | directory name =>
      exact supported.1
  | email text | dns text | uri text | address content =>
      trivial
  | mailAddress content | party content =>
      exact supported.elim

theorem Supported.isBarred_eq (supported : name.Supported) : name.isBarred = name.isRange := by
  cases name with
  | address content =>
      have size : content.length ∈ [4, 16, 8, 32] := supported
      simp only [List.mem_cons, List.not_mem_nil, or_false] at size
      rcases size with four | sixteen | eight | thirtyTwo <;>
        simp [isBarred, isRange, Address.ofBytes?, *]
  | mailAddress content | party content =>
      exact supported.elim
  | other type value | email text | dns text | directory name | uri text | registered id =>
      rfl

/-- Only what has the size of an address with a mask may have no meaning. -/
theorem Supported.identity_cases (supported : name.Supported) :
    (∃ identity, name.identity = .ok identity) ∨
      name.isRange = true ∧ name.identity = .error .malformed := by
  cases name with
  | email text | dns text | uri text | other type value | registered id =>
      exact Or.inl ⟨_, rfl⟩
  | mailAddress content | party content =>
      exact supported.elim
  | directory name =>
      obtain ⟨texts, read⟩ := (Name.texts_succeeds_iff name).mpr supported.2
      exact Or.inl ⟨.other, by simp [identity, read]⟩
  | address content =>
      cases single : Address.ofBytes? content with
      | some address =>
          exact Or.inl ⟨.address address, by simp [identity, single]⟩
      | none =>
          have barred : (address content).isRange = true := by
            rw [← supported.isBarred_eq]
            simp [isBarred, single]
          cases masked : rangeOfBytes? content with
          | some range =>
              exact Or.inl ⟨.network range, by simp [identity, single, masked]⟩
          | none =>
              exact Or.inr ⟨barred, by simp [identity, single, masked]⟩

end GeneralName

/-! ## What is decoded -/

/-- Whether what was decoded holds the names of a list: those that are texts in their order, and
the addresses as a set. -/
structure Parsed.Lists (parsed : Parsed) (names : List GeneralName) : Prop where
  dnsNames : parsed.dnsNames = names.filterMap GeneralName.dnsText?
  emails : parsed.emails = names.filterMap GeneralName.emailText?
  uris : parsed.uris = names.filterMap GeneralName.uriText?
  distinct : parsed.addresses.Nodup
  addresses : ∀ address, address ∈ parsed.addresses ↔
    ∃ content ∈ address.bytes?, .address content ∈ names

/-- Whether what was decoded is what a request for some names and its sender say. -/
structure Parsed.Conveys (parsed : Parsed) (subject : Name) (names : List GeneralName)
    (sender : Sender) : Prop extends parsed.Lists names where
  commonName :
    match subject.flatten.find? fun item => item.type = Oid.commonName with
    | some item => item.text = .ok (.text parsed.commonName)
    | none => parsed.commonName = ""
  expirationSeconds :
    parsed.expirationSeconds = sender.expiration.getD sender.defaultExpiration
  username : parsed.username = sender.username

theorem filterMap_eq_of_forall₂ {α β γ : Type} {relation : α → β → Prop} {items : List α}
    {values : List β} (related : List.Forall₂ relation items values) {pick : α → Option γ}
    {pickValue : β → Option γ}
    (same : ∀ item value, relation item value → pick item = pickValue value) :
    items.filterMap pick = values.filterMap pickValue := by
  induction related with
  | nil =>
      rfl
  | cons first _ inductionHypothesis =>
      rw [List.filterMap_cons, List.filterMap_cons, same _ _ first, inductionHypothesis]

section Lists

variable {generalNames : List GeneralName} {identities : List Identity} {names : FurtherNames}

theorem ofKind_eq {pick : GeneralName → Option String} {pickIdentity : Identity → Option String}
    (meant : GeneralName.identities generalNames = .ok identities)
    (same : ∀ name identity, GeneralName.Means name identity → pick name = pickIdentity identity) :
    FurtherNames.ofKind pickIdentity identities = generalNames.filterMap pick := by
  refine (filterMap_eq_of_forall₂ (mapM_eq_ok.mp meant) fun name identity means => ?_).symm
  exact same name identity (GeneralName.means_of_identity means)

theorem lists_of_ofIdentities (sender : Sender) (texts : List (Oid × AttributeText))
    (meant : GeneralName.identities generalNames = .ok identities)
    (sorted : FurtherNames.ofIdentities identities = .ok names) :
    (sender.parsed texts names).Lists generalNames := by
  have represents := represents_of_ofIdentities sender texts meant sorted
  unfold FurtherNames.ofIdentities at sorted
  split at sorted
  · cases sorted
  cases sorted
  refine ⟨ofKind_eq meant ?_, ofKind_eq meant ?_, ofKind_eq meant ?_, Net.nodup_addressSet _, ?_⟩
  · rintro name identity (_ | _ | _ | _ | _ | _ | _ | _) <;> rfl
  · rintro name identity (_ | _ | _ | _ | _ | _ | _ | _) <;> rfl
  · rintro name identity (_ | _ | _ | _ | _ | _ | _ | _) <;> rfl
  · intro address
    rw [represents.addresses address]
    constructor
    · rintro ⟨content, member, read⟩
      exact ⟨content, Net.Address.ofBytes?_eq_some.mp read, member⟩
    · rintro ⟨content, written, member⟩
      exact ⟨content, member, Net.Address.ofBytes?_eq_some.mpr written⟩

end Lists

/-! ## The common name -/

namespace Name

theorem texts_eq_ok {name : Name} {texts : List (Oid × AttributeText)}
    (read : Name.texts name = .ok texts) :
    (name.flatten.map fun item => (item.type, item.text)) =
      texts.map fun typed => (typed.1, Except.ok typed.2) := by
  unfold Name.texts at read
  cases sets : name.mapM setTexts with
  | error fault =>
      simp [sets, Except.map] at read
  | ok lists =>
      obtain rfl : lists.flatten = texts := by simpa [sets, Except.map] using read
      clear read
      have each := mapM_eq_ok.mp sets
      clear sets
      induction each with
      | nil =>
          rfl
      | cons first _ inductionHypothesis =>
          rw [List.flatten_cons, List.flatten_cons, List.map_append, List.map_append,
            (setTexts_eq_ok.mp first).1, inductionHypothesis]

/-- The text that is looked up is that of the first attribute with the identifier. -/
theorem lookup_texts {items : List Attribute} {texts : List (Oid × AttributeText)}
    (read : (items.map fun item => (item.type, item.text)) =
      texts.map fun typed => (typed.1, Except.ok typed.2)) (id : Oid) :
    match items.find? fun item => item.type = id with
    | some item => ∃ text, texts.lookup id = some text ∧ item.text = .ok text ∧ item.type = id
    | none => texts.lookup id = none := by
  induction items generalizing texts with
  | nil =>
      cases texts with
      | nil =>
          rfl
      | cons typed texts =>
          simp at read
  | cons item items inductionHypothesis =>
      cases texts with
      | nil =>
          simp at read
      | cons typed texts =>
          obtain ⟨type, text⟩ := typed
          simp only [List.map_cons, List.cons.injEq, Prod.mk.injEq] at read
          obtain ⟨⟨isType, isText⟩, others⟩ := read
          by_cases here : item.type = id
          · subst isType
            simp [here, isText]
          · have other : (id == type) = false :=
              beq_eq_false_iff_ne.mpr fun same => here (isType.trans same.symm)
            rw [List.find?_cons_of_neg (by simpa using here), List.lookup_cons, other]
            exact inductionHypothesis others

theorem not_bits_of_commonName {item : Attribute} (named : item.type = Oid.commonName)
    (content : Bytes) : item.text ≠ .ok (.bits content) := by
  intro read
  unfold Attribute.text at read
  have other : Oid.commonName ≠ Oid.uniqueIdentifier := by decide
  simp only [named, other, if_false] at read
  split at read
  · cases read
  · split at read
    · cases read
    · split at read <;> cases read

theorem commonName_texts {name : Name} {texts : List (Oid × AttributeText)}
    (read : Name.texts name = .ok texts) :
    match name.flatten.find? fun item => item.type = Oid.commonName with
    | some item => item.text = .ok (.text (commonName texts))
    | none => commonName texts = "" := by
  have found := lookup_texts (texts_eq_ok read) Oid.commonName
  cases first : name.flatten.find? fun item => item.type = Oid.commonName with
  | none =>
      rw [first] at found
      simp only at found
      simp [commonName, found]
  | some item =>
      rw [first] at found
      obtain ⟨text, isText, said, named⟩ := found
      cases text with
      | text value =>
          simpa [commonName, isText] using said
      | bits content =>
          exact absurd said (not_bits_of_commonName named content)

end Name

/-! ## What is asked for -/

namespace Extension

/-- Whether extensions are well-formed and one of them lists names: no two are of one kind, and
each of the others has a meaning. -/
structure Lists (extensions : List Extension) (names : List GeneralName) : Prop where
  wellFormed : ∀ extension ∈ extensions, extension.id.WellFormed
  distinct : (extensions.map Extension.id).Nodup
  listed : ∃ critical,
    ⟨subjectAltName, critical, (Element.ofSequence (names.map GeneralName.write)).write⟩ ∈
      extensions
  others : ∀ extension ∈ extensions, extension.id ≠ subjectAltName →
    ∃ meaning, extension.interpret = .ok meaning

variable {extensions : List Extension} {names : List GeneralName}

theorem names?_write (supported : ∀ name ∈ names, name.Supported)
    (fits : (Element.ofSequence (names.map GeneralName.write)).Fits) :
    names? (Element.ofSequence (names.map GeneralName.write)).write = some names := by
  simp only [names?, sequence?, Element.readOne?_write fits, Option.bind_some,
    Element.sequence?_ofSequence fits]
  exact GeneralName.readList?_write (fun name member => (supported name member).wellFormed) fits

theorem Lists.split (lists : Lists extensions names) :
    ∃ before critical after,
      extensions = before ++
        ⟨subjectAltName, critical, (Element.ofSequence (names.map GeneralName.write)).write⟩ ::
          after ∧
      ∀ extension ∈ before ++ after, extension.id ≠ subjectAltName := by
  obtain ⟨critical, member⟩ := lists.listed
  obtain ⟨before, after, rfl⟩ := List.append_of_mem member
  refine ⟨before, critical, after, rfl, fun extension isOther same => ?_⟩
  have distinct := lists.distinct
  rw [List.map_append, List.map_cons, List.nodup_middle, List.nodup_cons, ← List.map_append]
    at distinct
  exact distinct.1 (List.mem_map.mpr ⟨extension, isOther, same⟩)

theorem interpret_listed (supported : ∀ name ∈ names, name.Supported)
    (fits : (Element.ofSequence (names.map GeneralName.write)).Fits) (critical : Bool) :
    interpret ⟨subjectAltName, critical,
        (Element.ofSequence (names.map GeneralName.write)).write⟩ =
      (GeneralName.identities names).map some := by
  rw [interpret, if_pos rfl, readNames, names?_write supported fits]

theorem Lists.interpretAll_error (lists : Lists extensions names)
    (supported : ∀ name ∈ names, name.Supported)
    (fits : (Element.ofSequence (names.map GeneralName.write)).Fits) {fault : ExtensionFault}
    (failed : GeneralName.identities names = .error fault) :
    interpretAll extensions = .error fault := by
  obtain ⟨before, critical, after, rfl, others⟩ := lists.split
  refine interpretAll_eq_error.mpr (Or.inr ⟨lists.distinct, before, _, after, rfl, ?_, ?_⟩)
  · intro earlier member
    exact lists.others earlier (by simp [member]) (others earlier (by simp [member]))
  · rw [interpret_listed supported fits, failed]
    rfl

theorem Lists.interpretAll_ok (lists : Lists extensions names)
    (supported : ∀ name ∈ names, name.Supported)
    (fits : (Element.ofSequence (names.map GeneralName.write)).Fits) {identities : List Identity}
    (meant : GeneralName.identities names = .ok identities) :
    ∃ meaning, interpretAll extensions = .ok meaning := by
  obtain ⟨before, critical, after, rfl, others⟩ := lists.split
  cases interpreted : interpretAll _ with
  | ok meaning =>
      exact ⟨meaning, rfl⟩
  | error fault =>
      rcases interpretAll_eq_error.mp interpreted with
        ⟨repeated, _⟩ | ⟨_, earlier, extension, later, split, _, failed⟩
      · exact absurd lists.distinct repeated
      · exfalso
        have member : extension ∈ before ++ ⟨subjectAltName, critical,
            (Element.ofSequence (names.map GeneralName.write)).write⟩ :: after := by
          simp [split]
        rcases List.mem_append.mp member with isBefore | isAfter
        · obtain ⟨meaning, succeeded⟩ := lists.others extension member
            (others extension (List.mem_append_left _ isBefore))
          cases failed.symm.trans succeeded
        rcases List.mem_cons.mp isAfter with rfl | isAfter
        · rw [interpret_listed supported fits, meant] at failed
          cases failed
        · obtain ⟨meaning, succeeded⟩ := lists.others extension member
            (others extension (List.mem_append_right _ isAfter))
          cases failed.symm.trans succeeded

theorem Lists.subjectNames (lists : Lists extensions names)
    (supported : ∀ name ∈ names, name.Supported)
    (fits : (Element.ofSequence (names.map GeneralName.write)).Fits) :
    (extensions.mapM subjectNames?).map List.flatten = some names := by
  obtain ⟨before, critical, after, rfl, others⟩ := lists.split
  obtain ⟨earlier, readBefore, noneBefore⟩ := subjectNames_of_others fun extension member =>
    others extension (List.mem_append_left after member)
  obtain ⟨later, readAfter, noneAfter⟩ := subjectNames_of_others fun extension member =>
    others extension (List.mem_append_right before member)
  simp [subjectNames?, names?_write supported fits, readBefore, readAfter, noneBefore, noneAfter]

end Extension

namespace Info

/-- Whether a request asks for names: one attribute of it carries extensions, and these list the
names. -/
def Asks (info : Info) (names : List GeneralName) : Prop :=
  ∃ item extensions,
    info.attributes.filter RequestAttribute.isExtensionRequest = [item] ∧
      item.values = [.ofSequence (extensions.map Extension.write)] ∧
      Extension.Lists extensions names

end Info

variable {info : Info} {names : List GeneralName}

/-- What comes of the extensions of a request that asks for names is what comes of the names. -/
theorem furtherNames_of_asks (asks : info.Asks names) (fits : info.write.Fits)
    (supported : ∀ name ∈ names, name.Supported) :
    furtherNames info =
      match GeneralName.identities names with
      | .ok identities => FurtherNames.ofIdentities identities
      | .error fault => .error (.ofExtension fault) := by
  obtain ⟨item, extensions, only, values, lists⟩ := asks
  have first : info.attributes.find? RequestAttribute.isExtensionRequest = some item := by
    rw [← List.head?_filter, only]
    rfl
  have fitsItem : item.write.Fits :=
    (Info.fits_attributes fits).of_mem (List.mem_map_of_mem (List.mem_of_find?_eq_some first))
  have read : info.extensions? = some extensions := by
    rw [Info.extensions?, first]
    exact RequestAttribute.extensions?_write values lists.wellFormed fitsItem
  have fitsNames : (Element.ofSequence (names.map GeneralName.write)).Fits := by
    obtain ⟨critical, member⟩ := lists.listed
    have fitsExtension := (RequestAttribute.fits_extensions values fitsItem).of_mem
      (List.mem_map_of_mem member)
    exact (Extension.fits_value fitsExtension).of_write
  cases meant : GeneralName.identities names with
  | error fault =>
      simp only [furtherNames, read, lists.interpretAll_error supported fitsNames meant]
  | ok identities =>
      obtain ⟨meaning, interpreted⟩ := lists.interpretAll_ok supported fitsNames meant
      obtain ⟨generalNames, listed, same, further⟩ := furtherNames_of_interpreted read interpreted
      have isNames : names = generalNames := by
        rw [subjectNames_of_extensions read, lists.subjectNames supported fitsNames] at listed
        exact Option.some.inj listed
      rw [← isNames, meant] at same
      rw [further, ← Except.ok.inj same]

/-! ## Requests of a worker -/

def workerKey : Bytes :=
  [0x80, 0xf3, 0xad, 0x9e, 0xaa, 0xac, 0xc3, 0x08, 0x21, 0xfb, 0x20, 0x34, 0xe6, 0x27, 0xce, 0x6f,
   0x48, 0x64, 0x73, 0xa1, 0xde, 0xd1, 0x87, 0xeb, 0xff, 0x5c, 0xc9, 0x12, 0x5b, 0x78, 0xc3, 0xd9]

def workerSubject : Name :=
  [[⟨Oid.commonName, .utf8String, Bytes.ofText "system:node:worker-1"⟩]]

/-- A request of a worker for names. -/
def workerInfo (names : List GeneralName) : Info where
  version := 0
  subject := workerSubject
  key := ⟨⟨Algorithm.ed25519, none⟩, 0, workerKey⟩
  attributes :=
    [⟨Oid.extensionRequest,
      [.ofSequence
        [Extension.write ⟨Extension.subjectAltName, false,
          (Element.ofSequence (names.map GeneralName.write)).write⟩]]⟩]

def workerRequest (names : List GeneralName) (signature : Bytes) : Certification where
  info := workerInfo names
  signed := (workerInfo names).write.write
  algorithm := ⟨Algorithm.ed25519, none⟩
  signature := ⟨0, signature⟩

theorem wellFormed_ed25519 : Algorithm.WellFormed ⟨Algorithm.ed25519, none⟩ where
  id := ⟨⟨1, 3, [101, 112], rfl, by decide, by decide⟩, by decide⟩
  sound := by decide

theorem wellFormed_workerSubject : workerSubject.WellFormed := by
  intro set isSet
  obtain rfl := List.mem_singleton.mp isSet
  refine ⟨fun item isItem => ?_, rfl⟩
  obtain rfl := List.mem_singleton.mp isItem
  exact ⟨⟨⟨2, 5, [4, 3], rfl, by decide, by decide⟩, by decide⟩, by decide⟩

theorem readable_workerSubject : workerSubject.Readable :=
  (Name.texts_succeeds_iff workerSubject).mp
    ⟨[(Oid.commonName, .text "system:node:worker-1")], by decide +kernel⟩

theorem wellFormed_extensionRequest : Oid.extensionRequest.WellFormed :=
  ⟨⟨1, 2, [840, 113549, 1, 9, 14], rfl, by decide, by decide⟩, by decide⟩

theorem wellFormed_subjectAltName : Extension.subjectAltName.WellFormed :=
  ⟨⟨2, 5, [29, 17], rfl, by decide, by decide⟩, by decide⟩

theorem wellFormed_workerRequest {names : List GeneralName} {signature : Bytes}
    (fits : (workerRequest names signature).write.length < lengthLimit) :
    (workerRequest names signature).WellFormed where
  info :=
    { version := show 0 < Info.versionLimit by decide
      subject := wellFormed_workerSubject
      key := ⟨wellFormed_ed25519, BitString.wellFormed_of_whole workerKey⟩
      attributes := by
        intro item isItem
        obtain rfl := List.mem_singleton.mp isItem
        exact ⟨wellFormed_extensionRequest, rfl⟩
      ascends := rfl }
  signed := rfl
  algorithm := wellFormed_ed25519
  signature := BitString.wellFormed_of_whole signature
  fits := fits

theorem load?_workerKey :
    KeyInfo.load? ⟨⟨Algorithm.ed25519, none⟩, 0, workerKey⟩ = some (.ed25519 workerKey) := by
  decide +kernel

theorem authentic_workerRequest {names : List GeneralName} {signature : Bytes}
    (verified :
      Crypto.Edwards.verify workerKey (workerInfo names).write.write signature = true) :
    (workerRequest names signature).Authentic where
  readable := readable_workerSubject
  named := List.cons_ne_nil _ _
  signed := by
    refine ⟨.ed25519 workerKey, load?_workerKey, ?_⟩
    rw [Certification.isSignedBy, PublicKey.verifies, Bool.and_eq_true]
    exact ⟨decide_eq_true rfl, verified⟩

theorem asks_workerInfo (names : List GeneralName) : (workerInfo names).Asks names := by
  refine ⟨_, [⟨Extension.subjectAltName, false, _⟩], rfl, rfl, ?_, ?_, ⟨false, ?_⟩, ?_⟩
  · intro extension member
    obtain rfl := List.mem_singleton.mp member
    exact wellFormed_subjectAltName
  · exact List.nodup_singleton _
  · exact List.mem_singleton_self _
  · intro extension member other
    obtain rfl := List.mem_singleton.mp member
    exact absurd rfl other

/-- Names of all kinds that are taken, some of them twice. -/
def workerNames : List GeneralName :=
  [.dns "worker-1", .address [10, 0, 1, 5], .email "node@worker-1", .dns "worker-0",
   .directory workerSubject, .uri "spiffe://cluster/worker-1", .address [10, 0, 1, 5],
   .registered ⟨[1, 2, 3]⟩, .other ⟨[1, 2, 3]⟩ ⟨.utf8String, Bytes.ofText "worker"⟩,
   .dns "worker-1", .address [0x20, 0x01, 0x0d, 0xb8, 0, 0, 0, 0, 0, 0, 0, 0, 0, 0, 0, 1]]

def workerSignature : Bytes :=
  [0xdb, 0xb1, 0x10, 0x62, 0x56, 0x0f, 0x3e, 0xc6, 0x94, 0x0f, 0xcd, 0x38, 0x14, 0x7b, 0xf4, 0x64,
   0x3a, 0x41, 0x05, 0x90, 0x9f, 0x98, 0x0d, 0x28, 0x53, 0x7a, 0x57, 0xd6, 0x9e, 0x72, 0x2f, 0x13,
   0x02, 0xd1, 0xa8, 0xa1, 0x61, 0x09, 0xa0, 0xfe, 0x0d, 0x60, 0x12, 0xdf, 0x35, 0x2a, 0xd7, 0x7a,
   0xb7, 0xe3, 0xb9, 0xa8, 0x32, 0xa2, 0x9c, 0xb6, 0x4a, 0xea, 0x6b, 0xbe, 0x72, 0x14, 0x89, 0x0e]

theorem supported_workerNames : ∀ name ∈ workerNames, name.Supported := by
  have identifier : Oid.WellFormed ⟨[1, 2, 3]⟩ :=
    ⟨⟨1, 2, [3], rfl, by decide, by decide⟩, by decide⟩
  simp [workerNames, GeneralName.Supported, identifier, readable_workerSubject,
    wellFormed_workerSubject]

/-- Names among which the mark of armour is that of a host. -/
def markedNames : List GeneralName :=
  [.dns "-----BEGIN CERTIFICATE REQUEST-----", .address [10, 0, 1, 5]]

def markedSignature : Bytes :=
  [0x0d, 0x8d, 0x83, 0x03, 0xbe, 0xb9, 0x64, 0x5a, 0x53, 0xf5, 0x84, 0xb3, 0xec, 0x1d, 0xe8, 0xc8,
   0x57, 0x5d, 0x40, 0x3a, 0xa4, 0xe6, 0x5e, 0xaf, 0x7d, 0xb4, 0xfb, 0x39, 0xe4, 0x50, 0xa6, 0x08,
   0x36, 0x72, 0x8b, 0xc6, 0xac, 0x79, 0xa3, 0x25, 0x94, 0x1d, 0x24, 0x11, 0x39, 0x8b, 0xf2, 0xf6,
   0xab, 0x89, 0x29, 0xe0, 0x17, 0xbf, 0x68, 0x79, 0x63, 0x36, 0xe5, 0xf9, 0x06, 0x29, 0xba, 0x0a]

theorem supported_markedNames : ∀ name ∈ markedNames, name.Supported := by
  simp [markedNames, GeneralName.Supported]

/-! ## Decoding what was written -/

variable {request : Certification}

theorem outcome_of_authentic (version : request.info.version = 0) (authentic : request.Authentic)
    (sender : Sender) :
    ∃ texts,
      Name.texts request.info.subject = .ok texts ∧
        request.outcome sender = (furtherNames request.info).map (sender.parsed texts) := by
  obtain ⟨⟨texts, read⟩, signed⟩ := authentic_iff.mp authentic
  refine ⟨texts, ?_, ?_⟩
  · cases found : Name.texts request.info.subject with
    | error fault =>
        simp [subjectTexts, found] at read
    | ok given =>
        cases given with
        | nil =>
            simp [subjectTexts, found] at read
        | cons first others =>
            simpa [subjectTexts, found] using read
  · rw [Certification.outcome, if_pos version, read, signed]
    cases furtherNames request.info <;> rfl

theorem outcome_of_single (wellFormed : request.WellFormed) (version : request.info.version = 0)
    (authentic : request.Authentic) (asks : request.info.Asks names)
    (supported : ∀ name ∈ names, name.Supported) (sender : Sender)
    (single : ∀ name ∈ names, name.isRange = false) :
    ∃ parsed : Parsed,
      parsed.Conveys request.info.subject names sender ∧ request.outcome sender = .ok parsed := by
  obtain ⟨texts, read, outcome⟩ := outcome_of_authentic version authentic sender
  obtain ⟨identities, meant⟩ : ∃ identities, GeneralName.identities names = .ok identities := by
    refine mapM_succeeds_iff.mpr fun name member => ?_
    rcases (supported name member).identity_cases with meant | ⟨isRange, _⟩
    · exact meant
    · exact absurd (single name member) (by simp [isRange])
  obtain ⟨further, sorted⟩ := (ofIdentities_succeeds_iff meant).mpr fun name member =>
    (supported name member).isBarred_eq.trans (single name member)
  have fits := Certification.fits_info wellFormed.fits
  refine ⟨sender.parsed texts further, ⟨lists_of_ofIdentities sender texts meant sorted,
    Name.commonName_texts read, rfl, rfl⟩, ?_⟩
  rw [outcome, furtherNames_of_asks asks fits supported, meant]
  simp only [sorted]
  rfl

theorem outcome_of_range (wellFormed : request.WellFormed) (version : request.info.version = 0)
    (authentic : request.Authentic) (asks : request.info.Asks names)
    (supported : ∀ name ∈ names, name.Supported) (sender : Sender)
    (range : ∃ name ∈ names, name.isRange = true) :
    ∃ cause, request.outcome sender = .error (.refused cause) := by
  obtain ⟨texts, _, outcome⟩ := outcome_of_authentic version authentic sender
  have fits := Certification.fits_info wellFormed.fits
  rw [outcome, furtherNames_of_asks asks fits supported]
  cases meant : GeneralName.identities names with
  | error fault =>
      obtain ⟨before, name, after, split, _, failed⟩ := mapM_eq_error.mp meant
      rcases (supported name (by simp [split])).identity_cases with ⟨identity, succeeded⟩ | ⟨_, bad⟩
      · cases failed.symm.trans succeeded
      · cases failed.symm.trans bad
        exact ⟨.badExtensions, rfl⟩
  | ok identities =>
      obtain ⟨name, member, isRange⟩ := range
      have network : identities.any FurtherNames.isNetwork = true :=
        (exists_isBarred_iff meant).mp
          ⟨name, member, (supported name member).isBarred_eq.trans isRange⟩
      refine ⟨.addressRange, ?_⟩
      simp only [FurtherNames.ofIdentities, network, if_true]
      rfl

/-- Decoding inverts encoding. A well-formed and authentic request of version zero that asks for
names is decoded to these names, its first common name and what is known of its sender; if an
address has the size of one with a mask, it is refused. That is so with armour, and without armour
unless the mark of armour occurs in the encoding and what it begins there comes to something
else. -/
theorem decode_write (wellFormed : request.WellFormed) (version : request.info.version = 0)
    (authentic : request.Authentic) (asks : request.info.Asks names)
    (supported : ∀ name ∈ names, name.Supported) (sender : Sender) :
    ((∀ name ∈ names, name.isRange = false) →
      ∃ parsed : Parsed,
        parsed.Conveys request.info.subject names sender ∧
          decode (Bytes.ofText (Certification.armour request.write)) sender = .ok parsed ∧
          (decode request.write sender = .ok parsed ↔
            (Bytes.occursIn Certification.armourMark request.write = true →
              ∃ other, Certification.readPem? request.write = some other ∧
                other.outcome sender = .ok parsed))) ∧
    ((∃ name ∈ names, name.isRange = true) →
      (∃ cause, decode (Bytes.ofText (Certification.armour request.write)) sender =
        .error (.refused cause)) ∧
      ((∃ cause, decode request.write sender = .error (.refused cause)) ↔
        (Bytes.occursIn Certification.armourMark request.write = true →
          ∀ other, Certification.readPem? request.write = some other →
            ∃ cause, other.outcome sender = .error (.refused cause)))) := by
  have read := Certification.readDer?_write wellFormed
  constructor
  · intro single
    obtain ⟨parsed, conveys, outcome⟩ :=
      outcome_of_single wellFormed version authentic asks supported sender single
    refine ⟨parsed, conveys, (decode_armour read sender).trans outcome, ?_⟩
    rw [← outcome]
    exact decode_bare_iff read sender
  · intro range
    have refused := outcome_of_range wellFormed version authentic asks supported sender range
    refine ⟨?_, refused_bare_iff read sender refused⟩
    rw [decode_armour read sender]
    exact refused

/-- The request of a worker for names of every kind, addresses twice, is decoded without armour. -/
theorem decode_write_worker :
    ∃ parsed : Parsed,
      parsed.Conveys workerSubject workerNames crowdedSender ∧
        decode (workerRequest workerNames workerSignature).write crowdedSender = .ok parsed := by
  have verified : Crypto.Edwards.verify workerKey (workerInfo workerNames).write.write
      workerSignature = true := by
    decide +kernel
  have fits : (workerRequest workerNames workerSignature).write.length < lengthLimit := by
    decide +kernel
  have unmarked : Bytes.occursIn Certification.armourMark
      (workerRequest workerNames workerSignature).write = false := by
    decide +kernel
  have single : ∀ name ∈ workerNames, name.isRange = false := by
    decide
  obtain ⟨parsed, conveys, _, bare⟩ :=
    (decode_write (wellFormed_workerRequest fits) rfl (authentic_workerRequest verified)
      (asks_workerInfo workerNames) supported_workerNames crowdedSender).1 single
  refine ⟨parsed, conveys, bare.mpr fun marked => ?_⟩
  exact absurd (marked.symm.trans unmarked) (by decide)

/-- A well-formed and authentic request of version zero asks for a host with the name of the mark
of armour and for an address, and it is refused for its structure. -/
theorem decode_write_marked :
    ∃ request : Certification, request.WellFormed ∧ request.info.version = 0 ∧
      request.Authentic ∧ request.info.Asks markedNames ∧
      (∀ name ∈ markedNames, name.Supported ∧ name.isRange = false) ∧
      decode request.write crowdedSender = .error (.refused .malformed) := by
  have verified : Crypto.Edwards.verify workerKey (workerInfo markedNames).write.write
      markedSignature = true := by
    decide +kernel
  have fits : (workerRequest markedNames markedSignature).write.length < lengthLimit := by
    decide +kernel
  have refused : decode (workerRequest markedNames markedSignature).write crowdedSender =
      .error (.refused .malformed) := by
    decide +kernel
  refine ⟨workerRequest markedNames markedSignature, wellFormed_workerRequest fits, rfl,
    authentic_workerRequest verified, asks_workerInfo markedNames, fun name member => ?_, refused⟩
  refine ⟨supported_markedNames name member, ?_⟩
  revert name
  decide

end CertApproval.Request
