import CertApproval.Proofs.Request.Refusal

/-!
The names that a request asks for beside its subject. Main statement: what is decoded holds the
names that the first attribute with extensions asks for, each in the place of its kind, and holds
no others; names of the kinds that have no place are passed over, and no request is decoded that
asks for a name of an unsupported kind or for more than a single address.
-/

namespace CertApproval

namespace Request

open CertApproval.Net (Address Prefix)

/-! ## The names that are asked for -/

/-- The further names of the subject that an extension lists, if they can be read. -/
def Extension.subjectNames? (extension : Extension) : Option (List GeneralName) :=
  if extension.id = subjectAltName then names? extension.value else some []

/-- The further names of the subject that an attribute of a request asks for, in whichever of its
extensions. -/
def RequestAttribute.subjectNames? (item : RequestAttribute) : Option (List GeneralName) :=
  item.extensions?.bind fun extensions =>
    (extensions.mapM Extension.subjectNames?).map List.flatten

/-- The names that the first attribute with extensions asks for. -/
def Info.subjectNames? (info : Info) : Option (List GeneralName) :=
  match info.attributes.find? RequestAttribute.isExtensionRequest with
  | none => some []
  | some item => item.subjectNames?

namespace GeneralName

/-- Whether a name keeps a request from being decoded: it is of an unsupported kind, or it is an
address that is not a single one. -/
def isBarred : GeneralName → Bool
  | mailAddress _ | party _ => true
  | address content => (Address.ofBytes? content).isNone
  | other _ _ | email _ | dns _ | directory _ | uri _ | registered _ => false

/-- What a name is taken for. -/
inductive Means : GeneralName → Identity → Prop
  | email (text : String) : Means (.email text) (.email text)
  | dns (text : String) : Means (.dns text) (.dns text)
  | uri (text : String) : Means (.uri text) (.uri text)
  | single {content : Bytes} {single : Address} (read : Address.ofBytes? content = some single) :
      Means (.address content) (.address single)
  | network {content : Bytes} {range : Prefix} (unread : Address.ofBytes? content = none) :
      Means (.address content) (.network range)
  | other (type : Der.Oid) (value : Der.Element) : Means (.other type value) .other
  | directory (name : Name) : Means (.directory name) .other
  | registered (id : Der.Oid) : Means (.registered id) .other

theorem means_of_identity {name : GeneralName} {identity : Identity}
    (meant : name.identity = .ok identity) : name.Means identity := by
  cases name with
  | email text | dns text | uri text | other type value | registered id =>
      cases meant
      constructor
  | mailAddress content | party content =>
      cases meant
  | directory name =>
      simp only [GeneralName.identity] at meant
      split at meant
      · cases meant
        exact .directory name
      · cases meant
  | address content =>
      simp only [GeneralName.identity] at meant
      split at meant
      · rename_i single read
        cases meant
        exact .single read
      · rename_i unread
        split at meant
        · cases meant
          exact .network unread
        · cases meant

end GeneralName

/-- Whether what was decoded holds the names of a list, each in the place of its kind, and no
others, and whether none of them is barred. -/
structure Parsed.Represents (parsed : Parsed) (names : List GeneralName) : Prop where
  dnsNames : ∀ text, text ∈ parsed.dnsNames ↔ .dns text ∈ names
  addresses : ∀ address, address ∈ parsed.addresses ↔
    ∃ content, .address content ∈ names ∧ Address.ofBytes? content = some address
  emails : ∀ text, text ∈ parsed.emails ↔ .email text ∈ names
  uris : ∀ text, text ∈ parsed.uris ↔ .uri text ∈ names
  admitted : ∀ name ∈ names, name.isBarred = false

/-! ## The names that are decoded -/

namespace Extension

theorem subjectNames_of_ne {extension : Extension} (other : extension.id ≠ subjectAltName) :
    extension.subjectNames? = some [] := if_neg other

theorem subjectNames_of_others {extensions : List Extension}
    (others : ∀ extension ∈ extensions, extension.id ≠ subjectAltName) :
    ∃ lists, extensions.mapM subjectNames? = some lists ∧ lists.flatten = [] := by
  induction extensions with
  | nil =>
      exact ⟨[], rfl, rfl⟩
  | cons extension extensions inductionHypothesis =>
      obtain ⟨first, rest⟩ := List.forall_mem_cons.mp others
      obtain ⟨lists, read, empty⟩ := inductionHypothesis rest
      exact ⟨[] :: lists, by simp [List.mapM_cons, subjectNames_of_ne first, read], empty⟩

theorem interpret_eq_ok {extension : Extension} {meaning : Option (List Identity)}
    (interpreted : interpret extension = .ok meaning) :
    (extension.id = subjectAltName ∧ ∃ names identities, extension.subjectNames? = some names ∧
      GeneralName.identities names = .ok identities ∧ meaning = some identities) ∨
        extension.id ≠ subjectAltName ∧ meaning = none := by
  unfold interpret at interpreted
  by_cases named : extension.id = subjectAltName
  · rw [if_pos named] at interpreted
    unfold readNames at interpreted
    cases read : names? extension.value with
    | none =>
        simp [read, Except.map] at interpreted
    | some names =>
        cases meant : GeneralName.identities names with
        | error fault =>
            simp [read, meant, Except.map] at interpreted
        | ok identities =>
            obtain rfl : some identities = meaning := by
              simpa [read, meant, Except.map] using interpreted
            exact Or.inl ⟨named, names, identities, by rw [subjectNames?, if_pos named, read],
              meant, rfl⟩
  · rw [if_neg named] at interpreted
    refine Or.inr ⟨named, ?_⟩
    split at interpreted
    · rename_i rule _
      cases ruled : rule extension.value <;> simp [ruled, Except.map] at interpreted
      exact interpreted.symm
    · exact (Except.ok.inj interpreted).symm

/-- No two extensions are of one kind, so at most one of them lists names. -/
theorem subjectNames_of_interpreted {extensions : List Extension}
    {meanings : List (Option (List Identity))} (distinct : (extensions.map Extension.id).Nodup)
    (each : List.Forall₂ (fun extension meaning => interpret extension = .ok meaning)
      extensions meanings) :
    ∃ lists, extensions.mapM subjectNames? = some lists ∧
      GeneralName.identities lists.flatten =
        .ok ((meanings.findSome? fun meaning => meaning).getD []) := by
  induction each with
  | nil =>
      exact ⟨[], rfl, rfl⟩
  | @cons extension meaning extensions meanings first _ inductionHypothesis =>
      rw [List.map_cons, List.nodup_cons] at distinct
      rcases interpret_eq_ok first with ⟨named, names, identities, read, meant, rfl⟩ | ⟨other, rfl⟩
      · have others : ∀ later ∈ extensions, later.id ≠ subjectAltName := by
          intro later member sameKind
          apply distinct.1
          exact List.mem_map.mpr ⟨later, member, sameKind.trans named.symm⟩
        obtain ⟨lists, readRest, empty⟩ := subjectNames_of_others others
        refine ⟨names :: lists, by simp [List.mapM_cons, read, readRest], ?_⟩
        rw [List.flatten_cons, empty, List.append_nil]
        exact meant
      · obtain ⟨lists, readRest, meant⟩ := inductionHypothesis distinct.2
        exact ⟨[] :: lists, by simp [List.mapM_cons, subjectNames_of_ne other, readRest], meant⟩

end Extension

theorem subjectNames_of_extensions {info : Info} {extensions : List Extension}
    (read : info.extensions? = some extensions) :
    info.subjectNames? = (extensions.mapM Extension.subjectNames?).map List.flatten := by
  unfold Info.extensions? at read
  unfold Info.subjectNames?
  cases found : info.attributes.find? RequestAttribute.isExtensionRequest with
  | none =>
      obtain rfl : [] = extensions := by simpa [found] using read
      rfl
  | some item =>
      simp only [found] at read
      simp [RequestAttribute.subjectNames?, read]

theorem furtherNames_of_interpreted {info : Info} {extensions : List Extension}
    {meaning : Option (List Identity)} (read : info.extensions? = some extensions)
    (interpreted : Extension.interpretAll extensions = .ok meaning) :
    ∃ generalNames, info.subjectNames? = some generalNames ∧
      GeneralName.identities generalNames = .ok (meaning.getD []) ∧
        furtherNames info = FurtherNames.ofIdentities (meaning.getD []) := by
  have further : furtherNames info = FurtherNames.ofIdentities (meaning.getD []) := by
    simp only [furtherNames, read, interpreted]
  obtain ⟨distinct, meanings, each, rfl⟩ := Extension.interpretAll_eq_ok interpreted
  obtain ⟨lists, readAll, meant⟩ := Extension.subjectNames_of_interpreted distinct each
  have listed : info.subjectNames? = some lists.flatten := by
    rw [subjectNames_of_extensions read, readAll]
    rfl
  exact ⟨lists.flatten, listed, meant, further⟩

theorem furtherNames_eq_ok {info : Info} {names : FurtherNames}
    (further : furtherNames info = .ok names) :
    ∃ generalNames identities, info.subjectNames? = some generalNames ∧
      GeneralName.identities generalNames = .ok identities ∧
        FurtherNames.ofIdentities identities = .ok names := by
  cases read : info.extensions? with
  | none =>
      simp [furtherNames, read] at further
  | some extensions =>
      cases interpreted : Extension.interpretAll extensions with
      | error fault =>
          simp [furtherNames, read, interpreted] at further
      | ok meaning =>
          obtain ⟨generalNames, listed, meant, same⟩ := furtherNames_of_interpreted read interpreted
          exact ⟨generalNames, meaning.getD [], listed, meant, same.symm.trans further⟩

section Represents

variable {generalNames : List GeneralName} {identities : List Identity} {names : FurtherNames}

theorem mem_of_kind {α : Type} (pick : Identity → Option α) (asks : GeneralName → Prop)
    {value : α} (meant : GeneralName.identities generalNames = .ok identities)
    (picked : ∀ name identity, GeneralName.Means name identity →
      (asks name ↔ pick identity = some value)) :
    value ∈ identities.filterMap pick ↔ ∃ name ∈ generalNames, asks name := by
  rw [List.mem_filterMap]
  refine (exists_mem_iff_of_forall₂ (mapM_eq_ok.mp meant) fun name identity means => ?_).symm
  exact picked name identity (GeneralName.means_of_identity means)

theorem mem_of_textKind (pick : Identity → Option String) (write : String → GeneralName)
    {text : String} (meant : GeneralName.identities generalNames = .ok identities)
    (picked : ∀ name identity, GeneralName.Means name identity →
      (name = write text ↔ pick identity = some text)) :
    text ∈ identities.filterMap pick ↔ write text ∈ generalNames := by
  rw [mem_of_kind pick (· = write text) meant picked]
  simp

theorem exists_isBarred_iff (meant : GeneralName.identities generalNames = .ok identities) :
    (∃ name ∈ generalNames, name.isBarred = true) ↔
      identities.any FurtherNames.isNetwork = true := by
  rw [List.any_eq_true]
  refine exists_mem_iff_of_forall₂ (mapM_eq_ok.mp meant) fun name identity means => ?_
  cases GeneralName.means_of_identity means with
  | single read | network read =>
      simp [GeneralName.isBarred, FurtherNames.isNetwork, read]
  | email text | dns text | uri text | other type value | directory name | registered id =>
      simp [GeneralName.isBarred, FurtherNames.isNetwork]

/-- Names are sorted by kind exactly if none of them is barred. -/
theorem ofIdentities_succeeds_iff (meant : GeneralName.identities generalNames = .ok identities) :
    (∃ names, FurtherNames.ofIdentities identities = .ok names) ↔
      ∀ name ∈ generalNames, name.isBarred = false := by
  have none : (∀ name ∈ generalNames, name.isBarred = false) ↔
      ¬∃ name ∈ generalNames, name.isBarred = true := by
    simp
  rw [none, exists_isBarred_iff meant]
  unfold FurtherNames.ofIdentities
  cases identities.any FurtherNames.isNetwork <;> simp

theorem represents_of_ofIdentities (sender : Sender) (texts : List (Der.Oid × AttributeText))
    (meant : GeneralName.identities generalNames = .ok identities)
    (sorted : FurtherNames.ofIdentities identities = .ok names) :
    (sender.parsed texts names).Represents generalNames := by
  have admitted := (ofIdentities_succeeds_iff meant).mp ⟨names, sorted⟩
  unfold FurtherNames.ofIdentities at sorted
  split at sorted
  · cases sorted
  · cases sorted
    constructor
    case dnsNames =>
      intro text
      apply mem_of_textKind FurtherNames.dnsName? .dns meant
      intro name identity means
      cases means <;> simp [FurtherNames.dnsName?]
    case addresses =>
      intro address
      have asked : address ∈ identities.filterMap FurtherNames.address? ↔
          ∃ name ∈ generalNames, ∃ content, name = .address content ∧
            Address.ofBytes? content = some address := by
        apply mem_of_kind FurtherNames.address? _ meant
        intro name identity means
        cases means with
        | single read | network read =>
            simp [FurtherNames.address?, read]
        | email text | dns text | uri text | other type value | directory name | registered id =>
            simp [FurtherNames.address?]
      rw [Sender.parsed, Net.mem_addressSet, asked]
      constructor
      · rintro ⟨_, member, content, rfl, read⟩
        exact ⟨content, member, read⟩
      · rintro ⟨content, member, read⟩
        exact ⟨_, member, content, rfl, read⟩
    case emails =>
      intro text
      apply mem_of_textKind FurtherNames.email? .email meant
      intro name identity means
      cases means <;> simp [FurtherNames.email?]
    case uris =>
      intro text
      apply mem_of_textKind FurtherNames.uri? .uri meant
      intro name identity means
      cases means <;> simp [FurtherNames.uri?]
    case admitted =>
      exact admitted

end Represents

/-! ## What a request asks for and what is decoded of it -/

theorem furtherNames_refused {info : Info} {cause : ParseFault}
    (further : furtherNames info = .error (.refused cause)) :
    cause = .badExtensions ∨ cause = .addressRange := by
  unfold furtherNames at further
  split at further
  · cases further
    exact Or.inl rfl
  · split at further
    · rename_i fault _
      cases fault <;> cases further <;> exact Or.inl rfl
    · have refused := FurtherNames.ofIdentities_eq_error further
      cases refused
      exact Or.inr rfl

variable {bytes : Bytes} {sender : Sender} {request : Certification}

theorem Opens.unique {other : Certification} (opens : Opens bytes request)
    (opensOther : Opens bytes other) : request = other :=
  Option.some.inj (opens.read.symm.trans opensOther.read)

theorem represents_of_decode {parsed : Parsed} (opens : Opens bytes request)
    (decoded : decode bytes sender = .ok parsed) :
    request.Authentic ∧ ∃ names, request.info.subjectNames? = some names ∧
      parsed.Represents names := by
  obtain ⟨other, texts, names, opensOther, authentic, further, rfl⟩ := decode_eq_ok decoded
  obtain rfl := opens.unique opensOther
  obtain ⟨generalNames, identities, read, meant, sorted⟩ := furtherNames_eq_ok further
  exact ⟨authentic, generalNames, read, represents_of_ofIdentities sender texts meant sorted⟩

/-- Of an authentic request, only the extensions keep it from being decoded. -/
theorem furtherNames_of_authentic {fault : DecodeFault} (opens : Opens bytes request)
    (authentic : request.Authentic) (failed : decode bytes sender = .error fault) :
    furtherNames request.info = .error fault := by
  obtain ⟨⟨texts, succeeded⟩, accepted⟩ := authentic_iff.mp authentic
  rcases decode_eq_error.mp failed with
    loaded | ⟨other, opensOther, read | ⟨_, signed⟩ | ⟨_, further⟩⟩
  · rw [load_eq_ok.mpr opens] at loaded
    cases loaded
  · obtain rfl := opens.unique opensOther
    rw [succeeded] at read
    cases read
  · obtain rfl := opens.unique opensOther
    rw [accepted] at signed
    cases signed
  · obtain rfl := opens.unique opensOther
    exact further

theorem decode_of_admitted {extensions : List Extension} (opens : Opens bytes request)
    (authentic : request.Authentic) (read : request.info.extensions? = some extensions)
    (distinct : (extensions.map Extension.id).Nodup)
    (each : ∀ extension ∈ extensions, ∃ meaning, extension.interpret = .ok meaning)
    (admitted : ∀ names, request.info.subjectNames? = some names →
      ∀ name ∈ names, name.isBarred = false) :
    ∃ parsed, decode bytes sender = .ok parsed := by
  cases interpreted : Extension.interpretAll extensions with
  | error fault =>
      rcases Extension.interpretAll_eq_error.mp interpreted with
        ⟨repeated, _⟩ | ⟨_, before, extension, after, rfl, _, failed⟩
      · exact absurd distinct repeated
      · obtain ⟨meaning, succeeded⟩ := each extension (by simp)
        exact absurd (failed.symm.trans succeeded) (by simp)
  | ok meaning =>
      obtain ⟨generalNames, listed, meant, same⟩ := furtherNames_of_interpreted read interpreted
      obtain ⟨names, sorted⟩ := (ofIdentities_succeeds_iff meant).mpr (admitted _ listed)
      cases decoded : decode bytes sender with
      | error fault =>
          have further := furtherNames_of_authentic opens authentic decoded
          rw [same, sorted] at further
          cases further
      | ok parsed =>
          exact ⟨parsed, rfl⟩

/-- Whatever bytes are decoded, the result holds the names that the first attribute with
extensions asks for, and no others. A request whose names there cannot be read, or are not all
of a supported kind and single, is refused, unless it is one of those that escape; and nothing
else that its extensions say keeps an authentic request from being decoded, as long as each of
them has a meaning and stands once. -/
theorem decode_represents (bytes : Bytes) (sender : Sender) :
    (∀ parsed, decode bytes sender = .ok parsed →
      ∃ request, Opens bytes request ∧ request.Authentic ∧
        ∃ names, request.info.subjectNames? = some names ∧ parsed.Represents names) ∧
      (∀ request, Opens bytes request →
        (∀ names, request.info.subjectNames? = some names →
          ∃ name ∈ names, name.isBarred = true) →
          (∃ fault, Escapes bytes fault) ∨
            ∃ cause, decode bytes sender = .error (.refused cause) ∧
              (request.Authentic → cause = .badExtensions ∨ cause = .addressRange)) ∧
      ∀ request extensions, Opens bytes request → request.Authentic →
        request.info.extensions? = some extensions → (extensions.map Extension.id).Nodup →
        (∀ extension ∈ extensions, ∃ meaning, extension.interpret = .ok meaning) →
        (∀ names, request.info.subjectNames? = some names →
          ∀ name ∈ names, name.isBarred = false) →
          ∃ parsed, decode bytes sender = .ok parsed := by
  refine ⟨?_, ?_, ?_⟩
  · intro parsed decoded
    obtain ⟨request, _, _, opens, _⟩ := decode_eq_ok decoded
    exact ⟨request, opens, represents_of_decode opens decoded⟩
  · intro request opens barred
    rcases decode_cases bytes sender with ⟨parsed, decoded⟩ | ⟨cause, refused⟩ | escapes
    · obtain ⟨_, names, read, represents⟩ := represents_of_decode opens decoded
      obtain ⟨name, asked, isBarred⟩ := barred names read
      have admitted := represents.admitted name asked
      rw [isBarred] at admitted
      cases admitted
    · have ofExtensions (authentic : request.Authentic) :=
        furtherNames_refused (furtherNames_of_authentic opens authentic refused)
      exact Or.inr ⟨cause, refused, ofExtensions⟩
    · exact Or.inl escapes
  · intro request extensions opens authentic read distinct each admitted
    exact decode_of_admitted opens authentic read distinct each admitted

/-- A request with extensions in two attributes. The first asks for a directory and a host, the
second for another host. -/
def crowdedRequest : Bytes :=
  [0x30, 0x82, 0x01, 0x14, 0x30, 0x81, 0xc7, 0x02, 0x01, 0x00, 0x30, 0x1f, 0x31, 0x1d, 0x30, 0x1b,
   0x06, 0x03, 0x55, 0x04, 0x03, 0x0c, 0x14, 0x73, 0x79, 0x73, 0x74, 0x65, 0x6d, 0x3a, 0x6e, 0x6f,
   0x64, 0x65, 0x3a, 0x77, 0x6f, 0x72, 0x6b, 0x65, 0x72, 0x2d, 0x31, 0x30, 0x2a, 0x30, 0x05, 0x06,
   0x03, 0x2b, 0x65, 0x70, 0x03, 0x21, 0x00, 0x4d, 0x96, 0x8a, 0x86, 0xf8, 0xde, 0xd6, 0x7d, 0x6d,
   0x10, 0x8f, 0x08, 0x1a, 0x4c, 0xe8, 0x8e, 0xd8, 0xa6, 0xc3, 0x08, 0xa4, 0x5a, 0x32, 0x89, 0xff,
   0xeb, 0x05, 0xc1, 0x95, 0x80, 0x61, 0x95, 0xa0, 0x75, 0x30, 0x38, 0x06, 0x09, 0x2a, 0x86, 0x48,
   0x86, 0xf7, 0x0d, 0x01, 0x09, 0x0e, 0x31, 0x2b, 0x30, 0x29, 0x30, 0x27, 0x06, 0x03, 0x55, 0x1d,
   0x11, 0x04, 0x20, 0x30, 0x1e, 0xa4, 0x12, 0x30, 0x10, 0x31, 0x0e, 0x30, 0x0c, 0x06, 0x03, 0x55,
   0x04, 0x03, 0x0c, 0x05, 0x61, 0x64, 0x6d, 0x69, 0x6e, 0x82, 0x08, 0x77, 0x6f, 0x72, 0x6b, 0x65,
   0x72, 0x2d, 0x31, 0x30, 0x39, 0x06, 0x0a, 0x2b, 0x06, 0x01, 0x04, 0x01, 0x82, 0x37, 0x02, 0x01,
   0x0e, 0x31, 0x2b, 0x30, 0x29, 0x30, 0x27, 0x06, 0x03, 0x55, 0x1d, 0x11, 0x04, 0x20, 0x30, 0x1e,
   0x82, 0x1c, 0x77, 0x6f, 0x72, 0x6b, 0x65, 0x72, 0x2d, 0x32, 0x2e, 0x63, 0x6c, 0x75, 0x73, 0x74,
   0x65, 0x72, 0x2e, 0x65, 0x78, 0x61, 0x6d, 0x70, 0x6c, 0x65, 0x2e, 0x6f, 0x72, 0x67, 0x30, 0x05,
   0x06, 0x03, 0x2b, 0x65, 0x70, 0x03, 0x41, 0x00, 0xe5, 0xc5, 0xdc, 0xa1, 0x46, 0xa7, 0x7c, 0x3a,
   0x76, 0xb6, 0xdc, 0x53, 0x94, 0x74, 0x08, 0x64, 0x83, 0x0f, 0xc0, 0xd1, 0xbd, 0x65, 0x0c, 0xcd,
   0xed, 0x67, 0x0a, 0x76, 0xfb, 0xc9, 0x18, 0x4c, 0x9f, 0x61, 0x5b, 0xbf, 0x0b, 0x73, 0x2c, 0x36,
   0xb1, 0x4f, 0x32, 0xdb, 0x58, 0xf7, 0x88, 0x5e, 0x54, 0x7f, 0xd7, 0x9e, 0x44, 0x4b, 0x7d, 0x80,
   0x51, 0x39, 0x33, 0x98, 0xaf, 0x06, 0xfc, 0x09]

def crowdedSender : Sender where
  username := "system:node:worker-1"
  defaultExpiration := defaultExpirationSeconds

theorem decode_crowdedRequest :
    decode crowdedRequest crowdedSender =
      .ok { commonName := "system:node:worker-1", dnsNames := ["worker-1"], addresses := []
            emails := [], uris := [], expirationSeconds := 31536000
            username := "system:node:worker-1" } := by
  decide +kernel

theorem subjectNames_crowdedRequest :
    ((Certification.read? crowdedRequest).map fun request =>
      request.info.attributes.map fun item => (item.isExtensionRequest, item.subjectNames?)) =
        some
          [(true, some
              [.directory [[⟨Der.Oid.commonName, .utf8String, Bytes.ofText "admin"⟩]],
                .dns "worker-1"]),
            (true, some [.dns "worker-2.cluster.example.org"])] := by
  decide +kernel

/-- Of the crowded request, the host is decoded that the first attribute asks for. -/
theorem decode_represents_crowded :
    ∃ parsed names, decode crowdedRequest crowdedSender = .ok parsed ∧
      parsed.dnsNames = ["worker-1"] ∧ .dns "worker-1" ∈ names ∧ parsed.Represents names := by
  obtain ⟨request, opens, _, names, read, represents⟩ :=
    (decode_represents crowdedRequest crowdedSender).1 _ decode_crowdedRequest
  have asked : .dns "worker-1" ∈ names := (represents.dnsNames "worker-1").mp (by simp)
  exact ⟨_, names, decode_crowdedRequest, rfl, asked, represents⟩

/-- The crowded request is decoded, but without the host that its second attribute asks for, and
although the first attribute asks for a name of a kind that has no place in the result. -/
theorem decode_crowdedRequest_drops :
    ∃ request parsed, Certification.read? crowdedRequest = some request ∧
      decode crowdedRequest crowdedSender = .ok parsed ∧
      (∃ item ∈ request.info.attributes, item.isExtensionRequest = true ∧
        ∃ names text, item.subjectNames? = some names ∧ .dns text ∈ names ∧
          text ∉ parsed.dnsNames) ∧
      ∃ item ∈ request.info.attributes, item.isExtensionRequest = true ∧
        ∃ names name, item.subjectNames? = some names ∧ .directory name ∈ names := by
  obtain ⟨request, read, asked⟩ := Option.map_eq_some_iff.mp subjectNames_crowdedRequest
  refine ⟨request, _, read, decode_crowdedRequest, ?_, ?_⟩
  · have second : (true, some [.dns "worker-2.cluster.example.org"]) ∈
        request.info.attributes.map fun item => (item.isExtensionRequest, item.subjectNames?) := by
      rw [asked]
      simp
    obtain ⟨item, member, same⟩ := List.mem_map.mp second
    obtain ⟨isRequest, names⟩ := Prod.mk.inj same
    exact ⟨item, member, isRequest, _, _, names, List.mem_cons_self, by simp⟩
  · have first := List.mem_map.mp (asked ▸ List.mem_cons_self)
    obtain ⟨item, member, same⟩ := first
    obtain ⟨isRequest, names⟩ := Prod.mk.inj same
    exact ⟨item, member, isRequest, _, _, names, List.mem_cons_self⟩

end Request

end CertApproval
