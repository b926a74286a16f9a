import CertApproval.Proofs.Decision.Judging
import CertApproval.Proofs.Text.Pieces

/-!
The single checks of a review. Each passes exactly if the part of the request that it looks at
is as it should be, whatever the other parts are. Main statement: looking up the names of a
request asks for every one of them, also after one that has no addresses.
-/

namespace CertApproval

/-! ## Answers to lookups -/

namespace Dns

/-- Whether a lookup says something of its name: its addresses, or that it has none. -/
def Lookup.Tells : Lookup → Prop
  | .found _ | .failed _ => True
  | .aborted _ | .crashed => False

/-- What is said of a name that has no addresses. -/
def Lookup.complaint? : Lookup → Option String
  | .failed fault => some fault.message
  | .found _ | .aborted _ | .crashed => none

end Dns

namespace Review

open CertApproval.Dns (Lookup Resolver)
open CertApproval.Net (Address)

variable {σ : Type}

namespace Check

/-- What is known after one more answer. -/
def Resolved.add (resolved : Resolved) : Lookup → Resolved
  | .found addresses =>
      { resolved with addresses := addresses.foldl Net.insertAddress resolved.addresses }
  | .failed fault => { resolved with complaints := resolved.complaints ++ [fault.message] }
  | .aborted _ | .crashed => resolved

theorem resolveAll_eq {resolver : Resolver σ}
    (tells : ∀ name state, (resolver name state).1.Tells) (names : List String)
    (resolved : Resolved) (state : σ) :
    resolveAll resolver names resolved state =
      (.complete ((names.mapM resolver state).1.foldl Resolved.add resolved),
        (names.mapM resolver state).2) := by
  induction names generalizing resolved state with
  | nil =>
      rfl
  | cons name names inductionHypothesis =>
      have told := tells name state
      cases asked : resolver name state with
      | mk answer next =>
          rw [asked] at told
          cases answer with
          | found addresses | failed fault =>
              simp [resolveAll, asked, inductionHypothesis, Resolved.add]
          | aborted other | crashed =>
              exact told.elim

theorem mem_addresses_foldl (answers : List Lookup) (resolved : Resolved) (address : Address) :
    address ∈ (answers.foldl Resolved.add resolved).addresses ↔
      address ∈ resolved.addresses ∨
        ∃ addresses, .found addresses ∈ answers ∧ address ∈ addresses := by
  induction answers generalizing resolved with
  | nil =>
      simp
  | cons answer answers inductionHypothesis =>
      rw [List.foldl_cons, inductionHypothesis]
      cases answer with
      | found addresses =>
          simp [Resolved.add, Net.mem_foldl_insertAddress, or_assoc, or_and_right, exists_or]
      | failed fault | aborted name | crashed =>
          simp [Resolved.add]

/-- The complaints are those of the names without addresses, in the order of the names. -/
theorem complaints_foldl (answers : List Lookup) (resolved : Resolved) :
    (answers.foldl Resolved.add resolved).complaints =
      resolved.complaints ++ answers.filterMap Lookup.complaint? := by
  induction answers generalizing resolved with
  | nil =>
      simp
  | cons answer answers inductionHypothesis =>
      rw [List.foldl_cons, inductionHypothesis]
      cases answer <;> simp [Resolved.add, Lookup.complaint?, List.filterMap_cons]

theorem complaints_foldl_eq_nil (answers : List Lookup) (resolved : Resolved)
    (tells : ∀ answer ∈ answers, answer.Tells) :
    (answers.foldl Resolved.add resolved).complaints = [] ↔
      resolved.complaints = [] ∧ ∀ answer ∈ answers, ∃ addresses, answer = .found addresses := by
  rw [complaints_foldl, List.append_eq_nil_iff, List.filterMap_eq_nil_iff]
  refine and_congr_right fun _ => forall₂_congr fun answer member => ?_
  have told := tells answer member
  cases answer with
  | found addresses | failed fault =>
      simp [Lookup.complaint?]
  | aborted name | crashed =>
      exact told.elim

/-! ## Names of nodes -/

/-- Whether a user name is that of a node. -/
def IsNode (username node : String) : Prop := username = nodeUserLead ++ node ∧ node ≠ ""

theorem nodeName?_eq_some {username node : String} :
    nodeName? username = some node ↔ IsNode username node := by
  unfold nodeName? IsNode
  constructor
  · intro isNode
    simp only [Option.ite_none_right_eq_some, Option.some.injEq] at isNode
    obtain ⟨⟨begins, longer⟩, rfl⟩ := isNode
    have parts := List.take_append_drop nodeUserLead.toList.length username.toList
    rw [begins] at parts
    refine ⟨?_, ?_⟩
    · rw [← String.toList_inj, String.toList_append, String.toList_ofList]
      exact parts.symm
    · intro empty
      have nothing := congrArg String.toList empty
      rw [String.toList_ofList, String.toList_empty, List.drop_eq_nil_iff] at nothing
      omega
  · rintro ⟨rfl, nonempty⟩
    have longer : 0 < node.toList.length :=
      List.length_pos_iff.mpr fun empty => nonempty (String.toList_eq_nil_iff.mp empty)
    simp [longer]

theorem nodeName?_isSome {username : String} :
    (nodeName? username).isSome = true ↔ ∃ node, IsNode username node := by
  simp only [Option.isSome_iff_exists, nodeName?_eq_some]

/-- Whether a name, or what stands before its first point, is that of a node, the case of
letters aside. -/
def NamesNode (node name : String) : Prop :=
  Text.toLower name = Text.toLower node ∨
    '.' ∉ (Text.toLower node).toList ∧
      ∃ domain, Text.toLower name = Text.toLower node ++ "." ++ domain

theorem namesHost_iff {node name : String} :
    namesHost node name = true ↔ NamesNode node name := by
  have hostPart_iff : hostPart (Text.toLower name) = Text.toLower node ↔
      '.' ∉ (Text.toLower node).toList ∧ (Text.toLower name = Text.toLower node ∨
        ∃ domain, Text.toLower name = Text.toLower node ++ "." ++ domain) := by
    have split : (∃ domain, Text.toLower name = Text.toLower node ++ "." ++ domain) ↔
        ∃ after, (Text.toLower name).toList = (Text.toLower node).toList ++ '.' :: after := by
      constructor
      · rintro ⟨domain, same⟩
        exact ⟨domain.toList, by rw [same]; simp⟩
      · rintro ⟨after, same⟩
        refine ⟨String.ofList after, ?_⟩
        rw [← String.toList_inj, same]
        simp
    rw [split, ← String.toList_inj, ← String.toList_inj, hostPart, String.toList_ofList]
    exact Text.takeWhile_eq_iff
  rw [namesHost, Bool.or_eq_true, decide_eq_true_eq, decide_eq_true_eq, hostPart_iff, NamesNode]
  constructor
  · rintro (same | ⟨absent, same | domain⟩)
    · exact Or.inl same
    · exact Or.inl same
    · exact Or.inr ⟨absent, domain⟩
  · rintro (same | ⟨absent, domain⟩)
    · exact Or.inl same
    · exact Or.inr ⟨absent, Or.inr domain⟩

/-! ## When a check passes -/

theorem passed_identityScope (username : String) :
    (identityScope username).passed = true ↔ ∃ node, IsNode username node := by
  rw [← nodeName?_isSome, identityScope]
  cases nodeName? username <;> simp

theorem passed_dnsNameCount (dnsNames : List String) (allowed : Int) :
    (dnsNameCount dnsNames allowed).passed = true ↔
      1 ≤ dnsNames.length ∧ (dnsNames.length : Int) ≤ allowed := by
  fun_cases dnsNameCount dnsNames allowed <;> simp <;> omega

theorem passed_namePattern (dnsNames : List String) (pattern : Pattern.Compiled) :
    (namePattern dnsNames pattern).passed = true ↔
      ∀ name ∈ dnsNames, pattern.matchesWhole name = true := by
  have none : (dnsNames.filter fun name => !pattern.matchesWhole name).isEmpty = true ↔
      ∀ name ∈ dnsNames, pattern.matchesWhole name = true := by
    simp [List.isEmpty_iff, List.filter_eq_nil_iff]
  rw [← none, namePattern]
  split <;> simp_all

theorem passed_resolutionConsistency (resolved : Resolved) (addresses : List Address) :
    (resolutionConsistency resolved addresses).passed = true ↔
      resolved.complaints = [] ∧ ∃ address ∈ resolved.addresses, address ∈ addresses := by
  rw [resolutionConsistency]
  cases resolved.complaints with
  | nil =>
      by_cases common : ∃ address ∈ resolved.addresses, address ∈ addresses
      · have found : resolved.addresses.any addresses.contains = true := by simpa using common
        simp [found, common]
      · have missing : ¬resolved.addresses.any addresses.contains = true := by simpa using common
        simp [missing, common]
  | cons complaint complaints =>
      simp

theorem passed_hostnameConsistency (username : String) (dnsNames : List String) :
    (hostnameConsistency (nodeName? username) dnsNames).passed = true ↔
      ∃ node, IsNode username node ∧ ∃ name ∈ dnsNames, NamesNode node name := by
  simp only [← nodeName?_eq_some, ← namesHost_iff]
  cases nodeName? username with
  | none =>
      simp [hostnameConsistency]
  | some node =>
      by_cases named : ∃ name ∈ dnsNames, namesHost node name = true
      · have found : dnsNames.any (namesHost node) = true := List.any_eq_true.mpr named
        simp [hostnameConsistency, found, named]
      · have missing : ¬dnsNames.any (namesHost node) = true := mt List.any_eq_true.mp named
        simp [hostnameConsistency, missing, named]

theorem passed_ipRange (policy : Policy) (addresses : List Address) :
    (ipRange addresses policy.networks).passed = true ↔
      ∀ address ∈ addresses, policy.allows address = true := by
  have none : (addresses.filter fun address => !policy.allows address).isEmpty = true ↔
      ∀ address ∈ addresses, policy.allows address = true := by
    simp [List.isEmpty_iff, List.filter_eq_nil_iff]
  rw [← none, ipRange]
  unfold Policy.allows
  split <;> simp_all

theorem passed_duration (seconds maximum : Int) :
    (duration seconds maximum).passed = true ↔ 0 < seconds ∧ seconds ≤ maximum := by
  fun_cases duration seconds maximum <;> simp <;> omega

end Check

end Review

end CertApproval
