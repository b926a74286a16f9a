import CertApproval.Proofs.Review.Checks
import Mathlib.Data.List.Nodup
import Mathlib.Tactic.SplitIfs

/-!
What a review concludes. Main statement: a review makes the checks that its policy asks for, in
their order and each once, and every check comes out as the request, the policy and the answers
to the lookups say, whatever the other checks come out as.
-/

namespace CertApproval.Review

open CertApproval.Dns (Lookup Resolver)
open CertApproval.Net (Address)

/-- The checks, in the order in which they are made. -/
def CheckKind.order : List CheckKind :=
  [.identityScope, .dnsNameCount, .namePattern, .resolutionConsistency, .hostnameConsistency,
    .ipRange, .duration]

theorem CheckKind.mem_order (kind : CheckKind) : kind ∈ CheckKind.order := by
  cases kind <;> decide

theorem CheckKind.nodup_order : (CheckKind.order.map CheckKind.name).Nodup := by
  decide

theorem CheckKind.name_inj {kind other : CheckKind} : kind.name = other.name ↔ kind = other := by
  constructor
  · intro same
    exact List.inj_on_of_nodup_map CheckKind.nodup_order kind.mem_order other.mem_order same
  · exact congrArg CheckKind.name

namespace Policy

/-- Whether a policy leaves a check out. Without a check of the sender there is no node whose
name could be compared. -/
def Omits (policy : Policy) : CheckKind → Prop
  | .identityScope => policy.bypassIdentity = true
  | .resolutionConsistency => policy.bypassResolution = true
  | .hostnameConsistency => policy.bypassHostname = true ∨ policy.bypassIdentity = true
  | .dnsNameCount | .namePattern | .ipRange | .duration => False

instance (policy : Policy) : DecidablePred policy.Omits
  | .identityScope | .resolutionConsistency => inferInstanceAs (Decidable (_ = true))
  | .hostnameConsistency => inferInstanceAs (Decidable (_ ∨ _))
  | .dnsNameCount | .namePattern | .ipRange | .duration => inferInstanceAs (Decidable False)

/-- The checks that a policy asks for. -/
def kinds (policy : Policy) : List CheckKind := CheckKind.order.filter (¬policy.Omits ·)

theorem mem_kinds {policy : Policy} {kind : CheckKind} :
    kind ∈ policy.kinds ↔ ¬policy.Omits kind := by
  simp [kinds, kind.mem_order]

theorem nodup_kinds (policy : Policy) : (policy.kinds.map CheckKind.name).Nodup := by
  have fewer : (policy.kinds.map CheckKind.name).Sublist (CheckKind.order.map CheckKind.name) :=
    List.filter_sublist.map CheckKind.name
  exact fewer.nodup CheckKind.nodup_order

/-- What a check asks of a request whose names were looked up with given answers. -/
def Meets (policy : Policy) (subject : Subject) (answers : List Lookup) : CheckKind → Prop
  | .identityScope => ∃ node, Check.IsNode subject.username node
  | .dnsNameCount =>
      1 ≤ subject.dnsNames.length ∧ (subject.dnsNames.length : Int) ≤ policy.allowedNames
  | .namePattern => ∀ name ∈ subject.dnsNames, policy.matchesName name = true
  | .resolutionConsistency =>
      (∀ answer ∈ answers, ∃ addresses, answer = .found addresses) ∧
        ∃ addresses, .found addresses ∈ answers ∧
          ∃ address ∈ addresses, address ∈ subject.addresses
  | .hostnameConsistency =>
      ∃ node, Check.IsNode subject.username node ∧
        ∃ name ∈ subject.dnsNames, Check.NamesNode node name
  | .ipRange => ∀ address ∈ subject.addresses, policy.allows address = true
  | .duration =>
      0 < subject.expirationSeconds ∧ subject.expirationSeconds ≤ policy.maximumExpiration

/-! ## The checks as one family -/

/-- The check of a kind. -/
def check (policy : Policy) (subject : Subject) (resolved : Check.Resolved) :
    CheckKind → CheckResult
  | .identityScope => Check.identityScope subject.username
  | .dnsNameCount => Check.dnsNameCount subject.dnsNames policy.allowedNames
  | .namePattern => Check.namePattern subject.dnsNames policy.pattern
  | .resolutionConsistency => Check.resolutionConsistency resolved subject.addresses
  | .hostnameConsistency =>
      Check.hostnameConsistency (nodeName? subject.username) subject.dnsNames
  | .ipRange => Check.ipRange subject.addresses policy.networks
  | .duration => Check.duration subject.expirationSeconds policy.maximumExpiration

theorem name_check (policy : Policy) (subject : Subject) (resolved : Check.Resolved)
    (kind : CheckKind) : (policy.check subject resolved kind).name = kind.name := by
  cases kind with
  | identityScope =>
      simp only [check, Check.identityScope]
      split_ifs <;> rfl
  | dnsNameCount =>
      simp only [check, Check.dnsNameCount]
      split_ifs <;> rfl
  | namePattern =>
      simp only [check, Check.namePattern]
      split_ifs <;> rfl
  | resolutionConsistency =>
      simp only [check, Check.resolutionConsistency]
      split_ifs <;> rfl
  | hostnameConsistency =>
      simp only [check, Check.hostnameConsistency]
      split
      · rfl
      · split_ifs <;> rfl
  | ipRange =>
      simp only [check, Check.ipRange]
      split_ifs <;> rfl
  | duration =>
      simp only [check, Check.duration]
      split_ifs <;> rfl

theorem passed_check (policy : Policy) (subject : Subject) {answers : List Lookup}
    (tells : ∀ answer ∈ answers, answer.Tells) (kind : CheckKind) :
    (policy.check subject (answers.foldl Check.Resolved.add {}) kind).passed = true ↔
      policy.Meets subject answers kind := by
  cases kind with
  | identityScope =>
      exact Check.passed_identityScope subject.username
  | dnsNameCount =>
      exact Check.passed_dnsNameCount subject.dnsNames policy.allowedNames
  | namePattern =>
      exact Check.passed_namePattern subject.dnsNames policy.pattern
  | resolutionConsistency =>
      have shared : (∃ address ∈ (answers.foldl Check.Resolved.add {}).addresses,
            address ∈ subject.addresses) ↔
          ∃ addresses, .found addresses ∈ answers ∧
            ∃ address ∈ addresses, address ∈ subject.addresses := by
        simp only [Check.mem_addresses_foldl, List.not_mem_nil, false_or]
        constructor
        · rintro ⟨address, ⟨addresses, told, found⟩, requested⟩
          exact ⟨addresses, told, address, found, requested⟩
        · rintro ⟨addresses, told, address, found, requested⟩
          exact ⟨address, ⟨addresses, told, found⟩, requested⟩
      rw [check, Check.passed_resolutionConsistency, Check.complaints_foldl_eq_nil answers _ tells,
        shared]
      simp [Meets]
  | hostnameConsistency =>
      exact Check.passed_hostnameConsistency subject.username subject.dnsNames
  | ipRange =>
      exact Check.passed_ipRange policy subject.addresses
  | duration =>
      exact Check.passed_duration subject.expirationSeconds policy.maximumExpiration

theorem checks_eq (policy : Policy) (subject : Subject) (resolved : Check.Resolved) :
    policy.checksBefore subject ++
        (if policy.bypassResolution then []
          else [Check.resolutionConsistency resolved subject.addresses]) ++
        policy.checksAfter subject =
      policy.kinds.map (policy.check subject resolved) := by
  unfold checksBefore checksAfter kinds CheckKind.order
  cases identity : policy.bypassIdentity <;> cases resolution : policy.bypassResolution <;>
    cases hostname : policy.bypassHostname <;>
    simp [Omits, check, identity, resolution, hostname]

end Policy

/-! ## The review as a whole -/

section Review

variable {σ : Type} {resolver : Resolver σ}

theorem tells_of_mem_mapM (tells : ∀ name state, (resolver name state).1.Tells)
    (names : List String) (state : σ) :
    ∀ answer ∈ (names.mapM resolver state).1, answer.Tells := by
  induction names generalizing state with
  | nil =>
      simp
  | cons name names inductionHypothesis =>
      intro answer member
      have either : answer = (resolver name state).1 ∨
          answer ∈ (names.mapM resolver (resolver name state).2).1 := by
        simpa using member
      rcases either with rfl | later
      · exact tells name state
      · exact inductionHypothesis (resolver name state).2 answer later

theorem review_eq (tells : ∀ name state, (resolver name state).1.Tells) (policy : Policy)
    (subject : Subject) (state : σ) :
    review resolver policy subject state =
      (.complete ⟨policy.kinds.map (policy.check subject
          ((subject.dnsNames.mapM resolver state).1.foldl Check.Resolved.add {}))⟩,
        if policy.bypassResolution then state else (subject.dnsNames.mapM resolver state).2) := by
  rw [← Policy.checks_eq]
  cases bypassed : policy.bypassResolution with
  | true =>
      simp [review, checkResolution, bypassed]
  | false =>
      simp [review, checkResolution, bypassed, Check.resolveAll_eq tells]

/-- A review makes the checks that its policy asks for, in their order and each once, and looks
up every name once, if at all. Whatever the others come out as, a check passes exactly if the
request meets what it asks, given the answers to the lookups; and the request is approved exactly
if it meets all that is asked. -/
theorem review_meets (tells : ∀ name state, (resolver name state).1.Tells) (policy : Policy)
    (subject : Subject) (state : σ) :
    let (answers, last) := subject.dnsNames.mapM resolver state
    ∃ verdict,
      review resolver policy subject state =
          (.complete verdict, if policy.bypassResolution then state else last) ∧
        verdict.checks.map CheckResult.name = policy.kinds.map CheckKind.name ∧
        (verdict.checks.map CheckResult.name).Nodup ∧
        (∀ kind, ∀ check ∈ verdict.checks, check.name = kind.name →
          (check.passed = true ↔ policy.Meets subject answers kind)) ∧
        (verdict.approved = true ↔
          ∀ kind, ¬policy.Omits kind → policy.Meets subject answers kind) := by
  have reviewed := review_eq tells policy subject state
  have toldAll := tells_of_mem_mapM tells subject.dnsNames state
  obtain ⟨answers, last, asked⟩ :
      ∃ answers last, subject.dnsNames.mapM resolver state = (answers, last) := ⟨_, _, rfl⟩
  rw [asked] at reviewed toldAll ⊢
  let check := policy.check subject (answers.foldl Check.Resolved.add {})
  have named : (policy.kinds.map check).map CheckResult.name =
      policy.kinds.map CheckKind.name := by
    rw [List.map_map]
    exact List.map_congr_left fun kind _ => Policy.name_check policy subject _ kind
  refine ⟨⟨policy.kinds.map check⟩, reviewed, named, ?_, ?_, ?_⟩
  · rw [named]
    exact Policy.nodup_kinds policy
  · intro kind result member sameName
    obtain ⟨other, _, rfl⟩ := List.mem_map.mp member
    rw [Policy.name_check, CheckKind.name_inj] at sameName
    rw [← sameName]
    exact Policy.passed_check policy subject toldAll other
  · rw [Verdict.approved, List.all_map, List.all_eq_true]
    refine forall_congr' fun kind => ?_
    rw [Policy.mem_kinds]
    exact imp_congr_right fun _ => Policy.passed_check policy subject toldAll kind

end Review

/-! ## A node that asks for two names -/

def workerAddress : Address := .v4 0x0a000105

/-- Knows the address of one node, and keeps the names that were asked. -/
def workerResolver : Resolver (List String) := fun name asked =>
  (if name = "worker-1" then .found [workerAddress] else .failed (.unknownName name),
    asked ++ [name])

theorem tells_worker (name : String) (asked : List String) :
    (workerResolver name asked).1.Tells := by
  unfold workerResolver
  split_ifs <;> trivial

def workerPolicy : Policy where
  pattern := ⟨".*", {}, .times .greedy 0 none .point⟩
  networks := [⟨workerAddress, 8, by decide⟩]
  maximumExpiration := 86400
  allowedNames := 1
  bypassResolution := false
  bypassHostname := false
  bypassIdentity := false

/-- A node asks for its own name and for one without addresses. -/
def workerSubject : Subject where
  username := "system:node:worker-1"
  dnsNames := ["worker-1", "worker-2"]
  addresses := [workerAddress]
  expirationSeconds := 3600

/-- There are too many names and one of them has no address, but the other is that of the
node. -/
theorem review_meets_worker :
    ∃ verdict,
      review workerResolver workerPolicy workerSubject [] =
          (.complete verdict, ["worker-1", "worker-2"]) ∧
        verdict.checks.map CheckResult.name =
          ["identity_scope", "dns_name_count", "name_pattern", "resolution_consistency",
            "hostname_consistency", "ip_range", "duration"] ∧
        (∀ check ∈ verdict.checks, check.name = "dns_name_count" → check.passed = false) ∧
        (∀ check ∈ verdict.checks, check.name = "resolution_consistency" →
          check.passed = false) ∧
        (∀ check ∈ verdict.checks, check.name = "hostname_consistency" → check.passed = true) ∧
        verdict.approved = false := by
  obtain ⟨verdict, reviewed, names, _, meets, approved⟩ :=
    review_meets tells_worker workerPolicy workerSubject []
  have manyNames (answers : List Lookup) :
      ¬workerPolicy.Meets workerSubject answers .dnsNameCount := by
    simp [Policy.Meets, workerPolicy, workerSubject]
  have sameHost (answers : List Lookup) :
      workerPolicy.Meets workerSubject answers .hostnameConsistency :=
    ⟨"worker-1", ⟨rfl, by decide⟩, "worker-1", List.mem_cons_self, Or.inl rfl⟩
  refine ⟨verdict, reviewed, names, ?_, ?_, ?_, ?_⟩
  · intro check member isCount
    exact Bool.eq_false_iff.mpr
      fun passed => manyNames _ ((meets .dnsNameCount check member isCount).mp passed)
  · intro check member isResolution
    refine Bool.eq_false_iff.mpr fun passed => ?_
    obtain ⟨allFound, _⟩ := (meets .resolutionConsistency check member isResolution).mp passed
    obtain ⟨addresses, found⟩ :=
      allFound (.failed (.unknownName "worker-2")) (List.mem_cons_of_mem _ List.mem_cons_self)
    exact absurd found (by simp)
  · intro check member isHostname
    exact (meets .hostnameConsistency check member isHostname).mpr (sameHost _)
  · exact Bool.eq_false_iff.mpr fun passed => manyNames _ (approved.mp passed .dnsNameCount id)

end CertApproval.Review
