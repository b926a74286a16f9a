import CertApproval.Proofs.Net.Addresses
import CertApproval.Proofs.Review.Relaxation
import CertApproval.Review.Decision

/-!
What is written on a request after its review. Main statement: a denial says what is wrong with
every check that failed, in the order of the checks, and nothing else; it lists the names as the
request does and sets of addresses in the order of their texts; and an approval says how many
checks were made.
-/

namespace CertApproval

open CertApproval.Net (Address)

/-! ## Listed sets of addresses -/

namespace Net

/-- Whether texts are those of the addresses with a property, each listed once, in the order of
their code points. -/
def Lists (property : Address → Prop) (texts : List String) : Prop :=
  texts.Pairwise (· ≤ ·) ∧
    ∃ listed : List Address, listed.Nodup ∧ (∀ address, address ∈ listed ↔ property address) ∧
      texts = listed.map Address.text

variable {property : Address → Prop}

theorem Lists.congr {other : Address → Prop} {texts : List String} (lists : Lists property texts)
    (same : ∀ address, property address ↔ other address) : Lists other texts := by
  obtain ⟨sorted, listed, distinct, members, texts_eq⟩ := lists
  exact ⟨sorted, listed, distinct, fun address => (members address).trans (same address), texts_eq⟩

/-- There is but one way to list a set. -/
theorem Lists.unique {texts others : List String} (lists : Lists property texts)
    (listsOthers : Lists property others) : texts = others := by
  obtain ⟨sorted, listed, distinct, members, rfl⟩ := lists
  obtain ⟨otherSorted, otherListed, otherDistinct, otherMembers, rfl⟩ := listsOthers
  have same : listed.Perm otherListed :=
    (List.perm_ext_iff_of_nodup distinct otherDistinct).mpr fun address =>
      (members address).trans (otherMembers address).symm
  exact (same.map Address.text).eq_of_pairwise
    (fun _ _ _ _ below above => String.le_antisymm below above) sorted otherSorted

theorem pairwise_sortedTexts (addresses : List Address) :
    (sortedTexts addresses).Pairwise (· ≤ ·) := by
  have transitive (a b c : String) (below : decide (a ≤ b) = true) (above : decide (b ≤ c) = true) :
      decide (a ≤ c) = true :=
    decide_eq_true (String.le_trans (of_decide_eq_true below) (of_decide_eq_true above))
  have total (a b : String) : (decide (a ≤ b) || decide (b ≤ a)) = true := by
    simpa using String.le_total a b
  exact (List.pairwise_mergeSort transitive total _).imp of_decide_eq_true

/-- A list without repetitions is listed by its sorted texts. -/
theorem lists_sortedTexts {addresses : List Address} (distinct : addresses.Nodup) :
    Lists (· ∈ addresses) (sortedTexts addresses) := by
  refine ⟨pairwise_sortedTexts addresses,
    addresses.mergeSort fun a b => a.text ≤ b.text, ?_, ?_, ?_⟩
  · exact (List.mergeSort_perm addresses _).nodup_iff.mpr distinct
  · intro address
    exact List.mem_mergeSort
  · unfold sortedTexts
    symm
    apply List.map_mergeSort
    exact fun _ _ _ _ => rfl

theorem sortedTexts_of_perm {addresses others : List Address} (same : addresses.Perm others) :
    sortedTexts addresses = sortedTexts others := by
  have sameTexts : (sortedTexts addresses).Perm (sortedTexts others) :=
    (List.mergeSort_perm _ _).trans ((same.map Address.text).trans (List.mergeSort_perm _ _).symm)
  exact sameTexts.eq_of_pairwise (fun _ _ _ _ below above => String.le_antisymm below above)
    (pairwise_sortedTexts addresses) (pairwise_sortedTexts others)

end Net

/-! ## What is known of the names -/

namespace Review

open CertApproval.Dns (Lookup Resolver)

variable {σ : Type} {resolver : Resolver σ} {policy : Policy} {subject : Subject} {state : σ}

namespace Check

/-- Where the lookups come to an end, each of them says something of its name. -/
theorem resolveAll_complete {names : List String} {resolved found : Resolved}
    (complete : (resolveAll resolver names resolved state).1 = .complete found) :
    (∀ answer ∈ (names.mapM resolver state).1, answer.Tells) ∧
      found = (names.mapM resolver state).1.foldl Resolved.add resolved := by
  induction names generalizing resolved state with
  | nil =>
      exact ⟨by simp, (Resolution.complete.inj complete).symm⟩
  | cons name names inductionHypothesis =>
      cases asked : resolver name state with
      | mk answer next =>
          cases answer with
          | found addresses | failed fault =>
              have later := inductionHypothesis (by simpa [resolveAll, asked] using complete)
              simpa [asked, Resolved.add, Lookup.Tells] using later
          | aborted other | crashed =>
              simp [resolveAll, asked] at complete

theorem nodup_addresses_foldl (answers : List Lookup) {resolved : Resolved}
    (distinct : resolved.addresses.Nodup) :
    (answers.foldl Resolved.add resolved).addresses.Nodup := by
  induction answers generalizing resolved with
  | nil =>
      exact distinct
  | cons answer answers inductionHypothesis =>
      refine inductionHypothesis ?_
      cases answer with
      | found addresses =>
          exact Net.nodup_foldl_insertAddress addresses distinct
      | failed fault | aborted name | crashed =>
          exact distinct

end Check

/-! ## What is said of a check that failed -/

/-- A set of addresses as a text, or a word for none. -/
def listedOr (none : String) (texts : List String) : String :=
  if texts = [] then none else joinTexts ", " texts

/-- Whether a reason says what is wrong with a request that does not pass a check, its names being
looked up with given answers. -/
def Policy.Explains (policy : Policy) (subject : Subject) (answers : List Lookup) :
    CheckKind → String → Prop
  | .identityScope, reason =>
      let username := Text.quoted subject.username
      reason = s!"请求主体 {username} 不是 system:node:<节点名> 格式"
  | .dnsNameCount, reason =>
      let count := subject.dnsNames.length
      let allowed := policy.allowedNames
      count = 0 ∧ reason = "CSR 未包含任何 SAN DNS 名称" ∨
        0 < count ∧ reason = s!"CSR 包含 {count} 个 SAN DNS 名称，超过允许的 {allowed} 个"
  | .namePattern, reason =>
      let mismatched :=
        joinTexts ", " (subject.dnsNames.filter fun name => !policy.matchesName name)
      let pattern := Text.quoted policy.pattern.source
      reason = s!"SAN DNS 名称 {mismatched} 不匹配 provider regex {pattern}"
  | .resolutionConsistency, reason =>
      let complaints := answers.filterMap Lookup.complaint?
      let listed := joinTexts "; " complaints
      complaints ≠ [] ∧ reason = s!"DNS 解析失败: {listed}" ∨
        complaints = [] ∧ ∃ found requested,
          Net.Lists (fun address => ∃ addresses, .found addresses ∈ answers ∧ address ∈ addresses)
            found ∧
          Net.Lists (· ∈ subject.addresses) requested ∧
          reason = "SAN DNS 名称解析得到的地址 [" ++ listedOr "无" found ++ "] 与 SAN IP [" ++
            listedOr "无" requested ++ "] 无交集"
  | .hostnameConsistency, reason =>
      (¬∃ node, Check.IsNode subject.username node) ∧
          reason = "无法从请求主体中提取节点名，不能校验主机名" ∨
        ∃ node, Check.IsNode subject.username node ∧
          reason = "节点名 " ++ Text.quoted node ++ " 与任何 SAN DNS 名称（或其主机名部分）都不一致"
  | .ipRange, reason =>
      ∃ outside,
        Net.Lists (fun address => address ∈ subject.addresses ∧ policy.allows address = false)
          outside ∧
        reason = "SAN IP " ++ joinTexts ", " outside ++ " 不在允许的网段内"
  | .duration, reason =>
      let seconds := subject.expirationSeconds
      let maximum := policy.maximumExpiration
      seconds ≤ 0 ∧ reason = s!"请求的有效期 {seconds}s 必须大于 0" ∨
        0 < seconds ∧ reason = s!"请求的有效期 {seconds}s 超过允许的最大值 {maximum}s"

/-- What is said of a check that failed is never empty. -/
theorem Policy.Explains.ne_empty {answers : List Lookup} {kind : CheckKind} {reason : String}
    (explains : policy.Explains subject answers kind reason) : reason ≠ "" := by
  cases kind with
  | identityScope | namePattern =>
      rw [show reason = _ from explains]
      simp [toString]
  | dnsNameCount | duration =>
      obtain ⟨_, rfl⟩ | ⟨_, rfl⟩ := explains <;> simp [toString]
  | resolutionConsistency =>
      obtain ⟨_, rfl⟩ | ⟨_, _, _, _, _, rfl⟩ := explains <;> simp [toString]
  | hostnameConsistency =>
      obtain ⟨_, rfl⟩ | ⟨_, _, rfl⟩ := explains <;> simp
  | ipRange =>
      obtain ⟨_, _, rfl⟩ := explains
      simp

theorem addressesText_eq (addresses : List Address) :
    Check.addressesText addresses = listedOr "无" (Net.sortedTexts addresses) := by
  have same : Net.sortedTexts addresses = [] ↔ addresses = [] := by
    rw [← List.length_eq_zero_iff, ← List.length_eq_zero_iff, Net.sortedTexts,
      List.length_mergeSort, List.length_map]
  simp only [Check.addressesText, listedOr, same, List.isEmpty_iff]

theorem Policy.explains_resolutionConsistency (policy : Policy) (subject : Subject)
    (answers : List Lookup) (distinct : subject.addresses.Nodup)
    (failed : (Check.resolutionConsistency (answers.foldl Check.Resolved.add {})
      subject.addresses).passed = false) :
    policy.Explains subject answers .resolutionConsistency
      (Check.resolutionConsistency (answers.foldl Check.Resolved.add {})
        subject.addresses).reason := by
  revert failed
  have complaints := Check.complaints_foldl answers {}
  have distinctFound : (answers.foldl Check.Resolved.add {}).addresses.Nodup :=
    Check.nodup_addresses_foldl answers List.nodup_nil
  simp only [Check.resolutionConsistency, addressesText_eq, complaints, List.nil_append]
  split
  · next complained =>
      exact fun _ => Or.inl ⟨by simpa using complained, rfl⟩
  · next silent =>
      split
      · exact fun passed => by cases passed
      · refine fun _ => Or.inr ⟨by simpa using silent, _, _, ?_,
          Net.lists_sortedTexts distinct, rfl⟩
        refine (Net.lists_sortedTexts distinctFound).congr fun address => ?_
        simp [Check.mem_addresses_foldl]

theorem Policy.explains_hostnameConsistency (policy : Policy) (subject : Subject)
    (answers : List Lookup)
    (failed :
      (Check.hostnameConsistency (nodeName? subject.username) subject.dnsNames).passed = false) :
    policy.Explains subject answers .hostnameConsistency
      (Check.hostnameConsistency (nodeName? subject.username) subject.dnsNames).reason := by
  revert failed
  simp only [Check.hostnameConsistency]
  cases isNode : nodeName? subject.username with
  | none =>
      refine fun _ => Or.inl ⟨?_, rfl⟩
      rw [← Check.nodeName?_isSome, isNode]
      decide
  | some node =>
      have named := Check.nodeName?_eq_some.mp isNode
      dsimp only
      split
      · exact fun passed => by cases passed
      · exact fun _ => Or.inr ⟨node, named, rfl⟩

/-- A check that failed says what is wrong. -/
theorem Policy.explains_check (policy : Policy) (subject : Subject) (answers : List Lookup)
    (distinct : subject.addresses.Nodup) {kind : CheckKind}
    (failed : (policy.check subject (answers.foldl Check.Resolved.add {}) kind).passed = false) :
    policy.Explains subject answers kind
      (policy.check subject (answers.foldl Check.Resolved.add {}) kind).reason := by
  cases kind with
  | identityScope =>
      revert failed
      simp only [check, Check.identityScope]
      split
      · exact fun _ => rfl
      · exact fun passed => by cases passed
  | dnsNameCount =>
      revert failed
      simp only [check, Check.dnsNameCount]
      split
      · next none =>
          exact fun _ => Or.inl ⟨none, rfl⟩
      · next some =>
          split
          · exact fun _ => Or.inr ⟨Nat.pos_of_ne_zero some, rfl⟩
          · exact fun passed => by cases passed
  | namePattern =>
      revert failed
      simp only [check, Check.namePattern]
      split
      · exact fun passed => by cases passed
      · exact fun _ => rfl
  | resolutionConsistency =>
      exact policy.explains_resolutionConsistency subject answers distinct failed
  | hostnameConsistency =>
      exact policy.explains_hostnameConsistency subject answers failed
  | ipRange =>
      revert failed
      simp only [check, Check.ipRange]
      split
      · exact fun passed => by cases passed
      · refine fun _ =>
          ⟨_, (Net.lists_sortedTexts (distinct.filter _)).congr fun address => ?_, rfl⟩
        simp [Policy.allows]
  | duration =>
      revert failed
      simp only [check, Check.duration]
      split
      · next low =>
          exact fun _ => Or.inl ⟨low, rfl⟩
      · next positive =>
          split
          · exact fun _ => Or.inr ⟨Int.not_le.mp positive, rfl⟩
          · exact fun passed => by cases passed

/-- The order in which a set of addresses is held does not count. -/
theorem Policy.check_of_perm (policy : Policy) (subject : Subject) {addresses : List Address}
    (same : addresses.Perm subject.addresses) (resolved : Check.Resolved) (kind : CheckKind) :
    policy.check { subject with addresses } resolved kind = policy.check subject resolved kind := by
  cases kind with
  | identityScope | dnsNameCount | namePattern | hostnameConsistency | duration =>
      rfl
  | resolutionConsistency =>
      have members (address : Address) :
          addresses.contains address = subject.addresses.contains address := by
        rw [Bool.eq_iff_iff, List.contains_iff_mem, List.contains_iff_mem]
        exact same.mem_iff
      simp only [check, Check.resolutionConsistency, addressesText_eq, Net.sortedTexts_of_perm same,
        funext members]
  | ipRange =>
      have outside := same.filter fun address => !policy.networks.any (·.contains address)
      simp only [check, Check.ipRange, Net.sortedTexts_of_perm outside, List.isEmpty_iff,
        ← List.length_eq_zero_iff, outside.length_eq]

/-! ## What is written -/

theorem complete_cases {verdict : Verdict}
    (reviewed : (review resolver policy subject state).1 = .complete verdict) :
    ∃ answers : List Lookup, (∀ answer ∈ answers, answer.Tells) ∧
      (policy.bypassResolution = false → answers = (subject.dnsNames.mapM resolver state).1) ∧
      verdict =
        ⟨policy.kinds.map (policy.check subject (answers.foldl Check.Resolved.add {}))⟩ := by
  cases bypassed : policy.bypassResolution with
  | true =>
      have unresolved : (review resolver policy subject state).1 =
          .complete ⟨policy.kinds.map (policy.check subject {})⟩ :=
        review_eq_complete.mpr ⟨{}, fun resolves => by simp [bypassed] at resolves, rfl⟩
      rw [reviewed] at unresolved
      exact ⟨[], by simp, by simp, Outcome.complete.inj unresolved⟩
  | false =>
      obtain ⟨resolved, complete, rfl⟩ := review_eq_complete.mp reviewed
      obtain ⟨tells, rfl⟩ := Check.resolveAll_complete (complete bypassed)
      exact ⟨_, tells, fun _ => rfl, rfl⟩

theorem review_of_perm {verdict : Verdict} {addresses : List Address}
    (same : addresses.Perm subject.addresses)
    (reviewed : (review resolver policy subject state).1 = .complete verdict) :
    (review resolver policy { subject with addresses } state).1 = .complete verdict := by
  obtain ⟨resolved, complete, rfl⟩ := review_eq_complete.mp reviewed
  refine review_eq_complete.mpr ⟨resolved, complete, congrArg Verdict.mk ?_⟩
  exact List.map_congr_left fun kind _ => (policy.check_of_perm subject same resolved kind).symm

/-- The checks that a request fails, of those that its policy asks for. -/
def Policy.failing (policy : Policy) (subject : Subject) (answers : List Lookup) :
    List CheckKind :=
  policy.kinds.filter fun kind =>
    !(policy.check subject (answers.foldl Check.Resolved.add {}) kind).passed

theorem Policy.mem_failing (policy : Policy) (subject : Subject) {answers : List Lookup}
    (tells : ∀ answer ∈ answers, answer.Tells) {kind : CheckKind} :
    kind ∈ policy.failing subject answers ↔
      ¬policy.Omits kind ∧ ¬policy.Meets subject answers kind := by
  rw [failing, List.mem_filter, mem_kinds, Bool.not_eq_true', ← Bool.not_eq_true,
    passed_check policy subject tells]

theorem failures_eq (policy : Policy) (subject : Subject) (answers : List Lookup) :
    Verdict.failures
        ⟨policy.kinds.map (policy.check subject (answers.foldl Check.Resolved.add {}))⟩ =
      (policy.failing subject answers).map
        (policy.check subject (answers.foldl Check.Resolved.add {})) := by
  rw [Verdict.failures, List.filter_map]
  rfl

theorem names_failures (policy : Policy) (subject : Subject) (answers : List Lookup) :
    (Verdict.failures
        ⟨policy.kinds.map (policy.check subject (answers.foldl Check.Resolved.add {}))⟩).map
          CheckResult.name =
      (policy.failing subject answers).map CheckKind.name := by
  rw [failures_eq, List.map_map]
  exact List.map_congr_left fun kind _ => policy.name_check subject _ kind

theorem Verdict.failures_ne_nil {verdict : Verdict} (denied : verdict.approved = false) :
    verdict.failures ≠ [] := by
  intro none
  rw [Verdict.failures, List.filter_eq_nil_iff] at none
  refine absurd (List.all_eq_true.mpr fun check member => ?_) (Bool.eq_false_iff.mp denied)
  simpa using none check member

theorem Policy.approvalMessage_eq (policy : Policy) (subject : Subject)
    (resolved : Check.Resolved) :
    Verdict.approvalMessage ⟨policy.kinds.map (policy.check subject resolved)⟩ =
      s!"kubelet 服务证书自动批准：{policy.kinds.length} 项校验全部通过" := by
  have count : (policy.kinds.map (policy.check subject resolved)).length = policy.kinds.length :=
    List.length_map _
  unfold Verdict.approvalMessage
  exact congrArg (fun count => s!"kubelet 服务证书自动批准：{count} 项校验全部通过") count

/-- What a review leads to says all. A denial gives the reasons of exactly the checks that the
request does not meet, in the order of the checks, each of which says what is wrong; an approval
gives the number of the checks. The order in which the addresses are held does not count. -/
theorem condition_explains {verdict : Verdict} (distinct : subject.addresses.Nodup)
    (reviewed : (review resolver policy subject state).1 = .complete verdict) :
    ∃ answers : List Lookup,
      (policy.bypassResolution = false → answers = (subject.dnsNames.mapM resolver state).1) ∧
      (verdict.approved = false →
        verdict.condition =
            { type := "Denied", status := "True", reason := "AutoDenied"
              message := "kubelet 服务证书自动拒绝：" ++
                joinTexts "；" (verdict.failures.map (·.reason)) } ∧
          verdict.failures ≠ [] ∧
          (verdict.failures.map (·.name)).Sublist (CheckKind.order.map CheckKind.name) ∧
          (∀ kind : CheckKind, kind.name ∈ verdict.failures.map (·.name) ↔
            ¬policy.Omits kind ∧ ¬policy.Meets subject answers kind) ∧
          ∀ kind, ∀ check ∈ verdict.failures, check.name = kind.name →
            check.reason ≠ "" ∧ policy.Explains subject answers kind check.reason) ∧
      (verdict.approved = true →
        verdict.condition =
          { type := "Approved", status := "True", reason := "AutoApproved"
            message := s!"kubelet 服务证书自动批准：{policy.kinds.length} 项校验全部通过" }) ∧
      ∀ addresses, addresses.Perm subject.addresses →
        (review resolver policy { subject with addresses } state).1 = .complete verdict := by
  obtain ⟨answers, tells, asked, rfl⟩ := complete_cases reviewed
  refine ⟨answers, asked, fun denied => ?_, fun approved => ?_,
    fun addresses same => review_of_perm same reviewed⟩
  · have named := names_failures policy subject answers
    refine ⟨?_, ?_, ?_, ?_, ?_⟩
    · rw [Verdict.condition, if_neg (Bool.eq_false_iff.mp denied)]
      rfl
    · exact Verdict.failures_ne_nil denied
    · rw [named]
      exact (List.filter_sublist.trans List.filter_sublist).map CheckKind.name
    · intro kind
      rw [named, ← policy.mem_failing subject tells,
        List.mem_map_of_injective fun _ _ => CheckKind.name_inj.mp]
    · intro kind check member sameName
      rw [failures_eq] at member
      obtain ⟨other, failing, rfl⟩ := List.mem_map.mp member
      rw [Policy.name_check, CheckKind.name_inj] at sameName
      subst sameName
      have failed := (List.mem_filter.mp failing).2
      have explains := policy.explains_check subject answers distinct
        (Bool.not_eq_true' _ |>.mp failed)
      exact ⟨explains.ne_empty, explains⟩
  · exact (if_pos approved).trans
      (congrArg (Condition.mk Condition.approvedType Condition.trueStatus "AutoApproved")
        (policy.approvalMessage_eq subject _))

/-- The policy of the node that asks for a name too many, which leaves its host name alone. -/
def anyHostPolicy : Policy := { workerPolicy with bypassHostname := true }

/-- The node that asks for a name too many, one of which has no address, is told both. -/
theorem condition_explains_worker :
    ∃ verdict, (review workerResolver anyHostPolicy workerSubject []).1 = .complete verdict ∧
      verdict.condition =
        { type := "Denied", status := "True", reason := "AutoDenied"
          message := "kubelet 服务证书自动拒绝：CSR 包含 2 个 SAN DNS 名称，超过允许的 1 个；" ++
            "DNS 解析失败: 解析 worker-2 失败: 名称不存在" } := by
  have reviewed := congrArg Prod.fst (review_eq tells_worker anyHostPolicy workerSubject [])
  obtain ⟨answers, asked, denial, _⟩ := condition_explains (List.nodup_singleton _) reviewed
  obtain rfl := asked rfl
  obtain ⟨written, _⟩ := denial (by decide +kernel)
  exact ⟨_, reviewed, written.trans (by decide +kernel)⟩

end Review

end CertApproval
