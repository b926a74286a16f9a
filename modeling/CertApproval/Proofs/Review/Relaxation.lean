import CertApproval.Proofs.Review.Building
import CertApproval.Proofs.Review.Verdict

/-!
Policies that ask for less. Main statement: what is approved under a policy is approved under each
policy that asks for no more, and no name is looked up there that was not looked up before.
-/

namespace CertApproval

/-! ## Names that are asked -/

namespace Dns

variable {σ : Type}

/-- Whether answers depend on the names alone. -/
def Resolver.Steady (resolver : Resolver σ) : Prop :=
  ∀ name state other, (resolver name state).1 = (resolver name other).1

/-- Looks up names and keeps the names that were asked, in order. -/
def Resolver.logged (resolver : Resolver σ) : Resolver (σ × List String) := fun name state =>
  ((resolver name state.1).1, ((resolver name state.1).2, state.2 ++ [name]))

end Dns

namespace Review

open CertApproval.Dns (Resolver)
open CertApproval.Net (Address)

variable {σ : Type} {resolver : Resolver σ} {policy relaxed : Policy} {subject : Subject}

/-- Lookups end alike in all states. -/
theorem resolveAll_steady (steady : resolver.Steady) (names : List String)
    (resolved : Check.Resolved) (state other : σ) :
    (Check.resolveAll resolver names resolved state).1 =
      (Check.resolveAll resolver names resolved other).1 := by
  induction names generalizing resolved state other with
  | nil =>
      rfl
  | cons name names inductionHypothesis =>
      have same := steady name state other
      cases asked : resolver name state with
      | mk answer next =>
          cases again : resolver name other with
          | mk otherAnswer otherNext =>
              rw [asked, again] at same
              obtain rfl : answer = otherAnswer := same
              cases answer with
              | found addresses | failed fault =>
                  simpa [Check.resolveAll, asked, again] using inductionHypothesis _ next otherNext
              | aborted other | crashed =>
                  simp [Check.resolveAll, asked, again]

/-- Keeping the names changes nothing else, and where no lookup stops all of them are kept. -/
theorem resolveAll_logged (resolver : Resolver σ) (names : List String)
    (resolved : Check.Resolved) (state : σ) (before : List String) :
    ∃ asked,
      Check.resolveAll resolver.logged names resolved (state, before) =
          ((Check.resolveAll resolver names resolved state).1,
            (Check.resolveAll resolver names resolved state).2, before ++ asked) ∧
        ∀ found, (Check.resolveAll resolver names resolved state).1 = .complete found →
          asked = names := by
  induction names generalizing resolved state before with
  | nil =>
      exact ⟨[], by simp [Check.resolveAll], fun _ _ => rfl⟩
  | cons name names inductionHypothesis =>
      cases told : resolver name state with
      | mk answer next =>
          cases answer with
          | found addresses | failed fault =>
              obtain ⟨asked, same, complete⟩ := inductionHypothesis _ next (before ++ [name])
              refine ⟨name :: asked, ?_, fun found ended => ?_⟩
              · simpa [Check.resolveAll, Resolver.logged, told] using same
              · rw [complete found (by simpa [Check.resolveAll, told] using ended)]
          | aborted other | crashed =>
              refine ⟨[name], ?_, fun found ended => ?_⟩
              · simp [Check.resolveAll, Resolver.logged, told]
              · simp [Check.resolveAll, told] at ended

/-- The names that a review looks up, in order. -/
def asked (resolver : Resolver σ) (policy : Policy) (subject : Subject) (state : σ) :
    List String :=
  (review resolver.logged policy subject (state, [])).2.2

theorem review_eq_complete {state : σ} {verdict : Verdict} :
    (review resolver policy subject state).1 = .complete verdict ↔
      ∃ resolved,
        (policy.bypassResolution = false →
          (Check.resolveAll resolver subject.dnsNames {} state).1 = .complete resolved) ∧
        verdict = ⟨policy.kinds.map (policy.check subject resolved)⟩ := by
  simp only [← Policy.checks_eq]
  cases bypassed : policy.bypassResolution with
  | true =>
      simp only [review, checkResolution, bypassed]
      constructor
      · intro same
        exact ⟨{}, fun resolves => absurd resolves (by decide), (Outcome.complete.inj same).symm⟩
      · rintro ⟨_, _, rfl⟩
        rfl
  | false =>
      cases ended : (Check.resolveAll resolver subject.dnsNames {} state).1 with
      | complete resolved =>
          simp [review, checkResolution, bypassed, ended, eq_comm]
      | aborted name =>
          simp [review, checkResolution, bypassed, ended]
      | crashed =>
          simp [review, checkResolution, bypassed, ended]

/-- A review that comes to a verdict looks up all names or none. -/
theorem asked_of_complete {state : σ} {verdict : Verdict}
    (reviewed : (review resolver policy subject state).1 = .complete verdict) :
    asked resolver policy subject state =
      if policy.bypassResolution then [] else subject.dnsNames := by
  obtain ⟨resolved, complete, _⟩ := review_eq_complete.mp reviewed
  obtain ⟨names, same, all⟩ := resolveAll_logged resolver subject.dnsNames {} state []
  cases bypassed : policy.bypassResolution with
  | true =>
      simp [asked, review, checkResolution, bypassed]
  | false =>
      have ended := complete bypassed
      simp [asked, review, checkResolution, bypassed, same, ended, all resolved ended]

theorem approved_iff {resolved : Check.Resolved} :
    Verdict.approved ⟨policy.kinds.map (policy.check subject resolved)⟩ = true ↔
      ∀ kind, ¬policy.Omits kind → (policy.check subject resolved kind).passed = true := by
  simp only [Verdict.approved, List.all_map, List.all_eq_true, Policy.mem_kinds]
  rfl

/-! ## Policies that ask for less -/

/-- Whether a policy asks for no more than another one. -/
structure Policy.Relaxes (relaxed policy : Policy) : Prop where
  names : ∀ name, policy.matchesName name = true → relaxed.matchesName name = true
  addresses : ∀ address, policy.allows address = true → relaxed.allows address = true
  expiration : policy.maximumExpiration ≤ relaxed.maximumExpiration
  nameCount : policy.allowedNames ≤ relaxed.allowedNames
  resolution : policy.bypassResolution = true → relaxed.bypassResolution = true
  hostname : policy.bypassHostname = true → relaxed.bypassHostname = true
  identity : policy.bypassIdentity = true → relaxed.bypassIdentity = true

namespace Policy.Relaxes

theorem omits (relaxes : relaxed.Relaxes policy) {kind : CheckKind} (omitted : policy.Omits kind) :
    relaxed.Omits kind := by
  cases kind with
  | identityScope =>
      exact relaxes.identity omitted
  | resolutionConsistency =>
      exact relaxes.resolution omitted
  | hostnameConsistency =>
      exact omitted.imp relaxes.hostname relaxes.identity
  | dnsNameCount | namePattern | ipRange | duration =>
      exact omitted

/-- Each check passes under the policy that asks for less if it passes under the other one. -/
theorem passed (relaxes : relaxed.Relaxes policy) {resolved : Check.Resolved} {kind : CheckKind}
    (passed : (policy.check subject resolved kind).passed = true) :
    (relaxed.check subject resolved kind).passed = true := by
  cases kind with
  | identityScope | resolutionConsistency | hostnameConsistency =>
      exact passed
  | dnsNameCount =>
      have fits := (Check.passed_dnsNameCount _ _).mp passed
      exact (Check.passed_dnsNameCount _ _).mpr ⟨fits.1, Int.le_trans fits.2 relaxes.nameCount⟩
  | namePattern =>
      have fits := (Check.passed_namePattern _ _).mp passed
      exact (Check.passed_namePattern _ _).mpr fun name member =>
        relaxes.names name (fits name member)
  | ipRange =>
      have fits := (Check.passed_ipRange policy _).mp passed
      exact (Check.passed_ipRange relaxed _).mpr fun address member =>
        relaxes.addresses address (fits address member)
  | duration =>
      have fits := (Check.passed_duration _ _).mp passed
      exact (Check.passed_duration _ _).mpr ⟨fits.1, Int.le_trans fits.2 relaxes.expiration⟩

end Policy.Relaxes

/-- Whether what is approved under one policy is approved under another one, with no name looked
up that the first review did not look up. The reviews need not begin in the same state. -/
def KeepsApproval (resolver : Resolver σ) (subject : Subject) (policy relaxed : Policy) : Prop :=
  ∀ state other verdict, (review resolver policy subject state).1 = .complete verdict →
    verdict.approved = true →
    ∃ again, (review resolver relaxed subject other).1 = .complete again ∧
      again.approved = true ∧
      (asked resolver relaxed subject other).Sublist (asked resolver policy subject state)

theorem Policy.Relaxes.keepsApproval (steady : resolver.Steady) (relaxes : relaxed.Relaxes policy)
    (subject : Subject) : KeepsApproval resolver subject policy relaxed := by
  intro state other verdict reviewed approved
  obtain ⟨resolved, complete, rfl⟩ := review_eq_complete.mp reviewed
  have passed := approved_iff.mp approved
  have reviewedAgain : (review resolver relaxed subject other).1 =
      .complete ⟨relaxed.kinds.map (relaxed.check subject resolved)⟩ := by
    refine review_eq_complete.mpr ⟨resolved, fun resolves => ?_, rfl⟩
    have resolvedBefore : policy.bypassResolution = false :=
      Bool.eq_false_iff.mpr fun bypassed => by simp [relaxes.resolution bypassed] at resolves
    rw [resolveAll_steady steady _ _ other state]
    exact complete resolvedBefore
  refine ⟨_, reviewedAgain, approved_iff.mpr fun kind asks => ?_, ?_⟩
  · exact relaxes.passed (passed kind (mt relaxes.omits asks))
  · rw [asked_of_complete reviewed, asked_of_complete reviewedAgain]
    cases bypassed : policy.bypassResolution with
    | true =>
        simp [relaxes.resolution bypassed]
    | false =>
        split <;> simp

/-! ## Settings that ask for less -/

/-- Whether settings ask for no more than others, with the same pattern. -/
structure PolicySettings.Relaxes (relaxed settings : PolicySettings) : Prop where
  pattern : relaxed.pattern = settings.pattern
  prefixes : Policy.items settings.prefixes ⊆ Policy.items relaxed.prefixes
  expiration : settings.maximumExpiration ≤ relaxed.maximumExpiration
  nameCount : settings.allowedNames ≤ relaxed.allowedNames
  resolution : settings.bypassResolution = true → relaxed.bypassResolution = true
  hostname : settings.bypassHostname = true → relaxed.bypassHostname = true
  identity : settings.bypassIdentity = true → relaxed.bypassIdentity = true

theorem Policy.allows_iff_of_build {naming : Pattern.Naming} {settings : PolicySettings}
    (built : Policy.build naming settings = .ok policy) (address : Address) :
    policy.allows address = true ↔
      ∃ item ∈ Policy.items settings.prefixes, Policy.Admits item address := by
  obtain ⟨pattern, networks, _, _, _, read, rfl⟩ := Policy.build_eq_ok.mp built
  rw [← Policy.any_contains_iff read, Policy.allows, List.any_eq_true]
  rfl

theorem PolicySettings.Relaxes.build {naming : Pattern.Naming}
    {settings relaxedSettings : PolicySettings}
    (relaxes : relaxedSettings.Relaxes settings) (built : Policy.build naming settings = .ok policy)
    (builtRelaxed : Policy.build naming relaxedSettings = .ok relaxed) :
    relaxed.Relaxes policy := by
  have addresses (address : Address) (allowed : policy.allows address = true) :
      relaxed.allows address = true := by
    obtain ⟨item, member, admits⟩ := (Policy.allows_iff_of_build built address).mp allowed
    exact (Policy.allows_iff_of_build builtRelaxed address).mpr
      ⟨item, relaxes.prefixes member, admits⟩
  obtain ⟨pattern, networks, compiled, _, _, _, rfl⟩ := Policy.build_eq_ok.mp built
  obtain ⟨other, otherNetworks, compiledRelaxed, _, _, _, rfl⟩ :=
    Policy.build_eq_ok.mp builtRelaxed
  rw [relaxes.pattern, compiled] at compiledRelaxed
  obtain rfl : pattern = other := Except.ok.inj compiledRelaxed
  exact {
    names := fun _ => id
    addresses := addresses
    expiration := relaxes.expiration
    nameCount := relaxes.nameCount
    resolution := relaxes.resolution
    hostname := relaxes.hostname
    identity := relaxes.identity }

/-- A request that is approved is approved under each policy that asks for no more, and then no
name is looked up that was not looked up before, as long as the answers depend on the names alone.
Such a policy comes from the same settings with ranges added, limits raised and checks left out. -/
theorem keepsApproval_of_relaxes (steady : resolver.Steady) (subject : Subject) :
    (∀ policy relaxed : Policy, relaxed.Relaxes policy →
      KeepsApproval resolver subject policy relaxed) ∧
    (∀ (naming : Pattern.Naming) (settings relaxedSettings : PolicySettings),
      relaxedSettings.Relaxes settings → ∀ policy relaxed,
        Policy.build naming settings = .ok policy →
        Policy.build naming relaxedSettings = .ok relaxed →
        KeepsApproval resolver subject policy relaxed) :=
  ⟨fun _ _ relaxes => relaxes.keepsApproval steady subject,
    fun _ _ _ relaxes _ _ built builtRelaxed =>
      (relaxes.build built builtRelaxed).keepsApproval steady subject⟩

/-! ## A range added and a check left out -/

/-- Two ranges where there was one, more names and no lookups. -/
def wideSettings : PolicySettings :=
  { Policy.tenSettings with
    prefixes := "10.0.1.7/08,fd00::1", allowedNames := 2, bypassResolution := true }

theorem wideSettings_relaxes : wideSettings.Relaxes Policy.tenSettings where
  pattern := rfl
  prefixes := by decide
  expiration := by decide
  nameCount := by decide
  resolution := fun _ => rfl
  hostname := id
  identity := id

theorem valid_tenSettings : Policy.tenSettings.Valid Policy.noNames where
  pattern_ne_empty := by decide
  compiles := ⟨_, rfl⟩
  expiration := by decide
  names := by decide
  ranges := by
    rw [Policy.items_ten, List.forall_mem_singleton]
    exact ⟨_, _, Policy.denotes_ten⟩

theorem valid_wideSettings : wideSettings.Valid Policy.noNames where
  pattern_ne_empty := by decide
  compiles := ⟨_, rfl⟩
  expiration := by decide
  names := by decide
  ranges := by
    have two : Policy.items wideSettings.prefixes = ["10.0.1.7/08".toList, "fd00::1".toList] := by
      decide
    rw [two, List.forall_mem_cons, List.forall_mem_singleton]
    exact ⟨⟨_, _, Policy.denotes_ten⟩, ⟨_, _, Policy.denotes_single⟩⟩

theorem steady_worker : workerResolver.Steady := fun _ _ _ => rfl

/-- A node asks for its own name. -/
def ownSubject : Subject := { workerSubject with dnsNames := ["worker-1"] }

theorem meets_own {ten : Policy} (built : Policy.build Policy.noNames Policy.tenSettings = .ok ten)
    (kind : CheckKind) : ten.Meets ownSubject [.found [workerAddress]] kind := by
  have isNode : Check.IsNode ownSubject.username "worker-1" := ⟨rfl, by decide⟩
  have shares : Net.Prefix.Shares 8 (.v4 0x0a000107) workerAddress := ⟨rfl, by decide⟩
  have range : ten.allows workerAddress = true :=
    (Policy.allows_iff_of_build built workerAddress).mpr
      ⟨_, by rw [Policy.items_ten]; exact List.mem_singleton_self _, _, _, Policy.denotes_ten,
        shares⟩
  obtain ⟨any, anyCompiled, matched⟩ :
      ∃ any, Policy.readPattern Policy.noNames Policy.tenSettings.pattern = .ok any ∧
        any.matchesWhole "worker-1" = true := ⟨_, rfl, by decide +kernel⟩
  obtain ⟨pattern, networks, compiled, _, _, _, rfl⟩ := Policy.build_eq_ok.mp built
  obtain rfl := Except.ok.inj (anyCompiled.symm.trans compiled)
  cases kind with
  | identityScope =>
      exact ⟨"worker-1", isNode⟩
  | dnsNameCount =>
      have fits : (1 : Int) ≤ Policy.tenSettings.allowedNames := by decide
      exact ⟨by decide, fits⟩
  | namePattern =>
      exact List.forall_mem_singleton.mpr matched
  | resolutionConsistency =>
      refine ⟨List.forall_mem_singleton.mpr ⟨_, rfl⟩, _, List.mem_singleton_self _, ?_⟩
      exact ⟨workerAddress, List.mem_singleton_self _, List.mem_singleton_self _⟩
  | hostnameConsistency =>
      exact ⟨"worker-1", isNode, "worker-1", List.mem_singleton_self _, Or.inl rfl⟩
  | ipRange =>
      exact List.forall_mem_singleton.mpr range
  | duration =>
      have fits : (3600 : Int) ≤ Policy.tenSettings.maximumExpiration := by decide
      exact ⟨by decide, fits⟩

/-- The node is approved under both policies, and under the second one no name is looked up. -/
theorem keepsApproval_of_relaxes_wide :
    ∃ ten wide verdict, Policy.build Policy.noNames Policy.tenSettings = .ok ten ∧
      Policy.build Policy.noNames wideSettings = .ok wide ∧
      (review workerResolver wide ownSubject []).1 = .complete verdict ∧
      verdict.approved = true ∧
      (asked workerResolver wide ownSubject []).Sublist ["worker-1"] := by
  obtain ⟨ten, builtTen⟩ := Policy.build_succeeds_iff.mpr valid_tenSettings
  obtain ⟨wide, builtWide⟩ := Policy.build_succeeds_iff.mpr valid_wideSettings
  have complete := congrArg Prod.fst (review_eq tells_worker ten ownSubject [])
  have toldAll := tells_of_mem_mapM tells_worker ownSubject.dnsNames []
  have allMet := approved_iff.mpr fun kind _ =>
    (ten.passed_check ownSubject toldAll kind).mpr (meets_own builtTen kind)
  obtain ⟨again, reviewedAgain, approvedAgain, fewer⟩ :=
    (keepsApproval_of_relaxes steady_worker ownSubject).2 _ _ _ wideSettings_relaxes ten wide
      builtTen builtWide [] [] _ complete allMet
  have one : asked workerResolver ten ownSubject [] = ["worker-1"] := by
    rw [asked_of_complete complete]
    obtain ⟨_, _, _, _, _, _, rfl⟩ := Policy.build_eq_ok.mp builtTen
    rfl
  exact ⟨ten, wide, again, builtTen, builtWide, reviewedAgain, approvedAgain, one ▸ fewer⟩

end Review

end CertApproval
