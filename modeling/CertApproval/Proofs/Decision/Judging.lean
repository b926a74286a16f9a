import CertApproval.Control.Attempt
import CertApproval.Proofs.Stepwise

/-!
What a judgement rests on. Main statements: a request is decided only if it is for the signer
and carries no decision, and then as its review says; and a review depends on nothing but the
answers to its lookups.
-/

namespace CertApproval

/-! ## Reviews from given answers -/

namespace Dns

/-- Looks names up in a list of answers, each of which is given once. -/
def replay : Resolver (List Lookup) := fun _ answers =>
  match answers with
  | [] => (.crashed, [])
  | answer :: rest => (answer, rest)

end Dns

namespace Review

open CertApproval.Dns (Resolver replay)

variable {σ : Type}

theorem resolveAll_replay (resolver : Resolver σ) (names : List String)
    (resolved : Check.Resolved) (state : σ) :
    ∃ answers, (Check.resolveAll replay names resolved answers).1 =
      (Check.resolveAll resolver names resolved state).1 := by
  induction names generalizing resolved state with
  | nil =>
      exact ⟨[], rfl⟩
  | cons name names inductionHypothesis =>
      cases asked : resolver name state with
      | mk answer next =>
          cases answer with
          | found addresses =>
              obtain ⟨answers, same⟩ := inductionHypothesis
                { resolved with
                  addresses := addresses.foldl Net.insertAddress resolved.addresses } next
              refine ⟨.found addresses :: answers, ?_⟩
              simpa [Check.resolveAll, replay, asked] using same
          | failed fault =>
              obtain ⟨answers, same⟩ := inductionHypothesis
                { resolved with complaints := resolved.complaints ++ [fault.message] } next
              refine ⟨.failed fault :: answers, ?_⟩
              simpa [Check.resolveAll, replay, asked] using same
          | aborted name =>
              refine ⟨[.aborted name], ?_⟩
              simp [Check.resolveAll, replay, asked]
          | crashed =>
              refine ⟨[], ?_⟩
              simp [Check.resolveAll, replay, asked]

/-- Whatever a resolver does, a review comes out as it does from a list of answers. -/
theorem review_replay (resolver : Resolver σ) (policy : Policy) (subject : Subject) (state : σ) :
    ∃ answers, (review replay policy subject answers).1 =
      (review resolver policy subject state).1 := by
  cases bypassed : policy.bypassResolution with
  | true =>
      refine ⟨[], ?_⟩
      simp [review, checkResolution, bypassed]
  | false =>
      obtain ⟨answers, same⟩ := resolveAll_replay resolver subject.dnsNames {} state
      refine ⟨answers, ?_⟩
      cases replayed : Check.resolveAll replay subject.dnsNames {} answers with
      | mk resolution _ =>
          cases resolved : Check.resolveAll resolver subject.dnsNames {} state with
          | mk other _ =>
              obtain rfl : resolution = other := by simpa [replayed, resolved] using same
              cases resolution <;>
                simp [review, checkResolution, bypassed, replayed, resolved]

/-! ## What a verdict says -/

theorem type_condition (verdict : Verdict) :
    verdict.condition.type =
      if verdict.approved then Condition.approvedType else Condition.deniedType := by
  unfold Verdict.condition
  split <;> rfl

/-- What is written for a verdict is its condition, on a request without a decision. -/
theorem Verdict.conditionFor?_eq_some {verdict : Verdict} {conditions : List Condition}
    {condition : Condition} :
    verdict.conditionFor? conditions = some condition ↔
      Condition.terminal? conditions = none ∧ verdict.condition = condition := by
  cases found : Condition.terminal? conditions <;> simp [conditionFor?, found]

theorem append_ne_empty {text : String} (nonempty : text ≠ "") (rest : String) :
    text ++ rest ≠ "" :=
  fun empty => nonempty (String.append_eq_empty_iff.mp empty).1

/-- A condition always says something. -/
theorem Verdict.message_condition_ne (verdict : Verdict) : verdict.condition.message ≠ "" := by
  unfold condition
  split
  · exact append_ne_empty (append_ne_empty (by decide) _) _
  · exact append_ne_empty (by decide) _

/-- A verdict is written as an approval if all checks passed. -/
theorem type_eq_approved (verdict : Verdict) :
    verdict.condition.type = Condition.approvedType ↔
      ∀ check ∈ verdict.checks, check.passed = true := by
  rw [← List.all_eq_true, type_condition]
  cases passed : verdict.approved with
  | true =>
      exact ⟨fun _ => passed, fun _ => rfl⟩
  | false =>
      refine ⟨fun same => absurd same (by decide), fun all => ?_⟩
      exact absurd (passed.symm.trans all) (by decide)

/-- A verdict is written as a denial if a check failed. -/
theorem type_eq_denied (verdict : Verdict) :
    verdict.condition.type = Condition.deniedType ↔
      ∃ check ∈ verdict.checks, check.passed = false := by
  have either : verdict.condition.type = Condition.deniedType ↔
      ¬verdict.condition.type = Condition.approvedType := by
    rw [type_condition]
    cases verdict.approved <;> decide
  rw [either, type_eq_approved]
  simp

end Review

/-! ## What is read of an object -/

namespace Cluster

open CertApproval.Review (Condition)

/-- Whether a condition is a decision that holds, as it is read. -/
def StoredCondition.decides (condition : StoredCondition) : Bool :=
  match condition.read with
  | .ok condition => condition.isTerminal
  | .error _ => false

theorem StoredCondition.decides_iff (condition : StoredCondition) :
    condition.decides = true ↔
      (condition.type = some Condition.approvedType ∨
        condition.type = some Condition.deniedType) ∧
      (condition.status = none ∨ condition.status = some "" ∨
        condition.status = some Condition.trueStatus) := by
  obtain ⟨type, status, reason, message⟩ := condition
  have holds : textOr Condition.trueStatus status = Condition.trueStatus ↔
      status = none ∨ status = some "" ∨ status = some Condition.trueStatus := by
    cases status with
    | none =>
        simp [textOr]
    | some text =>
        by_cases empty : text = ""
        · simp [textOr, empty]
        · simp [textOr, empty]
  cases type with
  | none =>
      simp [decides, StoredCondition.read]
  | some type =>
      simp [decides, StoredCondition.read, Condition.isTerminal, holds]

/-- A decision that is written is read as one. -/
theorem StoredCondition.decides_ofCondition (verdict : Review.Verdict) :
    (StoredCondition.ofCondition verdict.condition).decides = true := by
  rw [decides_iff]
  cases approved : verdict.approved <;>
    simp [ofCondition, Review.Verdict.condition, approved]

variable {object : Object} {snapshot : Snapshot}

/-- What is read of an object is what it holds. -/
structure Snapshot.Shows (snapshot : Snapshot) (object : Object) : Prop where
  name : object.name = some snapshot.name
  signerName : object.signerName = some snapshot.signerName
  username : snapshot.username = object.username.getD ""
  expirationSeconds : snapshot.expirationSeconds = object.expirationSeconds
  request : snapshot.request = (object.payload.map Payload.toBytes).getD []
  conditions : object.conditions.mapM StoredCondition.read = .ok snapshot.conditions
  source : snapshot.source = some object

theorem Snapshot.shows_of_ofObject (read : Snapshot.ofObject object = .ok snapshot) :
    snapshot.Shows object := by
  unfold Snapshot.ofObject at read
  cases conditions : object.conditions.mapM StoredCondition.read with
  | error issues =>
      simp [conditions, bind, Except.bind] at read
  | ok conditionsRead =>
      cases name : object.name <;> cases signer : object.signerName <;>
        simp [conditions, name, signer, bind, Except.bind, presentText, Fields.Checked.andThen,
          Except.map] at read
      subst read
      exact ⟨name, signer, rfl, rfl, rfl, conditions, rfl⟩

theorem Api.object_of_readAnswer {name : String} {answer : Except Refusal Object}
    (answered : readAnswer name answer = .ok (some snapshot)) :
    ∃ object, answer = .ok object ∧ Snapshot.ofObject object = .ok snapshot := by
  cases answer with
  | ok object =>
      cases read : Snapshot.ofObject object with
      | ok found =>
          obtain rfl : found = snapshot := by simpa [readAnswer, read] using answered
          exact ⟨object, rfl, read⟩
      | error issues =>
          simp [readAnswer, read] at answered
  | error refusal =>
      cases missing : refusal.hasCode missingCode <;> simp [readAnswer, missing] at answered

theorem read_mem_of_mapM {stored : List StoredCondition} {conditions : List Condition}
    (read : stored.mapM StoredCondition.read = .ok conditions) {condition : StoredCondition}
    (member : condition ∈ stored) : ∃ found ∈ conditions, condition.read = .ok found := by
  induction stored generalizing conditions with
  | nil =>
      cases member
  | cons first stored inductionHypothesis =>
      cases readFirst : first.read with
      | error issues =>
          simp [List.mapM_cons, readFirst, bind, Except.bind] at read
      | ok found =>
          cases readRest : stored.mapM StoredCondition.read with
          | error issues =>
              simp [List.mapM_cons, readFirst, readRest, bind, Except.bind] at read
          | ok rest =>
              obtain rfl : found :: rest = conditions := by
                simpa [List.mapM_cons, readFirst, readRest, bind, Except.bind, pure,
                  Except.pure] using read
              rcases List.mem_cons.mp member with rfl | later
              · exact ⟨found, List.mem_cons_self, readFirst⟩
              · obtain ⟨other, inRest, readOther⟩ := inductionHypothesis readRest later
                exact ⟨other, List.mem_cons_of_mem found inRest, readOther⟩

theorem Snapshot.Shows.undecided (shows : snapshot.Shows object)
    (undecided : Condition.terminal? snapshot.conditions = none) :
    ∀ condition ∈ object.conditions, condition.decides = false := by
  intro condition member
  obtain ⟨found, inSnapshot, read⟩ := read_mem_of_mapM shows.conditions member
  have notTerminal := List.find?_eq_none.mp undecided found inSnapshot
  simpa [StoredCondition.decides, read] using notTerminal

end Cluster

/-! ## What a judgement rests on -/

namespace Control.Rules

open CertApproval.Cluster (Object Payload Snapshot)
open CertApproval.Dns (Lookup Resolver replay)
open CertApproval.Review (Condition Verdict review)

variable {σ : Type} {rules : Rules} {snapshot : Snapshot}

theorem leave?_eq_none :
    rules.leave? snapshot = none ↔
      snapshot.signerName = rules.signerName ∧ Condition.terminal? snapshot.conditions = none := by
  by_cases ours : snapshot.signerName = rules.signerName
  · simp [leave?, ours]
  · simp [leave?, ours]

/-- What comes of a judgement, as far as it depends on a review. -/
def judgementOf : Review.Outcome → Judgement
  | .complete verdict => .decide verdict
  | .aborted name => .report .aborted (Dns.abortedMessage name)
  | .crashed => .fail .crashed

theorem reviewed_eq (resolver : Resolver σ) (parsed : Request.Parsed) (state : σ) :
    (rules.reviewed resolver parsed state).1 =
      judgementOf (review resolver rules.policy (.ofParsed parsed) state).1 := by
  cases reviewed : review resolver rules.policy (.ofParsed parsed) state with
  | mk outcome next =>
      cases outcome <;>
        simp [Rules.reviewed, reviewed, judgementOf]

/-- The ways in which a judgement comes about. -/
inductive Judged (rules : Rules) (resolver : Resolver σ) (snapshot : Snapshot) (state : σ) :
    Judgement → Prop
  | leave {outcome : Outcome} {message : String}
      (left : rules.leave? snapshot = some (outcome, message)) :
      Judged rules resolver snapshot state (.report outcome message)
  | refused {fault : Request.ParseFault} (stays : rules.leave? snapshot = none)
      (undecoded :
        Request.decode snapshot.request (rules.sender snapshot) = .error (.refused fault)) :
      Judged rules resolver snapshot state (.report .parseError fault.message)
  | undecodable {fault : Request.DecodeFault} (stays : rules.leave? snapshot = none)
      (undecoded : Request.decode snapshot.request (rules.sender snapshot) = .error fault)
      (notRefused : ∀ cause, fault ≠ .refused cause) :
      Judged rules resolver snapshot state (.fail (.undecodable fault))
  | complete {parsed : Request.Parsed} {verdict : Verdict} (stays : rules.leave? snapshot = none)
      (decoded : Request.decode snapshot.request (rules.sender snapshot) = .ok parsed)
      (reviewed : (review resolver rules.policy (.ofParsed parsed) state).1 = .complete verdict) :
      Judged rules resolver snapshot state (.decide verdict)
  | aborted {parsed : Request.Parsed} {name : String} (stays : rules.leave? snapshot = none)
      (decoded : Request.decode snapshot.request (rules.sender snapshot) = .ok parsed)
      (reviewed : (review resolver rules.policy (.ofParsed parsed) state).1 = .aborted name) :
      Judged rules resolver snapshot state (.report .aborted (Dns.abortedMessage name))
  | crashed {parsed : Request.Parsed} (stays : rules.leave? snapshot = none)
      (decoded : Request.decode snapshot.request (rules.sender snapshot) = .ok parsed)
      (reviewed : (review resolver rules.policy (.ofParsed parsed) state).1 = .crashed) :
      Judged rules resolver snapshot state (.fail .crashed)

theorem judged_judge (rules : Rules) (resolver : Resolver σ) (snapshot : Snapshot) (state : σ) :
    rules.Judged resolver snapshot state (rules.judge resolver snapshot state).1 := by
  unfold judge
  cases left : rules.leave? snapshot with
  | some reason =>
      exact .leave left
  | none =>
      cases decoded : Request.decode snapshot.request (rules.sender snapshot) with
      | error fault =>
          cases fault with
          | refused cause =>
              exact .refused left decoded
          | unknownVersion | unreadableSubject | misplacedBits | unknownFeature
          | unrangedAddress =>
              exact .undecodable left decoded nofun
      | ok parsed =>
          simp only [reviewed_eq]
          cases outcome : (review resolver rules.policy (.ofParsed parsed) state).1 with
          | complete verdict =>
              exact .complete left decoded outcome
          | aborted name =>
              exact .aborted left decoded outcome
          | crashed =>
              exact .crashed left decoded outcome

theorem judge_decide {resolver : Resolver σ} {state : σ} {verdict : Verdict}
    (judged : (rules.judge resolver snapshot state).1 = .decide verdict) :
    rules.leave? snapshot = none ∧
      ∃ parsed, Request.decode snapshot.request (rules.sender snapshot) = .ok parsed ∧
        (review resolver rules.policy (.ofParsed parsed) state).1 = .complete verdict := by
  have ways := judged ▸ rules.judged_judge resolver snapshot state
  cases ways with
  | complete stays decoded reviewed =>
      exact ⟨stays, _, decoded, reviewed⟩

/-- A verdict is always written: the request that it is about was read without a decision. So a
decision is never reported without a condition. -/
theorem conditionFor?_of_judge {resolver : Resolver σ} {state : σ} {verdict : Verdict}
    (judged : (rules.judge resolver snapshot state).1 = .decide verdict) :
    verdict.conditionFor? snapshot.conditions = some verdict.condition :=
  Verdict.conditionFor?_eq_some.mpr ⟨(leave?_eq_none.mp (judge_decide judged).1).2, rfl⟩

/-- Whether an object as it is stored is for the signer, can be decoded, and has a review that
comes out as a verdict, where lookups have given answers. -/
def Reviews (rules : Rules) (object : Object) (answers : List Lookup) (verdict : Verdict) : Prop :=
  object.signerName = some rules.signerName ∧
    ∃ parsed,
      Request.decode ((object.payload.map Payload.toBytes).getD [])
          { username := object.username.getD ""
            expiration := object.expirationSeconds
            defaultExpiration := rules.defaultExpiration } = .ok parsed ∧
        (review replay rules.policy (.ofParsed parsed) answers).1 = .complete verdict

/-- A judgement of what was read is a review of what is stored. -/
theorem reviews_of_judge {object : Object} {answers : List Lookup} {verdict : Verdict}
    (shows : snapshot.Shows object)
    (judged : (rules.judge replay snapshot answers).1 = .decide verdict) :
    rules.Reviews object answers verdict := by
  obtain ⟨notLeft, parsed, decoded, reviewed⟩ := judge_decide judged
  have ours := (leave?_eq_none.mp notLeft).1
  refine ⟨shows.signerName.trans (congrArg some ours), parsed, ?_, reviewed⟩
  rw [sender, shows.request, shows.username, shows.expirationSeconds] at decoded
  exact decoded

/-- Whatever a resolver does, a judgement comes out as it does from a list of answers. -/
theorem judge_replay (rules : Rules) (resolver : Resolver σ) (snapshot : Snapshot) (state : σ) :
    ∃ answers, (rules.judge replay snapshot answers).1 =
      (rules.judge resolver snapshot state).1 := by
  cases left : rules.leave? snapshot with
  | some reason =>
      exact ⟨[], by simp [judge, left]⟩
  | none =>
      cases decoded : Request.decode snapshot.request (rules.sender snapshot) with
      | error fault =>
          refine ⟨[], ?_⟩
          cases fault <;> simp [judge, left, decoded]
      | ok parsed =>
          obtain ⟨answers, same⟩ :=
            Review.review_replay resolver rules.policy (.ofParsed parsed) state
          refine ⟨answers, ?_⟩
          simp only [judge, left, decoded, reviewed_eq, same]

end Control.Rules

end CertApproval
