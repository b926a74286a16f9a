import CertApproval.Proofs.Net.Ranges
import CertApproval.Proofs.Stepwise
import CertApproval.Review.Policy

/-!
The ranges of a policy. Main statement: a policy is built from a list of ranges exactly if every
item of the list is one, and then it allows the addresses that share the leading bits of an item.
-/

namespace CertApproval.Review

open CertApproval.Net (Address Prefix)
open CertApproval.Net.Prefix (Denotes Shares)
open CertApproval.Text (isBlank splitAtChar trimBoth)

/-- Whether all settings but the ranges can be set. -/
structure PolicySettings.Sound (naming : Pattern.Naming) (settings : PolicySettings) : Prop where
  pattern : ∃ pattern, Policy.readPattern naming settings.pattern = .ok pattern
  expiration : Policy.expirationFits settings.maximumExpiration = true
  names : Policy.nameCountFits settings.allowedNames = true

/-- The settings with another list of ranges. -/
def PolicySettings.withPrefixes (settings : PolicySettings) (prefixes : String) : PolicySettings :=
  { settings with prefixes }

@[simp]
theorem PolicySettings.prefixes_withPrefixes (settings : PolicySettings) (prefixes : String) :
    (settings.withPrefixes prefixes).prefixes = prefixes := rfl

theorem PolicySettings.Sound.withPrefixes {naming : Pattern.Naming} {settings : PolicySettings}
    (sound : settings.Sound naming) (prefixes : String) :
    (settings.withPrefixes prefixes).Sound naming :=
  ⟨sound.pattern, sound.expiration, sound.names⟩

/-- The policy that settings ask for, once their pattern and their ranges are read. -/
def PolicySettings.policy (settings : PolicySettings) (pattern : Pattern.Compiled)
    (networks : List Prefix) : Policy where
  pattern := pattern
  networks := networks
  maximumExpiration := settings.maximumExpiration
  allowedNames := settings.allowedNames
  bypassResolution := settings.bypassResolution
  bypassHostname := settings.bypassHostname
  bypassIdentity := settings.bypassIdentity

namespace Policy

variable {naming : Pattern.Naming}

/-- The items of a list with commas between them, the blanks around them dropped. -/
def items (prefixes : String) : List (List Char) :=
  (splitAtChar ',' prefixes.toList).map (trimBoth isBlank)

/-- Whether an item of a list is a range. -/
def IsRange (item : List Char) : Prop := ∃ base length, Denotes item base length

/-- Whether an address has the leading bits that an item asks for. -/
def Admits (item : List Char) (address : Address) : Prop :=
  ∃ base length, Denotes item base length ∧ Shares length base address

/-- Whether two items ask for the same leading bits. -/
def SameRange (item other : List Char) : Prop :=
  ∃ base otherBase length, Denotes item base length ∧ Denotes other otherBase length ∧
    Shares length base otherBase

theorem items_append (first second : String) :
    items (first ++ "," ++ second) = items first ++ items second := by
  have joined : (first ++ "," ++ second).toList = first.toList ++ ',' :: second.toList := by
    simp
  rw [items, joined, Text.splitAtChar_append, List.map_append]
  rfl

theorem admits_iff {item : List Char} {base : Address} {length : Nat}
    (denotes : Denotes item base length) (address : Address) :
    Admits item address ↔ Shares length base address := by
  constructor
  · rintro ⟨otherBase, otherLength, otherDenotes, shares⟩
    obtain ⟨range, made, _⟩ := Prefix.make?_eq_some denotes.le_width
    obtain ⟨otherRange, otherMade, _⟩ := Prefix.make?_eq_some otherDenotes.le_width
    have read := Prefix.read?_eq_some.mpr ⟨base, length, denotes, made⟩
    have otherRead := Prefix.read?_eq_some.mpr ⟨otherBase, otherLength, otherDenotes, otherMade⟩
    obtain rfl := Option.some.inj (read.symm.trans otherRead)
    exact (Prefix.contains_iff made).mp ((Prefix.contains_iff otherMade).mpr shares)
  · intro shares
    exact ⟨base, length, denotes, shares⟩

theorem SameRange.admits_iff {item other : List Char} (same : SameRange item other)
    (address : Address) : Admits item address ↔ Admits other address := by
  obtain ⟨base, otherBase, length, denotes, otherDenotes, shares⟩ := same
  rw [Policy.admits_iff denotes, Policy.admits_iff otherDenotes]
  exact shares.congr address

/-! ## Reading a list of ranges -/

theorem readPrefix_eq_ok {prefixes : String} {item : List Char} {range : Prefix} :
    readPrefix prefixes item = .ok range ↔
      Prefix.read? (String.ofList (trimBoth isBlank item)) = some range := by
  unfold readPrefix
  by_cases empty : (String.ofList (trimBoth isBlank item)).isEmpty = true
  · have noText : String.ofList (trimBoth isBlank item) = "" := String.isEmpty_iff.mp empty
    have noRange : Prefix.read? "" = none := by decide
    simp [noText, noRange]
  · simp only [empty]
    cases Prefix.read? (String.ofList (trimBoth isBlank item)) with
    | none =>
        simp
    | some found =>
        simp

theorem readPrefix_eq_error {prefixes : String} {item : List Char} {fault : ConfigFault}
    (failed : readPrefix prefixes item = .error fault) :
    fault = .emptyPrefix prefixes ∨ ∃ text, fault = .badPrefix text := by
  simp only [readPrefix] at failed
  split at failed
  · exact Or.inl (Except.error.inj failed).symm
  · split at failed
    · cases failed
    · exact Or.inr ⟨_, (Except.error.inj failed).symm⟩

theorem readPrefixes_eq_ok {prefixes : String} {networks : List Prefix} :
    readPrefixes prefixes = .ok networks ↔
      List.Forall₂ (fun item range => Prefix.read? (String.ofList item) = some range)
        (items prefixes) networks := by
  rw [readPrefixes, mapM_eq_ok, items, List.forall₂_map_left_iff]
  simp only [readPrefix_eq_ok]

/-- A list of ranges is read if every item is one. -/
theorem readPrefixes_succeeds_iff (prefixes : String) :
    (∃ networks, readPrefixes prefixes = .ok networks) ↔
      ∀ item ∈ items prefixes, IsRange item := by
  have each (item : List Char) :
      (∃ range, readPrefix prefixes item = .ok range) ↔ IsRange (trimBoth isBlank item) := by
    simp only [readPrefix_eq_ok, Prefix.read?_eq_some]
    constructor
    · rintro ⟨range, base, length, denotes, _⟩
      exact ⟨base, length, denotes⟩
    · rintro ⟨base, length, denotes⟩
      obtain ⟨range, made, _⟩ := Prefix.make?_eq_some denotes.le_width
      exact ⟨range, base, length, denotes, made⟩
  rw [readPrefixes, mapM_succeeds_iff, items, List.forall_mem_map]
  simp only [each]

theorem any_contains_iff {prefixes : String} {networks : List Prefix}
    (read : readPrefixes prefixes = .ok networks) (address : Address) :
    (∃ range ∈ networks, range.contains address = true) ↔
      ∃ item ∈ items prefixes, Admits item address := by
  refine (exists_mem_iff_of_forall₂ (readPrefixes_eq_ok.mp read) fun item range readItem => ?_).symm
  constructor
  · rintro ⟨base, length, denotes, shares⟩
    obtain ⟨other, made, _⟩ := Prefix.make?_eq_some denotes.le_width
    have again := Prefix.read?_eq_some.mpr ⟨base, length, denotes, made⟩
    obtain rfl := Option.some.inj (readItem.symm.trans again)
    exact (Prefix.contains_iff made).mpr shares
  · intro contained
    obtain ⟨base, length, denotes, made⟩ := Prefix.read?_eq_some.mp readItem
    exact ⟨base, length, denotes, (Prefix.contains_iff made).mp contained⟩

/-! ## Building a policy -/

/-- With the other settings in order, the ranges decide whether there is a policy. -/
theorem build_of_sound {settings : PolicySettings} (sound : settings.Sound naming) :
    (∃ networks policy, readPrefixes settings.prefixes = .ok networks ∧
        build naming settings = .ok policy ∧ policy.networks = networks) ∨
      ∃ fault, readPrefixes settings.prefixes = .error fault ∧
        build naming settings = .error (.refused fault) := by
  obtain ⟨⟨pattern, compiled⟩, expiration, names⟩ := sound
  cases read : readPrefixes settings.prefixes with
  | ok networks =>
      left
      refine ⟨networks, settings.policy pattern networks, rfl, ?_, rfl⟩
      simp only [build, compiled, expiration, names, read]
      rfl
  | error fault =>
      right
      refine ⟨fault, rfl, ?_⟩
      simp only [build, compiled, expiration, names, read]
      rfl

theorem build_eq_ok_iff {settings : PolicySettings} (sound : settings.Sound naming) :
    (∃ policy, build naming settings = .ok policy) ↔
      ∀ item ∈ items settings.prefixes, IsRange item := by
  rw [← readPrefixes_succeeds_iff]
  rcases build_of_sound sound with ⟨networks, policy, read, built, _⟩ | ⟨fault, read, built⟩
  · exact ⟨fun _ => ⟨networks, read⟩, fun _ => ⟨policy, built⟩⟩
  · simp [read, built]

theorem allows_iff {settings : PolicySettings} (sound : settings.Sound naming) {policy : Policy}
    (built : build naming settings = .ok policy) (address : Address) :
    policy.allows address = true ↔ ∃ item ∈ items settings.prefixes, Admits item address := by
  rcases build_of_sound sound with ⟨networks, other, read, same, ranges⟩ | ⟨fault, _, refused⟩
  · obtain rfl := Except.ok.inj (built.symm.trans same)
    rw [← any_contains_iff read, allows, List.any_eq_true, ranges]
  · rw [refused] at built
    cases built

/-- A policy is built from a list of ranges exactly if every item is one, and it allows the
addresses that share the leading bits of an item, whatever bits follow them there. So two lists
that are joined allow what one of them allows, and the order of a list does not matter, nor how
often an item is in it. -/
theorem allows_exactly_listed (naming : Pattern.Naming) (settings : PolicySettings)
    (sound : settings.Sound naming) :
    ((∀ item ∈ items settings.prefixes, IsRange item) →
      ∃ policy, build naming settings = .ok policy ∧ ∀ address,
        policy.allows address = true ↔ ∃ item ∈ items settings.prefixes, Admits item address) ∧
    ((∃ item ∈ items settings.prefixes, ¬IsRange item) →
      ∃ fault, build naming settings = .error (.refused fault)) ∧
    (∀ more first second, build naming settings = .ok first →
      build naming (settings.withPrefixes more) = .ok second →
      ∃ both, build naming (settings.withPrefixes (settings.prefixes ++ "," ++ more)) = .ok both ∧
        ∀ address, both.allows address = true ↔
          first.allows address = true ∨ second.allows address = true) ∧
    (∀ other first second, build naming settings = .ok first →
      build naming (settings.withPrefixes other) = .ok second →
      (∀ item ∈ items settings.prefixes, ∃ same ∈ items other, SameRange item same) →
      (∀ item ∈ items other, ∃ same ∈ items settings.prefixes, SameRange item same) →
      ∀ address, first.allows address = second.allows address) := by
  refine ⟨?_, ?_, ?_, ?_⟩
  · intro ranges
    obtain ⟨policy, built⟩ := (build_eq_ok_iff sound).mpr ranges
    exact ⟨policy, built, allows_iff sound built⟩
  · rintro ⟨item, member, noRange⟩
    rcases build_of_sound sound with ⟨networks, policy, _, built, _⟩ | ⟨fault, _, refused⟩
    · exact absurd ((build_eq_ok_iff sound).mp ⟨policy, built⟩ item member) noRange
    · exact ⟨fault, refused⟩
  · intro more first second builtFirst builtSecond
    have soundMore := sound.withPrefixes more
    have soundBoth := sound.withPrefixes (settings.prefixes ++ "," ++ more)
    have ranges := (build_eq_ok_iff sound).mp ⟨first, builtFirst⟩
    have moreRanges := (build_eq_ok_iff soundMore).mp ⟨second, builtSecond⟩
    have allRanges : ∀ item ∈ items (settings.prefixes ++ "," ++ more), IsRange item := by
      rw [items_append, List.forall_mem_append]
      exact ⟨ranges, moreRanges⟩
    obtain ⟨both, builtBoth⟩ := (build_eq_ok_iff soundBoth).mpr allRanges
    refine ⟨both, builtBoth, fun address => ?_⟩
    rw [allows_iff soundBoth builtBoth, allows_iff sound builtFirst,
      allows_iff soundMore builtSecond, PolicySettings.prefixes_withPrefixes, items_append]
    simp only [List.mem_append, or_and_right, exists_or, PolicySettings.prefixes_withPrefixes]
  · intro other first second builtFirst builtSecond covered covers address
    rw [Bool.eq_iff_iff, allows_iff sound builtFirst,
      allows_iff (sound.withPrefixes other) builtSecond]
    constructor
    · rintro ⟨item, member, admits⟩
      obtain ⟨same, memberSame, sameRange⟩ := covered item member
      exact ⟨same, memberSame, (sameRange.admits_iff address).mp admits⟩
    · rintro ⟨item, member, admits⟩
      obtain ⟨same, memberSame, sameRange⟩ := covers item member
      exact ⟨same, memberSame, (sameRange.admits_iff address).mp admits⟩

/-! ## A list with one range -/

/-- No character has a name. -/
def noNames : Pattern.Naming := fun _ => none

def tenSettings : PolicySettings where
  pattern := ".*"
  prefixes := "10.0.1.7/08"
  maximumExpiration := 86400

theorem sound_tenSettings : tenSettings.Sound noNames where
  pattern := ⟨_, rfl⟩
  expiration := by decide
  names := by decide

theorem denotes_ten : Denotes "10.0.1.7/08".toList (.v4 0x0a000107) 8 := by
  have parts : "10.0.1.7/08".toList = "10.0.1.7".toList ++ '/' :: "08".toList := by decide
  have digits : ∀ c ∈ "08".toList, c.isDigit = true := by simp
  have written : Prefix.LengthText .v4 (some "08".toList) 8 :=
    .number ⟨by decide, digits, by decide, by decide⟩ (by decide)
  rw [parts]
  exact .range (by decide) written

/-- The same range with other bits after its leading ones, and with a mask for its length. -/
theorem denotes_mask : Denotes "10.9.0.0/255.0.0.0".toList (.v4 0x0a090000) 8 := by
  have parts : "10.9.0.0/255.0.0.0".toList = "10.9.0.0".toList ++ '/' :: "255.0.0.0".toList := by
    decide
  have read : Address.readV4? "255.0.0.0".toList = some 0xff000000 := by decide
  rw [parts]
  exact .range (by decide) (.mask read (by decide) (by decide))

theorem denotes_single :
    Denotes "fd00::1".toList (.v6 0xfd000000000000000000000000000001 none) 128 :=
  .single (by decide)

theorem items_ten : items tenSettings.prefixes = ["10.0.1.7/08".toList] := by decide

theorem items_mask : items "10.9.0.0/255.0.0.0, 10.9.0.0/255.0.0.0" =
    ["10.9.0.0/255.0.0.0".toList, "10.9.0.0/255.0.0.0".toList] := by decide

/-- The range holds an address of version 4, but not the one of version 6 that stands for it. -/
theorem allows_exactly_listed_ten :
    ∃ ten single mask, build noNames tenSettings = .ok ten ∧
      ten.allows (.v4 0x0a636363) = true ∧ ten.allows (.v6 0xffff0a636363 none) = false ∧
      (∃ fault,
        build noNames (tenSettings.withPrefixes "10.0.1.7/08, ") = .error (.refused fault)) ∧
      build noNames (tenSettings.withPrefixes "fd00::1") = .ok single ∧
      (∃ both, build noNames (tenSettings.withPrefixes "10.0.1.7/08,fd00::1") = .ok both ∧
        ∀ address, both.allows address = true ↔
          ten.allows address = true ∨ single.allows address = true) ∧
      build noNames (tenSettings.withPrefixes "10.9.0.0/255.0.0.0, 10.9.0.0/255.0.0.0") =
        .ok mask ∧
      ∀ address, ten.allows address = mask.allows address := by
  have rangeTen : ∀ item ∈ items tenSettings.prefixes, IsRange item := by
    rw [items_ten, List.forall_mem_singleton]
    exact ⟨_, _, denotes_ten⟩
  have rangeSingle : ∀ item ∈ items "fd00::1", IsRange item := by
    have item : items "fd00::1" = ["fd00::1".toList] := by decide
    rw [item, List.forall_mem_singleton]
    exact ⟨_, _, denotes_single⟩
  have rangeMask : ∀ item ∈ items "10.9.0.0/255.0.0.0, 10.9.0.0/255.0.0.0", IsRange item := by
    rw [items_mask]
    intro item member
    obtain rfl : item = "10.9.0.0/255.0.0.0".toList := by simpa using member
    exact ⟨_, _, denotes_mask⟩
  have noRange : ∃ item ∈ items "10.0.1.7/08, ", ¬IsRange item := by
    refine ⟨[], by decide, ?_⟩
    rintro ⟨base, length, denotes⟩
    obtain ⟨range, made, _⟩ := Prefix.make?_eq_some denotes.le_width
    have read := Prefix.read?_eq_some.mpr ⟨base, length, denotes, made⟩
    have noText : Prefix.read? (String.ofList []) = none := by decide
    cases noText.symm.trans read
  obtain ⟨hasTen, _, joins, sames⟩ := allows_exactly_listed noNames tenSettings sound_tenSettings
  obtain ⟨hasSingle, _⟩ := allows_exactly_listed noNames (tenSettings.withPrefixes "fd00::1")
    (sound_tenSettings.withPrefixes _)
  obtain ⟨hasMask, _⟩ := allows_exactly_listed noNames
    (tenSettings.withPrefixes "10.9.0.0/255.0.0.0, 10.9.0.0/255.0.0.0")
    (sound_tenSettings.withPrefixes _)
  obtain ⟨_, refuses, _⟩ := allows_exactly_listed noNames
    (tenSettings.withPrefixes "10.0.1.7/08, ") (sound_tenSettings.withPrefixes _)
  obtain ⟨ten, builtTen, allowsTen⟩ := hasTen rangeTen
  obtain ⟨single, builtSingle, _⟩ := hasSingle rangeSingle
  obtain ⟨mask, builtMask, _⟩ := hasMask rangeMask
  have admitsTen (address : Address) :
      ten.allows address = true ↔ Shares 8 (.v4 0x0a000107) address := by
    rw [allowsTen, items_ten]
    simp only [List.mem_singleton, exists_eq_left, admits_iff denotes_ten]
  have same : SameRange "10.0.1.7/08".toList "10.9.0.0/255.0.0.0".toList :=
    ⟨_, _, 8, denotes_ten, denotes_mask, rfl, by decide⟩
  have sameBack : SameRange "10.9.0.0/255.0.0.0".toList "10.0.1.7/08".toList :=
    ⟨_, _, 8, denotes_mask, denotes_ten, rfl, by decide⟩
  refine ⟨ten, single, mask, builtTen, ?_, ?_, refuses noRange, builtSingle, ?_, builtMask, ?_⟩
  · exact (admitsTen _).mpr ⟨rfl, by decide⟩
  · rw [Bool.eq_false_iff]
    intro admitted
    obtain ⟨otherVersion, _⟩ := (admitsTen _).mp admitted
    cases otherVersion
  · exact joins "fd00::1" ten single builtTen builtSingle
  · apply sames _ ten mask builtTen builtMask
    · rw [items_ten, List.forall_mem_singleton, items_mask]
      exact ⟨_, List.mem_cons_self, same⟩
    · rw [items_ten, items_mask]
      intro item member
      obtain rfl : item = "10.9.0.0/255.0.0.0".toList := by simpa using member
      exact ⟨_, List.mem_cons_self, sameBack⟩

/-! ## A length with too many digits -/

/-- A small number in many decimal digits. -/
def longEight : List Char := List.replicate 4300 '0' ++ ['8']

def longSettings : PolicySettings :=
  tenSettings.withPrefixes (String.ofList ("10.0.0.0".toList ++ '/' :: longEight))

theorem decimalNat_replicate (count : Nat) (digits : List Char) :
    Address.decimalNat (List.replicate count '0' ++ digits) = Address.decimalNat digits := by
  have zeros : (List.replicate count '0').foldl
      (fun value c => value * 10 + (c.toNat - '0'.toNat)) 0 = 0 := by
    induction count with
    | zero =>
        rfl
    | succ count inductionHypothesis =>
        exact inductionHypothesis
  rw [Address.decimalNat, List.foldl_append, zeros]
  rfl

theorem length_longEight : longEight.length = 4301 := by
  rw [longEight, List.length_append, List.length_replicate]
  rfl

theorem build_longSettings_refused :
    longSettings.Sound noNames ∧
      items longSettings.prefixes = ["10.0.0.0".toList ++ '/' :: longEight] ∧
      Address.read? "10.0.0.0" = some (.v4 0x0a000000) ∧
      (∀ c ∈ longEight, c.isDigit = true) ∧ Address.decimalNat longEight = 8 ∧
      ¬∃ policy, build noNames longSettings = .ok policy := by
  have sound : longSettings.Sound noNames := sound_tenSettings.withPrefixes _
  have digits : ∀ c ∈ longEight, c = '0' ∨ c = '8' := by
    intro c member
    rcases List.mem_append.mp member with zero | eight
    · exact Or.inl (List.eq_of_mem_replicate zero)
    · exact Or.inr (List.mem_singleton.mp eight)
  have absent {other : Char} (noZero : other ≠ '0') (noEight : other ≠ '8') : other ∉ longEight :=
    fun member => (digits other member).elim noZero noEight
  have listed : items longSettings.prefixes = ["10.0.0.0".toList ++ '/' :: longEight] := by
    have noComma : ',' ∉ "10.0.0.0".toList ++ '/' :: longEight := by
      rw [List.mem_append, List.mem_cons]
      rintro (inAddress | slash | inLength)
      · exact absurd inAddress (by decide)
      · cases slash
      · exact absent (by decide) (by decide) inLength
    have lead : "10.0.0.0".toList = '1' :: "0.0.0.0".toList := by decide
    have ends : "10.0.0.0".toList ++ '/' :: longEight =
        '1' :: ("0.0.0.0".toList ++ '/' :: List.replicate 4300 '0') ++ ['8'] := by
      rw [lead, longEight]
      simp only [List.cons_append, List.append_assoc]
    rw [longSettings, PolicySettings.prefixes_withPrefixes, items, String.toList_ofList,
      Text.splitAtChar_of_not_mem noComma, List.map_singleton, ends,
      Text.trimBoth_eq_self _ (by decide) (by decide)]
  refine ⟨sound, listed, by decide, ?_, ?_, ?_⟩
  · intro c member
    rcases digits c member with rfl | rfl <;> decide
  · exact decimalNat_replicate 4300 ['8']
  · rw [build_eq_ok_iff sound, listed, List.forall_mem_singleton]
    rintro ⟨base, length, denotes⟩
    obtain ⟨_, written⟩ := denotes.split (by decide) (absent (by decide) (by decide))
    generalize base.version = version at written
    cases written with
    | number numeral fits =>
        have short := numeral.2.2.1
        rw [length_longEight] at short
        exact absurd short (by decide)
    | mask read fits leading | hostMask read positive fits following =>
        exact absent (by decide) (by decide) (Address.point_mem_of_readV4? read)

end Policy

end CertApproval.Review
