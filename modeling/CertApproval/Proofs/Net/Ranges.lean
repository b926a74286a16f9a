import CertApproval.Net.Prefix
import CertApproval.Proofs.Text.Pieces
import Mathlib.Algebra.Group.Nat.Defs
import Mathlib.Data.List.Basic
import Mathlib.Tactic.Tauto

/-!
Ranges of addresses as they are written: an address, and after a slash how many of its leading
bits count. Main statements: a text is read exactly if it is written so, and an address lies in
the range that is read exactly if its leading bits are those of the address that was written,
whatever follows them there.
-/

namespace CertApproval.Net

open CertApproval.Text (splitAtChar splitAtChar_eq_iff splitAtChar_of_not_mem splitAtChar_pair)

/-! ## Addresses of version 4 -/

namespace Address

theorem isDigit_of_readOctet? {digits : List Char} {value : Nat}
    (read : readOctet? digits = some value) : ∀ c ∈ digits, c.isDigit = true := by
  unfold readOctet? at read
  split at read
  · cases read
  · next sound =>
      have all : digits.all Char.isDigit = true := by
        by_contra other
        exact sound (Or.inr (Or.inl (by simpa using other)))
      exact List.all_eq_true.mp all

/-- An address of version 4 is four runs of digits with points between them. -/
theorem octets_of_readV4? {text : List Char} {bits : BitVec 32} (read : readV4? text = some bits) :
    ∃ a b c d, text = a ++ '.' :: b ++ '.' :: c ++ '.' :: d ∧
      ∀ digits ∈ [a, b, c, d], ∀ character ∈ digits, character.isDigit = true := by
  unfold readV4? at read
  split at read
  · next a b c d pieces =>
      obtain ⟨joined, _⟩ := (splitAtChar_eq_iff (List.cons_ne_nil a [b, c, d])).mp pieces
      split at read
      · next readA readB readC readD =>
          refine ⟨a, b, c, d, ?_, ?_⟩
          · rw [joined]
            simp [List.intercalate]
          · simp only [List.forall_mem_cons]
            exact ⟨isDigit_of_readOctet? readA, isDigit_of_readOctet? readB,
              isDigit_of_readOctet? readC, isDigit_of_readOctet? readD, by simp⟩
      · cases read
  · cases read

theorem isDigit_or_point_of_readV4? {text : List Char} {bits : BitVec 32}
    (read : readV4? text = some bits) : ∀ c ∈ text, c.isDigit = true ∨ c = '.' := by
  obtain ⟨a, b, c, d, rfl, digits⟩ := octets_of_readV4? read
  simp only [List.forall_mem_cons] at digits
  obtain ⟨inA, inB, inC, inD, _⟩ := digits
  intro character member
  simp only [List.mem_append, List.mem_cons] at member
  rcases member with ((isA | point | isB) | point | isC) | point | isD
  · exact Or.inl (inA character isA)
  · exact Or.inr point
  · exact Or.inl (inB character isB)
  · exact Or.inr point
  · exact Or.inl (inC character isC)
  · exact Or.inr point
  · exact Or.inl (inD character isD)

theorem point_mem_of_readV4? {text : List Char} {bits : BitVec 32}
    (read : readV4? text = some bits) : '.' ∈ text := by
  obtain ⟨a, b, c, d, rfl, _⟩ := octets_of_readV4? read
  simp

theorem not_mem_of_readV4? {text : List Char} {bits : BitVec 32} (read : readV4? text = some bits)
    {character : Char} (noDigit : character.isDigit = false) (noPoint : character ≠ '.') :
    character ∉ text := by
  intro member
  rcases isDigit_or_point_of_readV4? read character member with isDigit | isPoint
  · rw [noDigit] at isDigit
    cases isDigit
  · exact noPoint isPoint

/-- No text is an address of both versions. -/
theorem readV6?_of_readV4? {text : List Char} {bits : BitVec 32}
    (read : readV4? text = some bits) : readV6? text = none := by
  have noScope : splitAtChar '%' text = [text] :=
    splitAtChar_of_not_mem (not_mem_of_readV4? read (by decide) (by decide))
  have noColon : splitAtChar ':' text = [text] :=
    splitAtChar_of_not_mem (not_mem_of_readV4? read (by decide) (by decide))
  have twoGroups : readV6Bits? text = none := by
    have point := point_mem_of_readV4? read
    simp [readV6Bits?, noColon, expandLast?, point, read]
  simp [readV6?, noScope, twoGroups]

theorem version_readV6? {text : List Char} {address : Address}
    (read : readV6? text = some address) : address.version = .v6 := by
  unfold readV6? at read
  split at read
  · obtain ⟨bits, _, rfl⟩ := Option.map_eq_some_iff.mp read
    rfl
  · split at read
    · cases read
    · obtain ⟨bits, _, rfl⟩ := Option.map_eq_some_iff.mp read
      rfl
  · cases read

theorem slash_not_mem_of_read? {text : List Char} {address : Address}
    (read : read? (String.ofList text) = some address) : '/' ∉ text := by
  intro member
  rw [read?, String.toList_ofList] at read
  simp [member] at read

theorem read?_of_readV4? {text : List Char} {bits : BitVec 32} (read : readV4? text = some bits) :
    read? (String.ofList text) = some (.v4 bits) := by
  have noSlash : '/' ∉ text := not_mem_of_readV4? read (by decide) (by decide)
  simp [read?, noSlash, read]

theorem read?_of_readV4?_eq_none {text : List Char} (noSlash : '/' ∉ text)
    (other : readV4? text = none) : read? (String.ofList text) = readV6? text := by
  simp [read?, noSlash, other]

end Address

namespace Prefix

/-! ## Lengths -/

/-- Whether a text is a number in decimal digits. Zeros may come first. -/
def Numeral (digits : List Char) (value : Nat) : Prop :=
  digits ≠ [] ∧ (∀ c ∈ digits, c.isDigit = true) ∧ digits.length ≤ digitLimit ∧
    Address.decimalNat digits = value

/-- What may be written for the length of a range, and the length that it stands for: nothing, for
a single address; a number; or for version 4 a mask of the leading bits, or of those after them. -/
inductive LengthText : Version → Option (List Char) → Nat → Prop
  | none (version : Version) : LengthText version none version.width
  | number {version : Version} {digits : List Char} {length : Nat}
      (numeral : Numeral digits length) (fits : length ≤ version.width) :
      LengthText version (some digits) length
  | mask {text : List Char} {bits : BitVec 32} {length : Nat}
      (read : Address.readV4? text = some bits) (fits : length ≤ 32)
      (leading : bits.toNat = 2 ^ 32 - 2 ^ (32 - length)) : LengthText .v4 (some text) length
  | hostMask {text : List Char} {bits : BitVec 32} {length : Nat}
      (read : Address.readV4? text = some bits) (positive : 0 < length) (fits : length < 32)
      (following : bits.toNat = 2 ^ (32 - length) - 1) : LengthText .v4 (some text) length

theorem LengthText.le_width {version : Version} {text : Option (List Char)} {length : Nat}
    (written : LengthText version text length) : length ≤ version.width := by
  cases written with
  | none =>
      exact Nat.le_refl _
  | number numeral fits =>
      exact fits
  | mask read fits leading =>
      exact fits
  | hostMask read positive fits following =>
      exact Nat.le_of_lt fits

theorem LengthText.slash_not_mem {version : Version} {text : List Char} {length : Nat}
    (written : LengthText version (some text) length) : '/' ∉ text := by
  cases written with
  | number numeral fits =>
      intro member
      have isDigit := numeral.2.1 '/' member
      exact absurd isDigit (by decide)
  | mask read fits leading | hostMask read positive fits following =>
      exact Address.not_mem_of_readV4? read (by decide) (by decide)

theorem readLength?_eq_some {digits : List Char} {width length : Nat} :
    readLength? digits width = some length ↔ Numeral digits length ∧ length ≤ width := by
  have sound : ¬(digits.isEmpty = true ∨ (!digits.all Char.isDigit) = true ∨
        digitLimit < digits.length) ↔
      digits ≠ [] ∧ (∀ c ∈ digits, c.isDigit = true) ∧ digits.length ≤ digitLimit := by
    simp
  unfold readLength? Numeral
  by_cases refused : digits.isEmpty = true ∨ (!digits.all Char.isDigit) = true ∨
      digitLimit < digits.length
  · rw [if_pos refused]
    have bad := mt sound.mpr (not_not_intro refused)
    constructor
    · intro impossible
      cases impossible
    · rintro ⟨⟨nonempty, decimal, short, _⟩, _⟩
      exact absurd ⟨nonempty, decimal, short⟩ bad
  · rw [if_neg refused]
    obtain ⟨nonempty, decimal, short⟩ := sound.mp refused
    by_cases long : width < Address.decimalNat digits
    · rw [if_pos long]
      constructor
      · intro impossible
        cases impossible
      · rintro ⟨⟨_, _, _, rfl⟩, fits⟩
        omega
    · rw [if_neg long]
      constructor
      · intro same
        obtain rfl := Option.some.inj same
        exact ⟨⟨nonempty, decimal, short, rfl⟩, Nat.le_of_not_lt long⟩
      · rintro ⟨⟨_, _, _, rfl⟩, _⟩
        rfl

theorem pow_le_two_pow (length : Nat) : 2 ^ (32 - length) ≤ 2 ^ 32 :=
  Nat.pow_le_pow_right Nat.two_pos (Nat.sub_le 32 length)

theorem maskLength?_eq_some {mask length : Nat} :
    maskLength? mask = some length ↔ length ≤ 32 ∧ mask = 2 ^ 32 - 2 ^ (32 - length) := by
  have isMask (other : Nat) :
      decide (mask = Nat.pow 2 32 - Nat.pow 2 (32 - other)) = true ↔
        mask = 2 ^ 32 - 2 ^ (32 - other) := decide_eq_true_iff
  unfold maskLength?
  constructor
  · intro found
    have inRange := List.mem_of_find?_eq_some found
    have leading := List.find?_some found
    rw [List.mem_range] at inRange
    exact ⟨Nat.le_of_lt_succ inRange, (isMask length).mp leading⟩
  · rintro ⟨fits, leading⟩
    have inRange : length ∈ List.range 33 := List.mem_range.mpr (Nat.lt_succ_of_le fits)
    cases found : (List.range 33).find? fun length =>
        mask = Nat.pow 2 32 - Nat.pow 2 (32 - length) with
    | none =>
        have missed := List.find?_eq_none.mp found length inRange
        exact absurd ((isMask length).mpr leading) missed
    | some other =>
        have otherRange := List.mem_range.mp (List.mem_of_find?_eq_some found)
        have passed := List.find?_some found
        have otherLeading := (isMask other).mp passed
        have samePower : 2 ^ (32 - other) = 2 ^ (32 - length) := by
          have bound := pow_le_two_pow length
          have otherBound := pow_le_two_pow other
          omega
        have sameDistance := Nat.pow_right_inj (Nat.one_lt_two) |>.mp samePower
        have same : other = length := by omega
        rw [same]

/-- A mask of the bits that follow some leading ones is no mask of leading bits: it is odd, and a
mask of leading bits is even unless all bits are set. -/
theorem maskLength?_following {length : Nat} (positive : 0 < length) (fits : length < 32) :
    maskLength? (2 ^ (32 - length) - 1) = none := by
  cases found : maskLength? (2 ^ (32 - length) - 1) with
  | none =>
      rfl
  | some other =>
      obtain ⟨otherFits, same⟩ := maskLength?_eq_some.mp found
      obtain ⟨half, isHalf⟩ : ∃ half, 32 - length = half + 1 := ⟨31 - length, by omega⟩
      have small : 2 ^ half ≤ 2 ^ 30 := Nat.pow_le_pow_right Nat.two_pos (by omega)
      have big : 0 < 2 ^ half := Nat.two_pow_pos half
      rw [isHalf, Nat.pow_succ] at same
      cases rest : 32 - other with
      | zero =>
          rw [rest] at same
          omega
      | succ otherHalf =>
          have bound := pow_le_two_pow other
          rw [rest, Nat.pow_succ] at same bound
          omega

theorem readMask?_eq_some {text : List Char} {length : Nat} :
    readMask? text = some length ↔
      ∃ bits, Address.readV4? text = some bits ∧
        (length ≤ 32 ∧ bits.toNat = 2 ^ 32 - 2 ^ (32 - length) ∨
          (0 < length ∧ length < 32) ∧ bits.toNat = 2 ^ (32 - length) - 1) := by
  unfold readMask?
  cases read : Address.readV4? text with
  | none =>
      simp
  | some bits =>
      simp only [Option.some.injEq, exists_eq_left']
      cases leading : maskLength? bits.toNat with
      | some found =>
          obtain ⟨foundFits, isFound⟩ := maskLength?_eq_some.mp leading
          simp only [Option.some.injEq]
          constructor
          · rintro rfl
            exact Or.inl ⟨foundFits, isFound⟩
          · rintro (isMask | ⟨⟨positive, fits⟩, following⟩)
            · have again := maskLength?_eq_some.mpr isMask
              exact Option.some.inj (leading.symm.trans again)
            · rw [following, maskLength?_following positive fits] at leading
              cases leading
      | none =>
          have noMask (fits : length ≤ 32) : bits.toNat ≠ 2 ^ 32 - 2 ^ (32 - length) := by
            intro isMask
            rw [maskLength?_eq_some.mpr ⟨fits, isMask⟩] at leading
            cases leading
          have noOther (isAll : bits.toNat = 2 ^ 32 - 1 ∨ bits.toNat = 0) : False := by
            rcases isAll with ones | zeros
            · rw [maskLength?_eq_some.mpr ⟨Nat.le_refl 32, ones⟩] at leading
              cases leading
            · rw [maskLength?_eq_some.mpr ⟨Nat.zero_le 32, zeros⟩] at leading
              cases leading
          have bound := bits.isLt
          have powerBound := pow_le_two_pow length
          have powerPositive := Nat.two_pow_pos (32 - length)
          have host : Nat.pow 2 32 - 1 - bits.toNat = 2 ^ 32 - 2 ^ (32 - length) ↔
              bits.toNat = 2 ^ (32 - length) - 1 := by
            change 2 ^ 32 - 1 - bits.toNat = 2 ^ 32 - 2 ^ (32 - length) ↔ _
            omega
          rw [maskLength?_eq_some, host]
          constructor
          · rintro ⟨fits, following⟩
            refine Or.inr ⟨⟨?_, ?_⟩, following⟩
            · by_contra zero
              obtain rfl : length = 0 := by omega
              exact noOther (Or.inl following)
            · by_contra whole
              obtain rfl : length = 32 := by omega
              exact noOther (Or.inr following)
          · rintro (⟨fits, isMask⟩ | ⟨⟨_, fits⟩, following⟩)
            · exact absurd isMask (noMask fits)
            · exact ⟨Nat.le_of_lt fits, following⟩

/-- A mask is no number. -/
theorem readLength?_of_readV4? {text : List Char} {bits : BitVec 32} {width : Nat}
    (read : Address.readV4? text = some bits) : readLength? text width = none := by
  cases found : readLength? text width with
  | none =>
      rfl
  | some length =>
      have numeral := (readLength?_eq_some.mp found).1
      have isDigit := numeral.2.1 '.' (Address.point_mem_of_readV4? read)
      exact absurd isDigit (by decide)

/-! ## Ranges -/

/-- Whether a text is an address alone, or an address and a length with a slash between them. -/
inductive Denotes : List Char → Address → Nat → Prop
  | single {text : List Char} {address : Address}
      (read : Address.read? (String.ofList text) = some address) :
      Denotes text address address.version.width
  | range {before after : List Char} {address : Address} {length : Nat}
      (read : Address.read? (String.ofList before) = some address)
      (written : LengthText address.version (some after) length) :
      Denotes (before ++ '/' :: after) address length

theorem Denotes.le_width {text : List Char} {address : Address} {length : Nat}
    (denotes : Denotes text address length) : length ≤ address.version.width := by
  cases denotes with
  | single read =>
      exact Nat.le_refl _
  | range read written =>
      exact written.le_width

/-- Whether an address has the leading bits of another one of its version. -/
def Shares (length : Nat) (address other : Address) : Prop :=
  other.version = address.version ∧
    other.toNat >>> (other.version.width - length) =
      address.toNat >>> (address.version.width - length)

/-- Addresses that share their leading bits share them with the same addresses. -/
theorem Shares.congr {length : Nat} {address other : Address} (shares : Shares length address other)
    (third : Address) : Shares length address third ↔ Shares length other third := by
  rw [Shares, Shares, shares.1, ← shares.2, shares.1]

theorem make?_eq_some {address : Address} {length : Nat}
    (fits : length ≤ address.version.width) :
    ∃ range, make? address length = some range ∧ range.base = clearHost address length ∧
      range.length = length := by
  rw [make?, dif_pos fits]
  exact ⟨_, rfl, rfl, rfl⟩

/-- Clearing the bits that follow leaves the leading ones as they are. -/
theorem leadingBits_clearHost (address : Address) (length : Nat) :
    leadingBits (clearHost address length) length = leadingBits address length := by
  have cleared {width : Nat} (bits : BitVec width) (distance : Nat) :
      (bits >>> distance <<< distance).toNat >>> distance = bits.toNat >>> distance := by
    have below : bits.toNat >>> distance <<< distance < 2 ^ width := by
      rw [Nat.shiftRight_eq_div_pow, Nat.shiftLeft_eq]
      exact Nat.lt_of_le_of_lt (Nat.div_mul_le_self _ _) bits.isLt
    rw [BitVec.toNat_shiftLeft, BitVec.toNat_ushiftRight, Nat.mod_eq_of_lt below,
      Nat.shiftLeft_shiftRight]
  cases address with
  | v4 bits =>
      exact cleared bits (32 - length)
  | v6 bits scope =>
      simp only [leadingBits, clearHost]
      split
      · rfl
      · exact cleared bits (128 - length)

theorem contains_iff {address other : Address} {length : Nat} {range : Prefix}
    (made : make? address length = some range) :
    range.contains other = true ↔ Shares length address other := by
  have fits : length ≤ address.version.width := by
    by_contra long
    rw [make?, dif_neg long] at made
    cases made
  obtain ⟨_, same, base, lengthEq⟩ := make?_eq_some fits
  obtain rfl := Option.some.inj (made.symm.trans same)
  have leading : leadingBits range.base range.length = leadingBits address length := by
    rw [base, lengthEq, leadingBits_clearHost]
  have version : range.base.version = address.version := by
    rw [base, version_clearHost]
  rw [contains, Bool.and_eq_true, decide_eq_true_iff, decide_eq_true_iff, leading, version,
    lengthEq]
  rfl

/-- The length that is read of what stands after an address. -/
def length? : Version → Option (List Char) → Option Nat
  | version, none => some version.width
  | .v4, some text => (readLength? text 32).or (readMask? text)
  | .v6, some text => readLength? text 128

theorem length?_eq_some {version : Version} {rest : Option (List Char)} {length : Nat} :
    length? version rest = some length ↔ LengthText version rest length := by
  constructor
  · intro read
    cases rest with
    | none =>
        obtain rfl := Option.some.inj read
        exact .none version
    | some text =>
        cases version with
        | v4 =>
            rcases Option.or_eq_some_iff.mp read with isNumber | ⟨_, isMask⟩
            · obtain ⟨numeral, fits⟩ := readLength?_eq_some.mp isNumber
              exact .number numeral fits
            · obtain ⟨bits, readBits, ⟨fits, leading⟩ | ⟨⟨positive, fits⟩, following⟩⟩ :=
                readMask?_eq_some.mp isMask
              · exact .mask readBits fits leading
              · exact .hostMask readBits positive fits following
        | v6 =>
            obtain ⟨numeral, fits⟩ := readLength?_eq_some.mp read
            exact .number numeral fits
  · intro written
    cases written with
    | none =>
        rfl
    | number numeral fits =>
        have read := readLength?_eq_some.mpr ⟨numeral, fits⟩
        cases version with
        | v4 =>
            exact Option.or_eq_some_iff.mpr (Or.inl read)
        | v6 =>
            exact read
    | mask read fits leading =>
        have isMask := readMask?_eq_some.mpr ⟨_, read, Or.inl ⟨fits, leading⟩⟩
        exact Option.or_eq_some_iff.mpr (Or.inr ⟨readLength?_of_readV4? read, isMask⟩)
    | hostMask read positive fits following =>
        have isMask := readMask?_eq_some.mpr ⟨_, read, Or.inr ⟨⟨positive, fits⟩, following⟩⟩
        exact Option.or_eq_some_iff.mpr (Or.inr ⟨readLength?_of_readV4? read, isMask⟩)

theorem readV4?_eq (text : List Char) (rest : Option (List Char)) :
    readV4? text rest =
      (Address.readV4? text).bind fun bits => (length? .v4 rest).bind (make? (.v4 bits)) := by
  unfold readV4?
  cases Address.readV4? text with
  | none =>
      rfl
  | some bits =>
      cases rest with
      | none =>
          rfl
      | some digits =>
          simp only [Option.bind_some, length?]
          cases readLength? digits 32 with
          | none =>
              cases readMask? digits <;> rfl
          | some length =>
              rfl

theorem readV6?_eq (text : List Char) (rest : Option (List Char)) :
    readV6? text rest =
      (Address.readV6? text).bind fun address => (length? .v6 rest).bind (make? address) := by
  unfold readV6?
  cases Address.readV6? text with
  | none =>
      rfl
  | some address =>
      cases rest with
      | none =>
          rfl
      | some digits =>
          simp only [Option.bind_some, length?]
          cases readLength? digits 128 <;> rfl

/-- The address decides of which version a range is. -/
theorem orElse_eq {text : List Char} (noSlash : '/' ∉ text) (rest : Option (List Char)) :
    ((readV4? text rest).orElse fun _ => readV6? text rest) =
      (Address.read? (String.ofList text)).bind fun address =>
        (length? address.version rest).bind (make? address) := by
  rw [readV4?_eq, readV6?_eq]
  cases first : Address.readV4? text with
  | some bits =>
      rw [Address.readV6?_of_readV4? first, Address.read?_of_readV4? first]
      simp [Address.version]
  | none =>
      rw [Address.read?_of_readV4?_eq_none noSlash first]
      cases second : Address.readV6? text with
      | none =>
          rfl
      | some address =>
          have version := Address.version_readV6? second
          simp [version]

theorem Denotes.split {before after : List Char} {address : Address} {length : Nat}
    (denotes : Denotes (before ++ '/' :: after) address length) (noSlash : '/' ∉ before)
    (noOther : '/' ∉ after) :
    Address.read? (String.ofList before) = some address ∧
      LengthText address.version (some after) length := by
  have pieces := splitAtChar_pair noSlash noOther
  generalize whole : before ++ '/' :: after = text at denotes pieces
  cases denotes with
  | single read =>
      have impossible := Address.slash_not_mem_of_read? read
      exact absurd (by simp [← whole]) impossible
  | range read written =>
      rw [splitAtChar_pair (Address.slash_not_mem_of_read? read) written.slash_not_mem] at pieces
      obtain ⟨rfl, rfl⟩ : _ = before ∧ _ = after := by simpa using pieces
      exact ⟨read, written⟩

theorem read?_eq_some {text : List Char} {range : Prefix} :
    read? (String.ofList text) = some range ↔
      ∃ address length, Denotes text address length ∧ make? address length = some range := by
  have attempt {before : List Char} (noSlash : '/' ∉ before) (rest : Option (List Char)) :
      ((readV4? before rest).orElse fun _ => readV6? before rest) = some range ↔
        ∃ address length, Address.read? (String.ofList before) = some address ∧
          LengthText address.version rest length ∧ make? address length = some range := by
    simp only [orElse_eq noSlash, Option.bind_eq_some_iff, length?_eq_some, exists_and_left]
  rw [read?, String.toList_ofList]
  constructor
  · intro read
    split at read
    · next before pieces =>
        obtain ⟨joined, absent⟩ := (splitAtChar_eq_iff (List.cons_ne_nil _ _)).mp pieces
        have noSlash := absent before List.mem_cons_self
        obtain ⟨address, length, readAddress, written, made⟩ := (attempt noSlash none).mp read
        obtain rfl := Option.some.inj (length?_eq_some.mpr written)
        refine ⟨address, _, ?_, made⟩
        rw [joined]
        simpa [List.intercalate] using Denotes.single readAddress
    · next before after pieces =>
        obtain ⟨joined, absent⟩ := (splitAtChar_eq_iff (List.cons_ne_nil _ _)).mp pieces
        have noSlash := absent before List.mem_cons_self
        obtain ⟨address, length, readAddress, written, made⟩ :=
          (attempt noSlash (some after)).mp read
        refine ⟨address, length, ?_, made⟩
        rw [joined]
        simpa [List.intercalate] using Denotes.range readAddress written
    · cases read
  · rintro ⟨address, length, denotes, made⟩
    cases denotes with
    | single readAddress =>
        have noSlash := Address.slash_not_mem_of_read? readAddress
        rw [splitAtChar_of_not_mem noSlash]
        exact (attempt noSlash none).mpr ⟨address, _, readAddress, .none _, made⟩
    | @range before after _ _ readAddress written =>
        have noSlash := Address.slash_not_mem_of_read? readAddress
        rw [splitAtChar_pair noSlash written.slash_not_mem]
        exact (attempt noSlash (some after)).mpr ⟨address, length, readAddress, written, made⟩

end Prefix

end CertApproval.Net
