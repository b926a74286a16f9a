import CertApproval.Fields.Lenient
import CertApproval.Proofs.Text.Pieces

/-!
Numbers in writing. Main statements: there is a grammar for the texts of whole numbers and one for
those of doubles, with the number that each text denotes, and the readers accept exactly these
texts and give what they denote.
-/

namespace CertApproval.Fields

open CertApproval.Floating (Double infinity ofDecimal undefined)
open CertApproval.Text (Padded)

variable {text : String} {characters digits body : List Char} {negative : Bool}

/-! ## Digits and signs -/

/-- Digits as they are written, with perhaps an underscore between two of them, and the digits
alone. -/
inductive Grouped : List Char → List Char → Prop
  | last {c : Char} (digit : c.isDigit = true) : Grouped [c] [c]
  | next {c : Char} {characters digits : List Char} (digit : c.isDigit = true)
      (rest : Grouped characters digits) : Grouped (c :: characters) (c :: digits)
  | apart {c : Char} {characters digits : List Char} (digit : c.isDigit = true)
      (rest : Grouped characters digits) : Grouped (c :: '_' :: characters) (c :: digits)

theorem Grouped.head_isDigit (grouped : Grouped characters digits) :
    ∃ c rest, characters = c :: rest ∧ c.isDigit = true ∧ digits.head? = some c := by
  cases grouped with
  | last digit =>
      exact ⟨_, _, rfl, digit, rfl⟩
  | next digit _ =>
      exact ⟨_, _, rfl, digit, rfl⟩
  | apart digit _ =>
      exact ⟨_, _, rfl, digit, rfl⟩

theorem Grouped.eq_of_singleton {c : Char} (grouped : Grouped characters [c]) :
    characters = [c] := by
  cases grouped with
  | last _ =>
      rfl
  | next _ rest | apart _ rest =>
      cases rest

theorem Grouped.isDigit_or (grouped : Grouped characters digits) :
    ∀ c ∈ characters, c.isDigit = true ∨ c = '_' := by
  induction grouped with
  | last digit =>
      simpa using Or.inl digit
  | next digit _ inductionHypothesis =>
      exact List.forall_mem_cons.mpr ⟨Or.inl digit, inductionHypothesis⟩
  | apart digit _ inductionHypothesis =>
      exact List.forall_mem_cons.mpr ⟨Or.inl digit,
        List.forall_mem_cons.mpr ⟨Or.inr rfl, inductionHypothesis⟩⟩

theorem Grouped.not_mem (grouped : Grouped characters digits) {c : Char}
    (other : c.isDigit = false ∧ c ≠ '_') : c ∉ characters := by
  intro member
  rcases grouped.isDigit_or c member with digit | same
  · rw [other.1] at digit
    cases digit
  · exact other.2 same

theorem plainDigits?_eq_some :
    plainDigits? characters = some digits ↔ Grouped characters digits := by
  constructor
  · fun_induction plainDigits? characters generalizing digits with
    | case1 =>
        rintro ⟨⟩
    | case2 c digit =>
        rintro ⟨⟩
        exact .last digit
    | case3 c _ =>
        rintro ⟨⟩
    | case4 c rest digit inductionHypothesis =>
        intro read
        obtain ⟨plain, isPlain, rfl⟩ := Option.map_eq_some_iff.mp read
        exact .apart digit (inductionHypothesis isPlain)
    | case5 c rest _ =>
        rintro ⟨⟩
    | case6 c rest _ _ digit inductionHypothesis =>
        intro read
        obtain ⟨plain, isPlain, rfl⟩ := Option.map_eq_some_iff.mp read
        exact .next digit (inductionHypothesis isPlain)
    | case7 c rest _ _ _ =>
        rintro ⟨⟩
  · intro grouped
    induction grouped with
    | last digit =>
        simp [plainDigits?, digit]
    | @next c characters digits digit rest inductionHypothesis =>
        obtain ⟨first, others, rfl, isDigit, _⟩ := rest.head_isDigit
        have noMark : first ≠ '_' := by
          rintro rfl
          cases isDigit
        rw [plainDigits?.eq_4, if_pos digit, inductionHypothesis]
        · rfl
        · rintro ⟨⟩
        · rintro _ ⟨⟩
          exact noMark rfl
    | apart digit _ inductionHypothesis =>
        simp [plainDigits?, digit, inductionHypothesis]

/-- A number after its sign, if it has one. -/
inductive Signed : List Char → Bool → List Char → Prop
  | minus (body : List Char) : Signed ('-' :: body) true body
  | plus (body : List Char) : Signed ('+' :: body) false body
  | none {body : List Char} (unsigned : ∀ c ∈ body.head?, c ≠ '-' ∧ c ≠ '+') :
      Signed body false body

theorem splitSign_eq_iff :
    splitSign characters = (negative, body) ↔ Signed characters negative body := by
  constructor
  · fun_cases splitSign characters with
    | case1 rest =>
        rintro ⟨⟩
        exact .minus _
    | case2 rest =>
        rintro ⟨⟩
        exact .plus _
    | case3 _ noMinus noPlus =>
        rintro ⟨⟩
        refine .none fun c isHead => ⟨?_, ?_⟩
        · rintro rfl
          obtain ⟨rest, rfl⟩ := List.head?_eq_some_iff.mp isHead
          exact noMinus rest rfl
        · rintro rfl
          obtain ⟨rest, rfl⟩ := List.head?_eq_some_iff.mp isHead
          exact noPlus rest rfl
  · rintro (_ | _ | unsigned)
    · rfl
    · rfl
    · rw [splitSign.eq_3]
      · rintro rest rfl
        exact (unsigned '-' rfl).1 rfl
      · rintro rest rfl
        exact (unsigned '+' rfl).2 rfl

theorem Signed.not_mem (sign : Signed characters negative body) {c : Char}
    (noSign : c ≠ '-' ∧ c ≠ '+') (absent : c ∉ body) : c ∉ characters := by
  cases sign with
  | minus =>
      exact List.not_mem_cons_of_ne_of_not_mem noSign.1 absent
  | plus =>
      exact List.not_mem_cons_of_ne_of_not_mem noSign.2 absent
  | none _ =>
      exact absent

theorem trimmed_eq_iff {inner : List Char} :
    trimmed characters = inner ↔ Padded isSpace inner characters :=
  Text.trimBoth_eq_iff

/-- Blanks and a sign are taken off in one way. -/
theorem signed_unique {inner other rest : List Char} {sign : Bool}
    (isInner : trimmed characters = inner) (isSigned : splitSign inner = (negative, body))
    (padded : Padded isSpace other characters) (signed : Signed other sign rest) :
    sign = negative ∧ rest = body := by
  obtain rfl := isInner.symm.trans (trimmed_eq_iff.mpr padded)
  exact Prod.mk.inj ((splitSign_eq_iff.mpr signed).symm.trans isSigned)

/-! ## Whole numbers in writing -/

/-- Zeros in front of a number, with underscores among them. -/
def Zeros (characters : List Char) : Prop :=
  characters.head? ≠ some '_' ∧ ∀ c ∈ characters, isZeroMark c = true

/-- A whole part with the sign before it: zeros, and then the digits of the number, or else a minus
sign with perhaps an underscore behind it, and then the digits. -/
inductive Whole (before : Bool) : List Char → Bool → List Char → Prop
  | plain {zeros characters digits : List Char} (isZeros : Zeros zeros)
      (grouped : Grouped characters digits) :
      Whole before (zeros ++ characters) before digits
  | late {zeros mark characters digits : List Char} (isZeros : Zeros zeros)
      (nonempty : zeros ≠ []) (unsigned : before = false) (isMark : mark = [] ∨ mark = ['_'])
      (grouped : Grouped characters digits) :
      Whole before (zeros ++ '-' :: (mark ++ characters)) true digits

theorem isZeroMark_iff {c : Char} : isZeroMark c = true ↔ c = '0' ∨ c = '_' := by
  simp [isZeroMark]

theorem isZeroMark_eq_false {c : Char} (digit : c.isDigit = true) (nonzero : c ≠ '0') :
    isZeroMark c = false := by
  have noUnderscore : c ≠ '_' := by
    rintro rfl
    cases digit
  simp [isZeroMark, nonzero, noUnderscore]

theorem Zeros.nil : Zeros [] :=
  ⟨Option.some_ne_none '_' ∘ Eq.symm, List.forall_mem_nil _⟩

/-- What stands before zeros and underscores end, in a text that begins with a zero. -/
theorem Zeros.of_append {zeros rest : List Char} (begins : (zeros ++ rest).head? = some '0')
    (marks : ∀ c ∈ zeros, isZeroMark c = true) : Zeros zeros := by
  refine ⟨fun underscore => ?_, marks⟩
  rw [List.head?_append, underscore] at begins
  cases begins

theorem Zeros.head? {zeros : List Char} (isZeros : Zeros zeros) (nonempty : zeros ≠ [])
    (rest : List Char) : (zeros ++ rest).head? = some '0' := by
  cases zeros with
  | nil =>
      exact absurd rfl nonempty
  | cons c zeros =>
      rcases isZeroMark_iff.mp (isZeros.2 c List.mem_cons_self) with rfl | rfl
      · rfl
      · exact absurd rfl isZeros.1

theorem Zeros.dropWhile_append {zeros : List Char} (isZeros : Zeros zeros) (rest : List Char) :
    (zeros ++ rest).dropWhile isZeroMark = rest.dropWhile isZeroMark :=
  List.dropWhile_append_of_pos isZeros.2

theorem whole_of_splitZeros {before : Bool} {whole core : List Char}
    (split : splitZeros before whole = (negative, core)) (grouped : Grouped core digits) :
    Whole before whole negative digits := by
  have parts := List.takeWhile_append_dropWhile (p := isZeroMark) (l := whole)
  have marks : ∀ c ∈ whole.takeWhile isZeroMark, isZeroMark c = true := fun c member =>
    List.mem_takeWhile_imp member
  have isZeros (begins : whole.head? = some '0') : Zeros (whole.takeWhile isZeroMark) :=
    .of_append (parts.symm ▸ begins) marks
  have nonempty (begins : whole.head? = some '0') : whole.takeWhile isZeroMark ≠ [] := by
    obtain ⟨rest, rfl⟩ := List.head?_eq_some_iff.mp begins
    exact List.cons_ne_nil '0' _
  revert split
  fun_cases splitZeros before whole with
  | case1 _ begins nothing =>
      rintro ⟨⟩
      cases isLast : whole.getLast? with
      | none =>
          rw [isLast] at grouped
          cases grouped
      | some c =>
          rw [isLast] at grouped
          obtain ⟨front, rfl⟩ := List.getLast?_eq_some_iff.mp isLast
          have allMarks : ∀ d ∈ front ++ [c], isZeroMark d = true :=
            List.dropWhile_eq_nil_iff.mp nothing
          refine .plain (.of_append begins fun c member => ?_) grouped
          exact allMarks c (List.mem_append_left _ member)
  | case2 begins core isCore =>
      rintro ⟨⟩
      rw [← parts, isCore]
      exact .late (isZeros begins) (nonempty begins) rfl (Or.inr rfl) grouped
  | case3 begins core _ isCore =>
      rintro ⟨⟩
      rw [← parts, isCore]
      exact .late (isZeros begins) (nonempty begins) rfl (Or.inl rfl) grouped
  | case4 _ begins _ _ _ =>
      rintro ⟨⟩
      rw [← parts]
      exact .plain (isZeros begins) grouped
  | case5 =>
      rintro ⟨⟩
      exact .plain .nil grouped

theorem splitZeros_of_head {before : Bool} {whole : List Char} (begins : whole.head? ≠ some '0') :
    splitZeros before whole = (before, whole) :=
  if_neg begins

theorem splitZeros_of_dropWhile {before : Bool} {whole core : List Char} {c : Char}
    (begins : whole.head? = some '0') (isCore : whole.dropWhile isZeroMark = c :: core)
    (plain : c ≠ '-') : splitZeros before whole = (before, c :: core) := by
  unfold splitZeros
  rw [if_pos begins, isCore]
  split
  · next impossible => cases impossible
  · next impossible => exact absurd (List.cons.inj impossible).1 plain
  · next impossible => exact absurd (List.cons.inj impossible).1 plain
  · rfl

/-- Of a text of zeros the last one stays. -/
theorem splitZeros_zeros {before : Bool} {zeros : List Char} (isZeros : Zeros zeros) :
    splitZeros before (zeros ++ ['0']) = (before, ['0']) := by
  have begins : (zeros ++ ['0']).head? = some '0' := by
    cases zeros with
    | nil =>
        rfl
    | cons d zeros =>
        exact isZeros.head? (List.cons_ne_nil d zeros) _
  unfold splitZeros
  rw [if_pos begins, isZeros.dropWhile_append]
  simp [isZeroMark]

/-- A minus sign after zeros counts, and so does one with an underscore behind it. -/
theorem splitZeros_minus {zeros mark : List Char} (isZeros : Zeros zeros) (nonempty : zeros ≠ [])
    (isMark : mark = [] ∨ mark = ['_']) (grouped : Grouped characters digits) :
    splitZeros false (zeros ++ '-' :: (mark ++ characters)) = (true, characters) := by
  have begins := isZeros.head? nonempty ('-' :: (mark ++ characters))
  unfold splitZeros
  rw [if_pos begins, isZeros.dropWhile_append]
  rcases isMark with rfl | rfl
  · obtain ⟨c, rest, rfl, digit, _⟩ := grouped.head_isDigit
    have noMark : c ≠ '_' := by
      rintro rfl
      cases digit
    rw [List.nil_append, List.dropWhile_cons_of_neg (by decide)]
    split
    · next impossible => cases impossible
    · next same => exact absurd (List.cons.inj (List.cons.inj same).2).1 noMark
    · next same => rw [(List.cons.inj same).2]
    · next other => exact absurd rfl (other (c :: rest) rfl)
  · rfl

theorem splitZeros_of_whole {before : Bool} {whole : List Char}
    (isWhole : Whole before whole negative digits)
    (leads : digits.head? = some '0' → digits = ['0']) :
    ∃ core, splitZeros before whole = (negative, core) ∧ Grouped core digits := by
  cases isWhole with
  | @plain zeros characters _ isZeros grouped =>
      obtain ⟨c, rest, rfl, digit, isHead⟩ := grouped.head_isDigit
      refine ⟨c :: rest, ?_, grouped⟩
      by_cases isZero : c = '0'
      · obtain rfl := isZero
        obtain rfl := leads isHead
        obtain rfl := (List.cons.inj grouped.eq_of_singleton).2
        exact splitZeros_zeros isZeros
      · cases zeros with
        | nil =>
            exact splitZeros_of_head (by simpa using isZero)
        | cons d zeros =>
            have begins := isZeros.head? (List.cons_ne_nil d zeros) (c :: rest)
            refine splitZeros_of_dropWhile begins ?_ ?_
            · rw [isZeros.dropWhile_append,
                List.dropWhile_cons_of_neg (by simp [isZeroMark_eq_false digit isZero])]
            · rintro rfl
              cases digit
  | @late zeros mark characters _ isZeros nonempty unsigned isMark grouped =>
      rw [unsigned]
      exact ⟨characters, splitZeros_minus isZeros nonempty isMark grouped, grouped⟩

theorem Whole.not_mem {before : Bool} (isWhole : Whole before characters negative digits) :
    '.' ∉ characters := by
  have noMark : isZeroMark '.' = false := by decide
  cases isWhole with
  | plain isZeros grouped =>
      refine List.not_mem_append (fun member => ?_) (grouped.not_mem (by decide))
      exact Bool.false_ne_true (noMark.symm.trans (isZeros.2 '.' member))
  | late isZeros _ _ isMark grouped =>
      refine List.not_mem_append (fun member => ?_) ?_
      · exact Bool.false_ne_true (noMark.symm.trans (isZeros.2 '.' member))
      · have absent : '.' ∉ _ := grouped.not_mem (by decide)
        rcases isMark with rfl | rfl <;> simpa using absent

/-- A whole number in writing, with blanks around it: a sign, digits, and perhaps a point and
zeros. The digits begin with no zero but for zero itself, and with a minus sign they have no more
places than there may be. -/
inductive IntText : String → Int → Prop
  | written {text : String} {inner body whole digits : List Char} {before negative : Bool}
      (padded : Padded isSpace inner text.toList) (sign : Signed inner before body)
      (places : body = whole ∨ ∃ count, body = whole ++ '.' :: List.replicate (count + 1) '0')
      (isWhole : Whole before whole negative digits)
      (leads : digits.head? = some '0' → digits = ['0'])
      (short : digits.length + signPlaces negative ≤ Json.digitLimit) :
      IntText text (signed negative (Json.digitsValue digits))

theorem dropZeroPlaces_of_not_mem (absent : '.' ∉ characters) :
    dropZeroPlaces characters = characters := by
  have isWhole := Text.takeWhile_eq_iff.mpr ⟨absent, Or.inl (Eq.refl characters)⟩
  rw [dropZeroPlaces]
  simp only [isWhole]
  simp

theorem dropZeroPlaces_append (absent : '.' ∉ characters) (count : Nat) :
    dropZeroPlaces (characters ++ '.' :: List.replicate (count + 1) '0') = characters := by
  have isWhole := Text.takeWhile_eq_iff.mpr
    ⟨absent, Or.inr ⟨List.replicate (count + 1) '0', Eq.refl _⟩⟩
  have places : (characters ++ '.' :: List.replicate (count + 1) '0').drop
      (characters.length + 1) = List.replicate (count + 1) '0' := by
    simp
  rw [dropZeroPlaces]
  simp only [isWhole, places]
  simp

/-- What is left off is a point with nothing but zeros after it. -/
theorem dropZeroPlaces_cases (characters : List Char) :
    characters = dropZeroPlaces characters ∨
      ∃ count, characters =
        dropZeroPlaces characters ++ '.' :: List.replicate (count + 1) '0' := by
  obtain ⟨whole, isWhole⟩ : ∃ whole, characters.takeWhile (· ≠ '.') = whole := ⟨_, rfl⟩
  rw [dropZeroPlaces]
  simp only [isWhole]
  split
  · next zeros =>
      rcases (Text.takeWhile_eq_iff.mp isWhole).2 with rfl | ⟨after, rfl⟩
      · exact Or.inl rfl
      · have places : (whole ++ '.' :: after).drop (whole.length + 1) = after := by simp
        rw [places] at zeros
        obtain ⟨nonempty, allZero⟩ := zeros
        have isReplicate : after = List.replicate after.length '0' :=
          List.eq_replicate_iff.mpr ⟨rfl, by simpa using allZero⟩
        obtain ⟨count, isLength⟩ : ∃ count, after.length = count + 1 :=
          Nat.exists_eq_succ_of_ne_zero (by simpa using nonempty)
        rw [isLength] at isReplicate
        exact Or.inr ⟨count, by rw [← isReplicate]⟩
  · exact Or.inl rfl

theorem fits_iff :
    fits negative digits = true ↔
      (digits.head? = some '0' → digits = ['0']) ∧
        digits.length + signPlaces negative ≤ Json.digitLimit := by
  simp [fits, imp_iff_not_or]

theorem readIntText?_eq_some {value : Int} :
    readIntText? text = some value ↔ IntText text value := by
  obtain ⟨inner, isInner⟩ : ∃ inner, trimmed text.toList = inner := ⟨_, rfl⟩
  obtain ⟨before, body, isSigned⟩ : ∃ before body, splitSign inner = (before, body) :=
    ⟨_, _, rfl⟩
  obtain ⟨negative, core, isSplit⟩ :
      ∃ negative core, splitZeros before (dropZeroPlaces body) = (negative, core) := ⟨_, _, rfl⟩
  rw [readIntText?, isInner, isSigned]
  simp only [isSplit]
  constructor
  · intro read
    cases isPlain : plainDigits? core with
    | none =>
        simp [isPlain] at read
    | some digits =>
        simp only [isPlain] at read
        split at read
        · next fit =>
            obtain rfl := Option.some.inj read
            obtain ⟨leads, short⟩ := fits_iff.mp fit
            exact .written (trimmed_eq_iff.mp isInner) (splitSign_eq_iff.mp isSigned)
              (dropZeroPlaces_cases body)
              (whole_of_splitZeros isSplit (plainDigits?_eq_some.mp isPlain)) leads short
        · cases read
  · intro written
    cases written with
    | @written inner' body' whole digits before' negative' padded sign places isWhole leads
        short =>
        obtain ⟨rfl, rfl⟩ := signed_unique isInner isSigned padded sign
        have kept : dropZeroPlaces body' = whole := by
          rcases places with rfl | ⟨count, rfl⟩
          · exact dropZeroPlaces_of_not_mem isWhole.not_mem
          · exact dropZeroPlaces_append isWhole.not_mem count
        obtain ⟨core', isSplit', grouped⟩ := splitZeros_of_whole isWhole leads
        rw [kept, isSplit'] at isSplit
        obtain ⟨rfl, rfl⟩ := Prod.mk.inj isSplit
        rw [plainDigits?_eq_some.mpr grouped]
        exact if_pos (fits_iff.mpr ⟨leads, short⟩)

/-! ## Decimal numbers in writing -/

/-- Whether a text has no other characters than digits. -/
def AllDigits (characters : List Char) : Prop := ∀ c ∈ characters, c.isDigit = true

/-- A fraction: a point with digits after it that may be absent, or nothing. -/
inductive Fraction : List Char → List Char → Prop
  | absent : Fraction [] []
  | point (places : List Char) : Fraction ('.' :: places) places

/-- An exponent: a mark with a whole number after it, or nothing. -/
inductive Exponent : List Char → Int → Prop
  | absent : Exponent [] 0
  | mark {c : Char} {characters digits : List Char} {negative : Bool}
      (isMark : c = 'e' ∨ c = 'E') (sign : Signed characters negative digits)
      (nonempty : digits ≠ []) (allDigits : AllDigits digits) :
      Exponent (c :: characters) (signed negative (Json.digitsValue digits))

/-- A decimal number in writing after its sign, and the double nearest to it: digits with at most
one point, and perhaps an exponent. -/
inductive Decimal (negative : Bool) : List Char → Double → Prop
  | written {whole fraction places exponent : List Char} {power : Int}
      (isFraction : Fraction fraction places) (isExponent : Exponent exponent power)
      (nonempty : whole ++ places ≠ []) (allDigits : AllDigits (whole ++ places)) :
      Decimal negative (whole ++ fraction ++ exponent)
        (ofDecimal negative (Json.digitsValue (whole ++ places)) (power - places.length))

theorem isDigits_iff : isDigits characters = true ↔ characters ≠ [] ∧ AllDigits characters := by
  simp [isDigits, AllDigits]

theorem AllDigits.not_mem (allDigits : AllDigits characters) {c : Char}
    (other : c.isDigit = false) : c ∉ characters := fun member =>
  Bool.false_ne_true (other.symm.trans (allDigits c member))

theorem Fraction.not_mem {fraction places : List Char} (isFraction : Fraction fraction places)
    (allDigits : AllDigits places) {c : Char} (other : c.isDigit = false) (noPoint : c ≠ '.') :
    c ∉ fraction := by
  cases isFraction with
  | absent =>
      exact List.not_mem_nil
  | point =>
      exact List.not_mem_cons_of_ne_of_not_mem noPoint (allDigits.not_mem other)

/-- A number is split before its mark. -/
theorem split_at_mark {before after : List Char} (unmarked : ∀ c ∈ before, isMark c = false)
    (marked : ∀ c ∈ after.head?, isMark c = true) :
    (before ++ after).takeWhile (fun c => !isMark c) = before ∧
      (before ++ after).dropWhile (fun c => !isMark c) = after := by
  have kept : ∀ c ∈ before, (!isMark c) = true := fun c member => by simp [unmarked c member]
  rw [List.takeWhile_append_of_pos kept, List.dropWhile_append_of_pos kept]
  cases after with
  | nil =>
      simp
  | cons c rest =>
      simp [marked c rfl]

theorem readExponent?_eq_some {power : Int} (marked : ∀ c ∈ characters.head?, isMark c = true) :
    readExponent? characters = some power ↔ Exponent characters power := by
  cases characters with
  | nil =>
      refine ⟨fun same => ?_, fun exponent => ?_⟩
      · obtain rfl := Option.some.inj same
        exact .absent
      · cases exponent
        rfl
  | cons c rest =>
      obtain ⟨negative, digits, isSigned⟩ : ∃ negative digits,
          splitSign rest = (negative, digits) := ⟨_, _, rfl⟩
      rw [readExponent?, isSigned]
      constructor
      · intro read
        simp only at read
        split at read
        · next isNumber =>
            obtain rfl := Option.some.inj read
            obtain ⟨nonempty, allDigits⟩ := isDigits_iff.mp isNumber
            refine .mark ?_ (splitSign_eq_iff.mp isSigned) nonempty allDigits
            simpa [isMark] using marked c rfl
        · cases read
      · intro exponent
        cases exponent with
        | mark _ sign nonempty allDigits =>
            cases isSigned.symm.trans (splitSign_eq_iff.mpr sign)
            exact if_pos (isDigits_iff.mpr ⟨nonempty, allDigits⟩)

theorem Exponent.head?_isMark {power : Int} (exponent : Exponent characters power) :
    ∀ c ∈ characters.head?, isMark c = true := by
  cases exponent with
  | absent =>
      rintro c ⟨⟩
  | mark marks _ _ _ =>
      rintro c ⟨⟩
      simpa [isMark] using marks

theorem isMark_eq_false {whole fraction places : List Char} (isFraction : Fraction fraction places)
    (allDigits : AllDigits (whole ++ places)) : ∀ c ∈ whole ++ fraction, isMark c = false := by
  obtain ⟨wholeDigits, placesDigits⟩ := List.forall_mem_append.mp allDigits
  have absent {mark : Char} (noDigit : mark.isDigit = false) (noPoint : mark ≠ '.') :
      mark ∉ whole ++ fraction :=
    List.not_mem_append (AllDigits.not_mem wholeDigits noDigit)
      (isFraction.not_mem placesDigits noDigit noPoint)
  intro c member
  have other : c ≠ 'e' ∧ c ≠ 'E' := by
    constructor <;> rintro rfl <;> exact absurd member (absent (by decide) (by decide))
  simp [isMark, other]

/-- What stands before an exponent is split at a point. -/
theorem takeWhile_point {whole fraction places : List Char} (isFraction : Fraction fraction places)
    (absent : '.' ∉ whole) :
    (whole ++ fraction).takeWhile (· ≠ '.') = whole ∧
      (whole ++ fraction).drop (whole.length + 1) = places := by
  cases isFraction with
  | absent =>
      exact ⟨Text.takeWhile_eq_iff.mpr ⟨absent, Or.inl (List.append_nil whole)⟩, by simp⟩
  | point =>
      exact ⟨Text.takeWhile_eq_iff.mpr ⟨absent, Or.inr ⟨places, rfl⟩⟩, by simp⟩

theorem exists_fraction {size whole : List Char} (isWhole : size.takeWhile (· ≠ '.') = whole) :
    ∃ fraction, size = whole ++ fraction ∧ Fraction fraction (size.drop (whole.length + 1)) := by
  rcases (Text.takeWhile_eq_iff.mp isWhole).2 with rfl | ⟨after, rfl⟩
  · refine ⟨[], (List.append_nil size).symm, ?_⟩
    rw [List.drop_eq_nil_of_le (Nat.le_succ _)]
    exact .absent
  · refine ⟨'.' :: after, rfl, ?_⟩
    have isAfter : (whole ++ '.' :: after).drop (whole.length + 1) = after := by simp
    rw [isAfter]
    exact .point after

theorem ofPlaces?_eq_some {whole places : List Char} {power : Int} {value : Double} :
    ofPlaces? negative whole places power = some value ↔
      (whole ++ places ≠ [] ∧ AllDigits (whole ++ places)) ∧
        ofDecimal negative (Json.digitsValue (whole ++ places)) (power - places.length) =
          value := by
  rw [ofPlaces?, ← isDigits_iff]
  split_ifs with isNumber <;> simp [isNumber]

theorem readDecimal?_eq_some {value : Double} :
    readDecimal? negative characters = some value ↔ Decimal negative characters value := by
  obtain ⟨size, isSize⟩ : ∃ size, characters.takeWhile (fun c => !isMark c) = size := ⟨_, rfl⟩
  obtain ⟨tail, isTail⟩ : ∃ tail, characters.dropWhile (fun c => !isMark c) = tail := ⟨_, rfl⟩
  obtain ⟨whole, isWhole⟩ : ∃ whole, size.takeWhile (· ≠ '.') = whole := ⟨_, rfl⟩
  rw [readDecimal?]
  simp only [isSize, isTail, isWhole, Option.bind_eq_some_iff, ofPlaces?_eq_some]
  constructor
  · rintro ⟨power, isPower, ⟨nonempty, allDigits⟩, rfl⟩
    have marked : ∀ c ∈ tail.head?, isMark c = true := by
      intro c isHead
      rw [← isTail] at isHead
      simpa using Text.head?_dropWhile _ c isHead
    obtain ⟨fraction, isFraction, fractionOf⟩ := exists_fraction isWhole
    have parts : characters = whole ++ fraction ++ tail := by
      rw [← isFraction, ← isSize, ← isTail, List.takeWhile_append_dropWhile]
    rw [parts]
    exact .written fractionOf ((readExponent?_eq_some marked).mp isPower) nonempty allDigits
  · rintro @⟨whole', fraction, places, exponent, power, isFraction, isExponent, nonempty,
      allDigits⟩
    obtain ⟨isBefore, isAfter⟩ :=
      split_at_mark (isMark_eq_false isFraction allDigits) isExponent.head?_isMark
    obtain rfl := isBefore.symm.trans isSize
    obtain rfl := isAfter.symm.trans isTail
    have wholeDigits : AllDigits whole' := (List.forall_mem_append.mp allDigits).1
    obtain ⟨isTaken, isPlaces⟩ := takeWhile_point isFraction (wholeDigits.not_mem (by decide))
    obtain rfl := isTaken.symm.trans isWhole
    refine ⟨power, (readExponent?_eq_some isExponent.head?_isMark).mpr isExponent, ?_⟩
    rw [isPlaces]
    exact ⟨⟨nonempty, allDigits⟩, rfl⟩

/-! ## Doubles in writing -/

/-- A double as it is written without blanks and underscores: a sign, and a decimal number or one
of the words for the infinite and the undefined, the case of letters aside. -/
inductive PlainFloat : List Char → Double → Prop
  | infinite {characters body : List Char} {negative : Bool}
      (sign : Signed characters negative body)
      (word : String.ofList (body.map Char.toLower) ∈ ["inf", "infinity"]) :
      PlainFloat characters (infinity negative)
  | undefined {characters body : List Char} {negative : Bool}
      (sign : Signed characters negative body)
      (word : String.ofList (body.map Char.toLower) = "nan") :
      PlainFloat characters (undefined negative)
  | decimal {characters body : List Char} {negative : Bool} {value : Double}
      (sign : Signed characters negative body) (isDecimal : Decimal negative body value) :
      PlainFloat characters value

/-- A double in writing: with blanks around it, or else with underscores in it, each of which
stands between two other characters. -/
inductive FloatText : String → Double → Prop
  | padded {text : String} {inner : List Char} {value : Double}
      (padded : Padded isSpace inner text.toList) (isPlain : PlainFloat inner value) :
      FloatText text value
  | apart {text : String} {pieces : List (List Char)} {value : Double}
      (joined : text.toList = ['_'].intercalate pieces) (several : 2 ≤ pieces.length)
      (parts : ∀ piece ∈ pieces, piece ≠ [] ∧ '_' ∉ piece)
      (isPlain : PlainFloat pieces.flatten value) : FloatText text value

/-- A decimal number begins with a digit or a point. -/
theorem Decimal.head {value : Double} (isDecimal : Decimal negative body value) :
    ∃ c ∈ body.head?, c.isDigit = true ∨ c = '.' := by
  cases isDecimal with
  | @written whole fraction places exponent power isFraction isExponent nonempty allDigits =>
      cases whole with
      | nil =>
          cases isFraction with
          | absent =>
              exact absurd rfl nonempty
          | point =>
              exact ⟨'.', rfl, Or.inr rfl⟩
      | cons c whole =>
          exact ⟨c, rfl, Or.inl (allDigits c List.mem_cons_self)⟩

theorem toLower_of_isDigit {c : Char} (digit : c.isDigit = true) : c.toLower = c := by
  simp only [Char.isDigit, Bool.and_eq_true, decide_eq_true_eq] at digit
  exact dif_neg fun upper => absurd (UInt32.le_trans upper.1 digit.2) (by decide)

theorem Decimal.not_word {value : Double} (isDecimal : Decimal negative body value) :
    String.ofList (body.map Char.toLower) ∉ ["inf", "infinity", "nan"] := by
  obtain ⟨c, isHead, digitOrPoint⟩ := isDecimal.head
  have same : c.toLower = c := by
    rcases digitOrPoint with digit | rfl
    · exact toLower_of_isDigit digit
    · rfl
  intro isWord
  have letter : ∀ word ∈ ["inf", "infinity", "nan"],
      word.toList.head? = some 'i' ∨ word.toList.head? = some 'n' := by
    decide
  have isFirst : (String.ofList (body.map Char.toLower)).toList.head? = some c := by
    simp [Option.mem_def.mp isHead, same]
  rcases letter _ isWord with head | head
  · obtain rfl := Option.some.inj (isFirst.symm.trans head)
    exact absurd digitOrPoint (by decide)
  · obtain rfl := Option.some.inj (isFirst.symm.trans head)
    exact absurd digitOrPoint (by decide)

theorem readPlainFloat?_eq_some {value : Double} :
    readPlainFloat? characters = some value ↔ PlainFloat characters value := by
  obtain ⟨negative, body, isSigned⟩ : ∃ negative body, splitSign characters = (negative, body) :=
    ⟨_, _, rfl⟩
  have sign := splitSign_eq_iff.mp isSigned
  rw [readPlainFloat?, isSigned]
  constructor
  · intro read
    simp only at read
    split at read
    · next word =>
        obtain rfl := Option.some.inj read
        exact .infinite sign (by simpa using word)
    · split at read
      · next word =>
          obtain rfl := Option.some.inj read
          exact .undefined sign word
      · exact .decimal sign (readDecimal?_eq_some.mp read)
  · rintro (⟨sign', word⟩ | ⟨sign', word⟩ | ⟨sign', isDecimal⟩)
    · cases isSigned.symm.trans (splitSign_eq_iff.mpr sign')
      exact if_pos (by simpa using word)
    · cases isSigned.symm.trans (splitSign_eq_iff.mpr sign')
      simp only [word]
      rfl
    · cases isSigned.symm.trans (splitSign_eq_iff.mpr sign')
      have noWord := isDecimal.not_word
      simp only [List.mem_cons, List.not_mem_nil, or_false, not_or] at noWord
      simp only [noWord, or_self, if_false]
      exact readDecimal?_eq_some.mpr isDecimal

theorem Decimal.not_mem {value : Double} (isDecimal : Decimal negative body value) :
    '_' ∉ body := by
  cases isDecimal with
  | @written whole fraction places exponent power isFraction isExponent nonempty allDigits =>
      obtain ⟨wholeDigits, placesDigits⟩ := List.forall_mem_append.mp allDigits
      refine List.not_mem_append (List.not_mem_append ?_ ?_) ?_
      · exact AllDigits.not_mem wholeDigits (by decide)
      · exact isFraction.not_mem placesDigits (by decide) (by decide)
      · cases isExponent with
        | absent =>
            exact List.not_mem_nil
        | mark marks sign _ allDigits =>
            refine List.not_mem_cons_of_ne_of_not_mem ?_ (sign.not_mem (by decide) ?_)
            · rintro rfl
              revert marks
              decide
            · exact allDigits.not_mem (by decide)

theorem not_mem_of_word {words : List String} (absent : ∀ word ∈ words, '_' ∉ word.toList)
    (word : String.ofList (body.map Char.toLower) ∈ words) : '_' ∉ body := fun member =>
  absent _ word (by simpa using ⟨'_', member, by decide⟩)

theorem PlainFloat.not_mem {value : Double} (isPlain : PlainFloat characters value) :
    '_' ∉ characters := by
  cases isPlain with
  | infinite sign word =>
      exact sign.not_mem (by decide) (not_mem_of_word (by decide) word)
  | undefined sign word =>
      have isWord : String.ofList (_ : List Char) ∈ ["nan"] := List.mem_singleton.mpr word
      exact sign.not_mem (by decide) (not_mem_of_word (by decide) isWord)
  | decimal sign isDecimal =>
      exact sign.not_mem (by decide) isDecimal.not_mem

/-- What is put together from several pieces has the separator between them. -/
theorem mem_intercalate {pieces : List (List Char)} (several : 2 ≤ pieces.length) :
    '_' ∈ ['_'].intercalate pieces := by
  match pieces, several with
  | first :: second :: rest, _ =>
      simp [List.intercalate]

theorem withoutUnderscores?_eq_some {plain : List Char} :
    withoutUnderscores? characters = some plain ↔
      ∃ pieces, characters = ['_'].intercalate pieces ∧ 2 ≤ pieces.length ∧
        (∀ piece ∈ pieces, piece ≠ [] ∧ '_' ∉ piece) ∧ pieces.flatten = plain := by
  rw [withoutUnderscores?]
  constructor
  · intro taken
    obtain ⟨pieces, isSplit⟩ : ∃ pieces, Text.splitAtChar '_' characters = pieces := ⟨_, rfl⟩
    have nonempty : pieces ≠ [] := isSplit ▸ Text.splitAtChar_ne_nil '_' characters
    obtain ⟨joined, absent⟩ := (Text.splitAtChar_eq_iff nonempty).mp isSplit
    simp only [isSplit] at taken
    split at taken
    · cases taken
    · next kept =>
        obtain ⟨member, noEmpty⟩ := not_or.mp kept
        refine ⟨pieces, joined, ?_, fun piece isPiece => ⟨?_, absent piece isPiece⟩,
          Option.some.inj taken⟩
        · match pieces, nonempty with
          | [piece], _ =>
              refine absurd (absent piece List.mem_cons_self) (not_not_intro ?_)
              simpa [joined, List.intercalate] using member
          | _ :: _ :: _, _ =>
              simp
        · rintro rfl
          exact noEmpty isPiece
  · rintro ⟨pieces, joined, several, parts, rfl⟩
    have nonempty : pieces ≠ [] := List.ne_nil_of_length_pos (by omega)
    have isSplit := (Text.splitAtChar_eq_iff nonempty).mpr
      ⟨joined, fun piece isPiece => (parts piece isPiece).2⟩
    have member : '_' ∈ characters := joined ▸ mem_intercalate several
    simp only [isSplit]
    refine if_neg (not_or.mpr ⟨not_not_intro member, fun isPiece => ?_⟩)
    exact (parts [] isPiece).1 rfl

theorem readFloatText?_eq_some {value : Double} :
    readFloatText? text = some value ↔ FloatText text value := by
  have padded := trimmed_eq_iff.mp (Eq.refl (trimmed text.toList))
  rw [readFloatText?]
  cases isPlain : readPlainFloat? (trimmed text.toList) with
  | some found =>
      have plain := readPlainFloat?_eq_some.mp isPlain
      simp only [Option.some.injEq]
      constructor
      · rintro rfl
        exact .padded padded plain
      · rintro (⟨padded', plain'⟩ | ⟨joined, several, parts, plain'⟩)
        · obtain rfl := trimmed_eq_iff.mpr padded'
          exact Option.some.inj (isPlain.symm.trans (readPlainFloat?_eq_some.mpr plain'))
        · have member : '_' ∈ text.toList := joined ▸ mem_intercalate several
          exact absurd (padded.mem (by decide) member) plain.not_mem
  | none =>
      simp only [Option.bind_eq_some_iff, withoutUnderscores?_eq_some, readPlainFloat?_eq_some]
      constructor
      · rintro ⟨_, ⟨pieces, joined, several, parts, rfl⟩, plain⟩
        exact .apart joined several parts plain
      · rintro (⟨padded', plain⟩ | ⟨joined, several, parts, plain⟩)
        · obtain rfl := trimmed_eq_iff.mpr padded'
          cases isPlain.symm.trans (readPlainFloat?_eq_some.mpr plain)
        · exact ⟨_, ⟨_, joined, several, parts, rfl⟩, plain⟩

end CertApproval.Fields
