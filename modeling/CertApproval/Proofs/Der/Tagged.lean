import CertApproval.Der.Element
import CertApproval.Proofs.Bytes

/-!
Tagged values, written and read. Main statements: every value whose content fits four bytes of
length is read back from what is written for it, whatever follows, and so is a list of values.
-/

namespace CertApproval.Der

/-! ## Numbers to the base 128 -/

theorem toNat_digit128 (value : Nat) (last : Bool) :
    (UInt8.ofNat (value % 128 + if last then 0 else 128)).toNat =
      value % 128 + if last then 0 else 128 := by
  rw [UInt8.toNat_ofNat']
  cases last <;> simp <;> omega

/-- Digits that announce more digits are read as a part of the number. -/
theorem readDigits128_write (fuel value : Nat) (rest : Bytes) (bound : value < 128 ^ fuel) :
    readDigits128 0 (writeBase128 fuel value false ++ rest) = readDigits128 value rest := by
  induction fuel generalizing value rest with
  | zero =>
      rw [Nat.pow_zero] at bound
      obtain rfl : value = 0 := by omega
      rfl
  | succ fuel inductionHypothesis =>
      have digit := toNat_digit128 value false
      simp only [Bool.false_eq_true, if_false] at digit
      have step (start : Nat) (rest : Bytes) :
          readDigits128 start (UInt8.ofNat (value % 128 + 128) :: rest) =
            readDigits128 (start * 128 + value % 128) rest := by
        rw [readDigits128, digit, if_neg (by omega)]
        congr 1
        omega
      simp only [writeBase128, Bool.false_eq_true, if_false, List.append_assoc]
      by_cases small : value / 128 = 0
      · rw [if_pos small]
        simp only [List.nil_append, List.singleton_append, step]
        congr 1
        omega
      · rw [if_neg small,
          inductionHypothesis (value / 128) _ (by rw [Nat.pow_succ] at bound; omega)]
        rw [List.singleton_append, step]
        congr 1
        omega

theorem readDigits128_write_last (fuel value : Nat) (rest : Bytes)
    (bound : value < 128 ^ (fuel + 1)) :
    readDigits128 0 (writeBase128 (fuel + 1) value true ++ rest) = some (value, rest) := by
  have digit := toNat_digit128 value true
  simp only [if_true] at digit
  have step (start : Nat) :
      readDigits128 start (UInt8.ofNat (value % 128 + 0) :: rest) =
        some (start * 128 + value % 128, rest) := by
    rw [readDigits128, digit, if_pos (by omega)]
    congr 2
    omega
  simp only [writeBase128, if_true, List.append_assoc, List.singleton_append]
  by_cases small : value / 128 = 0
  · rw [if_pos small, List.nil_append, step]
    congr 2
    omega
  · rw [if_neg small,
      readDigits128_write fuel (value / 128) _ (by rw [Nat.pow_succ] at bound; omega), step]
    congr 2
    omega

theorem digit128_ne {value : Nat} {last : Bool} (small : value / 128 = 0)
    (counts : value ≠ 0 ∨ last = true) :
    ¬UInt8.ofNat (value % 128 + if last then 0 else 128) = 0x80 := by
  intro same
  have digit := toNat_digit128 value last
  rw [same] at digit
  cases last <;> simp at digit counts <;> omega

/-- No leading digit is zero. -/
theorem head?_writeBase128 (fuel value : Nat) (last : Bool) (rest : Bytes)
    (bound : value < 128 ^ (fuel + 1)) (counts : value ≠ 0 ∨ last = true) :
    (writeBase128 (fuel + 1) value last ++ rest).head? ≠ some 0x80 := by
  induction fuel generalizing value last rest with
  | zero =>
      have small : value / 128 = 0 := by omega
      simp only [writeBase128, small, if_true, List.nil_append, List.singleton_append,
        List.head?_cons, ne_eq, Option.some.injEq]
      exact digit128_ne small counts
  | succ fuel inductionHypothesis =>
      by_cases small : value / 128 = 0
      · rw [writeBase128, if_pos small]
        simp only [List.nil_append, List.singleton_append, List.head?_cons, ne_eq,
          Option.some.injEq]
        exact digit128_ne small counts
      · rw [writeBase128, if_neg small, List.append_assoc]
        refine inductionHypothesis (value / 128) false _ ?_ (Or.inl small)
        rw [Nat.pow_succ] at bound
        omega

theorem lt_base128 (value : Nat) : value < 128 ^ (Nat.log2 value + 1) := by
  calc value < 2 ^ (Nat.log2 value + 1) := Nat.lt_log2_self
    _ ≤ 128 ^ (Nat.log2 value + 1) := Nat.pow_le_pow_left (by decide) _

theorem readBase128?_base128 (value : Nat) (rest : Bytes) :
    readBase128? (base128 value ++ rest) = some (value, rest) := by
  have bound := lt_base128 value
  rw [readBase128?, base128, if_neg (head?_writeBase128 _ _ true rest bound (Or.inr rfl))]
  exact readDigits128_write_last _ value rest bound

theorem base128_ne_nil (value : Nat) : base128 value ≠ [] := by
  simp [base128, writeBase128]

/-! ## Tags and lengths -/

theorem TagClass.ofCode_code (tagClass : TagClass) : ofCode tagClass.code = tagClass := by
  cases tagClass <;> rfl

/-- What the first byte of a tag says. -/
theorem lead_tag (tagClass : TagClass) (constructed : Bool) (low : Nat) (bound : low < 32) :
    let code := (UInt8.ofNat
      (tagClass.code * 64 + (if constructed then 32 else 0) + low)).toNat
    TagClass.ofCode (code / 64) = tagClass ∧ (decide (code / 32 % 2 = 1) = constructed) ∧
      code % 32 = low := by
  have few : tagClass.code < 4 := by
    cases tagClass <;> decide
  have byte : (UInt8.ofNat
      (tagClass.code * 64 + (if constructed then 32 else 0) + low)).toNat =
        tagClass.code * 64 + (if constructed then 32 else 0) + low := by
    rw [UInt8.toNat_ofNat']
    cases constructed <;> simp <;> omega
  intro code
  have value : code = tagClass.code * 64 + (if constructed then 32 else 0) + low := byte
  have high : code / 64 = tagClass.code := by
    cases constructed <;> simp at value <;> omega
  refine ⟨by rw [high, TagClass.ofCode_code], ?_, ?_⟩
  · cases constructed <;> simp at value ⊢ <;> omega
  · cases constructed <;> simp at value <;> omega

theorem readTag?_writeTag (tag : Tag) (rest : Bytes) :
    readTag? (writeTag tag ++ rest) = some (tag, rest) := by
  obtain ⟨tagClass, constructed, number⟩ := tag
  by_cases small : number < 31
  · obtain ⟨isClass, isConstructed, isNumber⟩ :=
      lead_tag tagClass constructed number (by omega)
    simp only [writeTag, small, if_true, List.singleton_append, readTag?, isClass, isConstructed,
      isNumber]
    rw [if_neg (by omega)]
  · obtain ⟨isClass, isConstructed, isNumber⟩ := lead_tag tagClass constructed 31 (by omega)
    simp only [writeTag, small, if_false, List.cons_append, readTag?, isClass, isConstructed,
      isNumber, if_true, readBase128?_base128]

/-- The lengths that are written and read. -/
def lengthLimit : Nat := 2 ^ 32

theorem lt_lengthSize (length : Nat) : length < 256 ^ lengthSize length := by
  calc length < 2 ^ (Nat.log2 length + 1) := Nat.lt_log2_self
    _ ≤ 2 ^ (8 * lengthSize length) := Nat.pow_le_pow_right (by decide) (by
        unfold lengthSize
        omega)
    _ = 256 ^ lengthSize length := by rw [Nat.pow_mul]

theorem lengthSize_le {length : Nat} (bound : length < lengthLimit) : lengthSize length ≤ 4 := by
  by_cases zero : length = 0
  · subst zero
    decide
  · have few := (Nat.log2_lt zero).mpr bound
    unfold lengthSize
    omega

theorem readLength?_writeLength {length : Nat} (bound : length < lengthLimit) (rest : Bytes) :
    readLength? (writeLength length ++ rest) = some (length, rest) := by
  by_cases short : length < 128
  · have byte : (UInt8.ofNat length).toNat = length := by
      rw [UInt8.toNat_ofNat']
      omega
    simp only [writeLength, short, if_true, List.singleton_append, readLength?, byte]
  · have few := lengthSize_le bound
    have some : 0 < lengthSize length := Nat.succ_pos _
    have byte : (UInt8.ofNat (128 + lengthSize length)).toNat = 128 + lengthSize length := by
      rw [UInt8.toNat_ofNat']
      omega
    have size := Bytes.length_ofNat (lengthSize length) length
    have digits : (Bytes.ofNat (lengthSize length) length ++ rest).take (lengthSize length) =
        Bytes.ofNat (lengthSize length) length := List.take_left' size
    have after : (Bytes.ofNat (lengthSize length) length ++ rest).drop (lengthSize length) = rest :=
      List.drop_left' size
    have value := Bytes.toNat_ofNat (lt_lengthSize length)
    simp only [writeLength, short, if_false, List.cons_append, readLength?, byte,
      Nat.add_sub_cancel_left, digits, after, size]
    rw [value, if_neg (by omega), if_neg (by omega), if_neg (by omega)]

/-! ## Values -/

namespace Element

/-- Whether the length of a value is one that is written and read. -/
def Fits (element : Element) : Prop := element.content.length < lengthLimit

theorem read?_write {element : Element} (fits : element.Fits) (rest : Bytes) :
    read? (element.write ++ rest) = some (element, rest) := by
  have content : (element.content ++ rest).take element.content.length = element.content :=
    List.take_left' rfl
  have after : (element.content ++ rest).drop element.content.length = rest :=
    List.drop_left' rfl
  simp only [read?, write, List.append_assoc, readTag?_writeTag, readLength?_writeLength fits,
    content, after, Nat.lt_irrefl, if_false]

theorem readOne?_write {element : Element} (fits : element.Fits) :
    readOne? element.write = some element := by
  have read := read?_write fits []
  rw [List.append_nil] at read
  rw [readOne?, read]

theorem write_ne_nil (element : Element) : element.write ≠ [] := by
  have lead : writeTag element.tag ≠ [] := by
    simp only [writeTag]
    split <;> simp
  simp [write, lead]

theorem readMany?_writeAll {elements : List Element} (fits : ∀ element ∈ elements, element.Fits)
    {fuel : Nat} (enough : elements.length ≤ fuel) :
    readMany? fuel (writeAll elements) = some elements := by
  induction elements generalizing fuel with
  | nil =>
      cases fuel <;> rfl
  | cons element elements inductionHypothesis =>
      obtain ⟨fuel, rfl⟩ := Nat.exists_eq_succ_of_ne_zero
        (Nat.ne_of_gt (Nat.lt_of_lt_of_le (Nat.succ_pos _) enough))
      have nonempty : writeAll (element :: elements) ≠ [] := by
        simp [writeAll, write_ne_nil]
      have first : read? (writeAll (element :: elements)) =
          some (element, writeAll elements) := by
        rw [writeAll, List.flatMap_cons]
        exact read?_write (fits element List.mem_cons_self) _
      have others := inductionHypothesis
        (fun other member => fits other (List.mem_cons_of_mem _ member))
        (Nat.le_of_succ_le_succ enough)
      rw [readMany?, first]
      · simp only [others, Option.map_some]
      · exact nonempty

theorem readAll?_writeAll {elements : List Element}
    (fits : ∀ element ∈ elements, element.Fits) :
    readAll? (writeAll elements) = some elements :=
  readMany?_writeAll fits (Bytes.length_le_flatMap write_ne_nil elements)

/-! ## Values inside values -/

theorem length_content_le (element : Element) :
    element.content.length ≤ element.write.length := by
  simp only [write, List.length_append]
  omega

theorem length_write_le {element : Element} {elements : List Element}
    (member : element ∈ elements) : element.write.length ≤ (writeAll elements).length := by
  obtain ⟨before, after, rfl⟩ := List.append_of_mem member
  simp only [writeAll, List.flatMap_append, List.flatMap_cons, List.length_append]
  omega

/-- What is inside a value that fits fits, too. -/
theorem Fits.of_mem {tag : Tag} {elements : List Element} (fits : (compose tag elements).Fits)
    {element : Element} (member : element ∈ elements) : element.Fits := by
  have inner := length_content_le element
  have outer := length_write_le member
  simp only [Fits, compose] at fits ⊢
  omega

/-- What a value that fits is the encoding of fits, too. -/
theorem Fits.of_write {tag : Tag} {element : Element} (fits : Fits ⟨tag, element.write⟩) :
    element.Fits :=
  Nat.lt_of_le_of_lt (length_content_le element) fits

variable {elements : List Element}

theorem readAll?_compose {tag : Tag} (fits : (compose tag elements).Fits) :
    readAll? (compose tag elements).content = some elements :=
  readAll?_writeAll fun _ member => fits.of_mem member

theorem inside?_compose {tag : Tag} (fits : (compose tag elements).Fits) :
    (compose tag elements).inside? tag = some elements := by
  rw [inside?, if_pos (show (compose tag elements).tag = tag from rfl), readAll?_compose fits]

end Element

end CertApproval.Der
