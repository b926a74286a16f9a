import CertApproval.Proofs.Fields.Numerals
import CertApproval.Proofs.Floating.Order

/-!
What single values denote when they are read leniently. Main statements: for each kind of value
there is a relation that says which values denote what, and the reader of the kind accepts exactly
those values and gives what they denote.
-/

namespace CertApproval.Fields

open CertApproval.Floating (Double isFinite ofInt)

variable {text : String} {json : Json}

/-! ## Values -/

/-- Which values denote a text, which is nothing but itself. -/
inductive DenotesText : Json → String → Prop
  | string (text : String) : DenotesText (.string text) text

/-- Which values denote a text that may be absent. -/
inductive DenotesOptionalText : Json → Option String → Prop
  | null : DenotesOptionalText .null none
  | string (text : String) : DenotesOptionalText (.string text) (some text)

/-- Which values denote a whole number. -/
inductive DenotesInt : Json → Int → Prop
  | int (value : Int) : DenotesInt (.int value) value
  | bool (value : Bool) : DenotesInt (.bool value) (if value then 1 else 0)
  | float {x : Double} {value : Int} (finite : isFinite x = true) (whole : x.toRat = value)
      (small : value.natAbs < wholeLimit) : DenotesInt (.float x) value
  | string {text : String} {value : Int} (written : IntText text value) :
      DenotesInt (.string text) value

/-- Which values denote a double. -/
inductive DenotesFloat : Json → Double → Prop
  | int {value : Int} (finite : isFinite (ofInt value) = true) :
      DenotesFloat (.int value) (ofInt value)
  | bool (value : Bool) : DenotesFloat (.bool value) (if value then 1 else 0)
  | float (x : Double) : DenotesFloat (.float x) x
  | string {text : String} {x : Double} (written : FloatText text x) : DenotesFloat (.string text) x

/-- The words for a truth value. -/
def boolWords : Bool → List String
  | true => ["1", "t", "true", "y", "yes", "on"]
  | false => ["0", "f", "false", "n", "no", "off"]

/-- Which values denote a truth value. -/
inductive DenotesBool : Json → Bool → Prop
  | bool (value : Bool) : DenotesBool (.bool value) value
  | int (value : Bool) : DenotesBool (.int (if value then 1 else 0)) value
  | float {x : Double} {value : Bool} (finite : isFinite x = true)
      (same : x.toRat = if value then 1 else 0) : DenotesBool (.float x) value
  | string {text : String} {value : Bool}
      (word : String.ofList (text.toList.map Char.toLower) ∈ boolWords value) :
      DenotesBool (.string text) value

theorem readText_eq_ok {value : String} : readText json = .ok value ↔ DenotesText json value := by
  constructor
  · intro read
    cases json with
    | string text =>
        obtain rfl := Except.ok.inj read
        exact .string text
    | _ =>
        cases read
  · rintro ⟨⟩
    rfl

theorem readOptionalText_eq_ok {value : Option String} :
    readOptionalText json = .ok value ↔ DenotesOptionalText json value := by
  constructor
  · intro read
    cases json with
    | null =>
        obtain rfl := Except.ok.inj read
        exact .null
    | string text =>
        obtain rfl := Except.ok.inj read
        exact .string text
    | _ =>
        cases read
  · rintro (_ | _) <;> rfl

theorem cast_signed (negative : Bool) (size : Nat) :
    (signed negative size : ℚ) = (if negative then -1 else 1) * size := by
  cases negative <;> simp [signed]

theorem natAbs_signed (negative : Bool) (size : Nat) : (signed negative size).natAbs = size := by
  cases negative <;> simp [signed]

theorem wholeOf_eq_ok {x : Double} {value : Int} :
    wholeOf x = .ok value ↔
      isFinite x = true ∧ x.toRat = value ∧ value.natAbs < wholeLimit := by
  rw [wholeOf, Floating.isFinite_iff]
  cases isParts : Floating.parts x with
  | infinite negative =>
      simp
  | undefined =>
      simp
  | finite negative significand exponent =>
      have ratio := Floating.scale_ratio significand 1 exponent
      have positive := @Floating.scale_pos significand 1 Nat.one_pos exponent
      obtain ⟨n, d, isScaled⟩ : ∃ n d, Floating.scale significand 1 exponent = (n, d) :=
        ⟨_, _, rfl⟩
      rw [isScaled] at ratio positive
      simp only [Nat.cast_one, div_one] at ratio
      have nonzero : (d : ℚ) ≠ 0 := by exact_mod_cast positive.ne'
      have finite : ∃ other size power, Floating.Parts.finite negative significand exponent =
          .finite other size power := ⟨_, _, _, rfl⟩
      rw [Floating.toRat_of_parts isParts, ← ratio, and_iff_right finite]
      simp only [isScaled]
      by_cases divides : d ∣ n
      · obtain ⟨size, rfl⟩ := divides
        rw [if_neg (not_not_intro (Nat.mul_mod_right d size)),
          Nat.mul_div_cancel_left size positive, Nat.cast_mul, mul_div_cancel_left₀ _ nonzero,
          ← cast_signed, Int.cast_inj]
        constructor
        · intro read
          split at read
          · next small =>
              obtain rfl := Except.ok.inj read
              exact ⟨rfl, (natAbs_signed negative size).symm ▸ small⟩
          · cases read
        · rintro ⟨rfl, small⟩
          rw [natAbs_signed] at small
          exact if_pos small
      · rw [if_pos (mt Nat.dvd_of_mod_eq_zero divides)]
        refine iff_of_false (fun same => by cases same) fun ⟨whole, _⟩ => divides ?_
        have size : (n : ℚ) = (if negative then -1 else 1) * value * d := by
          rw [← whole, ← mul_assoc]
          cases negative <;> field_simp <;> simp
        have multiple : (n : Int) = (if negative then -1 else 1) * value * d := by
          exact_mod_cast size
        exact Int.natCast_dvd_natCast.mp ⟨_, multiple.trans (mul_comm _ _)⟩

theorem readInt_string {value : Int} :
    readInt (.string text) = .ok value ↔ IntText text value := by
  rw [readInt, ← readIntText?_eq_some]
  cases readIntText? text <;> simp

theorem readInt_eq_ok {value : Int} : readInt json = .ok value ↔ DenotesInt json value := by
  constructor
  · intro read
    cases json with
    | int _ =>
        obtain rfl := Except.ok.inj read
        exact .int _
    | bool given =>
        obtain rfl := Except.ok.inj read
        exact .bool given
    | float x =>
        obtain ⟨finite, whole, small⟩ := wholeOf_eq_ok.mp read
        exact .float finite whole small
    | string text =>
        exact .string (readInt_string.mp read)
    | _ =>
        cases read
  · rintro (_ | _ | ⟨finite, whole, small⟩ | written)
    · rfl
    · rfl
    · exact wholeOf_eq_ok.mpr ⟨finite, whole, small⟩
    · exact readInt_string.mpr written

theorem readFloat_string {value : Double} :
    readFloat (.string text) = .ok value ↔ FloatText text value := by
  rw [readFloat, ← readFloatText?_eq_some]
  cases readFloatText? text <;> simp

theorem readFloat_eq_ok {value : Double} :
    readFloat json = .ok value ↔ DenotesFloat json value := by
  constructor
  · intro read
    cases json with
    | int given =>
        simp only [readFloat] at read
        split at read
        · next finite =>
            obtain rfl := Except.ok.inj read
            exact .int finite
        · cases read
    | bool given =>
        obtain rfl := Except.ok.inj read
        cases given
        · exact .bool false
        · exact .bool true
    | float x =>
        obtain rfl := Except.ok.inj read
        exact .float _
    | string text =>
        exact .string (readFloat_string.mp read)
    | _ =>
        cases read
  · rintro (finite | given | _ | written)
    · exact if_pos finite
    · cases given <;> rfl
    · rfl
    · exact readFloat_string.mpr written

theorem boolOfInt_eq_ok {number : Int} {value : Bool} :
    boolOfInt number = .ok value ↔ number = if value then 1 else 0 := by
  rw [boolOfInt]
  by_cases isZero : number = 0
  · cases value <;> simp [isZero]
  · by_cases isOne : number = 1
    · cases value <;> simp [isOne]
    · rw [if_neg isZero, if_neg isOne]
      split_ifs <;> cases value <;> simp [isZero, isOne]

theorem cast_truth (value : Bool) :
    (if value then 1 else 0 : ℚ) = ((if value then 1 else 0 : Int) : ℚ) := by
  cases value <;> simp

theorem readBoolText?_eq_some {value : Bool} :
    readBoolText? text = some value ↔
      String.ofList (text.toList.map Char.toLower) ∈ boolWords value := by
  have apart : ∀ word ∈ boolWords true, word ∉ boolWords false := by decide
  obtain ⟨word, isWord⟩ : ∃ word, String.ofList (text.toList.map Char.toLower) = word := ⟨_, rfl⟩
  rw [readBoolText?, isWord]
  simp only [List.contains_iff_mem]
  split_ifs with isTrue isFalse
  · cases value with
    | true =>
        exact iff_of_true rfl isTrue
    | false =>
        exact iff_of_false (fun same => by cases same) (apart word isTrue)
  · cases value with
    | true =>
        exact iff_of_false (fun same => by cases same) isTrue
    | false =>
        exact iff_of_true rfl isFalse
  · cases value with
    | true =>
        exact iff_of_false (fun same => by cases same) isTrue
    | false =>
        exact iff_of_false (fun same => by cases same) isFalse

theorem readBool_string {value : Bool} :
    readBool (.string text) = .ok value ↔
      String.ofList (text.toList.map Char.toLower) ∈ boolWords value := by
  rw [readBool, ← readBoolText?_eq_some]
  cases readBoolText? text <;> simp

theorem readBool_eq_ok {value : Bool} : readBool json = .ok value ↔ DenotesBool json value := by
  constructor
  · intro read
    cases json with
    | bool given =>
        obtain rfl := Except.ok.inj read
        exact .bool _
    | int number =>
        obtain rfl := boolOfInt_eq_ok.mp read
        exact .int value
    | float x =>
        rw [readBool] at read
        cases isWhole : wholeOf x with
        | error fault =>
            simp [isWhole] at read
        | ok number =>
            simp only [isWhole] at read
            obtain ⟨finite, whole, _⟩ := wholeOf_eq_ok.mp isWhole
            refine .float finite ?_
            rw [whole, boolOfInt_eq_ok.mp read, cast_truth]
    | string text =>
        exact .string (readBool_string.mp read)
    | _ =>
        cases read
  · rintro (_ | _ | ⟨finite, same⟩ | word)
    · rfl
    · exact boolOfInt_eq_ok.mpr rfl
    · have small : (if value then 1 else 0 : Int).natAbs < wholeLimit := by
        cases value <;> decide
      rw [readBool, wholeOf_eq_ok.mpr ⟨finite, same.trans (cast_truth value), small⟩]
      exact boolOfInt_eq_ok.mpr rfl
    · exact readBool_string.mpr word

/-! ## Faults of values -/

theorem readText_ne_refused (json : Json) : readText json ≠ .error .refused := by
  cases json <;> simp [readText]

theorem readOptionalText_ne_refused (json : Json) : readOptionalText json ≠ .error .refused := by
  cases json <;> simp [readOptionalText]

theorem wholeOf_ne_refused (x : Double) : wholeOf x ≠ .error .refused := by
  rw [wholeOf]
  split
  · dsimp only
    split_ifs <;> simp
  · simp

theorem intTextFault_ne_refused (text : String) : intTextFault text ≠ .refused := by
  rw [intTextFault]
  split_ifs <;> simp

theorem readInt_ne_refused (json : Json) : readInt json ≠ .error .refused := by
  cases json with
  | float x =>
      exact wholeOf_ne_refused x
  | string text =>
      rw [readInt]
      cases readIntText? text <;> simp [intTextFault_ne_refused]
  | _ =>
      simp [readInt]

theorem readFloat_ne_refused (json : Json) : readFloat json ≠ .error .refused := by
  cases json with
  | int value =>
      simp only [readFloat]
      split_ifs <;> simp
  | string text =>
      rw [readFloat]
      cases readFloatText? text <;> simp
  | _ =>
      simp [readFloat]

theorem boolOfInt_ne_refused (value : Int) : boolOfInt value ≠ .error .refused := by
  rw [boolOfInt]
  split_ifs <;> simp

theorem readBool_ne_refused (json : Json) : readBool json ≠ .error .refused := by
  cases json with
  | int value =>
      exact boolOfInt_ne_refused value
  | float x =>
      rw [readBool]
      cases wholeOf x with
      | ok value =>
          exact boolOfInt_ne_refused value
      | error fault =>
          simp
  | string text =>
      rw [readBool]
      cases readBoolText? text <;> simp
  | _ =>
      simp [readBool]

end CertApproval.Fields
