import CertApproval.Pem
import CertApproval.Proofs.Armour.Base64
import Mathlib.Data.List.Chain

/-!
Armoured blocks. Main statement: a block that was written is read back, and it is the only one
in its text.
-/

namespace CertApproval.Pem

/-! ## Marks -/

section Marks

variable {mark pending done before rest bytes : Bytes}

/-- A mark that stands at the front is found there. -/
theorem splitFrom_append (mark pending done rest : Bytes) :
    splitFrom mark pending done (pending ++ rest) =
      some (((pending.reverse ++ done).drop mark.length).reverse, rest) := by
  induction pending generalizing done with
  | nil =>
      simp [splitFrom]
  | cons m pending inductionHypothesis =>
      simp only [List.cons_append, splitFrom, if_true, inductionHypothesis, List.reverse_cons,
        List.append_assoc, List.nil_append]

theorem splitAt?_append (mark rest : Bytes) : splitAt? mark (mark ++ rest) = some ([], rest) := by
  rw [splitAt?, splitFrom_append]
  simp

/-- A mark is found after bytes none of which can open it. The scan is followed with whatever it
has passed over so far. -/
theorem splitAt?_of_notMem {first : UInt8} (mark rest : Bytes) (absent : first ∉ before) :
    splitAt? (first :: mark) (before ++ (first :: mark ++ rest)) = some (before, rest) := by
  have scanned (done : Bytes) :
      splitFrom (first :: mark) (first :: mark) done (before ++ (first :: mark ++ rest)) =
        some (done.reverse ++ before, rest) := by
    induction before generalizing done with
    | nil =>
        rw [List.nil_append, splitFrom_append, ← List.length_reverse, List.drop_left]
        simp
    | cons byte before inductionHypothesis =>
        obtain ⟨other, absentRest⟩ := List.ne_and_not_mem_of_not_mem_cons absent
        rw [List.cons_append, splitFrom, if_neg other.symm, inductionHypothesis absentRest]
        simp
  exact scanned []

theorem eq_of_splitFrom_nil {earlier : Bytes}
    (found : splitFrom mark [] (mark.reverse ++ earlier) bytes = some (before, rest)) :
    (mark.reverse ++ earlier).reverse ++ bytes = before ++ mark ++ rest := by
  have ended : splitFrom mark [] (mark.reverse ++ earlier) bytes =
      some (((mark.reverse ++ earlier).drop mark.length).reverse, bytes) := by
    cases bytes <;> rfl
  rw [ended, List.drop_left' List.length_reverse] at found
  cases found
  simp

/-- A mark stands where it is found. `read` is what of it was read before, and `earlier` the
bytes before that. -/
theorem eq_of_splitFrom (read earlier : Bytes) (isMark : mark = read ++ pending)
    (found : splitFrom mark pending (read.reverse ++ earlier) bytes = some (before, rest)) :
    (read.reverse ++ earlier).reverse ++ bytes = before ++ mark ++ rest := by
  induction bytes generalizing pending read earlier with
  | nil =>
      cases pending with
      | nil =>
          rw [List.append_nil] at isMark
          subst isMark
          exact eq_of_splitFrom_nil found
      | cons m pending =>
          cases found
  | cons byte bytes inductionHypothesis =>
      cases pending with
      | nil =>
          rw [List.append_nil] at isMark
          subst isMark
          exact eq_of_splitFrom_nil found
      | cons m pending =>
          rw [splitFrom] at found
          split at found
          · rename_i same
            subst same
            have longer : mark = (read ++ [byte]) ++ pending := by
              simp [isMark]
            have whole := inductionHypothesis _ earlier longer (by simpa using found)
            simpa using whole
          · have whole := inductionHypothesis [] (byte :: (read.reverse ++ earlier)) rfl found
            simpa using whole

theorem infix_of_splitAt? (found : splitAt? mark bytes = some (before, rest)) :
    mark <:+: bytes := by
  have whole := eq_of_splitFrom [] [] rfl found
  exact ⟨before, rest, whole.symm⟩

theorem splitAt?_eq_none (absent : ¬mark <:+: bytes) : splitAt? mark bytes = none := by
  cases found : splitAt? mark bytes with
  | none =>
      rfl
  | some parts =>
      exact absurd (infix_of_splitAt? found) absent

end Marks

/-! ## Lines -/

section Lines

variable {width fuel : Nat} {text : List Char}

theorem mem_of_mem_wrap {c : Char} (member : c ∈ wrap width fuel text) : c ∈ '\n' :: text := by
  induction fuel generalizing text with
  | zero =>
      cases member
  | succ fuel inductionHypothesis =>
      rw [wrap] at member
      split at member
      · cases member
      · simp only [List.mem_append, List.mem_singleton] at member
        rcases member with (inLine | isBreak) | later
        · exact List.mem_cons_of_mem _ (List.mem_of_mem_take inLine)
        · exact isBreak ▸ List.mem_cons_self
        · rcases List.mem_cons.mp (inductionHypothesis later) with isBreak | inText
          · exact isBreak ▸ List.mem_cons_self
          · exact List.mem_cons_of_mem _ (List.mem_of_mem_drop inText)

/-- Without the blanks between them, the lines are the text. -/
theorem filter_wrap (positive : 0 < width) (enough : text.length ≤ fuel)
    (visible : ∀ c ∈ text, Text.isBlank c = false) :
    (wrap width fuel text).filter (fun c => !Text.isBlank c) = text := by
  induction fuel generalizing text with
  | zero =>
      rw [List.length_eq_zero_iff.mp (Nat.le_zero.mp enough)]
      rfl
  | succ fuel inductionHypothesis =>
      rw [wrap]
      split
      · rename_i empty
        rw [List.isEmpty_iff.mp empty]
        rfl
      · have shorter : (text.drop width).length ≤ fuel := by
          rw [List.length_drop]
          omega
        have later := inductionHypothesis shorter fun c inRest =>
          visible c (List.mem_of_mem_drop inRest)
        have line : (text.take width).filter (fun c => !Text.isBlank c) = text.take width := by
          refine List.filter_eq_self.mpr fun c inLine => ?_
          rw [visible c (List.mem_of_mem_take inLine)]
          rfl
        have noBreak : ['\n'].filter (fun c => !Text.isBlank c) = [] := by
          decide
        rw [List.filter_append, List.filter_append, later, line, noBreak, List.append_nil,
          List.take_append_drop]

theorem head?_wrap_ne {c : Char} (absent : c ∉ text) (positive : 0 < width) :
    (wrap width fuel text).head? ≠ some c := by
  cases fuel with
  | zero =>
      simp [wrap]
  | succ fuel =>
      cases text with
      | nil =>
          simp [wrap]
      | cons first text =>
          obtain ⟨other, _⟩ := List.ne_and_not_mem_of_not_mem_cons absent
          obtain ⟨less, rfl⟩ : ∃ less, width = less + 1 := ⟨width - 1, by omega⟩
          simpa [wrap] using other.symm

/-- No line is empty. -/
theorem isChain_wrap (absent : '\n' ∉ text) (positive : 0 < width) :
    (wrap width fuel text).IsChain fun first second => first = '\n' → second ≠ '\n' := by
  induction fuel generalizing text with
  | zero =>
      exact List.isChain_nil
  | succ fuel inductionHypothesis =>
      rw [wrap]
      split
      · exact List.isChain_nil
      · have absentRest : '\n' ∉ text.drop width := mt List.mem_of_mem_drop absent
        have line : (text.take width).IsChain fun first second => first = '\n' → second ≠ '\n' := by
          refine List.Pairwise.isChain (List.pairwise_of_forall_mem_list ?_)
          intro first inLine _ _ isBreak
          exact absurd (isBreak ▸ List.mem_of_mem_take inLine) absent
        have ended : (text.take width ++ ['\n']).IsChain fun first second =>
            first = '\n' → second ≠ '\n' := by
          refine line.append (List.isChain_singleton '\n') ?_
          intro last isLast _ _ isBreak
          exact absurd (isBreak ▸ List.mem_of_mem_take (List.mem_of_mem_getLast? isLast)) absent
        refine ended.append (inductionHypothesis absentRest) ?_
        intro last isLast second isSecond _ isBreak
        exact head?_wrap_ne absentRest positive (isBreak ▸ isSecond)

end Lines

/-! ## Blocks -/

/-- The characters between the two lines of a block. -/
def dataLines (contents : Bytes) : List Char :=
  wrap 64 (Base64.encode contents).length (Base64.encode contents)

section Data

variable {contents : Bytes} {c : Char}

theorem plain_of_mem_alphabet (member : c ∈ Base64.padding :: Base64.alphabet) :
    Text.isBlank c = false ∧ c ≠ '\n' ∧ isSpace (UInt8.ofNat c.toNat) = false := by
  have all : (Base64.padding :: Base64.alphabet).all fun c =>
      Text.isBlank c = false ∧ c ≠ '\n' ∧ isSpace (UInt8.ofNat c.toNat) = false := by
    decide +kernel
  exact of_decide_eq_true (List.all_eq_true.mp all c member)

theorem plain_of_mem_dataLines (member : c ∈ dataLines contents) :
    c.toNat < 128 ∧ UInt8.ofNat c.toNat ≠ 0x2D ∧ UInt8.ofNat c.toNat ≠ 0x0D ∧
      (UInt8.ofNat c.toNat = 0x0A → c = '\n') := by
  have all : ('\n' :: Base64.padding :: Base64.alphabet).all fun c =>
      c.toNat < 128 ∧ UInt8.ofNat c.toNat ≠ 0x2D ∧ UInt8.ofNat c.toNat ≠ 0x0D ∧
        (UInt8.ofNat c.toNat = 0x0A → c = '\n') := by
    decide +kernel
  have inData : c ∈ '\n' :: Base64.padding :: Base64.alphabet := by
    rcases List.mem_cons.mp (mem_of_mem_wrap member) with rfl | inText
    · exact List.mem_cons_self
    · exact List.mem_cons_of_mem _ (Base64.mem_of_mem_encode inText)
  exact of_decide_eq_true (List.all_eq_true.mp all c inData)

theorem break_notMem_encode : '\n' ∉ Base64.encode contents := fun member =>
  (plain_of_mem_alphabet (Base64.mem_of_mem_encode member)).2.1 rfl

theorem ofText_dataLines (contents : Bytes) :
    Bytes.ofText (String.ofList (dataLines contents)) =
      (dataLines contents).map fun c => UInt8.ofNat c.toNat :=
  Bytes.ofText_ofList fun _ member => (plain_of_mem_dataLines member).1

theorem notMem_dataLines (contents : Bytes) {byte : UInt8} (special : byte = 0x2D ∨ byte = 0x0D) :
    byte ∉ Bytes.ofText (String.ofList (dataLines contents)) := by
  rw [ofText_dataLines]
  intro member
  obtain ⟨c, inData, rfl⟩ := List.mem_map.mp member
  have plain := plain_of_mem_dataLines inData
  exact special.elim plain.2.1 plain.2.2.1

/-- The data has no headers before it. -/
theorem divide_dataLines (contents : Bytes) :
    divide (Bytes.ofText (String.ofList (dataLines contents))) =
      ([], Bytes.ofText (String.ofList (dataLines contents))) := by
  have noGap : ¬[0x0A, 0x0A] <:+: Bytes.ofText (String.ofList (dataLines contents)) := by
    intro gap
    rw [ofText_dataLines] at gap
    have chain : ((dataLines contents).map fun c => UInt8.ofNat c.toNat).IsChain
        fun first second => first = 0x0A → second ≠ 0x0A := by
      rw [List.isChain_map]
      refine List.IsChain.imp_of_mem_imp ?_ (isChain_wrap break_notMem_encode (by decide))
      intro first second inFirst inSecond apart isBreak isSecond
      exact apart ((plain_of_mem_dataLines inFirst).2.2.2 isBreak)
        ((plain_of_mem_dataLines inSecond).2.2.2 isSecond)
    have breaks := List.IsChain.infix chain gap
    exact List.isChain_pair.mp breaks rfl rfl
  have noReturn : ¬[0x0D, 0x0A, 0x0D, 0x0A] <:+:
      Bytes.ofText (String.ofList (dataLines contents)) := by
    intro gap
    exact notMem_dataLines contents (Or.inr rfl) (gap.subset List.mem_cons_self)
  rw [divide, splitAt?_eq_none noGap, splitAt?_eq_none noReturn]

theorem filter_dataLines (contents : Bytes) :
    (dataLines contents).filter (fun c => !Text.isBlank c) = Base64.encode contents := by
  refine filter_wrap (by decide) le_rfl fun c member => ?_
  exact (plain_of_mem_alphabet (Base64.mem_of_mem_encode member)).1

/-- No blank opens the data, nor the line after it where there is none. -/
theorem dropWhile_dataLines (contents rest : Bytes) :
    (Bytes.ofText (String.ofList (dataLines contents)) ++ (endMark ++ rest)).dropWhile isSpace =
      Bytes.ofText (String.ofList (dataLines contents)) ++ (endMark ++ rest) := by
  rw [ofText_dataLines]
  cases lines : dataLines contents with
  | nil =>
      rfl
  | cons first later =>
      have opens : (dataLines contents).head? = some first := by
        rw [lines]
        rfl
      have inData : first ∈ Base64.encode contents := by
        rcases List.mem_cons.mp (mem_of_mem_wrap (List.mem_of_mem_head? opens)) with rfl | inData
        · exact absurd opens (head?_wrap_ne break_notMem_encode (by decide))
        · exact inData
      have visible := (plain_of_mem_alphabet (Base64.mem_of_mem_encode inData)).2.2
      simp [visible]

end Data

variable {pem : Pem}

theorem ofText_write (pem : Pem) :
    Bytes.ofText pem.write =
      beginMark ++ (Bytes.ofText pem.label ++ (dashes ++ ([0x0A] ++
        (Bytes.ofText (String.ofList (dataLines pem.contents)) ++
          (endMark ++ (Bytes.ofText pem.label ++ (dashes ++ [0x0A]))))))) := by
  have closing : Bytes.ofText "-----\n" = dashes ++ [0x0A] := by
    decide +kernel
  have parts : pem.write = "-----BEGIN " ++ pem.label ++ "-----\n" ++
      String.ofList (dataLines pem.contents) ++ "-----END " ++ pem.label ++ "-----\n" := rfl
  generalize String.ofList (dataLines pem.contents) = data at parts ⊢
  simp only [parts, Bytes.ofText_append, closing, beginMark, endMark, List.append_assoc]

theorem readRaw?_write (plain : 0x2D ∉ Bytes.ofText pem.label) :
    readRaw? (Bytes.ofText pem.write) =
      some (⟨Bytes.ofText pem.label, Bytes.ofText (String.ofList (dataLines pem.contents)),
        Bytes.ofText pem.label⟩, []) := by
  have dashesOpen : dashes = 0x2D :: dashes.tail := by
    decide +kernel
  have endOpens : endMark = 0x2D :: endMark.tail := by
    decide +kernel
  have opening (rest : Bytes) := splitAt?_of_notMem dashes.tail rest plain
  have data (rest : Bytes) := splitAt?_of_notMem endMark.tail rest
    (notMem_dataLines pem.contents (Or.inl rfl))
  rw [← dashesOpen] at opening
  rw [← endOpens] at data
  have broken (rest : Bytes) : ([0x0A] ++ rest).dropWhile isSpace = rest.dropWhile isSpace := rfl
  rw [ofText_write, readRaw?, splitAt?_append]
  simp only [opening, broken, dropWhile_dataLines, data]
  rfl

/-- A block that was written is read back, and it is the only one in its text. -/
theorem readAll?_write (named : pem.label ≠ "") (plain : 0x2D ∉ Bytes.ofText pem.label) :
    readAll? (Bytes.ofText pem.write) = some [pem] := by
  obtain ⟨fuel, enough⟩ : ∃ fuel, (Bytes.ofText pem.write).length = fuel + 1 := by
    refine Nat.exists_eq_succ_of_ne_zero ?_
    have opens : beginMark.length ≠ 0 := by
      decide +kernel
    rw [ofText_write, List.length_append]
    omega
  have nothing : readRaws fuel [] = [] := by
    cases fuel <;> rfl
  have headers : ((lines "".toList).all (·.contains ':')) = true := by
    decide +kernel
  have noText : Bytes.toText? [] = some "" := by
    decide +kernel
  rw [readAll?, enough, readRaws, readRaw?_write plain]
  simp only [nothing, List.mapM_cons, List.mapM_nil, ofRaw?, divide_dataLines,
    Bytes.toText?_ofText, noText, headers, String.toList_ofList, filter_dataLines,
    Base64.decodeLenient?_encode, String.isEmpty_iff, named]
  simp

end CertApproval.Pem
