import CertApproval.Text.Blank
import CertApproval.Text.Ranges
import Mathlib.Data.List.TakeWhile

/-!
Splitting a text at a character, and trimming its pieces. Main statement: the pieces of a text are
those that have no separator in them and give the text back when they are joined.
-/

namespace CertApproval.Text

theorem splitAtChar_eq_splitOn (separator : Char) (text : List Char) :
    splitAtChar separator text = text.splitOn separator := by
  induction text with
  | nil =>
      rw [splitAtChar, List.splitOn_nil]
  | cons c rest inductionHypothesis =>
      rw [List.splitOn_cons_eq_if_modifyHead, ← inductionHypothesis, splitAtChar]
      cases pieces : splitAtChar separator rest with
      | nil =>
          exact absurd pieces (splitAtChar_ne_nil separator rest)
      | cons piece pieces =>
          by_cases here : c = separator
          · simp [here]
          · simp [here]

theorem not_mem_of_mem_splitAtChar {separator : Char} {text piece : List Char}
    (member : piece ∈ splitAtChar separator text) : separator ∉ piece := by
  induction text generalizing piece with
  | nil =>
      rw [splitAtChar, List.mem_singleton] at member
      rw [member]
      exact List.not_mem_nil
  | cons c rest inductionHypothesis =>
      rw [splitAtChar] at member
      cases pieces : splitAtChar separator rest with
      | nil =>
          exact absurd pieces (splitAtChar_ne_nil separator rest)
      | cons first pieces =>
          rw [pieces] at inductionHypothesis
          simp only [pieces] at member
          by_cases here : c = separator
          · rw [if_pos here] at member
            rcases List.mem_cons.mp member with rfl | later
            · exact List.not_mem_nil
            · exact inductionHypothesis later
          · rw [if_neg here] at member
            rcases List.mem_cons.mp member with rfl | later
            · have absent := inductionHypothesis List.mem_cons_self
              exact List.not_mem_cons_of_ne_of_not_mem (Ne.symm here) absent
            · exact inductionHypothesis (List.mem_cons_of_mem first later)

theorem splitAtChar_eq_iff {separator : Char} {text : List Char} {pieces : List (List Char)}
    (nonempty : pieces ≠ []) :
    splitAtChar separator text = pieces ↔
      text = [separator].intercalate pieces ∧ ∀ piece ∈ pieces, separator ∉ piece := by
  constructor
  · rintro rfl
    refine ⟨?_, fun piece member => not_mem_of_mem_splitAtChar member⟩
    rw [splitAtChar_eq_splitOn, List.intercalate_splitOn]
  · rintro ⟨rfl, absent⟩
    rw [splitAtChar_eq_splitOn]
    exact List.splitOn_intercalate separator absent nonempty

/-- A text without the separator is its only piece. -/
theorem splitAtChar_of_not_mem {separator : Char} {text : List Char} (absent : separator ∉ text) :
    splitAtChar separator text = [text] := by
  rw [splitAtChar_eq_splitOn]
  exact List.splitOn_eq_singleton absent

theorem splitAtChar_pair {separator : Char} {before after : List Char} (absent : separator ∉ before)
    (absentAfter : separator ∉ after) :
    splitAtChar separator (before ++ separator :: after) = [before, after] := by
  refine (splitAtChar_eq_iff (List.cons_ne_nil _ _)).mpr ⟨by simp [List.intercalate], ?_⟩
  simp [absent, absentAfter]

theorem splitAtChar_append (separator : Char) (before after : List Char) :
    splitAtChar separator (before ++ separator :: after) =
      splitAtChar separator before ++ splitAtChar separator after := by
  simp only [splitAtChar_eq_splitOn]
  exact List.splitOn_append_cons_self before after

/-- A text that neither begins nor ends with what is to be removed is left as it is. -/
theorem trimBoth_eq_self {drop : Char → Bool} {first last : Char} (middle : List Char)
    (keepFirst : drop first = false) (keepLast : drop last = false) :
    trimBoth drop (first :: middle ++ [last]) = first :: middle ++ [last] := by
  simp [trimBoth, trimStart, trimEnd, keepFirst, keepLast]

theorem takeWhile_eq_iff {point : Char} {before characters : List Char} :
    characters.takeWhile (· ≠ point) = before ↔
      point ∉ before ∧ (characters = before ∨ ∃ after, characters = before ++ point :: after) := by
  constructor
  · rintro rfl
    refine ⟨fun member => ?_, ?_⟩
    · have passed := List.mem_takeWhile_imp member
      simp at passed
    · cases rest : characters.dropWhile (· ≠ point) with
      | nil =>
          have parts := List.takeWhile_append_dropWhile (p := (· ≠ point)) (l := characters)
          rw [rest, List.append_nil] at parts
          exact Or.inl parts.symm
      | cons first after =>
          have parts := List.takeWhile_append_dropWhile (p := (· ≠ point)) (l := characters)
          have stopped := List.head?_dropWhile_not (· ≠ point) characters
          rw [rest] at parts stopped
          obtain rfl : first = point := by simpa using stopped
          exact Or.inr ⟨after, parts.symm⟩
  · rintro ⟨absent, whole | ⟨after, split⟩⟩
    · rw [whole, List.takeWhile_eq_self_iff]
      intro character member
      exact decide_eq_true fun same => absent (same ▸ member)
    · have passes : ∀ character ∈ before, decide (character ≠ point) = true :=
        fun character member => decide_eq_true fun same => absent (same ▸ member)
      rw [split, List.takeWhile_append_of_pos passes]
      simp

/-- Whether a text has another one inside, with nothing around it but characters that are to be
removed, none of which stands at an end of what is inside. -/
def Padded (drop : Char → Bool) (inner text : List Char) : Prop :=
  ∃ before after, text = before ++ inner ++ after ∧ (∀ c ∈ before ++ after, drop c = true) ∧
    (∀ c ∈ inner.head?, drop c = false) ∧ ∀ c ∈ inner.getLast?, drop c = false

/-- What is not removed is still there. -/
theorem Padded.mem {drop : Char → Bool} {inner text : List Char} (padded : Padded drop inner text)
    {c : Char} (keeps : drop c = false) (member : c ∈ text) : c ∈ inner := by
  obtain ⟨before, after, rfl, padding, _⟩ := padded
  have kept : c ∉ before ++ after := fun member =>
    Bool.false_ne_true (keeps.symm.trans (padding c member))
  simp only [List.mem_append, not_or] at kept member
  exact (member.resolve_right kept.2).resolve_left kept.1

theorem dropWhile_eq_self {drop : Char → Bool} {text : List Char}
    (keeps : ∀ c ∈ text.head?, drop c = false) : text.dropWhile drop = text := by
  cases text with
  | nil =>
      rfl
  | cons first rest =>
      exact List.dropWhile_cons_of_neg (by simp [keeps first rfl])

theorem head?_dropWhile {drop : Char → Bool} (text : List Char) :
    ∀ c ∈ (text.dropWhile drop).head?, drop c = false := by
  intro c isHead
  have kept := List.head?_dropWhile_not drop text
  rwa [Option.mem_def.mp isHead] at kept

theorem trimBoth_eq_iff {drop : Char → Bool} {inner text : List Char} :
    trimBoth drop text = inner ↔ Padded drop inner text := by
  constructor
  · rintro rfl
    have start := List.takeWhile_append_dropWhile (p := drop) (l := text)
    have stop := List.takeWhile_append_dropWhile (p := drop) (l := (text.dropWhile drop).reverse)
    have split : text.dropWhile drop = trimBoth drop text ++
        ((text.dropWhile drop).reverse.takeWhile drop).reverse := by
      rw [trimBoth, trimEnd, trimStart, ← List.reverse_append, stop, List.reverse_reverse]
    refine ⟨text.takeWhile drop, ((text.dropWhile drop).reverse.takeWhile drop).reverse, ?_, ?_,
      ?_, ?_⟩
    · rw [List.append_assoc, ← split, start]
    · intro c member
      rcases List.mem_append.mp member with early | late
      · exact List.mem_takeWhile_imp early
      · exact List.mem_takeWhile_imp (List.mem_reverse.mp late)
    · intro c isHead
      refine head?_dropWhile text c ?_
      rw [split, List.head?_append, Option.mem_def.mp isHead]
      rfl
    · intro c isLast
      rw [trimBoth, trimEnd, List.getLast?_reverse] at isLast
      exact head?_dropWhile _ c isLast
  · rintro ⟨before, after, rfl, padding, first, last⟩
    have dropsBefore : ∀ c ∈ before, drop c = true := fun c member =>
      padding c (List.mem_append_left after member)
    have dropsAfter : ∀ c ∈ after, drop c = true := fun c member =>
      padding c (List.mem_append_right before member)
    have start : trimStart drop (before ++ inner ++ after) = (inner ++ after).dropWhile drop := by
      rw [trimStart, List.append_assoc, List.dropWhile_append_of_pos dropsBefore]
    rw [trimBoth, start]
    cases inner with
    | nil =>
        rw [List.nil_append, List.dropWhile_eq_nil_iff.mpr dropsAfter]
        rfl
    | cons c rest =>
        have kept : (c :: rest ++ after).dropWhile drop = c :: rest ++ after :=
          dropWhile_eq_self first
        rw [kept, trimEnd, List.reverse_append,
          List.dropWhile_append_of_pos fun c member => dropsAfter c (List.mem_reverse.mp member),
          dropWhile_eq_self (by rwa [List.head?_reverse]), List.reverse_reverse]

end CertApproval.Text
