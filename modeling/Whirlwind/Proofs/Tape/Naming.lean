import Whirlwind.Proofs.Text.Decimal
import Whirlwind.Proofs.Token.Lexing
import Whirlwind.Tape.Rebuilt

/-!
# What words are called in assembly source

A bare name of digits and the letter `r` refers to a word of the same section,
and is replaced by the digits and the name of the section.  The label of a word
is made in the same way from its offset.  Such a name can be read as one, unless
the digits are a single zero and the section starts with the second letter of a
radix mark (`isName_append_iff`).
-/

namespace Whirlwind

namespace Tape

/-! ## Relative names -/

@[simp]
theorem offsetDigits?_eq_some_iff {name digits : String} :
    offsetDigits? name = some digits ↔
      IsNumber Char.isDigit digits ∧ name = digits ++ "r" := by
  have joined : ∀ front : List Char, name.toList.reverse = 'r' :: front →
      name = String.ofList front.reverse ++ "r" := by
    intro front reversed
    have written := congrArg List.reverse reversed
    rw [List.reverse_reverse, List.reverse_cons] at written
    rw [← String.toList_inj, written]
    simp
  constructor
  · intro found
    unfold offsetDigits? at found
    split at found
    · cases found
    · next last front reversed =>
      split at found
      · next shape =>
        simp only [Bool.and_eq_true, relativeMark] at shape
        rcases shape with ⟨⟨mark, visible⟩, digit⟩
        rcases of_decide_eq_true mark with rfl
        rcases Option.some.inj found with rfl
        refine ⟨⟨by simpa using visible, ?_⟩, joined front reversed⟩
        simpa using digit
      · cases found
  · rintro ⟨number, rfl⟩
    have reversed : (digits ++ "r").toList.reverse =
        'r' :: digits.toList.reverse := by simp
    unfold offsetDigits?
    rw [reversed]
    have visible : digits.toList ≠ [] := by simpa using number.1
    simpa [relativeMark, visible] using number.2

/-- An operand is renamed if it is a bare relative name, and kept otherwise. -/
inductive Renames (inside : String) : Option Expr → Option Expr → Prop where
  | relative {digits : String} (number : IsNumber Char.isDigit digits) :
      Renames inside (some (.identifier (digits ++ "r")))
        (some (.identifier (digits ++ inside)))
  | other {operand : Option Expr}
      (apart : ∀ digits, IsNumber Char.isDigit digits →
        operand ≠ some (.identifier (digits ++ "r"))) :
      Renames inside operand operand

/-- An operand as it is in assembly source. -/
def renamed (inside : String) : Option Expr → Option Expr
  | some (.identifier name) => some (.identifier (assemblyLabel inside name))
  | other => other

theorem renames_renamed (inside : String) (operand : Option Expr) :
    Renames inside operand (renamed inside operand) := by
  cases operand with
  | none => exact .other fun _ _ same => nomatch same
  | some expr =>
      cases expr with
      | identifier name =>
          rw [renamed, assemblyLabel]
          split
          · next digits found =>
            rcases offsetDigits?_eq_some_iff.1 found with ⟨number, rfl⟩
            exact .relative number
          · next absent =>
            refine .other fun digits number same => ?_
            rcases Expr.identifier.inj (Option.some.inj same) with rfl
            rw [offsetDigits?_eq_some_iff.2 ⟨number, rfl⟩] at absent
            cases absent
      | binary | unary | apply | string | digits =>
          exact .other fun _ _ same => Expr.noConfusion (Option.some.inj same)

/-- An operand is renamed in one way only. -/
theorem Renames.eq_renamed {inside : String} {operand result : Option Expr}
    (renames : Renames inside operand result) :
    result = renamed inside operand := by
  cases renames with
  | @relative digits number =>
      rw [renamed, assemblyLabel, offsetDigits?_eq_some_iff.2 ⟨number, rfl⟩]
  | other apart =>
      cases operand with
      | none => rfl
      | some expr =>
          cases expr with
          | identifier name =>
              rw [renamed, assemblyLabel]
              split
              · next digits found =>
                rcases offsetDigits?_eq_some_iff.1 found with ⟨number, rfl⟩
                exact absurd rfl (apart digits number)
              · rfl
          | binary | unary | apply | string | digits => rfl

theorem renames_iff {inside : String} {operand result : Option Expr} :
    Renames inside operand result ↔ result = renamed inside operand := by
  constructor
  · exact Renames.eq_renamed
  · rintro rfl
    exact renames_renamed inside operand

/-! ## Names that are glued together -/

/-- Behind a zero, the name of a section completes a radix mark. -/
def CompletesRadix (inside : String) : Prop :=
  inside.toList.head? = some 'o' ∨ inside.toList.head? = some 'x'

instance (inside : String) : Decidable (CompletesRadix inside) :=
  inferInstanceAs (Decidable (_ ∨ _))

/-- Only a single zero and the name of a section start with a radix mark. -/
theorem startsRadix_append_iff {digits inside : String}
    (number : IsNumber Char.isDigit digits) :
    Scan.startsRadix (digits ++ inside).toList = true ↔
      digits = "0" ∧ CompletesRadix inside := by
  rcases number with ⟨visible, digit⟩
  have single : digits = "0" ↔ digits.toList = ['0'] := by
    rw [← String.toList_inj]
    rfl
  rw [String.toList_append, single, CompletesRadix]
  match written : digits.toList, inside.toList with
  | [], _ => simp_all
  | [first], [] => simp [Scan.startsRadix]
  | [first], next :: tail =>
      simp only [List.singleton_append, List.head?_cons, Option.some.injEq,
        List.cons.injEq, and_true]
      constructor
      · intro marked
        unfold Scan.startsRadix at marked
        split at marked <;> simp_all
      · rintro ⟨rfl, rfl | rfl⟩ <;> rfl
  | first :: second :: tail, _ =>
      have digitSecond : second.isDigit = true :=
        digit second (by simp [written])
      unfold Scan.startsRadix
      split <;> simp_all

/-- Digits and a name are a name, unless they start with a radix mark. -/
theorem isName_append_iff {digits inside : String}
    (number : IsNumber Char.isDigit digits) (named : IsName inside) :
    IsName (digits ++ inside) ↔ ¬(digits = "0" ∧ CompletesRadix inside) := by
  have inName : ∀ character ∈ (digits ++ inside).toList,
      Scan.isNameChar character = true := by
    rw [String.toList_append, List.forall_mem_append]
    exact ⟨fun character member =>
      Scan.isNameChar_of_isDigit (number.2 character member), named.1⟩
  have lettered : ∃ character ∈ (digits ++ inside).toList,
      character.isDigit = false := by
    rcases named.2.1 with ⟨letter, member, other⟩
    exact ⟨letter, by simp [member], other⟩
  rw [← startsRadix_append_iff number, Bool.not_eq_true]
  constructor
  · exact fun shape => shape.2.2
  · exact fun plain => ⟨inName, lettered, plain⟩

end Tape

end Whirlwind
