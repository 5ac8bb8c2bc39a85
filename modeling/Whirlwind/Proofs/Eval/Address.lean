import Whirlwind.Proofs.Eval.Exact

/-!
# Addresses

An integer is an address only if a bare symbol stood for it.  Registers and
literals tell no addresses, and every operator but the plus sign, a list among
them, makes a value that is none (`NoAddress`).
-/

namespace Whirlwind

namespace Eval

/-- A result that is no address, or an error. -/
def NoAddress (result : Except EvalError Value) : Prop :=
  ∀ value, result = .ok value → value.isAddress = false

theorem noAddress_error (error : EvalError) : NoAddress (.error error) :=
  nofun

theorem noAddress_ok {value : Value} (plain : value.isAddress = false) :
    NoAddress (.ok value) := by
  rintro _ ⟨⟩
  exact plain

/-- What is made of a result is no address if it never is one. -/
theorem NoAddress.bind {Result : Type} (result : Except EvalError Result)
    {later : Result → Except EvalError Value}
    (plain : ∀ found, NoAddress (later found)) :
    NoAddress (result >>= later) := by
  cases result with
  | error error => exact noAddress_error error
  | ok found => exact plain found

theorem noAddress_plain (result : Except EvalError Int64) :
    NoAddress (Value.plain <$> result) := by
  cases result with
  | error error => exact noAddress_error error
  | ok number => exact noAddress_ok rfl

theorem noAddress_number (raw : String) : NoAddress (number raw) := by
  unfold number
  split
  · refine NoAddress.bind _ fun size => noAddress_ok ?_
    split <;> rfl
  · exact noAddress_plain _
  · exact noAddress_plain _

theorem noAddress_negated (value : Value) : NoAddress (negated value) := by
  cases value with
  | integer number =>
      rw [negated]
      split
      · exact noAddress_ok rfl
      · exact noAddress_plain _
  | negativeZero | fraction => exact noAddress_ok rfl
  | string | list | undefined => exact noAddress_error _

theorem noAddress_fraction (negative : Bool) (whole digits : String) :
    NoAddress (fraction negative whole digits) := by
  simp only [fraction]
  split
  · split
    · exact noAddress_ok rfl
    · exact noAddress_error _
  · exact noAddress_error _

theorem noAddress_qualified (left right : Expr) :
    NoAddress (qualified left right) := by
  unfold qualified
  split
  · exact noAddress_ok rfl
  · exact noAddress_error _

theorem noAddress_dotted (left right : Expr) :
    NoAddress (dotted left right) := by
  unfold dotted
  split
  · split
    · exact noAddress_fraction _ _ _
    · exact noAddress_qualified _ _
  · split
    · exact noAddress_fraction _ _ _
    · exact noAddress_qualified _ _
  · split
    · exact noAddress_plain _
    · exact noAddress_qualified _ _
  · exact noAddress_qualified _ _

theorem noAddress_marked (op : UnaryOp) (radix : Nat) (operand : Expr) :
    NoAddress (marked op radix operand) := by
  unfold marked
  split
  · exact noAddress_plain _
  · exact noAddress_error _

theorem noAddress_arithmetic (op : BinaryOp)
    (combine : Int64 → Int64 → Except EvalError Int64)
    (left right : Except EvalError Value) :
    NoAddress (arithmetic op combine left right) := by
  rw [arithmetic_eq]
  exact NoAddress.bind _ fun _ => NoAddress.bind _ fun _ => noAddress_plain _

end Eval

/-- A name stands for an address if it is a symbol that no register hides. -/
@[simp]
theorem Environment.lookup_eq_address_iff {environment : Environment}
    {name : String} {number : Int64} :
    environment.lookup name = .integer number true ↔
      environment.readRegister name = none ∧
        environment.symbols.get? name = some number := by
  unfold lookup
  cases environment.readRegister name with
  | some other => exact ⟨nofun, fun both => nomatch both.1⟩
  | none =>
      cases environment.symbols.get? name with
      | none => exact ⟨nofun, fun both => nomatch both.2⟩
      | some other => simp

namespace Expr

open Eval

/-- An expression that is no name and has no plus sign in front of it is no
address. -/
theorem noAddress_evaluate (environment : Environment) {tree : Expr}
    (noName : ∀ name, tree ≠ .identifier name)
    (noPlus : ∀ operand, tree ≠ .unary .plus operand) :
    NoAddress (tree.evaluate environment) := by
  cases tree with
  | identifier name => exact absurd rfl (noName name)
  | digits raw =>
      rw [evaluate]
      exact noAddress_number raw
  | string text =>
      rw [evaluate]
      exact noAddress_ok rfl
  | apply callee arguments =>
      rw [evaluate]
      exact noAddress_error _
  | unary op operand =>
      cases op with
      | plus => exact absurd rfl (noPlus operand)
      | minus =>
          rw [evaluate]
          exact NoAddress.bind _ noAddress_negated
      | octal | hexadecimal =>
          rw [evaluate]
          exact noAddress_marked _ _ _
  | binary op left right =>
      cases op with
      | plus | minus | multiply | divide | bitAnd | bitOr =>
          rw [evaluate]
          exact noAddress_arithmetic _ _ _ _
      | dot =>
          rw [evaluate]
          exact noAddress_dotted left right
      | assign =>
          rw [evaluate]
          exact noAddress_error _
      | comma =>
          rw [evaluate]
          exact NoAddress.bind _ fun _ => NoAddress.bind _ fun _ =>
            noAddress_ok rfl

/--
The value of an expression is an address just if the expression is a symbol that
no register hides, with or without plus signs in front of it, and then it is the
value of the symbol.
-/
theorem evaluate_eq_address_iff (environment : Environment) (tree : Expr)
    (number : Int64) :
    tree.evaluate environment = .ok (.integer number true) ↔
      ∃ name, tree.bare = .identifier name ∧
        environment.readRegister name = none ∧
        environment.symbols.get? name = some number := by
  rw [← evaluate_bare]
  by_cases named : ∃ name, tree.bare = .identifier name
  · rcases named with ⟨name, bare⟩
    rw [bare, evaluate, Except.ok.injEq, Environment.lookup_eq_address_iff]
    constructor
    · exact fun stands => ⟨name, rfl, stands⟩
    · rintro ⟨_, ⟨⟩, stands⟩
      exact stands
  · have plain := noAddress_evaluate environment
      (fun name same => named ⟨name, same⟩) (bare_ne_plus tree)
    constructor
    · intro found
      exact absurd (plain _ found) Bool.noConfusion
    · rintro ⟨name, bare, _⟩
      exact absurd ⟨name, bare⟩ named

/-- Two plus signs leave an address one, and a sum with zero does not. -/
example :
    (unary .plus (unary .plus (identifier "a"))).evaluate
        { symbols := ⟨[("a", 3)]⟩ } = .ok (.integer 3 true) ∧
      (binary .plus (identifier "a") (digits "0")).evaluate
        { symbols := ⟨[("a", 3)]⟩ } = .ok (.plain 3) :=
  ⟨rfl, rfl⟩

end Expr

end Whirlwind
