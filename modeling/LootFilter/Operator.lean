import LootFilter.Text.Basic

/-!
# Comparison operators

The six operators of conditions. `=` and `==` mean the same for numbers.

## Main definitions

* `Operator` — the operators
* `Operator.symbol`, `Operator.ofSymbol?` — how an operator is written, and back
* `Operator.holds` — the comparison of two integers

## Main results

* `Operator.ofSymbol?_eq_some_iff` — reading accepts exactly the six symbols
-/

namespace LootFilter

/-- A comparison operator. -/
inductive Operator
  /-- `=` -/
  | assign
  /-- `==`, which is meant where a condition on a text names no operator -/
  | equal
  /-- `>` -/
  | greater
  /-- `<` -/
  | less
  /-- `>=` -/
  | greaterOrEqual
  /-- `<=` -/
  | lessOrEqual
  deriving Repr, DecidableEq

namespace Operator

/-- An operator as a filter writes it. -/
def symbol : Operator → Text
  | .assign => "="
  | .equal => "=="
  | .greater => ">"
  | .less => "<"
  | .greaterOrEqual => ">="
  | .lessOrEqual => "<="

/-- The operators. -/
def all : List Operator := [.assign, .equal, .greater, .less, .greaterOrEqual, .lessOrEqual]

/-- The operator that a word stands for. -/
def ofSymbol? (word : Text) : Option Operator := all.find? fun o => o.symbol == word

/-- Whether the operator holds between an actual and an expected number. -/
def holds (o : Operator) (actual expected : Int) : Bool :=
  match o with
  | .assign | .equal => actual == expected
  | .greater => expected < actual
  | .less => actual < expected
  | .greaterOrEqual => expected ≤ actual
  | .lessOrEqual => actual ≤ expected

theorem ofSymbol?_symbol (o : Operator) : ofSymbol? o.symbol = some o := by
  cases o <;> decide

theorem ofSymbol?_eq_some_iff {word : Text} {o : Operator} :
    ofSymbol? word = some o ↔ word = o.symbol := by
  constructor
  · intro h
    have := List.find?_some h
    exact (by simpa using this : o.symbol = word).symm
  · rintro rfl
    exact ofSymbol?_symbol o

theorem holds_assign (a b : Int) : assign.holds a b = equal.holds a b := rfl

/-- At most and more than are opposites. -/
theorem holds_lessOrEqual (a b : Int) : lessOrEqual.holds a b = !greater.holds a b := by
  simp only [holds]
  by_cases h : a ≤ b <;> simp [h]; omega

/-- At least and less than are opposites. -/
theorem holds_greaterOrEqual (a b : Int) : greaterOrEqual.holds a b = !less.holds a b := by
  simp only [holds]
  by_cases h : b ≤ a <;> simp [h]; omega

end Operator

end LootFilter
