/-!
# Decimal digits

Whole numbers and their decimal digits. To read very many digits in reasonable time, neighbouring ones
are taken together as one digit of the squared base, and so on until one is left; `digitsValue_eq` says
that the number is the one that is read digit by digit.
-/

namespace ColorCube

/-- Powers of whole numbers are the built-in ones, also where there are others in sight. -/
@[default_instance high]
instance (priority := high) builtinPow : Pow Nat Nat := instPowNat

/-- The decimal digits of a number; one digit for zero, and no leading zeros otherwise. -/
def digits (n : Nat) : List Char := Nat.toDigits 10 n

/-- The number with given digits in a base, the least significant first. -/
def placeValue (base : Nat) (ds : List Nat) : Nat := ds.foldr (fun d n => d + base * n) 0

/-- Takes digits together two by two, and puts the pairs before others in reverse. -/
def pairUp (base : Nat) (pairs : List Nat) : List Nat → List Nat
  | [] => pairs
  | [d] => d :: pairs
  | d :: e :: rest => pairUp base ((d + base * e) :: pairs) rest

/-- The number with given digits, found by at most `steps` rounds of taking pairs. -/
def combine : (steps base : Nat) → List Nat → Nat
  | _, _, [] => 0
  | _, _, [d] => d
  | 0, base, ds => placeValue base ds
  | steps + 1, base, ds => combine steps (base * base) (pairUp base [] ds).reverse

/-- The number that decimal digits spell, the most significant first. -/
def digitsValue (s : List Char) : Nat :=
  combine s.length 10 (s.reverse.map fun c => c.toNat - '0'.toNat)

/-- The number that a text of one or more digits spells. -/
def natural? (s : List Char) : Option Nat :=
  if s ≠ [] ∧ s.all Char.isDigit then some (digitsValue s) else none

@[simp] theorem placeValue_nil (base : Nat) : placeValue base [] = 0 := rfl

@[simp] theorem placeValue_cons (base d : Nat) (ds : List Nat) :
    placeValue base (d :: ds) = d + base * placeValue base ds := rfl

theorem placeValue_append (base : Nat) (xs ys : List Nat) :
    placeValue base (xs ++ ys) = placeValue base xs + base ^ xs.length * placeValue base ys := by
  induction xs with
  | nil => simp
  | cons x xs ih =>
    rw [List.cons_append, placeValue_cons, ih, placeValue_cons, List.length_cons, Nat.pow_succ,
      Nat.mul_add, Nat.mul_comm (base ^ xs.length) base, Nat.mul_assoc, Nat.add_assoc]

theorem placeValue_reverse_pairUp (base : Nat) (pairs ds : List Nat) :
    placeValue (base * base) (pairUp base pairs ds).reverse =
      placeValue (base * base) pairs.reverse + (base * base) ^ pairs.length * placeValue base ds := by
  fun_induction pairUp base pairs ds with
  | case1 pairs => simp
  | case2 pairs d => simp [placeValue_append]
  | case3 pairs d e rest ih =>
    rw [ih, List.reverse_cons, placeValue_append, List.length_reverse, List.length_cons,
      placeValue_cons, placeValue_nil, placeValue_cons, placeValue_cons, Nat.mul_zero, Nat.add_zero,
      Nat.pow_succ, Nat.add_assoc, Nat.mul_assoc, ← Nat.mul_add]
    congr 2
    rw [Nat.mul_add, ← Nat.mul_assoc base base, Nat.add_assoc]

theorem combine_eq (steps base : Nat) (ds : List Nat) :
    combine steps base ds = placeValue base ds := by
  fun_induction combine steps base ds with
  | case1 => rfl
  | case2 => simp
  | case3 => rfl
  | case4 steps base ds _ _ ih => rw [ih, placeValue_reverse_pairUp]; simp

theorem digitsValue_eq (s : List Char) : digitsValue s = Nat.ofDigitChars 10 s 0 := by
  rw [digitsValue, combine_eq, placeValue, Nat.ofDigitChars, List.foldr_map, List.foldr_reverse]
  congr 1
  funext n c
  rw [Nat.add_comm]

end ColorCube
