import TypedJson.Proofs.Text.Casing
import TypedJson.Text.Letter

/-!
# Classes of characters

Cased characters are letters. The classes are sets of code points given by their switches, so that
one class lies in another if it does in front of the first switch of both and behind each of their
switches: `includesFrom` reads both sets at once, from one switch to the next.
-/

namespace TypedJson.Text

namespace CodeSet

/-- From where the two readings stand, inside of their sets or not, the first set lies in the
second. -/
def includesFrom : Nat → Bool → Bool → List Nat → List Nat → Bool
  | 0, _, _, _, _ => false
  | _ + 1, a, b, [], [] => !a || b
  | steps + 1, a, b, _ :: xs, [] => (!a || b) && includesFrom steps (!a) b xs []
  | steps + 1, a, b, [], _ :: ys => (!a || b) && includesFrom steps a (!b) [] ys
  | steps + 1, a, b, x :: xs, y :: ys =>
    (!a || b) &&
      if x < y then includesFrom steps (!a) b xs (y :: ys)
      else if y < x then includesFrom steps a (!b) (x :: xs) ys
      else includesFrom steps (!a) (!b) xs ys

/-- What the reading tells of a code point in front of the next switch and from there on. -/
theorem xor_containsFrom_cons (inside : Bool) (next : Nat) (ahead : List Nat) (n : Nat) :
    (inside ^^ containsFrom (next :: ahead) n) =
      if n < next then inside else !inside ^^ containsFrom ahead n := by
  rw [containsFrom]
  split <;> simp

/-- A code point of the first set is in the second. -/
theorem mem_of_includesFrom {steps : Nat} {a b : Bool} {xs ys : List Nat}
    (h : includesFrom steps a b xs ys) (n : Nat) (hn : a ^^ containsFrom xs n) :
    b ^^ containsFrom ys n := by
  fun_induction includesFrom steps a b xs ys with
  | case1 => cases h
  | case2 => simp_all [containsFrom]
  | case3 steps a b x xs ih =>
      rw [xor_containsFrom_cons] at hn
      rw [Bool.and_eq_true] at h
      split at hn
      · simp_all [containsFrom]
      · exact ih h.2 hn
  | case4 steps a b y ys ih =>
      rw [xor_containsFrom_cons]
      rw [Bool.and_eq_true] at h
      split
      · simp_all [containsFrom]
      · exact ih h.2 hn
  | case5 steps a b x xs y ys ihfirst ihsecond ihboth =>
      -- In front of both switches nothing has changed, and else the nearest of them is passed.
      rw [Bool.and_eq_true] at h
      obtain ⟨hhere, hbehind⟩ := h
      by_cases hfront : n < x ∧ n < y
      · simp_all [xor_containsFrom_cons]
      · split at hbehind
        · rw [xor_containsFrom_cons, if_neg (by omega)] at hn
          exact ihfirst hbehind hn
        · split at hbehind
          · rw [xor_containsFrom_cons, if_neg (by omega)]
            exact ihsecond hbehind hn
          · rw [xor_containsFrom_cons, if_neg (by omega)] at hn ⊢
            exact ihboth hbehind hn

/-- Reading both sets to their ends finds the first in the second. -/
def includes (s t : CodeSet) : Bool :=
  includesFrom (s.switches.length + t.switches.length + 1) false false s.switches t.switches

/-- A character of a set is in every set that includes it. -/
theorem contains_of_includes {s t : CodeSet} (h : s.includes t) {c : Char} (hc : s.contains c) :
    t.contains c := by
  have hmem := mem_of_includesFrom h c.toNat
  simp only [Bool.false_xor] at hmem
  exact hmem hc

end CodeSet

/-! ## Cased characters -/

variable {c : Char}

/-- A small character is a letter. -/
theorem isAlphabetic_of_isLowercase (h : isLowercase c) : isAlphabetic c := by
  by_cases hascii : c.toNat < 0x80
  · exact ascii_all (p := fun c => isLowercase c → isAlphabetic c) (by decide) hascii h
  · rw [isLowercase, if_neg hascii] at h
    rw [isAlphabetic, if_neg hascii]
    exact CodeSet.contains_of_includes (by decide +kernel) h

/-- A capital is a letter. -/
theorem isAlphabetic_of_isUppercase (h : isUppercase c) : isAlphabetic c := by
  by_cases hascii : c.toNat < 0x80
  · exact ascii_all (p := fun c => isUppercase c → isAlphabetic c) (by decide) hascii h
  · rw [isUppercase, if_neg hascii] at h
    rw [isAlphabetic, if_neg hascii]
    exact CodeSet.contains_of_includes (by decide +kernel) h

end TypedJson.Text
