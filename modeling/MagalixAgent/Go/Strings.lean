import MagalixAgent.Go.Basic

namespace MagalixAgent

/-! The string operations of the `strings` and `fmt` packages the agent calls,
and the facts about `:`-separated keys that the rate table relies on. -/

namespace Strings

/-- `strings.Contains(s, substr)`. -/
def contains (s substr : String) : Bool := decide (substr.data <:+: s.data)

/-- `strings.ToLower(s)` on ASCII letters; every other character is kept. No
character outside ASCII lowercases to an ASCII letter other than `i` and `k`,
so comparing the result with a word without those letters decides as Go does. -/
def toLower (s : String) : String := ⟨s.data.map Char.toLower⟩

/-- A name in which `:` does not occur: a namespace, a pod or a container name as
the rate keys require them. -/
def NoColon (name : String) : Prop := ':' ∉ name.data

instance (name : String) : Decidable (NoColon name) :=
  inferInstanceAs (Decidable (':' ∉ name.data))

/-- A prefix free of a separator ends at the separator's first occurrence, so it
is recovered from the concatenation; the rate keys are split so at `-` and `:`. -/
theorem separator_split {separator : Char} {left right : List Char} {leftRest rightRest : List Char}
    (leftFree : separator ∉ left) (rightFree : separator ∉ right)
    (equal : left ++ separator :: leftRest = right ++ separator :: rightRest) :
    left = right ∧ leftRest = rightRest := by
  induction left generalizing right with
  | nil =>
      cases right with
      | nil => simpa using equal
      | cons head tail =>
          simp only [List.nil_append, List.cons_append, List.cons.injEq] at equal
          exact absurd (equal.1 ▸ List.mem_cons_self _ _) rightFree
  | cons head tail induction =>
      cases right with
      | nil =>
          simp only [List.nil_append, List.cons_append, List.cons.injEq] at equal
          exact absurd (equal.1 ▸ List.mem_cons_self _ _) leftFree
      | cons other others =>
          simp only [List.cons_append, List.cons.injEq] at equal
          have parts := induction (fun member => leftFree (List.mem_cons_of_mem _ member))
            (fun member => rightFree (List.mem_cons_of_mem _ member)) equal.2
          exact ⟨by rw [equal.1, parts.1], parts.2⟩

/-- A `:`-free string differs from any string that contains `:`. -/
theorem ne_of_noColon {name : List Char} (before rest : List Char) (free : ':' ∉ name) :
    name ≠ before ++ ':' :: rest := by
  rintro rfl
  simp at free

end Strings

end MagalixAgent
