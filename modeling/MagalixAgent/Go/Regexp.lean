import MagalixAgent.Go.Basic

namespace MagalixAgent

/-! The part of Go's `regexp` package the agent uses: `QuoteMeta`, the parser of
`regexp.Compile` (Perl flags) on the syntax the agent's patterns are written
in, and `MatchString`. The parser covers anchors, literal characters,
backslash-escaped punctuation, bracketed classes of single characters and
ranges, capture groups and `+`; it reports Go's syntax errors on that syntax,
and any other syntax (`.`, `|`, `*`, `?`, counted repetitions, flags, named
classes, letter escapes) as `unsupported`. A compiled expression is given its
meaning as the end positions of its matches. -/

namespace Regexp

/-- The metacharacters `QuoteMeta` escapes: `\.+*?()|[]{}^$`. -/
def specialChars : List Char :=
  ['\\', '.', '+', '*', '?', '(', ')', '|', '[', ']', '{', '}', '^', '$']

/-- The characters of `regexp.QuoteMeta(s)`: a backslash before every
metacharacter. -/
def quoteChars (chars : List Char) : List Char :=
  chars.flatMap fun c => if c ∈ specialChars then ['\\', c] else [c]

/-- `regexp.QuoteMeta(s)`. -/
def quoteMeta (s : String) : String := ⟨quoteChars s.data⟩

/-- A compiled expression. -/
inductive Regex where
  | empty
  | beginText
  | endText
  | literal (c : Char)
  | charClass (negated : Bool) (ranges : List (Char × Char))
  | concat (first rest : Regex)
  | plus (body : Regex)
  | capture (body : Regex)
deriving DecidableEq, Repr

/-- An error of the parser: one of Go's syntax errors, named by its code, or
syntax outside what this model covers. -/
inductive ParseError where
  | code (text : String)
  | unsupported
deriving DecidableEq, Repr

/-- A character that stands for itself after a backslash: ASCII and neither a
letter nor a digit. -/
def escapesItself (c : Char) : Bool :=
  c.val < 128 && !(c.isAlphanum)

/-- `parseClassChar`: one character of a class, possibly escaped. -/
def parseClassChar : List Char → Except ParseError (Char × List Char)
  | [] => .error (.code "missing closing ]")
  | ['\\'] => .error (.code "trailing backslash at end of expression")
  | '\\' :: c :: rest => if escapesItself c then .ok (c, rest) else .error .unsupported
  | c :: rest => .ok (c, rest)

/-- The items of a class up to its `]`: single characters and ranges `lo-hi`.
A `]` or `-` first in the class stands for itself. -/
def parseClassItems : Nat → Bool → List Char →
    Except ParseError (List (Char × Char) × List Char)
  | 0, _, _ => .error .unsupported
  | _ + 1, false, ']' :: rest => .ok ([], rest)
  | _ + 1, _, '[' :: ':' :: _ => .error .unsupported
  | fuel + 1, _, chars =>
      match parseClassChar chars with
      | .error error => .error error
      | .ok (lo, afterLo) =>
          let ranged : Except ParseError (Char × List Char) :=
            match afterLo with
            | '-' :: next :: more =>
                if next ≠ ']' then parseClassChar (next :: more) else .ok (lo, afterLo)
            | _ => .ok (lo, afterLo)
          match ranged with
          | .error error => .error error
          | .ok (hi, afterHi) =>
              if hi < lo then .error (.code "invalid character class range")
              else
                match parseClassItems fuel false afterHi with
                | .error error => .error error
                | .ok (items, rest) => .ok ((lo, hi) :: items, rest)

/-- One atom, given the parser of a group's body: a metacharacter's meaning, or
the character itself. A `)` never reaches it: the concatenation stops there. -/
def parseAtom (parseGroup : List Char → Except ParseError (Regex × List Char)) (c : Char)
    (rest : List Char) : Except ParseError (Regex × List Char) :=
  if c ∉ specialChars then .ok (.literal c, rest)
  else
    match c, rest with
    | '^', rest => .ok (.beginText, rest)
    | '$', rest => .ok (.endText, rest)
    | '\\', [] => .error (.code "trailing backslash at end of expression")
    | '\\', d :: rest => if escapesItself d then .ok (.literal d, rest) else .error .unsupported
    | '[', '^' :: rest =>
        (parseClassItems (rest.length + 1) true rest).map fun parsed =>
          (.charClass true parsed.1, parsed.2)
    | '[', rest =>
        (parseClassItems (rest.length + 1) true rest).map fun parsed =>
          (.charClass false parsed.1, parsed.2)
    | '(', '?' :: _ => .error .unsupported
    | '(', rest =>
        match parseGroup rest with
        | .ok (body, ')' :: rest) => .ok (.capture body, rest)
        | .ok _ => .error (.code "missing closing )")
        | .error error => .error error
    | ')', _ => .error (.code "unexpected )")
    | '+', _ => .error (.code "missing argument to repetition operator")
    | '*', _ => .error (.code "missing argument to repetition operator")
    | '?', _ => .error (.code "missing argument to repetition operator")
    | ']', rest => .ok (.literal ']', rest)
    | '}', rest => .ok (.literal '}', rest)
    | _, _ => .error .unsupported

/-- Whether a repetition operator comes next. -/
def startsRepetition : List Char → Bool
  | '+' :: _ => true
  | '*' :: _ => true
  | '?' :: _ => true
  | _ => false

/-- A concatenation, up to a `)` or the end of the pattern: each atom, with a
`+` after it if there is one. -/
def parseSeq : Nat → List Char → Except ParseError (Regex × List Char)
  | 0, _ => .error .unsupported
  | _ + 1, [] => .ok (.empty, [])
  | _ + 1, ')' :: rest => .ok (.empty, ')' :: rest)
  | fuel + 1, c :: rest =>
      match parseAtom (parseSeq fuel) c rest with
      | .error error => .error error
      | .ok (atom, '+' :: after) =>
          if startsRepetition after then .error (.code "invalid nested repetition operator")
          else (parseSeq fuel after).map fun parsed => (.concat (.plus atom) parsed.1, parsed.2)
      | .ok (_, '*' :: _) => .error .unsupported
      | .ok (_, '?' :: _) => .error .unsupported
      | .ok (atom, after) => (parseSeq fuel after).map fun parsed =>
          (.concat atom parsed.1, parsed.2)

/-- `regexp.Compile(pattern)`; `MustCompile` panics exactly when it fails. -/
def compile (pattern : String) : Except ParseError Regex :=
  match parseSeq (pattern.length + 1) pattern.data with
  | .error error => .error error
  | .ok (regex, []) => .ok regex
  | .ok _ => .error (.code "unexpected )")

/-! ## Matching -/

/-- Whether a class matches `c`: it lies in a range, unless the class is
negated. -/
def classMatches (negated : Bool) (ranges : List (Char × Char)) (c : Char) : Bool :=
  (ranges.any fun range => decide (range.1 ≤ c) && decide (c ≤ range.2)) != negated

/-- The positions at which one or more matches in a row of an expression whose
single matches end at `step`, starting at `start`, can end; `fuel` bounds the
number of matches. -/
def repeatEnds (step : Nat → List Nat) : Nat → Nat → List Nat
  | 0, _ => []
  | fuel + 1, start => (step start).flatMap fun next => next :: repeatEnds step fuel next

/-- The positions of `input` at which a match of `regex` starting at `start`
can end. -/
def ends (input : List Char) : Regex → Nat → List Nat
  | .empty, start => [start]
  | .beginText, start => if start = 0 then [start] else []
  | .endText, start => if start = input.length then [start] else []
  | .literal c, start => if input[start]? = some c then [start + 1] else []
  | .charClass negated ranges, start =>
      match input[start]? with
      | some c => if classMatches negated ranges c then [start + 1] else []
      | none => []
  | .concat first rest, start => (ends input first start).flatMap (ends input rest)
  | .plus body, start => repeatEnds (ends input body) (input.length + 1) start
  | .capture body, start => ends input body start

/-- `re.MatchString(s)`: some substring of `s` matches. -/
def matchString (regex : Regex) (s : String) : Bool :=
  (List.range (s.length + 1)).any fun start => !(ends s.data regex start).isEmpty

/-! ## Quoted names

`QuoteMeta` puts a backslash before each metacharacter, and every metacharacter
stands for itself after one; every other character stands for itself. So a
quoted name parses as its characters, one literal each, whatever follows it
that starts no repetition. -/

theorem escapesItself_of_mem_specialChars : ∀ c ∈ specialChars, escapesItself c = true := by
  decide

theorem quoteChars_cons (c : Char) (chars : List Char) :
    quoteChars (c :: chars) = (if c ∈ specialChars then ['\\', c] else [c]) ++ quoteChars chars :=
  rfl

theorem length_le_length_quoteChars (chars : List Char) :
    chars.length ≤ (quoteChars chars).length := by
  induction chars with
  | nil => exact Nat.le_refl 0
  | cons c chars ih => rw [quoteChars_cons]; split <;> simp <;> omega

theorem parseAtom_plain {group} {c : Char} {rest : List Char} (plain : c ∉ specialChars) :
    parseAtom group c rest = .ok (.literal c, rest) := if_pos plain

theorem parseAtom_escaped {group} {c : Char} {rest : List Char} (special : c ∈ specialChars) :
    parseAtom group '\\' (c :: rest) = .ok (.literal c, rest) := by
  unfold parseAtom
  rw [if_neg (by decide)]
  exact if_pos (escapesItself_of_mem_specialChars c special)

theorem parseAtom_beginText {group} {rest : List Char} :
    parseAtom group '^' rest = .ok (.beginText, rest) := rfl

theorem startsRepetition_of_plain {c : Char} {rest : List Char} (plain : c ∉ specialChars) :
    startsRepetition (c :: rest) = false := by
  unfold startsRepetition
  split <;> first | rfl | exact absurd ((List.cons.inj ‹_›).1 ▸ by decide) plain

/-- The step of the concatenation loop on an atom that no repetition follows. -/
theorem parseSeq_of_atom {fuel : Nat} {c : Char} {rest after : List Char} {atom : Regex}
    (notParen : c ≠ ')') (parsed : parseAtom (parseSeq fuel) c rest = .ok (atom, after))
    (single : startsRepetition after = false) :
    parseSeq (fuel + 1) (c :: rest) =
      (parseSeq fuel after).map fun next => (.concat atom next.1, next.2) := by
  rw [parseSeq.eq_4 _ _ _ notParen, parsed]
  split
  next heq => cases heq
  next heq => cases heq; cases single
  next heq => cases heq; cases single
  next heq => cases heq; cases single
  next heq => cases heq; rfl

/-- The expression a run of literal characters before `rest` compiles to. -/
def literals (chars : List Char) (rest : Regex) : Regex :=
  chars.foldr (fun c regex => .concat (.literal c) regex) rest

theorem startsRepetition_quoteChars_append {chars rest : List Char}
    (single : startsRepetition rest = false) :
    startsRepetition (quoteChars chars ++ rest) = false := by
  cases chars with
  | nil => exact single
  | cons c chars =>
    rw [quoteChars_cons]
    split
    · rfl
    · exact startsRepetition_of_plain ‹_›

theorem map_literals_nil (parsed : Except ParseError (Regex × List Char)) :
    (parsed.map fun next => (literals [] next.1, next.2)) = parsed := by
  cases parsed <;> rfl

theorem map_literals_cons (c : Char) (chars : List Char)
    (parsed : Except ParseError (Regex × List Char)) :
    ((parsed.map fun next => (literals chars next.1, next.2)).map fun next =>
        (Regex.concat (.literal c) next.1, next.2)) =
      parsed.map fun next => (literals (c :: chars) next.1, next.2) := by
  cases parsed <;> rfl

/-- A quoted name parses as its literals, one step of fuel each. -/
theorem parseSeq_quoteChars (fuel : Nat) (chars : List Char) {rest : List Char}
    (single : startsRepetition rest = false) :
    parseSeq (fuel + chars.length) (quoteChars chars ++ rest) =
      (parseSeq fuel rest).map fun next => (literals chars next.1, next.2) := by
  induction chars with
  | nil => exact (map_literals_nil _).symm
  | cons c chars ih =>
    have after := @startsRepetition_quoteChars_append chars _ single
    rw [List.length_cons, ← Nat.add_assoc, quoteChars_cons]
    split
    · rename_i special
      simp only [List.cons_append, List.nil_append]
      rw [parseSeq_of_atom (by decide) (parseAtom_escaped special) after, ih, map_literals_cons]
    · rename_i plain
      have notParen : c ≠ ')' := fun paren => plain (paren ▸ by decide)
      simp only [List.cons_append, List.nil_append]
      rw [parseSeq_of_atom notParen (parseAtom_plain plain) after, ih, map_literals_cons]

/-- `^` then a quoted name then a tail that parses on its own. -/
theorem compile_anchored_quoteMeta (name : String) {tail : List Char} {tailRegex : Regex}
    (single : startsRepetition tail = false)
    (parsed : ∀ fuel, parseSeq (fuel + (tail.length + 1)) tail = .ok (tailRegex, [])) :
    compile ("^" ++ quoteMeta name ++ ⟨tail⟩) =
      .ok (.concat .beginText (literals name.data tailRegex)) := by
  have quoted := length_le_length_quoteChars name.data
  have data : ("^" ++ quoteMeta name ++ ⟨tail⟩).data = '^' :: (quoteChars name.data ++ tail) :=
    rfl
  have fuel : ("^" ++ quoteMeta name ++ ⟨tail⟩).data.length + 1 =
      ((quoteChars name.data).length - name.data.length + (tail.length + 1) +
        name.data.length) + 1 := by
    rw [data, List.length_cons, List.length_append]; omega
  unfold compile
  rw [String.length, fuel, data,
    parseSeq_of_atom (by decide) parseAtom_beginText (startsRepetition_quoteChars_append single),
    parseSeq_quoteChars _ _ single, parsed]
  rfl

/-! ## Match positions -/

section Positions

variable {input : List Char} {i j : Nat}

@[simp] theorem mem_ends_empty : j ∈ ends input .empty i ↔ j = i := List.mem_singleton

@[simp] theorem mem_ends_beginText : j ∈ ends input .beginText i ↔ i = 0 ∧ j = i := by
  simp only [ends]; split <;> simp_all

@[simp] theorem mem_ends_endText : j ∈ ends input .endText i ↔ i = input.length ∧ j = i := by
  simp only [ends]; split <;> simp_all

@[simp] theorem mem_ends_literal {c : Char} :
    j ∈ ends input (.literal c) i ↔ input[i]? = some c ∧ j = i + 1 := by
  simp only [ends]; split <;> simp_all

@[simp] theorem mem_ends_charClass {negated : Bool} {ranges : List (Char × Char)} :
    j ∈ ends input (.charClass negated ranges) i ↔
      ∃ c, input[i]? = some c ∧ classMatches negated ranges c = true ∧ j = i + 1 := by
  cases at_ : input[i]? <;> simp [ends, at_]

@[simp] theorem mem_ends_concat {first rest : Regex} :
    j ∈ ends input (.concat first rest) i ↔ ∃ k ∈ ends input first i, j ∈ ends input rest k :=
  List.mem_flatMap

@[simp] theorem ends_capture {body : Regex} : ends input (.capture body) i = ends input body i :=
  rfl

theorem take_drop_of_getElem? {x : Char} (at_ : input[i]? = some x) (before : i < j) :
    (input.drop i).take (j - i) = x :: (input.drop (i + 1)).take (j - (i + 1)) := by
  obtain ⟨inside, rfl⟩ := List.getElem?_eq_some.mp at_
  rw [List.drop_eq_getElem_cons inside, show j - i = j - (i + 1) + 1 by omega, List.take_succ_cons]

/-- The run lemma of a class under `+`: a chain of single matches from `i` ends at `j` exactly
when every character from `i` up to `j` lies in the class, and there are at most `fuel` of
them. -/
theorem mem_repeatEnds_charClass {negated : Bool} {ranges : List (Char × Char)} (fuel : Nat) :
    j ∈ repeatEnds (ends input (.charClass negated ranges)) fuel i ↔
      i < j ∧ j ≤ i + fuel ∧ j ≤ input.length ∧
        ∀ c ∈ (input.drop i).take (j - i), classMatches negated ranges c = true := by
  induction fuel generalizing i with
  | zero => simp only [repeatEnds, List.not_mem_nil, false_iff]; omega
  | succ fuel ih =>
    simp only [repeatEnds, List.mem_flatMap, mem_ends_charClass, List.mem_cons, ih]
    cases present : input[i]? with
    | none =>
      have beyond := List.getElem?_eq_none_iff.mp present
      simp only [reduceCtorEq, false_and, exists_false, false_iff]
      omega
    | some x =>
      have inside : i < input.length := (List.getElem?_eq_some.mp present).1
      simp only [Option.some.injEq]
      constructor
      · rintro ⟨_, ⟨_, rfl, matched, rfl⟩, rfl | ⟨later, within, bounded, run⟩⟩
        · refine ⟨by omega, by omega, by omega, ?_⟩
          rw [take_drop_of_getElem? present (by omega)]
          simp [matched]
        · refine ⟨by omega, by omega, bounded, ?_⟩
          rw [take_drop_of_getElem? present (by omega)]
          simpa [matched] using run
      · rintro ⟨later, within, bounded, run⟩
        rw [take_drop_of_getElem? present later, List.forall_mem_cons] at run
        refine ⟨i + 1, ⟨x, rfl, run.1, rfl⟩, ?_⟩
        by_cases next : j = i + 1
        · exact .inl next
        · exact .inr ⟨by omega, by omega, bounded, run.2⟩

@[simp] theorem mem_ends_plus_charClass {negated : Bool} {ranges : List (Char × Char)} :
    j ∈ ends input (.plus (.charClass negated ranges)) i ↔
      i < j ∧ j ≤ input.length ∧
        ∀ c ∈ (input.drop i).take (j - i), classMatches negated ranges c = true := by
  show j ∈ repeatEnds _ (input.length + 1) i ↔ _
  rw [mem_repeatEnds_charClass]
  constructor
  · exact fun ⟨later, _, bounded, run⟩ => ⟨later, bounded, run⟩
  · exact fun ⟨later, bounded, run⟩ => ⟨later, by omega, bounded, run⟩

end Positions

theorem drop_eq_cons_iff {input rest : List Char} {i : Nat} {c : Char} :
    input.drop i = c :: rest ↔ input[i]? = some c ∧ input.drop (i + 1) = rest := by
  cases present : input[i]? with
  | none =>
    rw [List.drop_eq_nil_of_le (List.getElem?_eq_none_iff.mp present)]
    simp
  | some x =>
    obtain ⟨inside, rfl⟩ := List.getElem?_eq_some.mp present
    rw [List.drop_eq_getElem_cons inside, List.cons.injEq, Option.some.injEq, eq_comm]

/-- `regex` has a match from position `i` of any input exactly when the rest of the input
from `i` is accepted; the expressions the agent builds after their `^` all have such a
description. -/
def EndsExactly (regex : Regex) (accepts : List Char → Prop) : Prop :=
  ∀ input i, i ≤ input.length → ((∃ j, j ∈ ends input regex i) ↔ accepts (input.drop i))

theorem endsExactly_endText : EndsExactly (.concat .endText .empty) (· = []) := by
  intro input i within
  simp only [mem_ends_concat, mem_ends_endText, mem_ends_empty, List.drop_eq_nil_iff]
  constructor
  · rintro ⟨_, _, ⟨rfl, rfl⟩, rfl⟩
    exact Nat.le_refl _
  · intro beyond
    exact ⟨i, i, ⟨by omega, rfl⟩, rfl⟩

theorem EndsExactly.literal {rest : Regex} {accepts : List Char → Prop} (c : Char)
    (exact : EndsExactly rest accepts) :
    EndsExactly (.concat (.literal c) rest) fun s => ∃ t, s = c :: t ∧ accepts t := by
  intro input i _
  simp only [mem_ends_concat, mem_ends_literal, drop_eq_cons_iff]
  constructor
  · rintro ⟨j, _, ⟨present, rfl⟩, matched⟩
    have inside := (List.getElem?_eq_some.mp present).1
    exact ⟨_, ⟨present, rfl⟩, (exact input (i + 1) inside).mp ⟨j, matched⟩⟩
  · rintro ⟨_, ⟨present, rfl⟩, accepted⟩
    have inside := (List.getElem?_eq_some.mp present).1
    obtain ⟨j, matched⟩ := (exact input (i + 1) inside).mpr accepted
    exact ⟨j, i + 1, ⟨present, rfl⟩, matched⟩

theorem EndsExactly.plus {rest : Regex} {accepts : List Char → Prop} (negated : Bool)
    (ranges : List (Char × Char)) (exact : EndsExactly rest accepts) :
    EndsExactly (.concat (.plus (.charClass negated ranges)) rest) fun s =>
      ∃ run t, s = run ++ t ∧ run ≠ [] ∧
        (∀ c ∈ run, classMatches negated ranges c = true) ∧ accepts t := by
  intro input i _
  simp only [mem_ends_concat, mem_ends_plus_charClass]
  constructor
  · rintro ⟨j, k, ⟨later, bounded, run⟩, matched⟩
    refine ⟨(input.drop i).take (k - i), input.drop k, ?_, ?_, run,
      (exact input k bounded).mp ⟨j, matched⟩⟩
    · conv_lhs => rw [← List.take_append_drop (k - i) (input.drop i)]
      rw [List.drop_drop, Nat.add_sub_of_le (Nat.le_of_lt later)]
    · apply List.ne_nil_of_length_pos
      simp only [List.length_take, List.length_drop]
      omega
  · rintro ⟨run, t, split, nonempty, classed, accepted⟩
    have length := congrArg List.length split
    simp only [List.length_drop, List.length_append] at length
    have rest_eq : input.drop (i + run.length) = t := by
      rw [← List.drop_drop, split, List.drop_left]
    obtain ⟨j, matched⟩ := (exact input (i + run.length) (by omega)).mpr (rest_eq ▸ accepted)
    have positive := List.length_pos.mpr nonempty
    refine ⟨j, i + run.length, ⟨by omega, by omega, ?_⟩, matched⟩
    rw [Nat.add_sub_cancel_left, split, List.take_left]
    exact classed

theorem EndsExactly.capture {body rest : Regex} {accepts : List Char → Prop}
    (exact : EndsExactly (.concat body rest) accepts) :
    EndsExactly (.concat (.capture (.concat body .empty)) rest) accepts := by
  intro input i within
  rw [← exact input i within]
  simp

theorem EndsExactly.literals {rest : Regex} {accepts : List Char → Prop} (chars : List Char)
    (exact : EndsExactly rest accepts) :
    EndsExactly (literals chars rest) fun s => ∃ t, s = chars ++ t ∧ accepts t := by
  induction chars with
  | nil => simpa [Regexp.literals] using exact
  | cons c chars ih =>
    intro input i within
    rw [show Regexp.literals (c :: chars) rest = .concat (.literal c) (Regexp.literals chars rest)
      from rfl, ih.literal c input i within]
    constructor
    · rintro ⟨_, split, t, rfl, accepted⟩
      exact ⟨t, split, accepted⟩
    · rintro ⟨t, split, accepted⟩
      exact ⟨_, split, t, rfl, accepted⟩

theorem matchString_beginText_iff {regex : Regex} {accepts : List Char → Prop}
    (exact : EndsExactly regex accepts) (s : String) :
    matchString (.concat .beginText regex) s = true ↔ accepts s.data := by
  rw [← List.drop_zero s.data, ← exact s.data 0 (Nat.zero_le _)]
  simp only [matchString, List.any_eq_true, List.mem_range, Bool.not_eq_true',
    List.isEmpty_eq_false_iff_exists_mem, mem_ends_concat, mem_ends_beginText]
  constructor
  · rintro ⟨_, _, j, _, ⟨rfl, rfl⟩, matched⟩
    exact ⟨j, matched⟩
  · rintro ⟨j, matched⟩
    exact ⟨0, Nat.succ_pos _, j, 0, ⟨rfl, rfl⟩, matched⟩

/-- A pattern `^<QuoteMeta(name)><tail>` compiles, and matches exactly the strings that start
with `name` and go on with what the tail accepts. -/
theorem anchored_quoteMeta (name : String) {tail : List Char} {tailRegex : Regex}
    {accepts : List Char → Prop} (single : startsRepetition tail = false)
    (parsed : ∀ fuel, parseSeq (fuel + (tail.length + 1)) tail = .ok (tailRegex, []))
    (exact : EndsExactly tailRegex accepts) :
    ∃ regex, compile ("^" ++ quoteMeta name ++ ⟨tail⟩) = .ok regex ∧
      ∀ s : String, matchString regex s = true ↔ ∃ rest, s.data = name.data ++ rest ∧ accepts rest :=
  ⟨_, compile_anchored_quoteMeta name single parsed,
    matchString_beginText_iff (exact.literals name.data)⟩

end Regexp

end MagalixAgent
