/-
This file models `fmt.Sscanf` as the GCE provider calls it, with the format
`"projects/%d/networks/%s"`, and describes exactly the strings it accepts.

`Sscanf` is more liberal than the path grammar it is used for: `%d` skips blanks and
takes a sign, `%s` skips blanks and stops at the first blank, and input after the last
directive is never read. `scanNetwork_eq_some_iff` states the grammar it accepts, with
the values it stores; `scanNetwork_formatNetwork` is the round trip of `fmt.Sprintf`.
-/

import Dranet.Go

namespace Dranet

namespace Fmt

open Strconv

/-! ### The scanner -/

/-- `isSpace` of Go's `fmt/scan.go`: the white space the scanner skips and stops at. -/
def isSpace (c : Char) : Bool :=
  let code := c.toNat
  (9 ≤ code && code ≤ 13) || code == 32 || code == 0x85 || code == 0xa0 || code == 0x1680 ||
    (0x2000 ≤ code && code ≤ 0x200a) || code == 0x2028 || code == 0x2029 || code == 0x202f ||
    code == 0x205f || code == 0x3000

/-- `SkipSpace` in `Sscanf`'s mode, where a newline is not a space: the input after the
leading blanks, or `none` at a newline ("unexpected newline"). Go skips a `\r` before a
`\n` and then fails on the `\n`, as this does. -/
def skipSpace : List Char → Option (List Char)
  | [] => some []
  | c :: rest => if c = '\n' then none else if isSpace c then skipSpace rest else some (c :: rest)

/-- `scanInt` for `%d` into an `int64`: blanks, an optional sign, at least one decimal
digit, and `strconv.ParseInt` of the sign and the digits. -/
def scanInt (input : List Char) : Option (Int × List Char) :=
  match skipSpace input with
  | none => none
  | some s =>
    let (sign, unsigned) := splitSign s
    let digits := unsigned.takeWhile isDecimal
    if digits = [] then none
    else (parseInt (sign ++ digits)).map fun value => (value, unsigned.dropWhile isDecimal)

/-- `convertString` for `%s`: blanks, then the next word, the longest run of characters
that are not blanks, of which there must be one. -/
def scanString (input : List Char) : Option (String × List Char) :=
  match skipSpace input with
  | none | some [] => none
  | some s => some (⟨s.takeWhile (!isSpace ·)⟩, s.dropWhile (!isSpace ·))

/-- A directive of a scan format. -/
inductive Directive where
  /-- A format character other than a blank or `%`: the next input character must be it. -/
  | literal (c : Char)
  /-- `%d` with an `*int64` operand. -/
  | decimal
  /-- `%s` with a `*string` operand. -/
  | word
  deriving DecidableEq, Repr

/-- A value `Sscanf` stores through an operand. -/
inductive Scanned where
  | int64 (value : Int)
  | string (value : String)
  deriving DecidableEq, Repr

/-- `doScanf` over a format's directives: the values stored, or `none` for an error.
Input after the last directive is not read. -/
def scan : List Directive → List Char → Option (List Scanned)
  | [], _ => some []
  | .literal c :: format, input =>
    match input with
    | d :: rest => if c = d then scan format rest else none
    | [] => none
  | .decimal :: format, input =>
    match scanInt input with
    | some (value, rest) => (scan format rest).map (.int64 value :: ·)
    | none => none
  | .word :: format, input =>
    match scanString input with
    | some (value, rest) => (scan format rest).map (.string value :: ·)
    | none => none

/-- `"projects/%d/networks/%s"`, the format `GetDeviceAttributes` reads a network with. -/
def networkFormat : List Directive :=
  "projects/".toList.map .literal ++ (.decimal :: ("/networks/".toList.map .literal ++ [.word]))

/-- `fmt.Sscanf(network, "projects/%d/networks/%s", &projectNumber, &name)`: the project
number and the name, when it returns no error. -/
def scanNetwork (network : String) : Option (Int × String) :=
  match scan networkFormat network.toList with
  | some [.int64 projectNumber, .string name] => some (projectNumber, name)
  | _ => none

/-- `fmt.Sprintf("projects/%d/networks/%s", projectNumber, name)` for a project number
that is not negative. -/
def formatNetwork (projectNumber : Nat) (name : String) : String :=
  "projects/" ++ ⟨Nat.toDigits 10 projectNumber⟩ ++ "/networks/" ++ name

/-! ### What each piece of the scanner reads -/

/-- The blanks `skipSpace` passes over: white space other than a newline. -/
def isBlank (c : Char) : Bool := isSpace c && c != '\n'

theorem isSpace_of_isDecimal {c : Char} (decimal : isDecimal c) : isSpace c = false := by
  simp only [isDecimal, Bool.and_eq_true, decide_eq_true_eq] at decimal
  simp only [isSpace, Bool.or_eq_false_iff, Bool.and_eq_false_iff, decide_eq_false_iff_not,
    beq_eq_false_iff_ne]
  omega

theorem skipSpace_eq (input : List Char) :
    skipSpace input =
      if (input.dropWhile isBlank).head? = some '\n' then none else some (input.dropWhile isBlank) := by
  induction input with
  | nil => rfl
  | cons c rest inductionHypothesis =>
    by_cases newline : c = '\n'
    · subst newline
      rfl
    · by_cases space : isSpace c
      · simp [skipSpace, newline, space, isBlank, List.dropWhile_cons, inductionHypothesis]
      · simp [skipSpace, newline, space, isBlank, List.dropWhile_cons]

/-- `skipSpace` passes over a run of blanks and stops at a character that is not white
space; it fails when that character is a newline. -/
theorem skipSpace_eq_some {input rest : List Char} :
    skipSpace input = some rest ↔
      ∃ blanks, input = blanks ++ rest ∧ (∀ c ∈ blanks, isBlank c) ∧
        ∀ c ∈ rest.head?, isSpace c = false := by
  rw [skipSpace_eq]
  constructor
  · intro skipped
    split at skipped
    · cases skipped
    · rename_i notNewline
      cases skipped
      refine ⟨input.takeWhile isBlank, (List.takeWhile_append_dropWhile _ _).symm,
        fun c member => List.mem_takeWhile_imp member, fun c member => ?_⟩
      have stop := List.head?_dropWhile_not isBlank input
      rw [member] at stop
      have other : c ≠ '\n' := fun newline => notNewline (newline ▸ member)
      simpa [isBlank, other] using stop
  · rintro ⟨blanks, rfl, all, stop⟩
    have blankStop : ∀ c ∈ rest.head?, isBlank c = false := fun c member => by
      simp [isBlank, stop c member]
    rw [(takeWhile_dropWhile_eq_iff.mpr ⟨rfl, all, blankStop⟩).2, if_neg]
    intro newline
    exact absurd (stop '\n' newline) (by decide)

theorem head_not_space {sign digits rest : List Char} (signed : IsSign sign)
    (nonempty : digits ≠ []) (decimal : ∀ c ∈ digits, isDecimal c) :
    ∀ c ∈ (sign ++ digits ++ rest).head?, isSpace c = false := by
  obtain ⟨first, others, rfl⟩ := List.exists_cons_of_ne_nil nonempty
  rcases signed with rfl | rfl | rfl
  · simpa using isSpace_of_isDecimal (decimal first (List.mem_cons_self _ _))
  · simp only [List.singleton_append, List.cons_append, List.head?_cons, Option.mem_def,
      Option.some.injEq, forall_eq']
    decide
  · simp only [List.singleton_append, List.cons_append, List.head?_cons, Option.mem_def,
      Option.some.injEq, forall_eq']
    decide

/-- `%d` reads blanks, a sign, the longest run of digits, and `ParseInt` must accept the
sign and digits. -/
theorem scanInt_eq_some {input rest : List Char} {value : Int} :
    scanInt input = some (value, rest) ↔
      ∃ blanks sign digits, input = blanks ++ sign ++ digits ++ rest ∧ (∀ c ∈ blanks, isBlank c) ∧
        IsSign sign ∧ digits ≠ [] ∧ (∀ c ∈ digits, isDecimal c) ∧
        (∀ c ∈ rest.head?, isDecimal c = false) ∧ parseInt (sign ++ digits) = some value := by
  constructor
  · intro scanned
    unfold scanInt at scanned
    split at scanned
    · cases scanned
    · rename_i s skipped
      obtain ⟨blanks, rfl, blank, -⟩ := skipSpace_eq_some.mp skipped
      rcases signed : splitSign s with ⟨sign, unsigned⟩
      obtain ⟨rfl, isSign⟩ := splitSign_eq signed
      simp only [signed] at scanned
      split at scanned
      · cases scanned
      · rename_i nonempty
        obtain ⟨parsedValue, parsed, same⟩ := Option.map_eq_some'.mp scanned
        cases same
        obtain ⟨split, decimal, stop⟩ :=
          (takeWhile_dropWhile_eq_iff (l := unsigned) (p := isDecimal)).mp ⟨rfl, rfl⟩
        refine ⟨blanks, sign, unsigned.takeWhile isDecimal, ?_, blank, isSign, nonempty, decimal,
          stop, parsed⟩
        conv_lhs => rw [split]
        simp only [List.append_assoc]
  · rintro ⟨blanks, sign, digits, rfl, blank, signed, nonempty, decimal, stop, parsed⟩
    have skipped : skipSpace (blanks ++ sign ++ digits ++ rest) = some (sign ++ digits ++ rest) :=
      skipSpace_eq_some.mpr ⟨blanks, by simp only [List.append_assoc],  blank,
        head_not_space signed nonempty decimal⟩
    have digitsHead : ∀ c ∈ (digits ++ rest).head?, isDecimal c := by
      obtain ⟨first, others, rfl⟩ := List.exists_cons_of_ne_nil nonempty
      simpa using decimal first (List.mem_cons_self _ _)
    obtain ⟨taken, dropped⟩ := takeWhile_dropWhile_eq_iff.mpr ⟨rfl, decimal, stop⟩
    unfold scanInt
    rw [skipped]
    simp only [List.append_assoc, splitSign_append signed digitsHead, taken, dropped,
      if_neg nonempty, parsed, Option.map_some']

/-- `%s` reads blanks and then the longest run of characters that are not white space, of
which there must be one. -/
theorem scanString_eq_some {input rest : List Char} {word : String} :
    scanString input = some (word, rest) ↔
      ∃ blanks, input = blanks ++ word.toList ++ rest ∧ (∀ c ∈ blanks, isBlank c) ∧
        word.toList ≠ [] ∧ (∀ c ∈ word.toList, isSpace c = false) ∧
        ∀ c ∈ rest.head?, isSpace c := by
  constructor
  · intro scanned
    unfold scanString at scanned
    split at scanned
    · cases scanned
    · cases scanned
    · rename_i s nonempty skipped
      obtain ⟨blanks, rfl, blank, start⟩ := skipSpace_eq_some.mp skipped
      cases scanned
      obtain ⟨split, inWord, stop⟩ :=
        (takeWhile_dropWhile_eq_iff (l := s) (p := fun c => !isSpace c)).mp ⟨rfl, rfl⟩
      refine ⟨blanks, ?_, blank, ?_, fun c member => by simpa using inWord c member,
        fun c member => by simpa using stop c member⟩
      · rw [List.append_assoc]
        exact congrArg (blanks ++ ·) split
      · obtain ⟨first, others, rfl⟩ := List.exists_cons_of_ne_nil nonempty
        have : isSpace first = false := start first rfl
        simp [List.takeWhile_cons, this]
  · rintro ⟨blanks, rfl, blank, nonempty, inWord, stop⟩
    have start : ∀ c ∈ (word.toList ++ rest).head?, isSpace c = false := by
      obtain ⟨first, others, same⟩ := List.exists_cons_of_ne_nil nonempty
      rw [same]
      simpa using inWord first (same ▸ List.mem_cons_self _ _)
    have skipped : skipSpace (blanks ++ word.toList ++ rest) = some (word.toList ++ rest) :=
      skipSpace_eq_some.mpr ⟨blanks, by simp only [List.append_assoc], blank, start⟩
    obtain ⟨taken, dropped⟩ := (takeWhile_dropWhile_eq_iff (l := word.toList ++ rest)
      (p := fun c => !isSpace c)).mpr
      ⟨rfl, fun c member => by simp [inWord c member], fun c member => by simp [stop c member]⟩
    unfold scanString
    rw [skipped]
    obtain ⟨first, others, same⟩ := List.exists_cons_of_ne_nil nonempty
    simp only [same, List.cons_append]
    rw [← List.cons_append, ← same, taken, dropped]
    rfl

/-! ### The format, directive by directive -/

theorem scan_literals {word : List Char} {format : List Directive} {input : List Char}
    {out : List Scanned} :
    scan (word.map .literal ++ format) input = some out ↔
      ∃ rest, input = word ++ rest ∧ scan format rest = some out := by
  induction word generalizing input with
  | nil => simp
  | cons c word inductionHypothesis =>
    cases input with
    | nil => simp [scan]
    | cons d input =>
      by_cases same : c = d
      · subst same
        simp [scan, inductionHypothesis]
      · simp [scan, same, Ne.symm same]

theorem scan_decimal {format : List Directive} {input : List Char} {out : List Scanned} :
    scan (.decimal :: format) input = some out ↔
      ∃ value rest tail, scanInt input = some (value, rest) ∧ scan format rest = some tail ∧
        out = .int64 value :: tail := by
  constructor
  · intro scannedAll
    simp only [scan] at scannedAll
    split at scannedAll
    · rename_i value rest scanned
      obtain ⟨tail, rested, rfl⟩ := Option.map_eq_some'.mp scannedAll
      exact ⟨value, rest, tail, scanned, rested, rfl⟩
    · cases scannedAll
  · rintro ⟨value, rest, tail, scanned, rested, rfl⟩
    simp [scan, scanned, rested]

theorem scan_word {format : List Directive} {input : List Char} {out : List Scanned} :
    scan (.word :: format) input = some out ↔
      ∃ value rest tail, scanString input = some (value, rest) ∧ scan format rest = some tail ∧
        out = .string value :: tail := by
  constructor
  · intro scannedAll
    simp only [scan] at scannedAll
    split at scannedAll
    · rename_i value rest scanned
      obtain ⟨tail, rested, rfl⟩ := Option.map_eq_some'.mp scannedAll
      exact ⟨value, rest, tail, scanned, rested, rfl⟩
    · cases scannedAll
  · rintro ⟨value, rest, tail, scanned, rested, rfl⟩
    simp [scan, scanned, rested]

theorem scanNetwork_eq_some {network : String} {projectNumber : Int} {name : String} :
    scanNetwork network = some (projectNumber, name) ↔
      scan networkFormat network.toList = some [.int64 projectNumber, .string name] := by
  unfold scanNetwork
  split <;> simp_all

/-- The strings `scanNetwork` accepts, and what it reads from them: `projects/`, blanks
other than a newline, an optional sign and decimal digits whose value fits in `int64`,
`/networks/`, blanks again, the name, a non-empty run without white space, and after it
nothing, or white space and then anything. -/
def NetworkPath (network : List Char) (projectNumber : Int) (name : List Char) : Prop :=
  ∃ blanks sign digits blanks' rest,
    network = "projects/".toList ++ blanks ++ sign ++ digits ++ "/networks/".toList ++ blanks' ++
      name ++ rest ∧
    (∀ c ∈ blanks ++ blanks', isBlank c) ∧ IsSign sign ∧ digits ≠ [] ∧
    (∀ c ∈ digits, isDecimal c) ∧ projectNumber = signedValue sign digits ∧
    -2 ^ 63 ≤ projectNumber ∧ projectNumber < 2 ^ 63 ∧
    name ≠ [] ∧ (∀ c ∈ name, isSpace c = false) ∧ ∀ c ∈ rest.head?, isSpace c

/-- `Sscanf` with `"projects/%d/networks/%s"` accepts exactly the `NetworkPath` strings,
and reads from each the signed number and the first word after `/networks/`. -/
theorem scanNetwork_eq_some_iff (network : String) (projectNumber : Int) (name : String) :
    scanNetwork network = some (projectNumber, name) ↔
      NetworkPath network.toList projectNumber name.toList := by
  rw [scanNetwork_eq_some, networkFormat, scan_literals]
  constructor
  · rintro ⟨afterProjects, split, scanned⟩
    obtain ⟨value, afterNumber, tail, scannedInt, scannedRest, shape⟩ := scan_decimal.mp scanned
    obtain ⟨afterNetworks, rfl, scannedWord⟩ := scan_literals.mp scannedRest
    obtain ⟨word, afterName, last, scannedString, scannedEnd, rfl⟩ := scan_word.mp scannedWord
    obtain ⟨blanks, sign, digits, rfl, blank, signed, nonempty, decimal, -, parsed⟩ :=
      scanInt_eq_some.mp scannedInt
    obtain ⟨blanks', rfl, blank', named, inWord, stop⟩ := scanString_eq_some.mp scannedString
    simp only [scan, Option.some.injEq] at scannedEnd
    subst scannedEnd
    simp only [List.cons.injEq, Scanned.int64.injEq, Scanned.string.injEq, and_true] at shape
    obtain ⟨rfl, rfl⟩ := shape
    obtain ⟨valueEq, low, high⟩ := (parseInt_sign_digits signed nonempty decimal).mp parsed
    refine ⟨blanks, sign, digits, blanks', afterName, ?_, ?_, signed, nonempty, decimal, valueEq,
      low, high, named, inWord, stop⟩
    · rw [split]
      simp only [List.append_assoc]
    · simpa [or_imp, forall_and] using And.intro blank blank'
  · rintro ⟨blanks, sign, digits, blanks', rest, split, blank, signed, nonempty, decimal, valueEq,
      low, high, named, inWord, stop⟩
    simp only [List.mem_append, or_imp, forall_and] at blank
    refine ⟨blanks ++ sign ++ digits ++ "/networks/".toList ++ blanks' ++ name.toList ++ rest,
      by rw [split]; simp only [List.append_assoc], ?_⟩
    have slash : ∀ c ∈ ("/networks/".toList ++ (blanks' ++ (name.toList ++ rest))).head?,
        isDecimal c = false := fun c member => by
      cases (show c = '/' from Option.some.inj member.symm)
      rfl
    refine scan_decimal.mpr ⟨projectNumber,
      "/networks/".toList ++ (blanks' ++ (name.toList ++ rest)), _, scanInt_eq_some.mpr
      ⟨blanks, sign, digits, by simp only [List.append_assoc], blank.1, signed, nonempty, decimal,
      slash,
      (parseInt_sign_digits signed nonempty decimal).mpr ⟨valueEq, low, high⟩⟩,
      scan_literals.mpr ⟨_, rfl, scan_word.mpr ⟨name, rest, [], scanString_eq_some.mpr
        ⟨blanks', by simp only [List.append_assoc], blank.2, named, inWord, stop⟩, rfl, rfl⟩⟩,
      rfl⟩

/-! ### The round trip of `fmt.Sprintf` -/

theorem digitChar_decimal (digit : Nat) (small : digit < 10) :
    isDecimal (Nat.digitChar digit) ∧ (Nat.digitChar digit).toNat - 48 = digit := by
  have table : ∀ digit : Fin 10,
      isDecimal (Nat.digitChar digit) ∧ (Nat.digitChar digit).toNat - 48 = digit := by decide
  exact table ⟨digit, small⟩

/-- `Nat.toDigits`, the decimal printing of `%d`, writes decimal digits with the number's
value in front of what it is given. -/
theorem toDigitsCore_decimal (fuel value : Nat) (tail : List Char) (enough : value < fuel) :
    ∃ digits, Nat.toDigitsCore 10 fuel value tail = digits ++ tail ∧ digits ≠ [] ∧
      (∀ c ∈ digits, isDecimal c) ∧ digitsValue digits = value := by
  induction fuel generalizing value tail with
  | zero => omega
  | succ fuel inductionHypothesis =>
    obtain ⟨decimal, digitValue⟩ := digitChar_decimal (value % 10) (Nat.mod_lt _ (by omega))
    rw [Nat.toDigitsCore]
    by_cases last : value / 10 = 0
    · refine ⟨[Nat.digitChar (value % 10)], by simp [last], by simp, by simpa using decimal, ?_⟩
      simp only [digitsValue, List.foldl_cons, List.foldl_nil, digitValue]
      omega
    · obtain ⟨digits, split, nonempty, allDecimal, valued⟩ :=
        inductionHypothesis (value / 10) (Nat.digitChar (value % 10) :: tail) (by omega)
      refine ⟨digits ++ [Nat.digitChar (value % 10)], by simp [last, split], by simp, ?_, ?_⟩
      · simpa [or_imp, forall_and] using And.intro allDecimal decimal
      · rw [digitsValue_append_singleton, valued, digitValue]
        omega

/-- Scanning what `fmt.Sprintf("projects/%d/networks/%s", projectNumber, name)` prints gives
back the number and the name, for every number of `int64` that is not negative and every
non-empty name without white space. -/
theorem scanNetwork_formatNetwork (projectNumber : Nat) (name : String)
    (small : projectNumber < 2 ^ 63) (named : name ≠ "")
    (inWord : ∀ c ∈ name.toList, isSpace c = false) :
    scanNetwork (formatNetwork projectNumber name) = some ((projectNumber : Int), name) := by
  obtain ⟨digits, split, nonempty, decimal, valued⟩ :=
    toDigitsCore_decimal (projectNumber + 1) projectNumber [] (by omega)
  rw [scanNetwork_eq_some_iff]
  refine ⟨[], [], digits, [], [], ?_, by simp, .inl rfl, nonempty, decimal, ?_, by omega,
    by exact_mod_cast small, fun empty => named (String.ext empty), inWord, by simp⟩
  · simp [formatNetwork, Nat.toDigits, split]
  · simp [signedValue, valued]

/-! ### The path grammar against what `Sscanf` accepts -/

/-- `Sscanf` reads a sign before the project number, which a path of decimal digits has
not: `projects/+5/networks/x` is accepted with the number 5, and it is no
`projects/<digits>/networks/<name>`. -/
theorem scanNetwork_signed_number :
    scanNetwork "projects/+5/networks/x" = some (5, "x") ∧
      ¬ ∃ digits name : List Char, "projects/+5/networks/x".toList =
        "projects/".toList ++ digits ++ "/networks/".toList ++ name ∧ digits ≠ [] ∧
          ∀ c ∈ digits, isDecimal c := by
  refine ⟨by decide, ?_⟩
  rintro ⟨digits, name, split, nonempty, decimal⟩
  obtain ⟨first, others, rfl⟩ := List.exists_cons_of_ne_nil nonempty
  rw [show "projects/+5/networks/x".toList = "projects/".toList ++ "+5/networks/x".toList from rfl,
    List.append_assoc, List.append_assoc, List.append_cancel_left_eq] at split
  have sign : first = '+' := (List.cons.inj split).1.symm
  exact absurd (decimal first (List.mem_cons_self _ _)) (by rw [sign]; decide)

/-- The network paths the GCE provider parses: exactly the `NetworkPath` strings, with the
number and the name they spell; and every path `fmt.Sprintf` prints from a number of
`int64` that is not negative and a non-empty name without white space parses back to
them. -/
theorem scanNetwork_grammar (network : String) (projectNumber : Int) (name : String) :
    (scanNetwork network = some (projectNumber, name) ↔
      NetworkPath network.toList projectNumber name.toList) ∧
    ∀ (number : Nat) (word : String), number < 2 ^ 63 → word ≠ "" →
      (∀ c ∈ word.toList, isSpace c = false) →
        scanNetwork (formatNetwork number word) = some ((number : Int), word) :=
  ⟨scanNetwork_eq_some_iff network projectNumber name, scanNetwork_formatNetwork⟩

theorem scanNetwork_grammar_example :
    scanNetwork (formatNetwork 12345 "test-network") = some (12345, "test-network") :=
  (scanNetwork_grammar "" 0 "").2 12345 "test-network" (by decide) (by decide) (by decide)

end Fmt

end Dranet
