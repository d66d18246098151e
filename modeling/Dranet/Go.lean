/-
This file models the parts of Go's standard library that the driver's error
handling and string handling rest on: the `error` values it builds and joins,
`errors.Is` against a `syscall.Errno`, the `strings` functions the cloud provider
calls, and the path functions of `path` and `path/filepath`. Go strings are byte strings and Lean strings are Unicode; every
separator here is ASCII, so splitting on characters and on bytes agree.

Go functions over strings are modelled over `List Char` by structural recursion,
so that they evaluate on concrete inputs. The path functions read a path's characters
only, never a file system; `path` and `path/filepath` define `Join` alike on Unix.
-/

import Mathlib

namespace Dranet

/-! ### Errors -/

/-- A Go `error` value, as far as the code builds or inspects one. -/
inductive GoError where
  /-- A `syscall.Errno`, as netlink and the namespace calls return it. -/
  | errno (code : Nat)
  /-- An error with a fixed text: `errors.New`, or a library error passed on as is. -/
  | text (message : String)
  /-- `fmt.Errorf(format, ..., cause)` with a final `%w`: `message` is the text before it. -/
  | wrapped (message : String) (cause : GoError)
  /-- `fmt.Errorf(format, ..., cause)` with a final `%v`: the cause's text, not wrapped. -/
  | printed (message : String) (cause : GoError)
  /-- `errors.Join(errs...)` of the non-nil errors `errs`. -/
  | joined (errs : List GoError)
  /-- An error of a library parser, kept as the function and its input: its text quotes
  the input with `strconv.Quote`, which is not modelled. -/
  | library (function input : String)
  deriving Repr

namespace Syscall

/-- `syscall.EEXIST`, which netlink returns for an add whose key is taken. -/
def EEXIST : Nat := 17

/-- `syscall.ENODEV`. -/
def ENODEV : Nat := 19

end Syscall

namespace Errors

/-- `errors.Join(errs...)`: `nil` when there is nothing to join. The lists the driver
joins hold no `nil` entry, so none is dropped. -/
def join (errs : List GoError) : Option GoError :=
  match errs with
  | [] => none
  | _ :: _ => some (.joined errs)

@[simp] theorem join_nil : join [] = none := rfl

@[simp] theorem join_eq_none (errs : List GoError) : join errs = none ↔ errs = [] := by
  cases errs <;> simp [join]

theorem join_of_ne_nil (errs : List GoError) (nonempty : errs ≠ []) :
    join errs = some (.joined errs) := by
  cases errs with
  | nil => exact absurd rfl nonempty
  | cons _ _ => rfl

mutual

/-- `errors.Is(err, syscall.Errno(code))`: the error is that errno, or wraps or joins one.
A `%v` cause is not reachable through `Unwrap`. -/
def is (code : Nat) : GoError → Bool
  | .errno found => found == code
  | .text _ => false
  | .wrapped _ cause => is code cause
  | .printed _ _ => false
  | .joined errs => isAny code errs
  | .library _ _ => false

/-- Some error of the list is the errno. -/
def isAny (code : Nat) : List GoError → Bool
  | [] => false
  | err :: rest => is code err || isAny code rest

end

@[simp] theorem is_errno (code found : Nat) : is code (.errno found) = (found == code) := by
  simp [is]

end Errors

/-- The check every add in the engine makes: `err != nil && !errors.Is(err, syscall.EEXIST)`. -/
def failsBesidesExist : Option GoError → Bool
  | none => false
  | some err => !Errors.is Syscall.EEXIST err

@[simp] theorem failsBesidesExist_none : failsBesidesExist none = false := rfl

@[simp] theorem failsBesidesExist_exist :
    failsBesidesExist (some (.errno Syscall.EEXIST)) = false := rfl

/-! ### Numbers -/

namespace Strconv

/-- An ASCII decimal digit: `'0'` is character 48 and `'9'` character 57. -/
def isDecimal (c : Char) : Bool := 48 ≤ c.toNat && c.toNat ≤ 57

/-- The value of a run of decimal digits. -/
def digitsValue (digits : List Char) : Nat :=
  digits.foldl (fun value c => value * 10 + (c.toNat - 48)) 0

theorem digitsValue_append_singleton (digits : List Char) (c : Char) :
    digitsValue (digits ++ [c]) = digitsValue digits * 10 + (c.toNat - 48) := by
  simp [digitsValue, List.foldl_append]

/-- The sign `strconv.ParseInt` and `fmt`'s `%d` accept in front of the digits. -/
def splitSign : List Char → List Char × List Char
  | '+' :: rest => (['+'], rest)
  | '-' :: rest => (['-'], rest)
  | s => ([], s)

/-- The value of digits behind a sign. -/
def signedValue (sign digits : List Char) : Int :=
  if sign = ['-'] then -(digitsValue digits : Int) else digitsValue digits

/-- `strconv.ParseInt(s, 10, 64)`: an optional sign, then at least one decimal digit and
nothing else, with the value in the range of `int64`. -/
def parseInt (s : List Char) : Option Int :=
  let (sign, digits) := splitSign s
  if digits = [] ∨ !digits.all isDecimal then none
  else if signedValue sign digits < -2 ^ 63 ∨ 2 ^ 63 ≤ signedValue sign digits then none
  else some (signedValue sign digits)

/-- A sign the parsers accept. -/
def IsSign (sign : List Char) : Prop := sign = [] ∨ sign = ['+'] ∨ sign = ['-']

theorem splitSign_append {sign digits : List Char} (signed : IsSign sign)
    (unsigned : ∀ c ∈ digits.head?, isDecimal c) : splitSign (sign ++ digits) = (sign, digits) := by
  rcases signed with rfl | rfl | rfl
  · match digits, unsigned with
    | [], _ => rfl
    | c :: rest, unsigned =>
      have decimal : isDecimal c := unsigned c rfl
      refine splitSign.eq_3 _ (fun _ plus => ?_) (fun _ minus => ?_)
      · cases plus
        exact absurd decimal (by decide)
      · cases minus
        exact absurd decimal (by decide)
  · rfl
  · rfl

theorem splitSign_eq {s sign digits : List Char} (split : splitSign s = (sign, digits)) :
    s = sign ++ digits ∧ IsSign sign := by
  unfold splitSign at split
  split at split <;> cases split <;> simp [IsSign]

/-- `ParseInt` of a sign and digits: their signed value, when it fits in `int64`. -/
theorem parseInt_sign_digits {sign digits : List Char} {value : Int} (signed : IsSign sign)
    (nonempty : digits ≠ []) (decimal : ∀ c ∈ digits, isDecimal c) :
    parseInt (sign ++ digits) = some value ↔
      value = signedValue sign digits ∧ -2 ^ 63 ≤ value ∧ value < 2 ^ 63 := by
  have head : ∀ c ∈ digits.head?, isDecimal c := fun c member =>
    decimal c (List.mem_of_mem_head? member)
  have all : digits.all isDecimal = true := List.all_eq_true.mpr decimal
  simp only [parseInt, splitSign_append signed head, nonempty, all, Bool.not_true,
    Bool.false_eq_true, or_self, if_false]
  split
  · simp only [reduceCtorEq, false_iff]
    omega
  · simp only [Option.some.injEq]
    omega

end Strconv

/-! ### Strings -/

/-- A list splits one way into its longest prefix of `p`-elements and the rest. -/
theorem takeWhile_dropWhile_eq_iff {α : Type} {p : α → Bool} {l front back : List α} :
    (l.takeWhile p = front ∧ l.dropWhile p = back) ↔
      (l = front ++ back ∧ (∀ a ∈ front, p a) ∧ ∀ a ∈ back.head?, p a = false) := by
  constructor
  · rintro ⟨rfl, rfl⟩
    refine ⟨(List.takeWhile_append_dropWhile p l).symm, fun a member => ?_, fun a member => ?_⟩
    · exact List.mem_takeWhile_imp member
    · have stop := List.head?_dropWhile_not p l
      rw [member] at stop
      exact stop
  · rintro ⟨rfl, all, stop⟩
    rw [List.takeWhile_append_of_pos all, List.dropWhile_append_of_pos all]
    match back, stop with
    | [], _ => simp
    | b :: rest, stop => simp [List.takeWhile_cons, List.dropWhile_cons, stop b rfl]

namespace Strings

/-- `strings.Cut(s, string(sep))`: the text before the first `sep`, and the text after it
when there is one. -/
def cut (sep : Char) : List Char → List Char × Option (List Char)
  | [] => ([], none)
  | c :: rest =>
    if c = sep then ([], some rest)
    else ((c :: (cut sep rest).1), (cut sep rest).2)

/-- `strings.SplitN(s, string(sep), n)` for `n ≥ 0`: at most `n` pieces, the last one
holding the rest of the string, separators included. -/
def splitN (sep : Char) : List Char → Nat → List (List Char)
  | _, 0 => []
  | s, 1 => [s]
  | s, n + 2 =>
    match cut sep s with
    | (before, some after) => before :: splitN sep after (n + 1)
    | (_, none) => [s]

/-- `strings.Split(s, string(sep))`: every piece between separators. -/
def split (sep : Char) : List Char → List (List Char)
  | [] => [[]]
  | c :: rest =>
    if c = sep then [] :: split sep rest
    else
      match split sep rest with
      | piece :: pieces => (c :: piece) :: pieces
      | [] => [[c]]

/-- `strings.TrimPrefix(s, string(pre))` for a one-character prefix. -/
def trimPrefix (pre : Char) : List Char → List Char
  | c :: rest => if c = pre then rest else c :: rest
  | [] => []

/-- `strings.Join(elems, string(sep))`. -/
def join (sep : Char) : List (List Char) → List Char
  | [] => []
  | [piece] => piece
  | piece :: pieces => piece ++ sep :: join sep pieces

@[simp] theorem cut_nil (sep : Char) : cut sep [] = ([], none) := rfl

theorem cut_cons (sep c : Char) (rest : List Char) :
    cut sep (c :: rest) =
      if c = sep then ([], some rest) else (c :: (cut sep rest).1, (cut sep rest).2) := rfl

/-- `cut` finds the first separator: what stands before it holds none. -/
theorem cut_spec (sep : Char) (s : List Char) :
    (∃ after, cut sep s = ((cut sep s).1, some after) ∧ sep ∉ (cut sep s).1 ∧
        s = (cut sep s).1 ++ sep :: after) ∨
      (cut sep s = (s, none) ∧ sep ∉ s) := by
  induction s with
  | nil => exact .inr ⟨rfl, List.not_mem_nil _⟩
  | cons c rest inductionHypothesis =>
    rw [cut_cons]
    by_cases found : c = sep
    · subst found
      exact .inl ⟨rest, by simp⟩
    · simp only [if_neg found]
      rcases inductionHypothesis with ⟨after, same, absent, split⟩ | ⟨same, absent⟩
      · refine .inl ⟨after, ?_, ?_, ?_⟩
        · rw [same]
        · simp [absent, Ne.symm found]
        · rw [List.cons_append, ← split]
      · refine .inr ⟨?_, ?_⟩
        · rw [same]
        · simp [absent, Ne.symm found]

theorem cut_eq_of_none {sep : Char} {s before : List Char} (found : cut sep s = (before, none)) :
    before = s := by
  rcases cut_spec sep s with ⟨after, same, -, -⟩ | ⟨same, -⟩
  · rw [same] at found
    cases found
  · rw [same] at found
    exact (Prod.mk.inj found).1.symm

/-- `Split` takes the text before the first separator, then splits the rest. -/
theorem split_eq_cut (sep : Char) (s : List Char) :
    split sep s =
      match cut sep s with
      | (before, none) => [before]
      | (before, some after) => before :: split sep after := by
  induction s with
  | nil => rfl
  | cons c rest inductionHypothesis =>
    rw [split, cut_cons]
    by_cases found : c = sep
    · simp [found]
    · simp only [if_neg found, inductionHypothesis]
      rcases cut sep rest with ⟨before, _ | after⟩ <;> rfl

theorem split_ne_nil (sep : Char) (s : List Char) : split sep s ≠ [] := by
  cases s with
  | nil => simp [split]
  | cons c rest =>
    unfold split
    split
    · simp
    · split <;> simp

/-- When `Split` gives exactly three pieces, `SplitN(…, 3)` gives the same three. -/
theorem splitN_three_of_split {sep : Char} {s first second third : List Char}
    (three : split sep s = [first, second, third]) : splitN sep s 3 = [first, second, third] := by
  rw [split_eq_cut] at three
  rcases cutFirst : cut sep s with ⟨before, _ | after⟩ <;> rw [cutFirst] at three
  · cases three
  · simp only [List.cons.injEq] at three
    obtain ⟨rfl, rest⟩ := three
    rw [split_eq_cut] at rest
    rcases cutSecond : cut sep after with ⟨middle, _ | after'⟩ <;> rw [cutSecond] at rest
    · cases rest
    · simp only [List.cons.injEq] at rest
      obtain ⟨rfl, last⟩ := rest
      rw [split_eq_cut] at last
      rcases cutThird : cut sep after' with ⟨final, _ | _⟩ <;> rw [cutThird] at last
      · simp only [List.cons.injEq, and_true] at last
        subst last
        rw [cut_eq_of_none cutThird]
        simp [splitN, cutFirst, cutSecond]
      · simp only [List.cons.injEq] at last
        exact absurd last.2 (split_ne_nil _ _)

/-- When `Split` gives fewer than three pieces, so does `SplitN(…, 3)`. -/
theorem splitN_three_length_of_split {sep : Char} {s : List Char}
    (few : (split sep s).length < 3) : (splitN sep s 3).length < 3 := by
  rw [split_eq_cut] at few
  rcases cutFirst : cut sep s with ⟨before, _ | after⟩ <;> rw [cutFirst] at few <;> dsimp only at few
  · simp [splitN, cutFirst]
  · rw [split_eq_cut] at few
    rcases cutSecond : cut sep after with ⟨middle, _ | after'⟩ <;> rw [cutSecond] at few <;>
      dsimp only at few
    · simp [splitN, cutFirst, cutSecond]
    · have nonempty := List.length_pos.mpr (split_ne_nil sep after')
      simp only [List.length_cons] at few
      omega

end Strings

namespace Path

open Strings

/-! ### `path.Base` -/

/-- `path.Base`: the last element of a slash-separated path after its trailing slashes are
removed, `"."` for the empty path and `"/"` for a path of slashes only. -/
def base (path : List Char) : List Char :=
  if path = [] then ['.']
  else
    let stripped := (path.reverse.dropWhile (· == '/')).reverse
    match (stripped.reverse.takeWhile (· != '/')).reverse with
    | [] => ['/']
    | last => last

/-- The last element of a path that ends in a nonempty element without a slash. -/
theorem base_append_slash (front name : List Char) (named : name ≠ []) (plain : '/' ∉ name) :
    base (front ++ '/' :: name) = name := by
  obtain ⟨init, last, rfl⟩ := List.eq_nil_or_concat name |>.resolve_left named
  rw [List.concat_eq_append] at plain ⊢
  have lastPlain : last ≠ '/' := fun same => plain (by simp [same])
  have initPlain : ∀ c ∈ init.reverse, (c != '/') = true := fun c member => by
    have : c ∈ init := List.mem_reverse.mp member
    simpa using fun same : c = '/' => plain (List.mem_append_left _ (same ▸ this))
  have kept : (front ++ '/' :: (init ++ [last])).reverse.dropWhile (· == '/') =
      (front ++ '/' :: (init ++ [last])).reverse := by
    simp [List.reverse_append, lastPlain]
  simp only [base, List.append_eq_nil, List.cons_ne_nil, and_false, if_false, kept,
    List.reverse_reverse]
  have taken : (front ++ '/' :: (init ++ [last])).reverse.takeWhile (· != '/') =
      last :: init.reverse := by
    simp only [List.reverse_append, List.reverse_cons, List.reverse_nil, List.nil_append,
      List.singleton_append, List.cons_append, List.append_assoc]
    rw [List.takeWhile_cons_of_pos (by simpa using lastPlain),
      List.takeWhile_append_of_pos initPlain]
    simp
  rw [taken]
  simp

/-! ### `path.Clean` and `Join` -/

/-- The elements that `path.Clean` keeps, in reverse order, after reading `elements`: an
empty or `.` element is dropped, and a `..` removes the kept element before it. A `..` with
no element before it to remove is kept in a relative path and dropped in a rooted one. -/
def cleanElements (rooted : Bool) : List (List Char) → List (List Char) → List (List Char)
  | kept, [] => kept
  | kept, element :: rest =>
    if element = [] ∨ element = ['.'] then cleanElements rooted kept rest
    else if element = ['.', '.'] then
      match kept with
      | last :: earlier =>
        if last = ['.', '.'] then cleanElements rooted (element :: kept) rest
        else cleanElements rooted earlier rest
      | [] => cleanElements rooted (if rooted then [] else [element]) rest
    else cleanElements rooted (element :: kept) rest

/-- `path.Clean`: the shortest path that names the same file by lexical processing alone,
`"."` for a path that comes to nothing. -/
def clean (path : List Char) : List Char :=
  let rooted := path.head? = some '/'
  let cleaned := (if rooted then ['/'] else []) ++
    Strings.join '/' (cleanElements rooted [] (split '/' path)).reverse
  if cleaned = [] then ['.'] else cleaned

/-- `path.Join`, and `filepath.Join` on Unix: the elements from the first nonempty one,
joined by slashes and cleaned; the empty path when every element is empty. -/
def join (elements : List (List Char)) : List Char :=
  match elements.dropWhile (·.isEmpty) with
  | [] => []
  | rest => clean (Strings.join '/' rest)

end Path

end Dranet
