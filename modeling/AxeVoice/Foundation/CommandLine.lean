import AxeVoice.Foundation.AsciiText

/-!
# Command lines of the C runtime

How a program started by Windows gets its arguments back from the one string that
it was started with: the name of the program first, then arguments between blanks,
with quotes around blanks and backslashes in front of quotes.
-/

namespace AxeVoice.Foundation

variable {width : WCharWidth}

def argumentBlank (unit : WChar width) : Bool := unit = wide width ' ' || unit = wide width '\t'

/-- A run of backslashes. -/
def slashRun (width : WCharWidth) (count : Nat) : WString width :=
  List.replicate count (wide width '\\')

/-- The name of the program, to a blank outside quotes; backslashes mean nothing in it. -/
def scanProgram : Bool → WString width → WString width → WString width × WString width
  | _, out, [] => (out, [])
  | quoted, out, unit :: rest =>
      if unit = wide width '"' then scanProgram (!quoted) out rest
      else if argumentBlank unit && !quoted then (out, unit :: rest)
      else scanProgram quoted (out ++ [unit]) rest

/--
One argument, behind a run of backslashes and possibly inside quotes, with the input
behind it.  Runtimes differ in what a doubled quote inside quotes is; with `doubled`
it is one quote of the argument.
-/
def scanArgument (doubled : Bool) :
    Nat → Bool → WString width → WString width → WString width × WString width
  | slashes, _, out, [] => (out ++ slashRun width slashes, [])
  | slashes, quoted, out, unit :: rest =>
      if unit = wide width '\\' then scanArgument doubled (slashes + 1) quoted out rest
      else if unit = wide width '"' then
        if slashes % 2 = 1 then
          scanArgument doubled 0 quoted (out ++ slashRun width (slashes / 2) ++ [unit]) rest
        else
          match rest with
          | [] => scanArgument doubled 0 (!quoted) (out ++ slashRun width (slashes / 2)) []
          | next :: behind =>
              if doubled && quoted && next = wide width '"' then
                scanArgument doubled 0 quoted (out ++ slashRun width (slashes / 2) ++ [next]) behind
              else
                scanArgument doubled 0 (!quoted) (out ++ slashRun width (slashes / 2))
                  (next :: behind)
      else if argumentBlank unit && !quoted then (out ++ slashRun width slashes, unit :: rest)
      else scanArgument doubled 0 quoted (out ++ slashRun width slashes ++ [unit]) rest

section Scan

variable {doubled quoted : Bool} {slashes : Nat} {out rest : WString width} {unit : WChar width}

theorem wide_slash_ne_quote : wide width '\\' ≠ wide width '"' := by
  cases width <;> decide

theorem scanArgument_slash :
    scanArgument doubled slashes quoted out (wide width '\\' :: rest) =
      scanArgument doubled (slashes + 1) quoted out rest := by
  rw [scanArgument.eq_def]
  exact if_pos rfl

theorem scanArgument_slashes (count : Nat) :
    scanArgument doubled slashes quoted out (slashRun width count ++ rest) =
      scanArgument doubled (slashes + count) quoted out rest := by
  induction count generalizing slashes with
  | zero => rfl
  | succ count ih =>
      have first : slashRun width (count + 1) ++ rest = wide width '\\' :: (slashRun width count ++ rest) :=
        rfl
      rw [first, scanArgument_slash, ih, Nat.add_right_comm, Nat.add_assoc]

/-- Behind an odd run of backslashes a quote belongs to the argument. -/
theorem scanArgument_literal_quote (count : Nat) :
    scanArgument doubled (count * 2 + 1) quoted out (wide width '"' :: rest) =
      scanArgument doubled 0 quoted (out ++ slashRun width count ++ [wide width '"']) rest := by
  have half : (count * 2 + 1) / 2 = count := by omega
  rw [scanArgument.eq_def]
  dsimp only
  rw [if_neg (Ne.symm wide_slash_ne_quote), if_pos rfl, if_pos (by omega), half]

/-- Behind an even run of backslashes a quote opens or closes, unless another follows inside. -/
theorem scanArgument_quote (count : Nat)
    (single : quoted = true → rest.head? ≠ some (wide width '"')) :
    scanArgument doubled (count * 2) quoted out (wide width '"' :: rest) =
      scanArgument doubled 0 (!quoted) (out ++ slashRun width count) rest := by
  have half : count * 2 / 2 = count := by omega
  rw [scanArgument.eq_def]
  dsimp only
  rw [if_neg (Ne.symm wide_slash_ne_quote), if_pos rfl, if_neg (by omega), half]
  cases rest with
  | nil => rfl
  | cons next behind =>
      have apart : (doubled && quoted && decide (next = wide width '"')) = false := by
        cases inside : quoted with
        | false => rw [Bool.and_false, Bool.false_and]
        | true =>
            have other : next ≠ wide width '"' := fun same => single inside (same ▸ rfl)
            rw [decide_eq_false other, Bool.and_false]
      exact if_neg (Bool.not_eq_true _ ▸ apart)

/-- Any other character takes the backslashes in front of it with it. -/
theorem scanArgument_plain (noSlash : unit ≠ wide width '\\') (noQuote : unit ≠ wide width '"')
    (inside : (argumentBlank unit && !quoted) = false) :
    scanArgument doubled slashes quoted out (unit :: rest) =
      scanArgument doubled 0 quoted (out ++ slashRun width slashes ++ [unit]) rest := by
  rw [scanArgument.eq_def]
  dsimp only
  rw [if_neg noSlash, if_neg noQuote, if_neg (Bool.not_eq_true _ ▸ inside)]

/-- A blank outside quotes ends the argument. -/
theorem scanArgument_blank :
    scanArgument doubled 0 false out (wide width ' ' :: rest) = (out, wide width ' ' :: rest) := by
  have noSlash : wide width ' ' ≠ wide width '\\' := by cases width <;> decide
  have noQuote : wide width ' ' ≠ wide width '"' := by cases width <;> decide
  have blank : (argumentBlank (wide width ' ') && !false) = true := by
    rw [argumentBlank, decide_eq_true rfl]
    rfl
  rw [scanArgument.eq_def]
  dsimp only
  rw [if_neg noSlash, if_neg noQuote, if_pos blank]
  exact congrArg (·, wide width ' ' :: rest) (List.append_nil out)

theorem scanArgument_end : scanArgument doubled 0 false out [] = (out, []) :=
  congrArg (·, []) (List.append_nil out)

theorem scanArgument_suffix (input : WString width) :
    (scanArgument doubled slashes quoted out input).2 <:+ input := by
  fun_induction scanArgument doubled slashes quoted out input with
  | case1 => exact List.suffix_rfl
  | case2 slashes quoted out rest ih => exact ih.trans (List.suffix_cons ..)
  | case3 slashes quoted out rest odd other ih => exact ih.trans (List.suffix_cons ..)
  | case4 slashes quoted out even other ih => exact ih.trans (List.suffix_cons ..)
  | case5 slashes quoted out even next behind twice other ih =>
      exact ih.trans ((List.suffix_cons ..).trans (List.suffix_cons ..))
  | case6 slashes quoted out even next behind once other ih => exact ih.trans (List.suffix_cons ..)
  | case7 => exact List.suffix_rfl
  | case8 slashes quoted out unit rest noSlash noQuote inside ih => exact ih.trans (List.suffix_cons ..)

/-- An argument that begins takes its first character. -/
theorem scanArgument_shorter (doubled : Bool) (rest : WString width)
    (begins : argumentBlank unit = false) :
    (scanArgument doubled 0 false [] (unit :: rest)).2.length < (unit :: rest).length := by
  have of_suffix {found : WString width} (behind : found <:+ rest) :
      found.length < (unit :: rest).length := Nat.lt_succ_of_le behind.length_le
  rw [scanArgument.eq_def]
  dsimp only
  split
  · exact of_suffix (scanArgument_suffix rest)
  split
  · split
    · exact of_suffix (scanArgument_suffix rest)
    cases rest with
    | nil => exact of_suffix (scanArgument_suffix [])
    | cons next behind =>
        dsimp only
        split
        · exact of_suffix ((scanArgument_suffix behind).trans (List.suffix_cons ..))
        · exact of_suffix (scanArgument_suffix (next :: behind))
  rw [begins, Bool.false_and, if_neg Bool.false_ne_true]
  exact of_suffix (scanArgument_suffix rest)

end Scan

/-- The arguments, with the blanks in front of each skipped. -/
def scanArguments (doubled : Bool) (input : WString width) : List (WString width) :=
  match _left : input.dropWhile argumentBlank with
  | [] => []
  | unit :: rest =>
      (scanArgument doubled 0 false [] (unit :: rest)).1 ::
        scanArguments doubled (scanArgument doubled 0 false [] (unit :: rest)).2
termination_by input.length
decreasing_by
  have begins : argumentBlank unit = false := by
    have found := List.head_dropWhile_not argumentBlank (l := input) (by simp [_left])
    simpa only [_left, List.head_cons] using found
  have shorter := scanArgument_shorter doubled rest begins
  have left := (List.dropWhile_suffix (l := input) argumentBlank).length_le
  rw [_left] at left
  exact Nat.lt_of_lt_of_le shorter left

theorem scanArguments_nil (doubled : Bool) : scanArguments doubled ([] : WString width) = [] := by
  rw [scanArguments]
  rfl

theorem scanArguments_begins (doubled : Bool) {unit : WChar width} {input rest : WString width}
    (begins : input.dropWhile argumentBlank = unit :: rest) :
    scanArguments doubled input =
      (scanArgument doubled 0 false [] (unit :: rest)).1 ::
        scanArguments doubled (scanArgument doubled 0 false [] (unit :: rest)).2 := by
  rw [scanArguments]
  split
  · next ends =>
      rw [begins] at ends
      cases ends
  · next found =>
      rw [begins] at found
      cases found
      rfl

/-- A command line ends at its first NUL; the name of the program is its first argument. -/
def splitCommandLine (doubled : Bool) (command : WString width) : List (WString width) :=
  let (program, rest) := scanProgram false [] (command.takeWhile (· ≠ 0))
  program :: scanArguments doubled rest

end AxeVoice.Foundation
