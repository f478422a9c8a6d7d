import AxeVoice.Foundation.CommandLine
import Mathlib.Data.List.TakeWhile

/-!
# Arguments of Windows processes

The command line of a process is one string, and every argument goes into it in
quotes.  The runtime of the process takes the same arguments out of it again.
-/

namespace AxeVoice.Native

open Foundation

variable {width : WCharWidth}

/-- The loop over an argument, with the backslashes that wait for what follows them. -/
def quoteFrom (quoted : WString width) (slashes : Nat) : WString width → WString width
  | [] => quoted ++ List.replicate (slashes * 2) (wide width '\\') ++ [wide width '"']
  | c :: rest =>
      if c = wide width '\\' then quoteFrom quoted (slashes + 1) rest
      else
        let appended := if c = wide width '"' then slashes * 2 + 1 else slashes
        quoteFrom (quoted ++ List.replicate appended (wide width '\\') ++ [c]) 0 rest

def quoteWindowsArgument (value : WString width) : WString width :=
  quoteFrom [wide width '"'] 0 value

/-- What `WindowsProcess::start` passes for an executable and a profile directory. -/
def startCommand (absolute profile : WString width) : WString width :=
  quoteWindowsArgument absolute ++
    if profile.isEmpty then [] else wideText width " -f " ++ quoteWindowsArgument profile

/-- An argument behind waiting backslashes, as it stands between its quotes, and the closing one. -/
def quotedRest : Nat → WString width → WString width
  | slashes, [] => slashRun width (slashes * 2) ++ [wide width '"']
  | slashes, c :: rest =>
      if c = wide width '\\' then quotedRest (slashes + 1) rest
      else if c = wide width '"' then slashRun width (slashes * 2 + 1) ++ c :: quotedRest 0 rest
      else slashRun width slashes ++ c :: quotedRest 0 rest

theorem quoteFrom_eq (quoted : WString width) (slashes : Nat) (value : WString width) :
    quoteFrom quoted slashes value = quoted ++ quotedRest slashes value := by
  induction value generalizing quoted slashes with
  | nil =>
      rw [quoteFrom, quotedRest, List.append_assoc]
      rfl
  | cons c rest ih =>
      rw [quoteFrom, quotedRest]
      by_cases slash : c = wide width '\\'
      · rw [if_pos slash, if_pos slash, ih]
      by_cases quote : c = wide width '"'
      · rw [if_neg slash, if_neg slash, if_pos quote, if_pos quote, ih]
        simp only [slashRun, List.append_assoc, List.singleton_append]
      · rw [if_neg slash, if_neg slash, if_neg quote, if_neg quote, ih]
        simp only [slashRun, List.append_assoc, List.singleton_append]

theorem quoteWindowsArgument_eq (value : WString width) :
    quoteWindowsArgument value = wide width '"' :: quotedRest 0 value :=
  quoteFrom_eq [wide width '"'] 0 value

theorem slashRun_succ (count : Nat) (rest : WString width) :
    slashRun width (count + 1) ++ rest = slashRun width count ++ wide width '\\' :: rest := by
  rw [slashRun, List.replicate_succ', List.append_assoc]
  rfl

/--
Inside quotes the runtime reads an argument back, whatever backslashes wait in front
of it, and is outside quotes behind it.
-/
theorem scanArgument_quotedRest (doubled : Bool) {slashes : Nat} {value out rest : WString width}
    (single : rest.head? ≠ some (wide width '"')) :
    scanArgument doubled 0 true out (quotedRest slashes value ++ rest) =
      scanArgument doubled 0 false (out ++ (slashRun width slashes ++ value)) rest := by
  induction value generalizing slashes out with
  | nil =>
      rw [quotedRest, List.append_assoc, scanArgument_slashes, Nat.zero_add, List.singleton_append,
        scanArgument_quote slashes fun _ => single, List.append_nil]
      rfl
  | cons c value ih =>
      rw [quotedRest]
      by_cases slash : c = wide width '\\'
      · subst slash
        rw [if_pos rfl, ih, slashRun_succ]
      by_cases quote : c = wide width '"'
      · subst quote
        rw [if_neg slash, if_pos rfl, List.append_assoc, scanArgument_slashes, Nat.zero_add,
          List.cons_append, scanArgument_literal_quote, ih]
        simp only [slashRun, List.replicate_zero, List.nil_append, List.append_assoc,
          List.singleton_append]
      · have inside : (argumentBlank c && !true) = false := Bool.and_false _
        rw [if_neg slash, if_neg quote, List.append_assoc, scanArgument_slashes, Nat.zero_add,
          List.cons_append, scanArgument_plain slash quote inside, ih]
        simp only [slashRun, List.replicate_zero, List.nil_append, List.append_assoc,
          List.singleton_append]

/-- The runtime takes a quoted argument, up to a blank or the end, for the argument. -/
theorem scanArgument_quoted (doubled : Bool) (value : WString width) {rest : WString width}
    (ends : rest = [] ∨ ∃ behind, rest = wide width ' ' :: behind) :
    scanArgument doubled 0 false [] (quoteWindowsArgument value ++ rest) = (value, rest) := by
  have single : rest.head? ≠ some (wide width '"') := by
    rcases ends with rfl | ⟨behind, rfl⟩
    · exact nofun
    · have apart : wide width ' ' ≠ wide width '"' := by cases width <;> decide
      exact fun same => apart (Option.some.inj same)
  have opens : scanArgument doubled 0 false [] (wide width '"' :: (quotedRest 0 value ++ rest)) =
      scanArgument doubled 0 true [] (quotedRest 0 value ++ rest) :=
    scanArgument_quote 0 nofun
  rw [quoteWindowsArgument_eq, List.cons_append, opens, scanArgument_quotedRest doubled single]
  rcases ends with rfl | ⟨behind, rfl⟩
  · exact scanArgument_end
  · exact scanArgument_blank

/-- Arguments in quotes, a blank in front of each. -/
def quotedArguments (values : List (WString width)) : WString width :=
  values.flatMap fun value => wide width ' ' :: quoteWindowsArgument value

theorem scanArguments_quoted (doubled : Bool) (values : List (WString width)) :
    scanArguments doubled (quotedArguments values) = values := by
  induction values with
  | nil => exact scanArguments_nil doubled
  | cons value values ih =>
      have ends : quotedArguments values = [] ∨
          ∃ behind, quotedArguments values = wide width ' ' :: behind := by
        cases values with
        | nil => exact .inl rfl
        | cons next later => exact .inr ⟨_, rfl⟩
      have begins : (quotedArguments (value :: values)).dropWhile argumentBlank =
          wide width '"' :: (quotedRest 0 value ++ quotedArguments values) := by
        rw [quotedArguments, List.flatMap_cons, quoteWindowsArgument_eq]
        have blank : argumentBlank (wide width ' ') = true := by cases width <;> decide
        have solid : ¬ argumentBlank (wide width '"') = true := by cases width <;> decide
        rw [List.cons_append, List.dropWhile_cons_of_pos blank, List.cons_append,
          List.dropWhile_cons_of_neg solid]
        rfl
      have scanned := scanArgument_quoted doubled value ends
      rw [quoteWindowsArgument_eq, List.cons_append] at scanned
      rw [scanArguments_begins doubled begins, scanned, ih]

/-- The quoted path of a program is its name, to the blank behind the quotes. -/
theorem scanProgram_inside {path out rest : WString width} (noQuote : wide width '"' ∉ path) :
    scanProgram true out (path ++ wide width '"' :: rest) = scanProgram false (out ++ path) rest := by
  induction path generalizing out with
  | nil =>
      rw [List.nil_append, scanProgram, if_pos rfl, List.append_nil]
      rfl
  | cons unit path ih =>
      rw [List.mem_cons, not_or] at noQuote
      rw [List.cons_append, scanProgram, if_neg (Ne.symm noQuote.1),
        if_neg (by rw [Bool.not_true, Bool.and_false]; exact Bool.false_ne_true), ih noQuote.2,
        List.append_assoc]
      rfl

theorem scanProgram_quoted {path rest : WString width} (noQuote : wide width '"' ∉ path)
    (ends : rest = [] ∨ ∃ behind, rest = wide width ' ' :: behind) :
    scanProgram false [] (wide width '"' :: (path ++ wide width '"' :: rest)) = (path, rest) := by
  rw [scanProgram, if_pos rfl, Bool.not_false, scanProgram_inside noQuote, List.nil_append]
  rcases ends with rfl | ⟨behind, rfl⟩
  · rfl
  · have noQuote : wide width ' ' ≠ wide width '"' := by cases width <;> decide
    have blank : (argumentBlank (wide width ' ') && !false) = true := by cases width <;> decide
    rw [scanProgram, if_neg noQuote, if_pos blank]

theorem quotedRest_nulFree {slashes : Nat} {value : WString width} (nulFree : 0 ∉ value) :
    0 ∉ quotedRest slashes value := by
  have noSlash : (0 : WChar width) ≠ wide width '\\' := by cases width <;> decide
  have noQuote : (0 : WChar width) ≠ wide width '"' := by cases width <;> decide
  have noRun (count : Nat) : (0 : WChar width) ∉ slashRun width count :=
    fun member => noSlash (List.eq_of_mem_replicate member)
  induction value generalizing slashes with
  | nil =>
      rw [quotedRest, List.mem_append, List.mem_singleton, not_or]
      exact ⟨noRun _, noQuote⟩
  | cons c rest ih =>
      rw [List.mem_cons, not_or] at nulFree
      rw [quotedRest]
      split
      · exact ih nulFree.2
      split
      · rw [List.mem_append, List.mem_cons, not_or, not_or]
        exact ⟨noRun _, nulFree.1, ih nulFree.2⟩
      · rw [List.mem_append, List.mem_cons, not_or, not_or]
        exact ⟨noRun _, nulFree.1, ih nulFree.2⟩

theorem quotedArguments_nulFree {values : List (WString width)} (nulFree : ∀ value ∈ values, 0 ∉ value) :
    0 ∉ quotedArguments values := by
  have noBlank : (0 : WChar width) ≠ wide width ' ' := by cases width <;> decide
  have noQuote : (0 : WChar width) ≠ wide width '"' := by cases width <;> decide
  intro member
  obtain ⟨value, among, inside⟩ := List.mem_flatMap.mp member
  rw [quoteWindowsArgument_eq, List.mem_cons, List.mem_cons] at inside
  rcases inside with blank | quote | rest
  · exact noBlank blank
  · exact noQuote quote
  · exact quotedRest_nulFree (nulFree value among) rest

theorem splitCommandLine_nulFree (doubled : Bool) {command : WString width} (nulFree : 0 ∉ command) :
    splitCommandLine doubled command =
      (scanProgram false [] command).1 :: scanArguments doubled (scanProgram false [] command).2 := by
  have whole : command.takeWhile (fun unit => unit ≠ 0) = command := by
    rw [List.takeWhile_eq_self_iff]
    intro unit member
    exact decide_eq_true fun zero => nulFree (zero ▸ member)
  rw [splitCommandLine, whole]

/--
Behind a program path in quotes, the arguments that the runtime splits off are the
ones that were quoted, in either reading of a doubled quote.
-/
theorem split_quoted_arguments (doubled : Bool) {path : WString width}
    {values : List (WString width)} (noQuote : wide width '"' ∉ path) (noNul : 0 ∉ path)
    (nulFree : ∀ value ∈ values, 0 ∉ value) :
    splitCommandLine doubled
        (wide width '"' :: (path ++ wide width '"' :: quotedArguments values)) =
      path :: values := by
  have ends : quotedArguments values = [] ∨
      ∃ behind, quotedArguments values = wide width ' ' :: behind := by
    cases values with
    | nil => exact .inl rfl
    | cons next later => exact .inr ⟨_, rfl⟩
  have free : (0 : WChar width) ∉
      wide width '"' :: (path ++ wide width '"' :: quotedArguments values) := by
    have quote : (0 : WChar width) ≠ wide width '"' := by cases width <;> decide
    rw [List.mem_cons, List.mem_append, List.mem_cons, not_or, not_or, not_or]
    exact ⟨quote, noNul, quote, quotedArguments_nulFree nulFree⟩
  rw [splitCommandLine_nulFree doubled free, scanProgram_quoted noQuote ends,
    scanArguments_quoted]

/-- Two arguments: one with blanks, backslashes and a quote, and the empty one. -/
theorem split_quoted_arguments_voiceProfiles :
    splitCommandLine false (wide .utf16 '"' :: (wideText .utf16 "C:\\Axe Voice\\axv.exe" ++
        wide .utf16 '"' :: quotedArguments [wideText .utf16 "C:\\a \\\"b\\\\", []])) =
      [wideText .utf16 "C:\\Axe Voice\\axv.exe", wideText .utf16 "C:\\a \\\"b\\\\", []] :=
  split_quoted_arguments false (by decide) (by decide) (by decide)

/-- Characters outside quotes go into the argument as they are. -/
theorem scanArgument_bare (doubled : Bool) {text out rest : WString width}
    (bare : ∀ unit ∈ text,
      unit ≠ wide width '\\' ∧ unit ≠ wide width '"' ∧ argumentBlank unit = false) :
    scanArgument doubled 0 false out (text ++ rest) = scanArgument doubled 0 false (out ++ text) rest := by
  induction text generalizing out with
  | nil => rw [List.nil_append, List.append_nil]
  | cons unit text ih =>
      obtain ⟨noSlash, noQuote, noBlank⟩ := bare unit List.mem_cons_self
      have inside : (argumentBlank unit && !false) = false := by rw [noBlank, Bool.false_and]
      rw [List.cons_append, scanArgument_plain noSlash noQuote inside,
        ih fun other member => bare other (List.mem_cons_of_mem _ member)]
      simp only [slashRun, List.replicate_zero, List.append_nil, List.append_assoc,
        List.singleton_append]

/-- The text of a path without quotes ends before its closing quote. -/
theorem quotedRest_noQuote (slashes : Nat) {path : WString width} (noQuote : wide width '"' ∉ path) :
    ∃ name, quotedRest slashes path = name ++ [wide width '"'] ∧ wide width '"' ∉ name := by
  have noRun (count : Nat) : wide width '"' ∉ slashRun width count :=
    fun member => wide_slash_ne_quote (List.eq_of_mem_replicate member).symm
  induction path generalizing slashes with
  | nil => exact ⟨slashRun width (slashes * 2), rfl, noRun _⟩
  | cons c rest ih =>
      rw [List.mem_cons, not_or] at noQuote
      rw [quotedRest, if_neg (Ne.symm noQuote.1)]
      split
      · exact ih _ noQuote.2
      · obtain ⟨name, same, free⟩ := ih 0 noQuote.2
        refine ⟨slashRun width slashes ++ c :: name, ?_, ?_⟩
        · rw [same, List.append_assoc, List.cons_append]
        · rw [List.mem_append, List.mem_cons, not_or, not_or]
          exact ⟨noRun _, noQuote.1, free⟩

theorem scanArguments_option (doubled : Bool) (profile : WString width) :
    scanArguments doubled (wideText width " -f " ++ quoteWindowsArgument profile) =
      [wideText width "-f", profile] := by
  have letters : wideText width "-f" = [wide width '-', wide width 'f'] := rfl
  have option : wideText width " -f " ++ quoteWindowsArgument profile =
      wide width ' ' :: wide width '-' :: wide width 'f' :: quotedArguments [profile] := by
    rw [quotedArguments, List.flatMap_singleton]
    rfl
  have begins : (wideText width " -f " ++ quoteWindowsArgument profile).dropWhile argumentBlank =
      wide width '-' :: (wide width 'f' :: quotedArguments [profile]) := by
    have blank : argumentBlank (wide width ' ') = true := by cases width <;> decide
    have solid : ¬ argumentBlank (wide width '-') = true := by cases width <;> decide
    rw [option, List.dropWhile_cons_of_pos blank, List.dropWhile_cons_of_neg solid]
  have bare : ∀ unit ∈ wideText width "-f",
      unit ≠ wide width '\\' ∧ unit ≠ wide width '"' ∧ argumentBlank unit = false := by
    intro unit member
    rw [letters, List.mem_cons, List.mem_singleton] at member
    rcases member with rfl | rfl
    · exact ⟨by cases width <;> decide, by cases width <;> decide, by cases width <;> decide⟩
    · exact ⟨by cases width <;> decide, by cases width <;> decide, by cases width <;> decide⟩
  have scanned : scanArgument doubled 0 false []
        (wide width '-' :: (wide width 'f' :: quotedArguments [profile])) =
      (wideText width "-f", quotedArguments [profile]) := by
    have read : scanArgument doubled 0 false [] (wideText width "-f" ++ quotedArguments [profile]) =
        scanArgument doubled 0 false ([] ++ wideText width "-f") (quotedArguments [profile]) :=
      scanArgument_bare doubled bare
    rw [letters, List.cons_append, List.singleton_append, List.nil_append] at read
    rw [read, letters]
    exact scanArgument_blank
  rw [scanArguments_begins doubled begins, scanned, scanArguments_quoted]

/-- Behind the executable, a path without quotes, stand the arguments of the rest. -/
theorem split_behind_program (doubled : Bool) {absolute rest : WString width}
    (noQuote : wide width '"' ∉ absolute) (noNul : 0 ∉ absolute) (nulFree : 0 ∉ rest)
    (ends : rest = [] ∨ ∃ behind, rest = wide width ' ' :: behind) :
    (splitCommandLine doubled (quoteWindowsArgument absolute ++ rest)).tail =
      scanArguments doubled rest := by
  obtain ⟨name, same, free⟩ := quotedRest_noQuote 0 noQuote
  have quote : (0 : WChar width) ≠ wide width '"' := by cases width <;> decide
  have whole : (0 : WChar width) ∉ quoteWindowsArgument absolute ++ rest := by
    rw [quoteWindowsArgument_eq, List.mem_append, List.mem_cons, not_or, not_or]
    exact ⟨⟨quote, quotedRest_nulFree noNul⟩, nulFree⟩
  have named : quoteWindowsArgument absolute ++ rest =
      wide width '"' :: (name ++ wide width '"' :: rest) := by
    rw [quoteWindowsArgument_eq, same, List.cons_append, List.append_assoc]
    rfl
  rw [splitCommandLine_nulFree doubled whole, named, scanProgram_quoted free ends]
  rfl

/-- A started process finds its profile directory behind the option, and no other argument. -/
theorem startCommand_arguments (doubled : Bool) {absolute profile : WString width}
    (noQuote : wide width '"' ∉ absolute) (noNul : 0 ∉ absolute) (nulFree : 0 ∉ profile) :
    (splitCommandLine doubled (startCommand absolute profile)).tail =
      if profile.isEmpty then [] else [wideText width "-f", profile] := by
  rw [startCommand]
  split
  · rw [split_behind_program doubled noQuote noNul List.not_mem_nil (.inl rfl)]
    exact scanArguments_nil doubled
  · have option : (0 : WChar width) ∉ wideText width " -f " ++ quoteWindowsArgument profile := by
      have text : (0 : WChar width) ∉ wideText width " -f " := by cases width <;> decide
      have quote : (0 : WChar width) ≠ wide width '"' := by cases width <;> decide
      rw [List.mem_append, quoteWindowsArgument_eq, List.mem_cons, not_or, not_or]
      exact ⟨text, quote, quotedRest_nulFree nulFree⟩
    rw [split_behind_program doubled noQuote noNul option (.inr ⟨_, rfl⟩), scanArguments_option]

end AxeVoice.Native
