import AxeVoice.Foundation.ByteText
import AxeVoice.Foundation.Delimited

/-!
# The audit of the laboratory profile

What is read of a profile before the engine process is started with it.  The
audit reads lines that end at a line feed; a directive may begin behind a
carriage return too.
-/

namespace AxeVoice.Native

open Foundation

inductive BaresipProfileStatus
  | ready
  | createFailed
  | unsafePath
  | unsafeFile
  | accountsConfigured
  | insecureRemoteControl
  | unsafeConfiguration
  | oversizedConfiguration
  | readFailed
  deriving DecidableEq, Repr

def lineFeed : UInt8 := asciiByte '\n'

def carriageReturn : UInt8 := asciiByte '\r'

def commentSign : UInt8 := asciiByte '#'

/-- The lines that `std::getline` reads, to the end of the stream. -/
def getlines : Bytes → List Bytes
  | [] => []
  | byte :: rest =>
      if byte = lineFeed then [] :: getlines rest
      else
        match getlines rest with
        | [] => [[byte]]
        | line :: lines => (byte :: line) :: lines

def isBlank (byte : UInt8) : Bool :=
  byte == asciiByte ' ' || byte == asciiByte '\t' || byte == carriageReturn || byte == lineFeed

/-- The bytes that end the key of a directive. -/
def endsKey (byte : UInt8) : Bool :=
  byte == asciiByte ' ' || byte == asciiByte '\t' || byte == asciiByte '=' ||
    byte == carriageReturn || byte == lineFeed

def lowercaseByte (byte : UInt8) : UInt8 :=
  if asciiByte 'A' ≤ byte ∧ byte ≤ asciiByte 'Z' then byte + 32 else byte

def baresipLowercaseAscii (input : Bytes) : Bytes := input.map lowercaseByte

def inspectBaresipConfigLine (line : Bytes) : BaresipProfileStatus :=
  if line.length > 4096 ∨ 0 ∈ line then .unsafeConfiguration
  else
    match line.dropWhile isBlank with
    | [] => .ready
    | first :: rest =>
        if first = commentSign then .ready
        else
          let active : Bytes := (baresipLowercaseAscii (first :: rest)).takeWhile (· ≠ commentSign)
          let key := active.takeWhile fun byte => !endsKey byte
          if key = asciiBytes "include" ∨ key = asciiBytes "module_path" ∨
              key = asciiBytes "module_preload" ∨ key = asciiBytes "module_dir" then
            .unsafeConfiguration
          else if (active.find (asciiBytes "ctrl_tcp")).isSome ∨
              (active.find (asciiBytes "ctrl_http")).isSome ∨
              (active.find (asciiBytes "ctrl_ws")).isSome then
            .insecureRemoteControl
          else .ready

inductive ProfileFileName
  | config
  | accounts
  | contacts
  | uuid
  deriving DecidableEq, Repr

/-- The files whose lines are read. -/
def ProfileFileName.inspected : ProfileFileName → Bool
  | .config => true
  | .accounts => true
  | .contacts => false
  | .uuid => false

/-- The answers of the file system about a regular file. -/
structure RegularFile where
  /-- The attributes, where the platform has them, are unknown or name a reparse point. -/
  reparse : Bool
  size : Option ℕ
  /-- What the stream delivers, once it is open. -/
  text : Option Bytes
  bad : Bool

inductive ProfileFile
  | noSuchFile
  | statusFailed
  | absent
  | redirected
  | regular (file : RegularFile)

/-- The first answer that is not `Ready`. -/
def firstRefusal {α : Type} (inspect : α → BaresipProfileStatus) : List α → BaresipProfileStatus
  | [] => .ready
  | item :: items =>
      match inspect item with
      | .ready => firstRefusal inspect items
      | refusal => refusal

def inspectProfileLine (name : ProfileFileName) (line : Bytes) : BaresipProfileStatus :=
  if line.length > 4096 ∨ 0 ∈ line then .unsafeConfiguration
  else
    match line.dropWhile isBlank with
    | [] => .ready
    | first :: _ =>
        if first = commentSign then .ready
        else if name = .accounts then .accountsConfigured
        else inspectBaresipConfigLine line

def inspectProfileText (name : ProfileFileName) (file : RegularFile) : BaresipProfileStatus :=
  match file.size with
  | none => .readFailed
  | some size =>
      if size > 128 * 1024 then .oversizedConfiguration
      else
        match file.text with
        | none => .readFailed
        | some text =>
            match firstRefusal (inspectProfileLine name) (getlines text) with
            | .ready => if file.bad then .readFailed else .ready
            | refusal => refusal

def inspectProfileFile (name : ProfileFileName) : ProfileFile → BaresipProfileStatus
  | .noSuchFile => .ready
  | .statusFailed => .readFailed
  | .absent => .ready
  | .redirected => .unsafeFile
  | .regular file =>
      if file.reparse then .unsafeFile
      else if name.inspected then inspectProfileText name file
      else .ready

inductive ProfileDirectory
  | noPath
  | statusFailed
  | redirected
  | missing (created : Bool)
  | directory

structure LabProfile where
  directory : ProfileDirectory
  reparse : Bool
  file : ProfileFileName → ProfileFile

def prepareBaresipLabProfile (profile : LabProfile) : BaresipProfileStatus :=
  let inspect :=
    if profile.reparse then .unsafePath
    else firstRefusal (fun name => inspectProfileFile name (profile.file name))
      [.config, .accounts, .contacts, .uuid]
  match profile.directory with
  | .noPath => .unsafePath
  | .statusFailed => .unsafePath
  | .redirected => .unsafePath
  | .missing false => .createFailed
  | .missing true => inspect
  | .directory => inspect

/-- A line with something visible that is no comment. -/
def ActiveLine (line : Bytes) : Prop :=
  ∃ first rest, line.dropWhile isBlank = first :: rest ∧ first ≠ commentSign

/-- What a line says before its first comment sign, in lower case. -/
def activeText (line : Bytes) : Bytes :=
  (baresipLowercaseAscii (line.dropWhile isBlank)).takeWhile (· ≠ commentSign)

def directiveKey (line : Bytes) : Bytes := (activeText line).takeWhile fun byte => !endsKey byte

def unauditedKeys : List Bytes :=
  [asciiBytes "include", asciiBytes "module_path", asciiBytes "module_preload",
    asciiBytes "module_dir"]

def remoteControls : List Bytes :=
  [asciiBytes "ctrl_tcp", asciiBytes "ctrl_http", asciiBytes "ctrl_ws"]

structure ForbiddenDirective (line : Bytes) : Prop where
  active : ActiveLine line
  forbidden : directiveKey line ∈ unauditedKeys ∨
    ∃ control ∈ remoteControls, control <:+: activeText line

/-- What a line of a file must not be. -/
def Objectionable : ProfileFileName → Bytes → Prop
  | .accounts, line => ActiveLine line
  | _, line => ForbiddenDirective line

/-- A line as the lookup of directives sees it: it begins behind a carriage return too. -/
def DirectiveLine (text line : Bytes) : Prop :=
  ∃ front rest, PartOf (fun byte => byte = lineFeed ∨ byte = carriageReturn) text front line rest

def LabProfile.Reads (profile : LabProfile) (name : ProfileFileName) (text : Bytes) : Prop :=
  ∃ file, profile.file name = .regular file ∧ file.text = some text

/-- A profile that is ready has neither a forbidden directive nor an account. -/
def LineAudit (profile : LabProfile) : Prop :=
  prepareBaresipLabProfile profile = .ready →
    (∀ text, profile.Reads .config text → ∀ line, DirectiveLine text line →
      ¬ ForbiddenDirective line) ∧
    ∀ text, profile.Reads .accounts text → ∀ line, DirectiveLine text line → ¬ ActiveLine line

theorem getlines_of_free {line : Bytes} (free : ∀ byte ∈ line, ¬ byte = lineFeed)
    (filled : line ≠ []) : getlines line = [line] := by
  induction line with
  | nil => exact absurd rfl filled
  | cons byte rest ih =>
      rw [List.forall_mem_cons] at free
      rw [getlines, if_neg free.1]
      cases rest with
      | nil => rfl
      | cons next rest => rw [ih free.2 (List.cons_ne_nil _ _)]

theorem getlines_of_line {line : Bytes} (free : ∀ byte ∈ line, ¬ byte = lineFeed) (rest : Bytes) :
    getlines (line ++ lineFeed :: rest) = line :: getlines rest := by
  induction line with
  | nil => rw [List.nil_append, getlines, if_pos rfl]
  | cons byte line ih =>
      rw [List.forall_mem_cons] at free
      rw [List.cons_append, getlines, if_neg free.1, ih free.2]

theorem getlines_ne_nil {text : Bytes} (filled : text ≠ []) : getlines text ≠ [] := by
  cases text with
  | nil => exact absurd rfl filled
  | cons byte rest =>
      rw [getlines]
      split
      · exact List.cons_ne_nil _ _
      · split <;> exact List.cons_ne_nil _ _

/-- The lines up to a line feed, and the lines behind it. -/
theorem getlines_append (front rest : Bytes) :
    getlines (front ++ lineFeed :: rest) = getlines (front ++ [lineFeed]) ++ getlines rest := by
  induction front with
  | nil => simp [getlines]
  | cons byte front ih =>
      rw [List.cons_append, List.cons_append, getlines, getlines, ih]
      split
      · rfl
      · cases here : getlines (front ++ [lineFeed]) with
        | nil => exact absurd here (getlines_ne_nil (by simp))
        | cons line lines => rfl

theorem partOf_of_getlines {text line : Bytes} (member : line ∈ getlines text) :
    ∃ front rest, PartOf (fun byte => byte = lineFeed) text front line rest := by
  induction size : text.length using Nat.strong_induction_on generalizing text with
  | h bound ih =>
      obtain ⟨part, rest, rfl, free, closes⟩ :=
        exists_first_part (fun byte => byte = lineFeed) text
      rcases closes with rfl | ⟨symbol, behind, rfl, rfl⟩
      · rw [List.append_nil] at member ⊢
        cases part with
        | nil => cases member
        | cons byte part =>
            rw [getlines_of_free free (List.cons_ne_nil _ _), List.mem_singleton] at member
            subst member
            exact ⟨[], [], by simp, free, .inl rfl, .inl rfl⟩
      · rw [getlines_of_line free, List.mem_cons] at member
        rcases member with rfl | later
        · exact ⟨[], lineFeed :: behind, rfl, free, .inl rfl, .inr ⟨_, _, rfl, rfl⟩⟩
        · have shorter : behind.length < bound := by
            rw [← size, List.length_append, List.length_cons]
            omega
          obtain ⟨front, rest, within⟩ := ih _ shorter later rfl
          refine ⟨part ++ lineFeed :: front, rest, ?_, within.free, .inr ?_, within.closes⟩
          · rw [within.whole]
            simp
          · rcases within.opens with rfl | ⟨before, symbol, rfl, ends⟩
            · exact ⟨part, lineFeed, rfl, rfl⟩
            · exact ⟨part ++ lineFeed :: before, symbol, by simp, ends⟩

theorem mem_getlines_of_partOf {text front line rest : Bytes}
    (part : PartOf (fun byte => byte = lineFeed) text front line rest) (filled : line ≠ []) :
    line ∈ getlines text := by
  have here : line ∈ getlines (line ++ rest) := by
    rcases part.closes with rfl | ⟨symbol, behind, rfl, rfl⟩
    · rw [List.append_nil, getlines_of_free part.free filled]
      exact List.mem_singleton_self line
    · rw [getlines_of_line part.free]
      exact List.mem_cons_self
  rw [part.whole, List.append_assoc]
  rcases part.opens with rfl | ⟨before, symbol, rfl, rfl⟩
  · exact here
  · rw [List.append_assoc, List.singleton_append, getlines_append]
    exact List.mem_append_right _ here

/-- The directives of a text are the parts of its lines between carriage returns. -/
theorem directiveLine_iff {text directive : Bytes} (filled : directive ≠ []) :
    DirectiveLine text directive ↔
      ∃ line ∈ getlines text, ∃ front rest,
        PartOf (fun byte => byte = carriageReturn) line front directive rest := by
  constructor
  · rintro ⟨front, rest, part⟩
    obtain ⟨before, line, behind, first, last, outer, inner⟩ := part.nested
    refine ⟨line, mem_getlines_of_partOf outer ?_, first, last, inner⟩
    rw [inner.whole]
    simp [filled]
  · rintro ⟨line, member, front, rest, inner⟩
    obtain ⟨before, behind, outer⟩ := partOf_of_getlines member
    exact ⟨_, _, outer.within inner⟩

theorem dropWhile_blank_append {front rest : Bytes} (blank : ∀ byte ∈ front, isBlank byte = true) :
    (front ++ rest).dropWhile isBlank = rest.dropWhile isBlank := by
  induction front with
  | nil => rfl
  | cons byte front ih =>
      rw [List.forall_mem_cons] at blank
      rw [List.cons_append, List.dropWhile_cons_of_pos blank.1, ih blank.2]

theorem ActiveLine.append {line : Bytes} (active : ActiveLine line) (rest : Bytes) :
    ActiveLine (line ++ rest) := by
  obtain ⟨first, behind, visible, plain⟩ := active
  refine ⟨first, behind ++ rest, ?_, plain⟩
  rw [List.dropWhile_append, visible]
  rfl

theorem ActiveLine.filled {line : Bytes} (active : ActiveLine line) : line ≠ [] := by
  rintro rfl
  obtain ⟨first, rest, visible, -⟩ := active
  cases visible

/-- Up to a carriage return a line says what its front says, unless that ends in a comment. -/
theorem activeText_append {line : Bytes} (active : ActiveLine line) (behind : Bytes) :
    activeText (line ++ carriageReturn :: behind) = activeText line ∨
      ∃ more, activeText (line ++ carriageReturn :: behind) =
        activeText line ++ carriageReturn :: more := by
  obtain ⟨first, rest, visible, -⟩ := active
  have whole : (line ++ carriageReturn :: behind).dropWhile isBlank =
      first :: rest ++ carriageReturn :: behind := by
    rw [List.dropWhile_append, visible]
    rfl
  rw [activeText, activeText, whole, visible, baresipLowercaseAscii, List.map_append,
    List.takeWhile_append]
  split
  · next open_ =>
      have uncommented := (List.takeWhile_prefix _).eq_of_length open_
      refine .inr ⟨(behind.map lowercaseByte).takeWhile (· ≠ commentSign), ?_⟩
      rw [baresipLowercaseAscii, uncommented]
      rfl
  · exact .inl rfl

theorem directiveKey_append {line : Bytes} (active : ActiveLine line) (behind : Bytes) :
    directiveKey (line ++ carriageReturn :: behind) = directiveKey line := by
  rcases activeText_append active behind with same | ⟨more, same⟩
  · rw [directiveKey, same, directiveKey]
  · rw [directiveKey, same, directiveKey, List.takeWhile_append]
    split
    · next whole =>
        have key := (List.takeWhile_prefix _).eq_of_length whole
        rw [key]
        exact List.append_nil _
    · rfl

theorem ForbiddenDirective.append {line : Bytes} (forbidden : ForbiddenDirective line)
    (behind : Bytes) : ForbiddenDirective (line ++ carriageReturn :: behind) := by
  refine ⟨forbidden.active.append _, ?_⟩
  rcases forbidden.forbidden with key | ⟨control, known, named⟩
  · left
    rwa [directiveKey_append forbidden.active]
  · refine .inr ⟨control, known, ?_⟩
    rcases activeText_append forbidden.active behind with same | ⟨more, same⟩
    · rwa [same]
    · rw [same]
      exact named.trans (List.prefix_append _ _).isInfix

/-- What is objectionable up to a carriage return stays so, whatever follows. -/
theorem Objectionable.append {name : ProfileFileName} {line : Bytes}
    (objection : Objectionable name line) (behind : Bytes) :
    Objectionable name (line ++ carriageReturn :: behind) := by
  cases name with
  | accounts => exact ActiveLine.append objection _
  | config => exact ForbiddenDirective.append objection _
  | contacts => exact ForbiddenDirective.append objection _
  | uuid => exact ForbiddenDirective.append objection _

theorem ForbiddenDirective.of_visible {line other : Bytes}
    (same : line.dropWhile isBlank = other.dropWhile isBlank)
    (forbidden : ForbiddenDirective line) : ForbiddenDirective other := by
  obtain ⟨active, why⟩ := forbidden
  rw [ActiveLine, same] at active
  rw [directiveKey, activeText, same] at why
  exact ⟨active, why⟩

/-- Only what is visible of a line counts. -/
theorem Objectionable.of_visible {name : ProfileFileName} {line other : Bytes}
    (same : line.dropWhile isBlank = other.dropWhile isBlank)
    (objection : Objectionable name line) : Objectionable name other := by
  cases name with
  | accounts => rwa [Objectionable, ActiveLine, ← same]
  | config => exact ForbiddenDirective.of_visible same objection
  | contacts => exact ForbiddenDirective.of_visible same objection
  | uuid => exact ForbiddenDirective.of_visible same objection

theorem Objectionable.active {name : ProfileFileName} {line : Bytes}
    (objection : Objectionable name line) : ActiveLine line := by
  cases name with
  | accounts => exact objection
  | config => exact ForbiddenDirective.active objection
  | contacts => exact ForbiddenDirective.active objection
  | uuid => exact ForbiddenDirective.active objection

/-- The first thing visible of a line is objectionable together with its line. -/
theorem Objectionable.of_part {name : ProfileFileName} {line front directive rest : Bytes}
    (part : PartOf (fun byte => byte = carriageReturn) line front directive rest)
    (blank : ∀ byte ∈ front, isBlank byte = true) (objection : Objectionable name directive) :
    Objectionable name line := by
  have behind : Objectionable name (directive ++ rest) := by
    rcases part.closes with rfl | ⟨symbol, more, rfl, rfl⟩
    · rwa [List.append_nil]
    · exact objection.append more
  refine behind.of_visible ?_
  rw [part.whole, List.append_assoc, dropWhile_blank_append blank]

/-! ## What is ready -/

theorem firstRefusal_ready_iff {α : Type} {inspect : α → BaresipProfileStatus} {items : List α} :
    firstRefusal inspect items = .ready ↔ ∀ item ∈ items, inspect item = .ready := by
  induction items with
  | nil => simp [firstRefusal]
  | cons item items ih =>
      rw [List.forall_mem_cons, ← ih, firstRefusal]
      split
      · next first => simp [first]
      · next other =>
          constructor
          · intro ready
            exact absurd ready other
          · rintro ⟨ready, -⟩
            exact absurd ready other

theorem not_activeLine_of_blank {line : Bytes} (blank : line.dropWhile isBlank = []) :
    ¬ ActiveLine line := by
  rintro ⟨first, rest, visible, -⟩
  cases blank.symm.trans visible

theorem not_activeLine_of_comment {line rest : Bytes}
    (comment : line.dropWhile isBlank = commentSign :: rest) : ¬ ActiveLine line := by
  rintro ⟨first, rest', visible, plain⟩
  obtain ⟨rfl, -⟩ := List.cons.inj (comment.symm.trans visible)
  exact plain rfl

theorem forbiddenDirective_iff {line : Bytes} (active : ActiveLine line) :
    ForbiddenDirective line ↔
      (directiveKey line = asciiBytes "include" ∨ directiveKey line = asciiBytes "module_path" ∨
        directiveKey line = asciiBytes "module_preload" ∨
        directiveKey line = asciiBytes "module_dir") ∨
      ((activeText line).find (asciiBytes "ctrl_tcp")).isSome = true ∨
        ((activeText line).find (asciiBytes "ctrl_http")).isSome = true ∨
        ((activeText line).find (asciiBytes "ctrl_ws")).isSome = true := by
  constructor
  · rintro ⟨-, forbidden⟩
    simpa only [unauditedKeys, remoteControls, List.mem_cons, List.not_mem_nil, or_false,
      exists_eq_or_imp, exists_eq_left, Bytes.find_isSome_iff] using forbidden
  · intro forbidden
    refine ⟨active, ?_⟩
    simpa only [unauditedKeys, remoteControls, List.mem_cons, List.not_mem_nil, or_false,
      exists_eq_or_imp, exists_eq_left, Bytes.find_isSome_iff] using forbidden

theorem inspectBaresipConfigLine_ready_iff {line : Bytes} :
    inspectBaresipConfigLine line = .ready ↔
      line.length ≤ 4096 ∧ 0 ∉ line ∧ ¬ ForbiddenDirective line := by
  by_cases unsound : line.length > 4096 ∨ 0 ∈ line
  · rw [inspectBaresipConfigLine, if_pos unsound]
    constructor
    · intro ready
      cases ready
    · rintro ⟨short, clean, -⟩
      exact absurd unsound (not_or.mpr ⟨Nat.not_lt.mpr short, clean⟩)
  obtain ⟨short, clean⟩ := not_or.mp unsound
  suffices visible : inspectBaresipConfigLine line = .ready ↔ ¬ ForbiddenDirective line by
    rw [visible]
    exact ⟨fun quiet => ⟨Nat.not_lt.mp short, clean, quiet⟩, fun sound => sound.2.2⟩
  rw [inspectBaresipConfigLine, if_neg unsound]
  cases visible : line.dropWhile isBlank with
  | nil =>
      have quiet : ¬ ForbiddenDirective line :=
        fun forbidden => not_activeLine_of_blank visible forbidden.active
      exact iff_of_true rfl quiet
  | cons first rest =>
      by_cases comment : first = commentSign
      · subst comment
        have quiet : ¬ ForbiddenDirective line :=
          fun forbidden => not_activeLine_of_comment visible forbidden.active
        exact iff_of_true (if_pos rfl) quiet
      · have text : activeText line =
            (baresipLowercaseAscii (first :: rest)).takeWhile (· ≠ commentSign) := by
          rw [activeText, visible]
        rw [forbiddenDirective_iff ⟨first, rest, visible, comment⟩, directiveKey, text]
        dsimp only
        rw [if_neg comment]
        split
        · next key =>
            refine iff_of_false (fun ready => ?_) (fun quiet => quiet (.inl key))
            cases ready
        next key =>
        split
        · next named =>
            refine iff_of_false (fun ready => ?_) (fun quiet => quiet (.inr named))
            cases ready
        · next named => exact iff_of_true rfl (not_or.mpr ⟨key, named⟩)

theorem inspectProfileLine_ready_iff {name : ProfileFileName} {line : Bytes} :
    inspectProfileLine name line = .ready ↔
      line.length ≤ 4096 ∧ 0 ∉ line ∧ ¬ Objectionable name line := by
  by_cases unsound : line.length > 4096 ∨ 0 ∈ line
  · rw [inspectProfileLine, if_pos unsound]
    constructor
    · intro ready
      cases ready
    · rintro ⟨short, clean, -⟩
      exact absurd unsound (not_or.mpr ⟨Nat.not_lt.mpr short, clean⟩)
  obtain ⟨short, clean⟩ := not_or.mp unsound
  suffices visible : inspectProfileLine name line = .ready ↔ ¬ Objectionable name line by
    rw [visible]
    exact ⟨fun quiet => ⟨Nat.not_lt.mp short, clean, quiet⟩, fun sound => sound.2.2⟩
  rw [inspectProfileLine, if_neg unsound]
  cases visible : line.dropWhile isBlank with
  | nil => exact iff_of_true rfl fun objection => not_activeLine_of_blank visible objection.active
  | cons first rest =>
      by_cases comment : first = commentSign
      · subst comment
        exact iff_of_true (if_pos rfl)
          fun objection => not_activeLine_of_comment visible objection.active
      · dsimp only
        rw [if_neg comment]
        split
        · next account =>
            subst account
            refine iff_of_false (fun ready => ?_) (fun quiet => quiet ⟨first, rest, visible, comment⟩)
            cases ready
        · next other =>
            have asked : Objectionable name line ↔ ForbiddenDirective line := by
              cases name with
              | accounts => exact absurd rfl other
              | config => exact Iff.rfl
              | contacts => exact Iff.rfl
              | uuid => exact Iff.rfl
            rw [asked, inspectBaresipConfigLine_ready_iff]
            exact ⟨fun sound => sound.2.2, fun quiet => ⟨Nat.not_lt.mp short, clean, quiet⟩⟩

/-- A line that the audit lets pass. -/
structure QuietLine (name : ProfileFileName) (line : Bytes) : Prop where
  short : line.length ≤ 4096
  clean : 0 ∉ line
  quiet : ¬ Objectionable name line

/-- A file that is not there, is not read, or of which every line ending at a line feed is quiet. -/
inductive QuietFile (name : ProfileFileName) : ProfileFile → Prop
  | noSuchFile : QuietFile name .noSuchFile
  | absent : QuietFile name .absent
  | unread {file : RegularFile} (direct : file.reparse = false) (skipped : name.inspected = false) :
      QuietFile name (.regular file)
  | read {file : RegularFile} {size : ℕ} {text : Bytes} (direct : file.reparse = false)
      (sized : file.size = some size) (small : size ≤ 128 * 1024) (opened : file.text = some text)
      (lines : ∀ line ∈ getlines text, QuietLine name line) (whole : file.bad = false) :
      QuietFile name (.regular file)

/-- A profile of which every line ending at a line feed is quiet. -/
structure QuietProfile (profile : LabProfile) : Prop where
  usable : profile.directory = .directory ∨ profile.directory = .missing true
  direct : profile.reparse = false
  files : ∀ name, QuietFile name (profile.file name)

theorem inspectProfileText_ready {name : ProfileFileName} {file : RegularFile}
    (direct : file.reparse = false) (ready : inspectProfileText name file = .ready) :
    QuietFile name (.regular file) := by
  rw [inspectProfileText] at ready
  split at ready
  · cases ready
  next size sized =>
  split at ready
  · cases ready
  next small =>
  split at ready
  · cases ready
  next text opened =>
  split at ready
  · next passed =>
      split at ready
      · cases ready
      next whole =>
      refine .read direct sized (Nat.not_lt.mp small) opened ?_ (Bool.eq_false_iff.mpr whole)
      intro line member
      have quiet := firstRefusal_ready_iff.mp passed line member
      obtain ⟨short, clean, plain⟩ := inspectProfileLine_ready_iff.mp quiet
      exact ⟨short, clean, plain⟩
  · next refused => exact absurd ready refused

theorem inspectProfileFile_ready_iff {name : ProfileFileName} {file : ProfileFile} :
    inspectProfileFile name file = .ready ↔ QuietFile name file := by
  constructor
  · intro ready
    cases file with
    | noSuchFile => exact .noSuchFile
    | absent => exact .absent
    | statusFailed => cases ready
    | redirected => cases ready
    | regular file =>
        rw [inspectProfileFile] at ready
        split at ready
        · cases ready
        next direct =>
        split at ready
        · exact inspectProfileText_ready (Bool.eq_false_iff.mpr direct) ready
        · next skipped => exact .unread (Bool.eq_false_iff.mpr direct) (Bool.eq_false_iff.mpr skipped)
  · intro quiet
    cases quiet with
    | noSuchFile => rfl
    | absent => rfl
    | unread direct skipped => simp [inspectProfileFile, direct, skipped]
    | @read file size text direct sized small opened lines whole =>
        have passed : firstRefusal (inspectProfileLine name) (getlines text) = .ready := by
          refine firstRefusal_ready_iff.mpr fun line member => ?_
          have quiet := lines line member
          exact inspectProfileLine_ready_iff.mpr ⟨quiet.short, quiet.clean, quiet.quiet⟩
        have answer : inspectProfileText name file = .ready := by
          rw [inspectProfileText, sized]
          dsimp only
          rw [if_neg (Nat.not_lt.mpr small), opened]
          dsimp only
          rw [passed, whole]
          rfl
        rw [inspectProfileFile, direct, answer]
        split
        · next wrong => cases wrong
        · split <;> rfl

theorem prepareBaresipLabProfile_ready_iff {profile : LabProfile} :
    prepareBaresipLabProfile profile = .ready ↔ QuietProfile profile := by
  have inspect : (if profile.reparse then BaresipProfileStatus.unsafePath
      else firstRefusal (fun name => inspectProfileFile name (profile.file name))
        [.config, .accounts, .contacts, .uuid]) = .ready ↔
      profile.reparse = false ∧ ∀ name, QuietFile name (profile.file name) := by
    split
    · next redirected =>
        rw [redirected]
        refine iff_of_false ?_ ?_
        · intro ready
          cases ready
        · rintro ⟨direct, -⟩
          cases direct
    · next direct =>
        rw [firstRefusal_ready_iff]
        constructor
        · intro ready
          refine ⟨Bool.eq_false_iff.mpr direct, fun name => ?_⟩
          refine inspectProfileFile_ready_iff.mp (ready name ?_)
          cases name <;> simp
        · rintro ⟨-, files⟩ name -
          exact inspectProfileFile_ready_iff.mpr (files name)
  have usable (known : profile.directory = .directory ∨ profile.directory = .missing true) :
      (profile.reparse = false ∧ ∀ name, QuietFile name (profile.file name)) ↔
        QuietProfile profile :=
    ⟨fun ⟨direct, files⟩ => ⟨known, direct, files⟩, fun quiet => ⟨quiet.direct, quiet.files⟩⟩
  have unusable (wrong : ¬ (profile.directory = .directory ∨ profile.directory = .missing true))
      {status : BaresipProfileStatus} (refused : status ≠ .ready) :
      status = .ready ↔ QuietProfile profile :=
    iff_of_false refused fun quiet => wrong quiet.usable
  rw [prepareBaresipLabProfile]
  cases known : profile.directory with
  | noPath => exact unusable (by simp [known]) (by simp)
  | statusFailed => exact unusable (by simp [known]) (by simp)
  | redirected => exact unusable (by simp [known]) (by simp)
  | missing created =>
      cases created with
      | false => exact unusable (by simp [known]) (by simp)
      | true => exact inspect.trans (usable (.inr known))
  | directory => exact inspect.trans (usable (.inl known))

/-- Behind a carriage return, and behind something visible, stands what the audit objects to. -/
def HidesBehindReturn (name : ProfileFileName) (text : Bytes) : Prop :=
  ∃ line ∈ getlines text, ∃ front directive rest,
    PartOf (fun byte => byte = carriageReturn) line front directive rest ∧
      (∃ byte ∈ front, isBlank byte = false) ∧ Objectionable name directive

theorem lineAudit_uniform {profile : LabProfile} :
    LineAudit profile ↔ (prepareBaresipLabProfile profile = .ready →
      ∀ name, name.inspected = true → ∀ text, profile.Reads name text →
        ∀ line, DirectiveLine text line → ¬ Objectionable name line) := by
  constructor
  · intro audit ready name inspected
    cases name with
    | config => exact (audit ready).1
    | accounts => exact (audit ready).2
    | contacts => cases inspected
    | uuid => cases inspected
  · intro audit ready
    exact ⟨audit ready .config rfl, audit ready .accounts rfl⟩

theorem QuietProfile.lines {profile : LabProfile} (quiet : QuietProfile profile)
    {name : ProfileFileName} (inspected : name.inspected = true) {text : Bytes}
    (reads : profile.Reads name text) : ∀ line ∈ getlines text, QuietLine name line := by
  obtain ⟨file, known, opened⟩ := reads
  have passed := quiet.files name
  rw [known] at passed
  cases passed with
  | unread direct skipped => cases inspected.symm.trans skipped
  | read direct sized small opened' lines whole =>
      cases opened.symm.trans opened'
      exact lines

/-- The audit is bypassed exactly where a quiet profile hides something behind a carriage return. -/
theorem lineAudit_iff (profile : LabProfile) :
    LineAudit profile ↔
      ¬ (QuietProfile profile ∧ ∃ name text, name.inspected = true ∧ profile.Reads name text ∧
        HidesBehindReturn name text) := by
  rw [lineAudit_uniform, prepareBaresipLabProfile_ready_iff]
  constructor
  · rintro audit ⟨quiet, name, text, inspected, reads, line, member, front, directive, rest, part,
      -, objection⟩
    have directive_ := (directiveLine_iff objection.active.filled).mpr
      ⟨line, member, front, rest, part⟩
    exact audit quiet name inspected text reads directive directive_ objection
  · intro bypass quiet name inspected text reads directive directive_ objection
    obtain ⟨line, member, front, rest, part⟩ :=
      (directiveLine_iff objection.active.filled).mp directive_
    by_cases blank : ∀ byte ∈ front, isBlank byte = true
    · exact (quiet.lines inspected reads line member).quiet (objection.of_part part blank)
    · refine bypass ⟨quiet, name, text, inspected, reads, line, member, front, directive, rest, part,
        ?_, objection⟩
      simpa only [not_forall, exists_prop, Bool.not_eq_true] using blank

/-- A profile of only a configuration. -/
def configured (text : Bytes) : LabProfile where
  directory := .directory
  reparse := false
  file
    | .config => .regular ⟨false, some text.length, some text, false⟩
    | _ => .noSuchFile

/-- A comment that ends at a carriage return. -/
theorem include_behind_comment : ¬ LineAudit (configured (asciiBytes "#\rinclude x\n")) := by
  intro audit
  have ready : prepareBaresipLabProfile (configured (asciiBytes "#\rinclude x\n")) = .ready := by
    decide
  have directive : DirectiveLine (asciiBytes "#\rinclude x\n") (asciiBytes "include x") :=
    ⟨asciiBytes "#\r", asciiBytes "\n", by decide, by decide +kernel, .inr ⟨asciiBytes "#",
      carriageReturn, by decide, .inr rfl⟩, .inr ⟨lineFeed, [], by decide, .inl rfl⟩⟩
  refine (audit ready).1 _ ⟨_, rfl, rfl⟩ _ directive ⟨⟨asciiByte 'i', asciiBytes "nclude x", ?_⟩, ?_⟩
  · decide
  · left
    decide

end AxeVoice.Native
