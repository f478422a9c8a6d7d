import AxeVoice.Contacts.RoundTrip
import AxeVoice.Contacts.Store

/-!
# The contacts window

The commands of the window change a copy of its book, save the copy, and only
then take it over.  What the user answers, which windows are still there and how
the Windows calls end are arguments of a command; between two commands others may
rewrite the file.
-/

namespace AxeVoice.Contacts

open AxeVoice.Foundation
open ContactStore

variable {width : WCharWidth}

inductive ContactTransferStatus where
  | cancelled
  | ok
  | invalid
  | conflict
  | error
  deriving DecidableEq, Repr

structure ContactTransferResult where
  status : ContactTransferStatus := .cancelled
  added : Nat := 0
  skipped : Nat := 0

/-- The file that was chosen, and how the calls that read it end. -/
structure ImportFile where
  opened : Bool
  ordinary : Bool
  sized : Bool
  received : Bool
  content : Bytes

def readImport (file : ImportFile) : Option Bytes :=
  if !file.opened || !file.ordinary then none
  else if !file.sized || file.content.length > contactBackupLimit then none
  else if !file.received then none
  else some file.content

/-- The answer to the preview; the message box may fail as well. -/
inductive PreviewChoice where
  | ok
  | cancel
  | failed

/-- What an import meets, in the order in which it asks. -/
structure ImportCalls where
  ownerAtStart : Bool
  selected : Bool
  ownerAfterDialog : Bool
  dialogError : Bool
  file : ImportFile
  choice : PreviewChoice
  ownerAfterPreview : Bool
  save : SaveCalls

/-- The loop over the imported drafts: duplicates are skipped, any other refusal ends it. -/
def importDrafts (ctype : WideCtype width) :
    ContactBook width → Nat → Nat → List (ContactDraft width) →
      Except ContactTransferStatus (ContactBook width × Nat × Nat)
  | candidate, added, skipped, [] => .ok (candidate, added, skipped)
  | candidate, added, skipped, draft :: rest =>
      let (result, candidate) := candidate.add ctype draft
      match result with
      | .ok => importDrafts ctype candidate (added + 1) skipped rest
      | .duplicate => importDrafts ctype candidate added (skipped + 1) rest
      | .error => .error .error
      | _ => .error .invalid

/-- What an import leaves behind, the answer of the store with it if it was asked. -/
structure ImportEnd (width : WCharWidth) where
  result : ContactTransferResult
  stored : Option ContactStoreResult := none
  output : ContactBook width
  store : ContactStore width
  file : Option Bytes

/-- The import behind its preview. -/
def confirmImport (ctype : WideCtype width) (calls : ImportCalls) (file : Option Bytes)
    (candidate : ContactBook width) (added skipped : Nat) (output : ContactBook width)
    (store : ContactStore width) : ImportEnd width :=
  let stopped (status : ContactTransferStatus) : ImportEnd width :=
    { result := { status := status }, output := output, store := store, file := file }
  if !calls.ownerAfterPreview then stopped .cancelled
  else
    match calls.choice with
    | .failed => stopped .error
    | .cancel => stopped .cancelled
    | .ok =>
        if added ≠ 0 then
          let (saved, store, file) := store.save ctype calls.save file candidate
          if saved ≠ .ok then
            let status := if saved = .conflict then ContactTransferStatus.conflict else .error
            { result := { status := status }, stored := some saved, output := output,
              store := store, file := file }
          else
            { result := ⟨.ok, added, skipped⟩, stored := some saved, output := candidate,
              store := store, file := file }
        else
          { result := ⟨.ok, added, skipped⟩, output := candidate, store := store, file := file }

def importContacts (ctype : WideCtype width) (calls : ImportCalls) (file : Option Bytes)
    (current output : ContactBook width) (store : ContactStore width) : ImportEnd width :=
  let stopped (status : ContactTransferStatus) : ImportEnd width :=
    { result := { status := status }, output := output, store := store, file := file }
  if !calls.ownerAtStart then stopped .cancelled
  else if !calls.ownerAfterDialog then stopped .cancelled
  else if !calls.selected then stopped (if calls.dialogError then .error else .cancelled)
  else
    match readImport calls.file with
    | none => stopped .error
    | some bytes =>
        match decodeContactBackup ctype bytes with
        | none => stopped .invalid
        | some drafts =>
            match importDrafts ctype current 0 0 drafts with
            | .error status => stopped status
            | .ok (candidate, added, skipped) =>
                confirmImport ctype calls file candidate added skipped output store

structure ContactWindow (width : WCharWidth) where
  book : ContactBook width := {}
  store : ContactStore width
  selected : UInt64 := 0
  dirty : Bool := false
  loaded : Bool := false

/-- The window over the file. -/
structure Desk (width : WCharWidth) where
  window : ContactWindow width
  file : Option Bytes

/-- The question whether unsaved text may go, with the windows before and behind it. -/
structure DiscardAnswer where
  liveBefore : Bool
  confirmed : Bool
  liveAfter : Bool

def ContactWindow.discard (window : ContactWindow width) (answer : DiscardAnswer) : Bool :=
  if !answer.liveBefore then false
  else if !window.dirty then true
  else answer.liveAfter && answer.confirmed

def ContactWindow.fill (window : ContactWindow width) (id : UInt64) : ContactWindow width :=
  { window with selected := id, dirty := false }

inductive CommandOutcome where
  | done
  | failed
  | cancelled
  deriving DecidableEq, Repr

/-- How a command ends, and what the store answered if it was asked. -/
structure CommandAnswer where
  outcome : CommandOutcome
  stored : Option ContactStoreResult := none

/-- The window takes the next book over where the store has saved it. -/
def Desk.persist (ctype : WideCtype width) (calls : SaveCalls) (desk : Desk width)
    (next : ContactBook width) : CommandAnswer × Desk width :=
  if !desk.window.loaded then (⟨.failed, none⟩, desk)
  else
    let (result, store, file) := desk.window.store.save ctype calls desk.file next
    if result ≠ .ok then
      (⟨.failed, some result⟩, ⟨{ desk.window with store := store }, file⟩)
    else (⟨.done, some result⟩, ⟨{ desk.window with store := store, book := next }, file⟩)

/-- A persisted command shows this contact, any other leaves the window's fields. -/
def Desk.persistAndFill (ctype : WideCtype width) (calls : SaveCalls) (desk : Desk width)
    (next : ContactBook width) (shown : ContactBook width → UInt64) : CommandAnswer × Desk width :=
  let (answer, desk) := desk.persist ctype calls next
  if answer.outcome = .done then
    (answer, { desk with window := desk.window.fill (shown desk.window.book) })
  else (answer, desk)

/-- The edited draft, which keeps the mark of the selected contact. -/
def ContactWindow.draft (window : ContactWindow width) (name destination : WString width) :
    ContactDraft width :=
  match window.book.find window.selected with
  | some contact => ⟨name, destination, contact.favorite⟩
  | none => ⟨name, destination, false⟩

/-- The contact that is shown behind a save: a new one is found by its destination. -/
def ContactWindow.savedSelection (window : ContactWindow width) (draft : ContactDraft width)
    (book : ContactBook width) : UInt64 :=
  if window.selected = 0 then
    match book.items.find? fun contact => contact.destination = draft.destination with
    | some contact => contact.id
    | none => window.selected
  else window.selected

def Desk.save (ctype : WideCtype width) (name destination : WString width) (calls : SaveCalls)
    (desk : Desk width) : CommandAnswer × Desk width :=
  let window := desk.window
  let draft := window.draft name destination
  let (result, next) :=
    if window.selected ≠ 0 then window.book.update ctype window.selected draft
    else window.book.add ctype draft
  if result ≠ .ok then (⟨.failed, none⟩, desk)
  else desk.persistAndFill ctype calls next (window.savedSelection draft)

def toggleContactFavorite (book : ContactBook width) (id : UInt64) :
    ContactResult × ContactBook width :=
  match book.find id with
  | none => (.notFound, book)
  | some contact => book.setFavorite id (!contact.favorite)

/-- Delete and Favorite: the change, which is confirmed for the former, and what is shown then. -/
def Desk.change (ctype : WideCtype width) (discard : DiscardAnswer) (confirmed liveAfter : Bool)
    (calls : SaveCalls) (edit : ContactBook width → UInt64 → ContactResult × ContactBook width)
    (shown : UInt64) (desk : Desk width) : CommandAnswer × Desk width :=
  match desk.window.book.find desk.window.selected with
  | none => (⟨.failed, none⟩, desk)
  | some contact =>
      if !desk.window.discard discard then (⟨.cancelled, none⟩, desk)
      else if !confirmed then (⟨.cancelled, none⟩, desk)
      else if !liveAfter then (⟨.cancelled, none⟩, desk)
      else
        let (result, next) := edit desk.window.book contact.id
        if result ≠ .ok then (⟨.failed, none⟩, desk)
        else desk.persistAndFill ctype calls next fun _ => shown

def Desk.delete (ctype : WideCtype width) (discard : DiscardAnswer) (confirmed liveAfter : Bool)
    (calls : SaveCalls) (desk : Desk width) : CommandAnswer × Desk width :=
  desk.change ctype discard confirmed liveAfter calls ContactBook.remove 0

def Desk.favorite (ctype : WideCtype width) (discard : DiscardAnswer) (liveAfter : Bool)
    (calls : SaveCalls) (desk : Desk width) : CommandAnswer × Desk width :=
  desk.change ctype discard true liveAfter calls toggleContactFavorite desk.window.selected

def Desk.importFile (ctype : WideCtype width) (discard : DiscardAnswer) (calls : ImportCalls)
    (desk : Desk width) : CommandAnswer × Desk width :=
  if !desk.window.discard discard then (⟨.cancelled, none⟩, desk)
  else if !desk.window.loaded then (⟨.failed, none⟩, desk)
  else
    let ended := importContacts ctype calls desk.file desk.window.book {} desk.window.store
    let window := { desk.window with store := ended.store }
    match ended.result.status with
    | .ok => (⟨.done, ended.stored⟩, ⟨{ window with book := ended.output }.fill 0, ended.file⟩)
    | .cancelled => (⟨.cancelled, ended.stored⟩, ⟨window, ended.file⟩)
    | _ => (⟨.failed, ended.stored⟩, ⟨window, ended.file⟩)

/-- What the user does; no command runs once the window or its owner is gone. -/
inductive ContactCommand (width : WCharWidth) where
  | type
  | choose (id : UInt64) (discard : DiscardAnswer)
  | new (discard : DiscardAnswer)
  | save (name destination : WString width) (calls : SaveCalls)
  | delete (discard : DiscardAnswer) (confirmed liveAfter : Bool) (calls : SaveCalls)
  | favorite (discard : DiscardAnswer) (liveAfter : Bool) (calls : SaveCalls)
  | importFile (discard : DiscardAnswer) (calls : ImportCalls)

/-- The answer is that of a command that may change the book; the others move the selection. -/
def Desk.command (ctype : WideCtype width) (desk : Desk width) :
    ContactCommand width → Option CommandAnswer × Desk width
  | .type => (none, { desk with window := { desk.window with dirty := true } })
  | .choose id discard =>
      if id ≠ desk.window.selected && desk.window.discard discard then
        (none, { desk with window := desk.window.fill id })
      else (none, desk)
  | .new discard =>
      if desk.window.discard discard then (none, { desk with window := desk.window.fill 0 })
      else (none, desk)
  | .save name destination calls =>
      let (answer, desk) := desk.save ctype name destination calls
      (some answer, desk)
  | .delete discard confirmed liveAfter calls =>
      let (answer, desk) := desk.delete ctype discard confirmed liveAfter calls
      (some answer, desk)
  | .favorite discard liveAfter calls =>
      let (answer, desk) := desk.favorite ctype discard liveAfter calls
      (some answer, desk)
  | .importFile discard calls =>
      let (answer, desk) := desk.importFile ctype discard calls
      (some answer, desk)

inductive DeskInput (width : WCharWidth) where
  | command (live : Bool) (command : ContactCommand width)
  | rewrite (file : Option Bytes)

def deskStep (ctype : WideCtype width) (desk : Desk width) :
    DeskInput width → Option CommandAnswer × Desk width
  | .command live command => if !live then (none, desk) else desk.command ctype command
  | .rewrite file => (none, { desk with file := file })

/-- The window at the end of its creation. -/
def Desk.created (ctype : WideCtype width) (path : WString width) (calls : LoadCalls)
    (file : Option Bytes) : Desk width :=
  let window : ContactWindow width := { store := { path := path } }
  let (result, store, book) := window.store.load ctype calls file window.book
  ⟨{ window with store := store, book := book, loaded := result = .ok }, file⟩

variable {ctype : WideCtype width}

/-- The drafts that a content of the file stands for: none where there is no file. -/
def contentDrafts (ctype : WideCtype width) : Option Bytes → Option (List (ContactDraft width))
  | none => some []
  | some bytes => decodeContactBackup ctype bytes

/-- A saved content stands for the drafts of the saved book. -/
theorem contentDrafts_encoded {book : ContactBook width} (wellFormed : book.WellFormed ctype)
    {bytes : Bytes} (written : encodeContactBackup ctype book = some bytes) :
    contentDrafts ctype (some bytes) = some (book.items.map Contact.draft) := by
  obtain ⟨other, also, _, decoded⟩ := wellFormed.decode
  rw [Option.some.inj (written.symm.trans also)]
  exact decoded

theorem add_ok {book next : ContactBook width} {draft : ContactDraft width}
    (added : book.add ctype draft = (.ok, next)) :
    next.items.map Contact.draft = book.items.map Contact.draft ++ [draft] := by
  have succeeded : (book.add ctype draft).1 = .ok := congrArg Prod.fst added
  have after : (book.add ctype draft).2 = next := congrArg Prod.snd added
  rw [← after, (ContactBook.add_of_ok succeeded).2, List.map_append]
  rfl

theorem add_failed {book next : ContactBook width} {draft : ContactDraft width}
    {result : ContactResult} (answered : book.add ctype draft = (result, next))
    (failed : result ≠ .ok) : next = book := by
  unfold ContactBook.add at answered
  split at answered
  · cases answered
    rfl
  split at answered
  · cases answered
    rfl
  split at answered
  · cases answered
    rfl
  split at answered
  · cases answered
    rfl
  · cases answered
    exact absurd rfl failed

/-- The drafts of a file become the book, one behind the other. -/
theorem replacementFrom_some {book after : ContactBook width} {drafts : List (ContactDraft width)}
    (wellFormed : book.WellFormed ctype) (read : replacementFrom ctype book drafts = some after) :
    after.WellFormed ctype ∧
      after.items.map Contact.draft = book.items.map Contact.draft ++ drafts := by
  induction drafts generalizing book with
  | nil =>
      cases read
      exact ⟨wellFormed, (List.append_nil _).symm⟩
  | cons draft rest ih =>
      rw [replacementFrom] at read
      have kept := wellFormed.add draft
      generalize added : book.add ctype draft = answer at read kept
      obtain ⟨result, next⟩ := answer
      dsimp only at read
      split at read
      · cases read
      next succeeded =>
      rw [not_not.mp succeeded] at added
      obtain ⟨final, contents⟩ := ih kept read
      refine ⟨final, ?_⟩
      rw [contents, add_ok added, List.append_assoc]
      rfl

theorem replacementBook_some {content : Option Bytes} {book : ContactBook width}
    (read : replacementBook ctype content = some book) :
    book.WellFormed ctype ∧ contentDrafts ctype content = some (book.items.map Contact.draft) := by
  cases content with
  | none =>
      cases read
      exact ⟨ContactBook.wellFormed_empty, rfl⟩
  | some bytes =>
      rw [replacementBook] at read
      split at read
      · cases read
      next drafts decoded =>
      obtain ⟨wellFormed, contents⟩ := replacementFrom_some ContactBook.wellFormed_empty read
      refine ⟨wellFormed, ?_⟩
      rw [contents]
      exact decoded

/-- An import keeps the book well-formed, and the same where it adds nothing. -/
theorem importDrafts_ok {book candidate : ContactBook width} {drafts : List (ContactDraft width)}
    {added skipped total passed : Nat} (wellFormed : book.WellFormed ctype)
    (imported : importDrafts ctype book added skipped drafts = .ok (candidate, total, passed)) :
    candidate.WellFormed ctype ∧ added ≤ total ∧ (total = added → candidate = book) := by
  induction drafts generalizing book added skipped with
  | nil =>
      cases imported
      exact ⟨wellFormed, Nat.le_refl _, fun _ => rfl⟩
  | cons draft rest ih =>
      rw [importDrafts] at imported
      have kept := wellFormed.add draft
      generalize answered : book.add ctype draft = answer at imported kept
      obtain ⟨result, next⟩ := answer
      cases result with
      | ok =>
          obtain ⟨final, more, _⟩ := ih kept imported
          exact ⟨final, by omega, fun same => absurd same (by omega)⟩
      | duplicate =>
          rw [add_failed answered nofun] at imported
          exact ih wellFormed imported
      | error | invalid | full | notFound => cases imported

theorem importDrafts_error {book : ContactBook width} {drafts : List (ContactDraft width)}
    {added skipped : Nat} {status : ContactTransferStatus}
    (stopped : importDrafts ctype book added skipped drafts = .error status) : status ≠ .ok := by
  induction drafts generalizing book added skipped with
  | nil => cases stopped
  | cons draft rest ih =>
      rw [importDrafts] at stopped
      generalize book.add ctype draft = answer at stopped
      obtain ⟨result, next⟩ := answer
      cases result with
      | ok | duplicate => exact ih stopped
      | error | invalid | full | notFound =>
          cases stopped
          exact nofun

/-! ## What a command does -/

/-- What an import leaves behind. -/
inductive ImportCase (ctype : WideCtype width) (file : Option Bytes)
    (current output : ContactBook width) (store : ContactStore width) : ImportEnd width → Prop
  | stopped {status : ContactTransferStatus} {stored : Option ContactStoreResult}
      (failed : status ≠ .ok) (unsaved : stored ≠ some .ok) :
      ImportCase ctype file current output store
        { result := { status := status }, stored := stored, output := output, store := store,
          file := file }
  | nothingNew {skipped : Nat} :
      ImportCase ctype file current output store
        { result := ⟨.ok, 0, skipped⟩, output := current, store := store, file := file }
  | saved {candidate : ContactBook width} {added skipped : Nat} {bytes : Bytes}
      (wellFormed : candidate.WellFormed ctype)
      (written : encodeContactBackup ctype candidate = some bytes) :
      ImportCase ctype file current output store
        { result := ⟨.ok, added, skipped⟩, stored := some .ok, output := candidate,
          store := { store with baseline := bytes, existed := true }, file := some bytes }

theorem confirmImport_cases {calls : ImportCalls} {file : Option Bytes}
    {current candidate output : ContactBook width} {added skipped : Nat}
    {store : ContactStore width} (wellFormed : candidate.WellFormed ctype)
    (same : added = 0 → candidate = current) :
    ImportCase ctype file current output store
      (confirmImport ctype calls file candidate added skipped output store) := by
  unfold confirmImport
  dsimp only
  split
  · exact .stopped nofun nofun
  split
  · exact .stopped nofun nofun
  · exact .stopped nofun nofun
  split
  · have ended := save_cases ctype calls.save file store candidate
    generalize store.save ctype calls.save file candidate = outcome at ended ⊢
    cases ended with
    | @refused result failed =>
        dsimp only
        rw [if_pos failed]
        refine .stopped ?_ ?_
        · split <;> exact nofun
        · exact fun saved => failed (Option.some.inj saved)
    | done _ _ written => exact .saved wellFormed written
  · next nothing =>
      cases not_not.mp nothing
      cases same rfl
      exact .nothingNew

theorem importContacts_cases (calls : ImportCalls) (file : Option Bytes)
    {current : ContactBook width} (output : ContactBook width) (store : ContactStore width)
    (wellFormed : current.WellFormed ctype) :
    ImportCase ctype file current output store
      (importContacts ctype calls file current output store) := by
  unfold importContacts
  dsimp only
  split
  · exact .stopped nofun nofun
  split
  · exact .stopped nofun nofun
  split
  · refine .stopped ?_ nofun
    split <;> exact nofun
  split
  · exact .stopped nofun nofun
  split
  · exact .stopped nofun nofun
  next drafts _ =>
  split
  · next stopped => exact .stopped (importDrafts_error stopped) nofun
  · next candidate added skipped imported =>
      obtain ⟨kept, _, same⟩ := importDrafts_ok wellFormed imported
      exact confirmImport_cases kept same

/-- What saving the next book does. -/
inductive PersistCase (ctype : WideCtype width) (desk : Desk width) (next : ContactBook width) :
    CommandAnswer × Desk width → Prop
  | failed {stored : Option ContactStoreResult} (unsaved : stored ≠ some .ok) :
      PersistCase ctype desk next (⟨.failed, stored⟩, desk)
  | done {bytes : Bytes} {selection : UInt64} (loaded : desk.window.loaded = true)
      (written : encodeContactBackup ctype next = some bytes) :
      PersistCase ctype desk next
        (⟨.done, some .ok⟩,
          ⟨{ desk.window with
              store := { desk.window.store with baseline := bytes, existed := true },
              book := next, selected := selection, dirty := false }, some bytes⟩)

theorem persistAndFill_cases (calls : SaveCalls) (desk : Desk width) (next : ContactBook width)
    (shown : ContactBook width → UInt64) :
    PersistCase ctype desk next (desk.persistAndFill ctype calls next shown) := by
  cases loaded : desk.window.loaded with
  | false =>
      rw [Desk.persistAndFill, Desk.persist, loaded]
      exact .failed nofun
  | true =>
  rw [Desk.persistAndFill, Desk.persist, loaded]
  have ended := save_cases ctype calls desk.file desk.window.store next
  generalize desk.window.store.save ctype calls desk.file next = outcome at ended ⊢
  cases ended with
  | @refused result failed =>
      dsimp only
      rw [Bool.not_true, if_neg Bool.false_ne_true, if_pos failed]
      exact .failed fun saved => failed (Option.some.inj saved)
  | done _ _ written => exact .done loaded written

/-- What a command that may change the book does. -/
inductive CommandCase (ctype : WideCtype width) (desk : Desk width) :
    CommandAnswer × Desk width → Prop
  | undone {answer : CommandAnswer} (failed : answer.outcome ≠ .done)
      (unsaved : answer.stored ≠ some .ok) : CommandCase ctype desk (answer, desk)
  | saved {next : ContactBook width} {bytes : Bytes} {selection : UInt64}
      (loaded : desk.window.loaded = true) (wellFormed : next.WellFormed ctype)
      (written : encodeContactBackup ctype next = some bytes) :
      CommandCase ctype desk
        (⟨.done, some .ok⟩,
          ⟨{ desk.window with
              store := { desk.window.store with baseline := bytes, existed := true },
              book := next, selected := selection, dirty := false }, some bytes⟩)
  | nothingNew {selection : UInt64} (loaded : desk.window.loaded = true) :
      CommandCase ctype desk (⟨.done, none⟩, { desk with window := desk.window.fill selection })

theorem PersistCase.command {desk : Desk width} {next : ContactBook width}
    {outcome : CommandAnswer × Desk width} (persisted : PersistCase ctype desk next outcome)
    (wellFormed : next.WellFormed ctype) : CommandCase ctype desk outcome := by
  cases persisted with
  | failed unsaved => exact .undone nofun unsaved
  | done loaded written => exact .saved loaded wellFormed written

theorem ContactBook.WellFormed.toggled {book : ContactBook width} (wellFormed : book.WellFormed ctype)
    (id : UInt64) : (toggleContactFavorite book id).2.WellFormed ctype := by
  unfold toggleContactFavorite
  split
  · exact wellFormed
  · exact wellFormed.setFavorite id _

theorem change_cases {desk : Desk width} {discard : DiscardAnswer} {confirmed liveAfter : Bool}
    {calls : SaveCalls} {edit : ContactBook width → UInt64 → ContactResult × ContactBook width}
    {shown : UInt64} (kept : ∀ id, (edit desk.window.book id).2.WellFormed ctype) :
    CommandCase ctype desk (desk.change ctype discard confirmed liveAfter calls edit shown) := by
  unfold Desk.change
  split
  · exact .undone nofun nofun
  next contact _ =>
  split
  · exact .undone nofun nofun
  split
  · exact .undone nofun nofun
  split
  · exact .undone nofun nofun
  dsimp only
  split
  · exact .undone nofun nofun
  · exact (persistAndFill_cases calls desk _ _).command (kept contact.id)

/-- The book that a save would store, with the answer of the book. -/
def ContactWindow.edited (ctype : WideCtype width) (window : ContactWindow width)
    (draft : ContactDraft width) : ContactResult × ContactBook width :=
  if window.selected ≠ 0 then window.book.update ctype window.selected draft
  else window.book.add ctype draft

theorem save_steps (ctype : WideCtype width) (name destination : WString width) (calls : SaveCalls) (desk : Desk width) :
    let draft := desk.window.draft name destination
    let edited := desk.window.edited ctype draft
    (edited.1 ≠ .ok ∧ desk.save ctype name destination calls = (⟨.failed, none⟩, desk)) ∨
      (edited.1 = .ok ∧ PersistCase ctype desk edited.2 (desk.save ctype name destination calls)) := by
  intro draft edited
  by_cases answered : edited.1 = .ok
  · right
    refine ⟨answered, ?_⟩
    have saved : desk.save ctype name destination calls =
        desk.persistAndFill ctype calls edited.2 (desk.window.savedSelection draft) :=
      if_neg (not_not.mpr answered)
    rw [saved]
    exact persistAndFill_cases calls desk _ _
  · left
    exact ⟨answered, if_pos answered⟩

theorem save_command {desk : Desk width} (wellFormed : desk.window.book.WellFormed ctype)
    (name destination : WString width) (calls : SaveCalls) :
    CommandCase ctype desk (desk.save ctype name destination calls) := by
  rcases save_steps ctype name destination calls desk with ⟨_, failed⟩ | ⟨_, persisted⟩
  · rw [failed]
    exact .undone nofun nofun
  · apply persisted.command
    unfold ContactWindow.edited
    split
    · exact wellFormed.update _ _
    · exact wellFormed.add _

theorem import_cases {desk : Desk width} (wellFormed : desk.window.book.WellFormed ctype)
    (discard : DiscardAnswer) (calls : ImportCalls) :
    CommandCase ctype desk (desk.importFile ctype discard calls) := by
  unfold Desk.importFile
  split
  · exact .undone nofun nofun
  split
  · exact .undone nofun nofun
  next loaded =>
  have known : desk.window.loaded = true := by simpa using loaded
  have ended := importContacts_cases calls desk.file {} desk.window.store wellFormed
  dsimp only
  generalize importContacts ctype calls desk.file desk.window.book {} desk.window.store = outcome
    at ended ⊢
  cases ended with
  | @stopped status stored failed unsaved =>
      cases status with
      | ok => exact absurd rfl failed
      | cancelled | invalid | conflict | error => exact .undone nofun unsaved
  | nothingNew => exact .nothingNew known
  | saved candidate written => exact .saved known candidate written

/-! ## Whole runs -/

theorem command_cases {desk : Desk width} (wellFormed : desk.window.book.WellFormed ctype)
    (live : Bool) (command : ContactCommand width) :
    (∃ selected dirty, deskStep ctype desk (.command live command) =
      (none, { desk with window := { desk.window with selected := selected, dirty := dirty } })) ∨
    ∃ answer after, deskStep ctype desk (.command live command) = (some answer, after) ∧
      CommandCase ctype desk (answer, after) := by
  cases live with
  | false => exact .inl ⟨desk.window.selected, desk.window.dirty, rfl⟩
  | true =>
  cases command with
  | type => exact .inl ⟨desk.window.selected, true, rfl⟩
  | choose id discard =>
      left
      cases moves : decide (id ≠ desk.window.selected) && desk.window.discard discard with
      | true => exact ⟨id, false, if_pos moves⟩
      | false => exact ⟨desk.window.selected, desk.window.dirty, if_neg (Bool.eq_false_iff.mp moves)⟩
  | new discard =>
      left
      cases moves : desk.window.discard discard with
      | true => exact ⟨0, false, if_pos moves⟩
      | false => exact ⟨desk.window.selected, desk.window.dirty, if_neg (Bool.eq_false_iff.mp moves)⟩
  | save name destination calls =>
      exact .inr ⟨_, _, rfl, save_command wellFormed name destination calls⟩
  | delete discard confirmed liveAfter calls =>
      exact .inr ⟨_, _, rfl, change_cases fun id => wellFormed.remove id⟩
  | favorite discard liveAfter calls =>
      exact .inr ⟨_, _, rfl, change_cases fun id => wellFormed.toggled id⟩
  | importFile discard calls => exact .inr ⟨_, _, rfl, import_cases wellFormed discard calls⟩

abbrev DeskStage (width : WCharWidth) :=
  Stage (Desk width) (DeskInput width) (Option CommandAnswer)

/-- The content that a stage stores. -/
def storedContent (stage : DeskStage width) : Option (Option Bytes) :=
  match stage.output with
  | some ⟨_, some .ok⟩ => some stage.after.file
  | _ => none

/-- The content that the window has loaded or saved last; `first` is what its creation loaded. -/
def lastContent (first : Option (Option Bytes)) (history : List (DeskStage width)) :
    Option (Option Bytes) :=
  (history.filterMap storedContent).getLast?.or first

/-- What the creation of the window loaded. -/
def Desk.loadedContent (desk : Desk width) : Option (Option Bytes) :=
  if desk.window.loaded then some desk.file else none

theorem lastContent_concat (first : Option (Option Bytes)) (history : List (DeskStage width))
    (stage : DeskStage width) :
    lastContent first (history ++ [stage]) =
      (storedContent stage).or (lastContent first history) := by
  rw [lastContent, List.filterMap_append, List.filterMap_cons, List.filterMap_nil]
  cases storedContent stage with
  | none => rw [List.append_nil]; rfl
  | some content => rw [List.getLast?_concat]; rfl

/-- The book is that of the content known, as long as the window is loaded. -/
structure Desk.Shows (ctype : WideCtype width) (known : Option (Option Bytes)) (desk : Desk width) :
    Prop where
  wellFormed : desk.window.book.WellFormed ctype
  shown : desk.window.loaded = true → ∃ content, known = some content ∧
    contentDrafts ctype content = some (desk.window.book.items.map Contact.draft)

theorem created_shows (path : WString width) (calls : LoadCalls) (file : Option Bytes) :
    (Desk.created ctype path calls file).Shows ctype
      (Desk.created ctype path calls file).loadedContent := by
  have ended := load_cases ctype calls file { path := path } ({} : ContactBook width)
  unfold Desk.created
  dsimp only
  generalize ContactStore.load ctype calls file { path := path } {} = outcome at ended ⊢
  cases ended with
  | failed => exact ⟨ContactBook.wellFormed_empty, nofun⟩
  | done _ _ read =>
      obtain ⟨wellFormed, contents⟩ := replacementBook_some read
      exact ⟨wellFormed, fun _ => ⟨file, rfl, contents⟩⟩

/-- Every input keeps the book that of the content known. -/
theorem deskStep_shows {first : Option (Option Bytes)} {history : List (DeskStage width)}
    {desk : Desk width} (known : desk.Shows ctype (lastContent first history))
    (input : DeskInput width) :
    (deskStep ctype desk input).2.Shows ctype
      (lastContent first (history ++ [stageOf (deskStep ctype) desk input])) := by
  rw [lastContent_concat]
  cases input with
  | rewrite file => exact ⟨known.wellFormed, known.shown⟩
  | command live command =>
      unfold stageOf
      rcases command_cases known.wellFormed live command with
        ⟨selected, dirty, moved⟩ | ⟨answer, after, answered, effect⟩
      · rw [moved]
        exact ⟨known.wellFormed, known.shown⟩
      · rw [answered]
        cases effect with
        | undone failed unsaved =>
            have nothing : storedContent
                (⟨desk, .command live command, some answer, desk⟩ : DeskStage width) = none := by
              unfold storedContent
              split
              · next stored =>
                  cases stored
                  exact absurd rfl unsaved
              · rfl
            rw [nothing]
            exact known
        | nothingNew loaded => exact ⟨known.wellFormed, known.shown⟩
        | saved loaded wellFormed written =>
            exact ⟨wellFormed, fun _ => ⟨_, rfl, contentDrafts_encoded wellFormed written⟩⟩

/-- At every point of a run the window shows the content that it has loaded or saved last. -/
theorem reachable_shows (path : WString width) (calls : LoadCalls) (file : Option Bytes)
    (inputs : List (DeskInput width)) :
    let start := Desk.created ctype path calls file
    (finalState (deskStep ctype) start inputs).Shows ctype
      (lastContent start.loadedContent (stages (deskStep ctype) start inputs)) := by
  intro start
  exact history_invariant
    (fun history (desk : Desk width) => desk.Shows ctype (lastContent start.loadedContent history))
    (fun _ => True) (fun _ _ input known _ => deskStep_shows known input) []
    (created_shows path calls file) fun _ _ => trivial

/-- A command that is not done leaves the book, its identities with it, and the file. -/
theorem command_undone {desk : Desk width} (wellFormed : desk.window.book.WellFormed ctype)
    {live : Bool} {command : ContactCommand width}
    (undone : ∀ answer, (deskStep ctype desk (.command live command)).1 = some answer →
      answer.outcome ≠ .done) :
    (deskStep ctype desk (.command live command)).2.window.book = desk.window.book ∧
      (deskStep ctype desk (.command live command)).2.file = desk.file := by
  rcases command_cases wellFormed live command with
    ⟨selected, dirty, moved⟩ | ⟨answer, after, answered, effect⟩
  · rw [moved]
    exact ⟨rfl, rfl⟩
  · rw [answered] at undone ⊢
    cases effect with
    | undone => exact ⟨rfl, rfl⟩
    | saved | nothingNew => exact absurd rfl (undone _ rfl)

/-- A window that is not loaded stays so, and its commands leave the file. -/
theorem command_unloaded {desk : Desk width} (wellFormed : desk.window.book.WellFormed ctype)
    (unloaded : desk.window.loaded = false) (live : Bool) (command : ContactCommand width) :
    (deskStep ctype desk (.command live command)).2.window.loaded = false ∧
      (deskStep ctype desk (.command live command)).2.file = desk.file := by
  rcases command_cases wellFormed live command with
    ⟨selected, dirty, moved⟩ | ⟨answer, after, answered, effect⟩
  · rw [moved]
    exact ⟨unloaded, rfl⟩
  · rw [answered]
    cases effect with
    | undone => exact ⟨unloaded, rfl⟩
    | saved loaded | nothingNew loaded => exact absurd (unloaded.symm.trans loaded) nofun

/-- A window that is not loaded stays so whatever it is told. -/
theorem deskStep_unloaded {desk : Desk width}
    (known : desk.window.book.WellFormed ctype ∧ desk.window.loaded = false)
    (input : DeskInput width) :
    (deskStep ctype desk input).2.window.book.WellFormed ctype ∧
      (deskStep ctype desk input).2.window.loaded = false := by
  obtain ⟨wellFormed, unloaded⟩ := known
  have empty : desk.Shows ctype (lastContent none ([] : List (DeskStage width))) :=
    ⟨wellFormed, fun loaded => absurd (unloaded.symm.trans loaded) nofun⟩
  refine ⟨(deskStep_shows empty input).wellFormed, ?_⟩
  cases input with
  | rewrite file => exact unloaded
  | command live command => exact (command_unloaded wellFormed unloaded live command).1

theorem update_ok {book next : ContactBook width} (wellFormed : book.WellFormed ctype)
    {id : UInt64} {draft : ContactDraft width}
    (updated : book.update ctype id draft = (.ok, next)) :
    (∃ contact, book.find id = some contact) ∧
      next.items = book.items.map fun contact =>
        if contact.id = id then draft.toContact id else contact := by
  unfold ContactBook.update at updated
  split at updated
  · cases updated
  next present =>
  split at updated
  · cases updated
  split at updated
  · cases updated
  · cases updated
    constructor
    · exact Option.isSome_iff_exists.mp (by simpa [Option.isNone_iff_eq_none, Option.isSome_iff_ne_none] using present)
    · exact wellFormed.replaceFirst id _

/-- An edit that is done changes the name and the destination of the selected contact only. -/
theorem save_edits {desk : Desk width} (wellFormed : desk.window.book.WellFormed ctype)
    (selected : desk.window.selected ≠ 0) (name destination : WString width) (calls : SaveCalls)
    (done : (desk.save ctype name destination calls).1.outcome = .done) :
    (∃ contact, desk.window.book.find desk.window.selected = some contact) ∧
      (desk.save ctype name destination calls).2.window.book.items =
        desk.window.book.items.map fun contact =>
          if contact.id = desk.window.selected then
            { contact with name := name, destination := destination }
          else contact := by
  rcases save_steps ctype name destination calls desk with ⟨_, failed⟩ | ⟨ok, persisted⟩
  · rw [failed] at done
    cases done
  have updated : desk.window.edited ctype (desk.window.draft name destination) =
      desk.window.book.update ctype desk.window.selected (desk.window.draft name destination) :=
    if_pos selected
  generalize desk.window.edited ctype (desk.window.draft name destination) = edited
    at ok persisted updated
  obtain ⟨result, next⟩ := edited
  cases ok
  obtain ⟨⟨contact, found⟩, items⟩ := update_ok wellFormed updated.symm
  refine ⟨⟨contact, found⟩, ?_⟩
  generalize desk.save ctype name destination calls = outcome at done persisted ⊢
  cases persisted with
  | failed => cases done
  | done =>
      rw [show (_ : ContactBook width).items = next.items from rfl, items]
      apply List.map_congr_left
      intro other member
      split
      · next same =>
          obtain ⟨contactIn, identity⟩ := ContactBook.find_mem found
          rw [wellFormed.eq_of_id member contactIn (same.trans identity.symm)]
          rw [ContactWindow.draft, found, ContactDraft.toContact, ← identity]
      · rfl

/-- What is promised of the commands of a window, from its creation on. -/
structure ShownAsStored (ctype : WideCtype width) (start : Desk width)
    (history : List (DeskStage width)) : Prop where
  /-- The contacts loaded at the creation are those of the file. -/
  loaded : start.window.loaded = true →
    contentDrafts ctype start.file = some (start.window.book.items.map Contact.draft)
  /-- The contacts shown are those of the content last loaded or saved. -/
  shown : ∀ earlier stage later, history = earlier ++ stage :: later →
    stage.after.window.loaded = true →
    ∃ content, lastContent start.loadedContent (earlier ++ [stage]) = some content ∧
      contentDrafts ctype content = some (stage.after.window.book.items.map Contact.draft)
  /-- A command that fails or is cancelled leaves the book and the file. -/
  kept : ∀ stage ∈ history, ∀ live command, stage.input = .command live command →
    (∀ answer, stage.output = some answer → answer.outcome ≠ .done) →
    stage.after.window.book = stage.before.window.book ∧ stage.after.file = stage.before.file
  /-- An edit keeps the identity and the mark of its contact, and every other contact. -/
  edited : ∀ stage ∈ history, ∀ name destination calls answer,
    stage.input = .command true (.save name destination calls) →
    stage.before.window.selected ≠ 0 → stage.output = some answer → answer.outcome = .done →
    (∃ contact, stage.before.window.book.find stage.before.window.selected = some contact) ∧
      stage.after.window.book.items = stage.before.window.book.items.map fun contact =>
        if contact.id = stage.before.window.selected then
          { contact with name := name, destination := destination }
        else contact
  /-- A window whose load failed never writes the file. -/
  unwritten : start.window.loaded = false → ∀ stage ∈ history, ∀ live command,
    stage.input = .command live command → stage.after.file = stage.before.file

/-- Whatever a window is told and whatever fails, its contacts are those it has stored. -/
theorem contacts_shown_as_stored (ctype : WideCtype width) (path : WString width)
    (calls : LoadCalls) (file : Option Bytes) (inputs : List (DeskInput width)) :
    ShownAsStored ctype (Desk.created ctype path calls file)
      (stages (deskStep ctype) (Desk.created ctype path calls file) inputs) := by
  have reached (stage : DeskStage width)
      (member : stage ∈ stages (deskStep ctype) (Desk.created ctype path calls file) inputs) :
      stage = stageOf (deskStep ctype) stage.before stage.input ∧
        stage.before.window.book.WellFormed ctype := by
    obtain ⟨earlier, later, split⟩ := List.append_of_mem member
    obtain ⟨first, input, rest, _, rfl, rfl, rfl⟩ := stages_split split
    exact ⟨rfl, (reachable_shows path calls file first).wellFormed⟩
  constructor
  · intro loaded
    obtain ⟨content, known, contents⟩ := (created_shows path calls file).shown loaded
    rw [Desk.loadedContent, if_pos loaded] at known
    cases known
    exact contents
  · intro earlier stage later split loaded
    obtain ⟨first, input, rest, _, rfl, rfl, rfl⟩ := stages_split split
    exact (deskStep_shows (reachable_shows path calls file first) input).shown loaded
  · intro stage member live command told undone
    obtain ⟨made, wellFormed⟩ := reached stage member
    rw [told] at made
    rw [made] at undone ⊢
    exact command_undone wellFormed undone
  · intro stage member name destination calls answer told selected answered done
    obtain ⟨made, wellFormed⟩ := reached stage member
    rw [told] at made
    have same : some (stage.before.save ctype name destination calls).1 = some answer := by
      rw [← answered, made]
      rfl
    cases same
    have after : stage.after = (stage.before.save ctype name destination calls).2 := by
      rw [made]
      rfl
    rw [after]
    exact save_edits wellFormed selected name destination calls done
  · intro unloaded
    have start : (Desk.created ctype path calls file).window.book.WellFormed ctype ∧
        (Desk.created ctype path calls file).window.loaded = false :=
      ⟨(created_shows path calls file).wellFormed, unloaded⟩
    have each (desk : Desk width) (input : DeskInput width)
        (known : desk.window.book.WellFormed ctype ∧ desk.window.loaded = false) :
        ∀ live command, input = .command live command →
          (deskStep ctype desk input).2.file = desk.file := by
      rintro live command rfl
      exact (command_unloaded known.1 known.2 live command).2
    exact stages_forall_of_admitted
      (fun desk : Desk width => desk.window.book.WellFormed ctype ∧ desk.window.loaded = false)
      (fun _ => True)
      (fun stage => ∀ live command, stage.input = .command live command →
        stage.after.file = stage.before.file)
      (fun _ input known _ => deskStep_unloaded known input)
      (fun desk input known _ => each desk input known) start fun _ _ => trivial

end AxeVoice.Contacts
