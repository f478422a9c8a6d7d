import Mathlib.Logic.Function.Basic
import AxeVoice.Contacts.Backup
import AxeVoice.Foundation.Reactive

/-!
# The contact file

A store loads the contact file and replaces it, the latter under the lock file
and only where the content is the one it knows.  How each Windows call ends is an
argument; the rename and the reading of a whole file are atomic.  Several stores
on one path take their steps in any order.
-/

namespace AxeVoice.Contacts

open AxeVoice.Foundation

inductive ContactStoreResult where
  | ok
  | conflict
  | error
  deriving DecidableEq, Repr

structure ContactStore (width : WCharWidth) where
  path : WString width
  baseline : Bytes := []
  loaded : Bool := false
  existed : Bool := false

variable {width : WCharWidth}

/-- How the calls of `read_file` end. -/
structure ReadCalls where
  opened : Bool
  ordinary : Bool
  sized : Bool
  received : Bool

/-- The content of the path, `none` where there is no file; no answer where a call fails. -/
def readFile (calls : ReadCalls) (file : Option Bytes) : Option (Option Bytes) :=
  if !calls.opened then none
  else
    match file with
    | none => some none
    | some bytes =>
        if !calls.ordinary then none
        else if !calls.sized || bytes.length > contactBackupLimit then none
        else if !bytes.isEmpty && !calls.received then none
        else some (some bytes)

theorem readFile_some {calls : ReadCalls} {file content : Option Bytes}
    (read : readFile calls file = some content) : content = file := by
  unfold readFile at read
  split at read
  · cases read
  split at read
  · exact (Option.some.inj read).symm
  split at read
  · cases read
  split at read
  · cases read
  split at read
  · cases read
  · exact (Option.some.inj read).symm

/-- The loop over the drafts of a file: each is added to the book that replaces the caller's. -/
def replacementFrom (ctype : WideCtype width) :
    ContactBook width → List (ContactDraft width) → Option (ContactBook width)
  | book, [] => some book
  | book, draft :: rest =>
      let (result, book) := book.add ctype draft
      if result ≠ .ok then none else replacementFrom ctype book rest

/-- The book that a content stands for. -/
def replacementBook (ctype : WideCtype width) : Option Bytes → Option (ContactBook width)
  | none => some {}
  | some bytes =>
      match decodeContactBackup ctype bytes with
      | none => none
      | some drafts => replacementFrom ctype {} drafts

/-- How opening the directory ends. -/
inductive DirectoryCall where
  | opened (ordinary : Bool)
  | missing
  | refused

structure LoadCalls where
  directory : DirectoryCall
  read : ReadCalls

/-- The test of the directory before a load: a missing one is not an error. -/
def DirectoryCall.loadable : DirectoryCall → Bool
  | .opened ordinary => ordinary
  | .missing => true
  | .refused => false

namespace ContactStore

/-- A load, with the caller's book.  An exception ends it as a refused directory does. -/
def load (ctype : WideCtype width) (calls : LoadCalls) (file : Option Bytes)
    (store : ContactStore width) (book : ContactBook width) :
    ContactStoreResult × ContactStore width × ContactBook width :=
  let store := { store with loaded := false }
  if store.path.isEmpty then (.error, store, book)
  else if !calls.directory.loadable then (.error, store, book)
  else
    match readFile calls.read file with
    | none => (.error, store, book)
    | some content =>
        match replacementBook ctype content with
        | none => (.error, store, book)
        | some replacement =>
            let known := { store with
              baseline := content.getD [], existed := content.isSome, loaded := true }
            (.ok, known, replacement)

/-- How a save finds the directory and the lock file. -/
structure LockCalls where
  directoryMade : Bool
  directoryOpened : Bool
  directoryOrdinary : Bool
  lockOpened : Bool
  lockOrdinary : Bool

def LockCalls.succeed (calls : LockCalls) : Bool :=
  calls.directoryMade && (calls.directoryOpened && calls.directoryOrdinary) &&
    (calls.lockOpened && calls.lockOrdinary)

/-- How one attempt at a temporary file ends. -/
inductive TempCall where
  | collides
  | refused
  | created (written : Bool)

structure ReplaceCalls where
  temp : Nat → TempCall
  moved : Bool

structure SaveCalls where
  lock : LockCalls
  read : ReadCalls
  replace : ReplaceCalls

/-- What a save begins with: the bytes to write. -/
def encoded (ctype : WideCtype width) (store : ContactStore width) (book : ContactBook width) :
    Option Bytes :=
  if !store.loaded then none
  else
    match encodeContactBackup ctype book with
    | none => none
    | some bytes => if bytes.length > contactBackupLimit then none else some bytes

/-- The comparison under the lock: the result of a save that goes no further. -/
def compare (store : ContactStore width) (calls : ReadCalls) (file : Option Bytes) :
    Option ContactStoreResult :=
  match readFile calls file with
  | none => some .error
  | some current =>
      if current.isSome ≠ store.existed || current.getD [] ≠ store.baseline then some .conflict
      else none

/-- The loop over the names of temporary files, with the number of attempts that are left. -/
def writeTemp (calls : Nat → TempCall) : Nat → Nat → Bool
  | 0, _ => false
  | left + 1, attempt =>
      match calls attempt with
      | .collides => writeTemp calls left (attempt + 1)
      | .refused => false
      | .created written => written

/-- The end of a save, with the content of the path behind it. -/
def replace (store : ContactStore width) (calls : ReplaceCalls) (bytes : Bytes)
    (file : Option Bytes) : ContactStoreResult × ContactStore width × Option Bytes :=
  if !writeTemp calls.temp 128 0 then (.error, store, file)
  else if !calls.moved then (.error, store, file)
  else (.ok, { store with baseline := bytes, existed := true }, some bytes)

/-- A save that no other one interrupts. -/
def save (ctype : WideCtype width) (calls : SaveCalls) (file : Option Bytes)
    (store : ContactStore width) (book : ContactBook width) :
    ContactStoreResult × ContactStore width × Option Bytes :=
  match store.encoded ctype book with
  | none => (.error, store, file)
  | some bytes =>
      if !calls.lock.succeed then (.error, store, file)
      else
        match store.compare calls.read file with
        | some refused => (refused, store, file)
        | none => store.replace calls.replace bytes file

/-- The store's baseline is this content. -/
def Based (store : ContactStore width) (content : Option Bytes) : Prop :=
  store.existed = content.isSome ∧ store.baseline = content.getD []

theorem Based.unique {store : ContactStore width} {first second : Option Bytes}
    (based : store.Based first) (also : store.Based second) : first = second := by
  have existence := based.1.symm.trans also.1
  have bytes := based.2.symm.trans also.2
  cases first <;> cases second <;> simp_all

/-- What a load does. -/
inductive LoadCase (ctype : WideCtype width) (file : Option Bytes) (store : ContactStore width)
    (book : ContactBook width) : ContactStoreResult × ContactStore width × ContactBook width → Prop
  | failed : LoadCase ctype file store book (.error, { store with loaded := false }, book)
  | done {after : ContactStore width} {replacement : ContactBook width}
      (loaded : after.loaded = true) (based : after.Based file)
      (read : replacementBook ctype file = some replacement) :
      LoadCase ctype file store book (.ok, after, replacement)

theorem load_cases (ctype : WideCtype width) (calls : LoadCalls) (file : Option Bytes)
    (store : ContactStore width) (book : ContactBook width) :
    LoadCase ctype file store book (store.load ctype calls file book) := by
  unfold load
  dsimp only
  split
  · exact .failed
  split
  · exact .failed
  split
  · exact .failed
  next content read =>
  cases readFile_some read
  split
  · exact .failed
  next replacement known => exact .done rfl ⟨rfl, rfl⟩ known

theorem encoded_some {ctype : WideCtype width} {store : ContactStore width}
    {book : ContactBook width} {bytes : Bytes} (begun : store.encoded ctype book = some bytes) :
    store.loaded = true ∧ encodeContactBackup ctype book = some bytes := by
  unfold encoded at begun
  split at begun
  · cases begun
  next loaded =>
  split at begun
  · cases begun
  next written =>
  split at begun
  · cases begun
  · cases begun
    exact ⟨by simpa using loaded, written⟩

/-- A save goes on past the comparison only where the file is the baseline. -/
theorem compare_none {store : ContactStore width} {calls : ReadCalls} {file : Option Bytes}
    (matched : store.compare calls file = none) : store.Based file := by
  unfold compare at matched
  split at matched
  · cases matched
  next current read =>
  cases readFile_some read
  split at matched
  · cases matched
  next same =>
  simp only [ne_eq, Bool.or_eq_true, decide_eq_true_eq, not_or, not_not] at same
  exact ⟨same.1.symm, same.2.symm⟩

theorem compare_some {store : ContactStore width} {calls : ReadCalls} {file : Option Bytes}
    {refused : ContactStoreResult} (stopped : store.compare calls file = some refused) :
    refused ≠ .ok := by
  unfold compare at stopped
  split at stopped
  · cases stopped
    exact nofun
  split at stopped
  · cases stopped
    exact nofun
  · cases stopped

/-- What the end of a save does. -/
inductive ReplaceCase (store : ContactStore width) (bytes : Bytes) (file : Option Bytes) :
    ContactStoreResult × ContactStore width × Option Bytes → Prop
  | failed : ReplaceCase store bytes file (.error, store, file)
  | done : ReplaceCase store bytes file
      (.ok, { store with baseline := bytes, existed := true }, some bytes)

theorem replace_cases (store : ContactStore width) (calls : ReplaceCalls) (bytes : Bytes)
    (file : Option Bytes) : ReplaceCase store bytes file (store.replace calls bytes file) := by
  unfold replace
  split
  · exact .failed
  split
  · exact .failed
  · exact .done

/-- What a whole save does. -/
inductive SaveCase (ctype : WideCtype width) (file : Option Bytes) (store : ContactStore width)
    (book : ContactBook width) : ContactStoreResult × ContactStore width × Option Bytes → Prop
  | refused {result : ContactStoreResult} (failed : result ≠ .ok) :
      SaveCase ctype file store book (result, store, file)
  | done {bytes : Bytes} (loaded : store.loaded = true) (based : store.Based file)
      (written : encodeContactBackup ctype book = some bytes) :
      SaveCase ctype file store book
        (.ok, { store with baseline := bytes, existed := true }, some bytes)

theorem save_cases (ctype : WideCtype width) (calls : SaveCalls) (file : Option Bytes)
    (store : ContactStore width) (book : ContactBook width) :
    SaveCase ctype file store book (store.save ctype calls file book) := by
  unfold save
  split
  · exact .refused nofun
  next bytes begun =>
  obtain ⟨loaded, written⟩ := encoded_some begun
  split
  · exact .refused nofun
  split
  · next stopped => exact .refused (compare_some stopped)
  next matched =>
  have ended := replace_cases store calls.replace bytes file
  generalize store.replace calls.replace bytes file = outcome at ended ⊢
  cases ended with
  | failed => exact .refused nofun
  | done => exact .done loaded (compare_none matched) written

end ContactStore

end AxeVoice.Contacts
