import AxeVoice.Contacts.Decoded
import AxeVoice.Contacts.Faults
import AxeVoice.Contacts.Window

/-!
# Imports and exports

An import is the union of the book with the drafts of a file: the contacts stay,
and behind them stand the drafts that the book did not know.  It is all or
nothing, and what came from the book itself, or came before, adds nothing.
-/

namespace AxeVoice.Contacts

open AxeVoice.Foundation
open ContactStore

variable {width : WCharWidth} {ctype : WideCtype width}

/-- What an export meets, in the order in which it asks. -/
structure ExportCalls where
  ownerAtStart : Bool
  selected : Bool
  ownerAfterDialog : Bool
  dialogError : Bool
  separated : Bool
  directoryOrdinary : Bool
  allowedBefore : Bool
  temp : Nat → TempCall
  allowedAfter : Bool
  moved : Bool

/-- An export, with the content of the chosen path behind it. -/
def exportContacts (ctype : WideCtype width) (calls : ExportCalls) (destination : Option Bytes)
    (book : ContactBook width) : ContactTransferStatus × Option Bytes :=
  if !calls.ownerAtStart then (.cancelled, destination)
  else
    match encodeContactBackup ctype book with
    | none => (.error, destination)
    | some bytes =>
        if bytes.length > contactBackupLimit then (.error, destination)
        else if !calls.ownerAfterDialog then (.cancelled, destination)
        else if !calls.selected then
          (if calls.dialogError then .error else .cancelled, destination)
        else if !calls.separated then (.error, destination)
        else if !calls.directoryOrdinary || !calls.allowedBefore then (.error, destination)
        else if !writeTemp calls.temp 128 0 || !calls.allowedAfter then (.error, destination)
        else if !calls.moved then (.error, destination)
        else (.ok, some bytes)

theorem exportContacts_ok {calls : ExportCalls} {destination content : Option Bytes}
    {book : ContactBook width} (exported : exportContacts ctype calls destination book = (.ok, content)) :
    ∃ bytes, encodeContactBackup ctype book = some bytes ∧ content = some bytes := by
  rw [exportContacts] at exported
  split at exported
  · cases exported
  split at exported
  · cases exported
  next bytes written =>
  refine ⟨bytes, written, ?_⟩
  split_ifs at exported
  all_goals cases exported
  rfl

/-- A contact of the book has the draft's destination. -/
def ContactBook.knows (book : ContactBook width) (draft : ContactDraft width) : Bool :=
  book.items.any fun contact => contact.destination = draft.destination

/-- The contacts of the book, and behind them the drafts that it did not know as new contacts. -/
structure UnionOf (issued : List UInt64) (current : ContactBook width)
    (drafts : List (ContactDraft width)) (output : ContactBook width) (added : ℕ) : Prop where
  contents : ∃ fresh, output.items = current.items ++ fresh ∧
    fresh.map Contact.draft = drafts.filter (fun draft => !current.knows draft) ∧
    fresh.length = added ∧ (∀ contact ∈ fresh, ∀ id ∈ issued, id < contact.id) ∧
    fresh.Pairwise fun older newer => older.id < newer.id

theorem add_duplicate {book : ContactBook width} {draft : ContactDraft width}
    (refused : (book.add ctype draft).1 = .duplicate) : book.knows draft = true := by
  rw [ContactBook.add] at refused
  split at refused
  · cases refused
  split at refused
  · next known => exact known
  split at refused
  · cases refused
  split at refused
  · cases refused
  · cases refused

theorem add_unknown {book : ContactBook width} {draft : ContactDraft width}
    (succeeded : (book.add ctype draft).1 = .ok) : book.knows draft = false := by
  rw [ContactBook.add] at succeeded
  split at succeeded
  · cases succeeded
  split at succeeded
  · cases succeeded
  · next free => exact Bool.eq_false_iff.mpr free

/-- The loop makes the union, with every identity above those that the counter gave out. -/
theorem importDrafts_union {drafts : List (ContactDraft width)} {book candidate : ContactBook width}
    {issued : List UInt64} {added skipped total passed : ℕ}
    (distinct : drafts.Pairwise fun older newer => older.destination ≠ newer.destination)
    (ahead : book.nextId ≠ 0 → ∀ id ∈ issued, id < book.nextId)
    (imported : importDrafts ctype book added skipped drafts = .ok (candidate, total, passed)) :
    total + passed = added + skipped + drafts.length ∧
      ∃ count, total = added + count ∧ UnionOf issued book drafts candidate count := by
  induction drafts generalizing book added skipped issued with
  | nil =>
      cases imported
      exact ⟨rfl, 0, rfl, [], (List.append_nil _).symm, rfl, rfl,
        fun _ member => absurd member List.not_mem_nil, .nil⟩
  | cons draft rest ih =>
      rw [importDrafts] at imported
      obtain ⟨apart, later⟩ := List.pairwise_cons.mp distinct
      generalize answered : book.add ctype draft = answer at imported
      obtain ⟨result, next⟩ := answer
      cases result with
      | ok =>
          have succeeded : (book.add ctype draft).1 = .ok := congrArg Prod.fst answered
          have unknown := add_unknown succeeded
          obtain ⟨issuable, after⟩ := ContactBook.add_of_ok succeeded
          have after : next = ⟨book.items ++ [draft.toContact book.nextId], book.nextId + 1⟩ :=
            (congrArg Prod.snd answered).symm.trans after
          have aheadNext : next.nextId ≠ 0 → ∀ id ∈ issued ++ [book.nextId], id < next.nextId := by
            rw [after]
            intro more id member
            have above : book.nextId < book.nextId + 1 := by grind
            rcases List.mem_append.mp member with older | newest
            · exact UInt64.lt_trans (ahead issuable id older) above
            · rw [List.mem_singleton.mp newest]
              exact above
          obtain ⟨counted, count, rfl, fresh, items, drafts, length, above, increasing⟩ :=
            ih later aheadNext imported
          -- the drafts behind this one have other destinations, so it makes none of them known
          have same : rest.filter (fun other => !next.knows other) =
              rest.filter (fun other => !book.knows other) := by
            refine List.filter_congr fun other member => ?_
            have different : draft.destination ≠ other.destination := apart other member
            rw [ContactBook.knows, ContactBook.knows, after]
            simp [ContactDraft.toContact, different]
          refine ⟨by rw [counted, List.length_cons]; omega, count + 1, by omega,
            draft.toContact book.nextId :: fresh, ?_, ?_, ?_, ?_, ?_⟩
          · rw [items, after, List.append_assoc]
            rfl
          · rw [List.map_cons, drafts, same, List.filter_cons_of_pos (by rw [unknown]; rfl)]
            rfl
          · rw [List.length_cons, length]
          · intro contact member id old
            rcases List.mem_cons.mp member with rfl | behind
            · exact ahead issuable id old
            · exact above contact behind id (List.mem_append_left _ old)
          · refine List.pairwise_cons.mpr ⟨fun contact member => ?_, increasing⟩
            exact above contact member book.nextId (List.mem_append_right _ List.mem_cons_self)
      | duplicate =>
          have known := add_duplicate (congrArg Prod.fst answered)
          rw [add_failed answered (by simp)] at imported
          obtain ⟨counted, count, rfl, fresh, items, drafts, others⟩ := ih later ahead imported
          refine ⟨by rw [counted, List.length_cons]; omega, count, rfl, fresh, items, ?_, others⟩
          rw [drafts, List.filter_cons_of_neg (by simp [known])]
      | error | invalid | full | notFound => cases imported

section Imports

variable {calls : ImportCalls} {file : Option Bytes} {current output : ContactBook width}
  {store : ContactStore width}

/-- How far an import gets: it stops before its preview, or it comes to confirm a union. -/
inductive ImportReach (ctype : WideCtype width) (calls : ImportCalls) (file : Option Bytes)
    (current output : ContactBook width) (store : ContactStore width) : ImportEnd width → Prop
  | stopped {status : ContactTransferStatus} (failed : status ≠ .ok) :
      ImportReach ctype calls file current output store
        { result := { status := status }, output := output, store := store, file := file }
  | confirmed {drafts : List (ContactDraft width)} {candidate : ContactBook width}
      {added skipped : ℕ} (decoded : decodeContactBackup ctype calls.file.content = some drafts)
      (imported : importDrafts ctype current 0 0 drafts = .ok (candidate, added, skipped)) :
      ImportReach ctype calls file current output store
        (confirmImport ctype calls file candidate added skipped output store)

theorem readImport_some {file : ImportFile} {bytes : Bytes} (read : readImport file = some bytes) :
    bytes = file.content := by
  rw [readImport] at read
  split_ifs at read
  exact (Option.some.inj read).symm

theorem importContacts_reach (ctype : WideCtype width) (calls : ImportCalls) (file : Option Bytes)
    (current output : ContactBook width) (store : ContactStore width) :
    ImportReach ctype calls file current output store
      (importContacts ctype calls file current output store) := by
  rw [importContacts]
  split
  · exact .stopped nofun
  split
  · exact .stopped nofun
  split
  · refine .stopped ?_
    split
    · exact nofun
    · exact nofun
  split
  · exact .stopped nofun
  next bytes read =>
  rw [readImport_some read]
  split
  · exact .stopped nofun
  next drafts decoded =>
  split
  · next failed => exact .stopped (importDrafts_error failed)
  · next imported => exact .confirmed decoded imported

/-- What an import leaves where it does not succeed: what was there. -/
structure Untouched (file : Option Bytes) (output : ContactBook width) (ended : ImportEnd width) :
    Prop where
  output : ended.output = output
  file : ended.file = file

/-- What a successful import leaves: the union, in the file where it is larger than the book. -/
structure Imported (ctype : WideCtype width) (calls : ImportCalls) (file : Option Bytes)
    (issued : List UInt64) (current : ContactBook width) (ended : ImportEnd width) : Prop where
  union : ∃ drafts, decodeContactBackup ctype calls.file.content = some drafts ∧
    UnionOf issued current drafts ended.output ended.result.added ∧
    ended.result.added + ended.result.skipped = drafts.length
  saved : ended.result.added ≠ 0 → ended.stored = some .ok ∧
    ∃ bytes, encodeContactBackup ctype ended.output = some bytes ∧ ended.file = some bytes
  unsaved : ended.result.added = 0 → ended.stored = none ∧ ended.file = file

theorem confirmImport_ends (ctype : WideCtype width) (calls : ImportCalls) (file : Option Bytes)
    (candidate output : ContactBook width) (added skipped : ℕ) (store : ContactStore width) :
    let ended := confirmImport ctype calls file candidate added skipped output store
    (ended.result.status ≠ .ok ∧ Untouched file output ended) ∨
      (ended.result = ⟨.ok, added, skipped⟩ ∧ ended.output = candidate ∧
        (added ≠ 0 → ended.stored = some .ok ∧
          ∃ bytes, encodeContactBackup ctype candidate = some bytes ∧ ended.file = some bytes) ∧
        (added = 0 → ended.stored = none ∧ ended.file = file)) := by
  intro ended
  have known : ended = confirmImport ctype calls file candidate added skipped output store := rfl
  clear_value ended
  rw [confirmImport] at known
  dsimp only at known
  split at known
  · rw [known]
    exact .inl ⟨nofun, rfl, rfl⟩
  split at known
  · rw [known]
    exact .inl ⟨nofun, rfl, rfl⟩
  · rw [known]
    exact .inl ⟨nofun, rfl, rfl⟩
  split at known
  · next some =>
      have saves := save_cases ctype calls.save file store candidate
      generalize store.save ctype calls.save file candidate = outcome at saves known
      cases saves with
      | refused failed =>
          dsimp only at known
          rw [if_pos failed] at known
          rw [known]
          refine .inl ⟨?_, rfl, rfl⟩
          dsimp only
          split
          · exact nofun
          · exact nofun
      | @done bytes loaded based written =>
          dsimp only at known
          rw [if_neg (by simp)] at known
          rw [known]
          exact .inr ⟨rfl, rfl, fun _ => ⟨rfl, bytes, written, rfl⟩, fun none => absurd none some⟩
  · next none =>
      rw [known]
      exact .inr ⟨rfl, rfl, fun some => absurd some none, fun _ => ⟨rfl, rfl⟩⟩

theorem importContacts_ends (ctype : WideCtype width) (calls : ImportCalls) (file : Option Bytes)
    (output : ContactBook width) (store : ContactStore width) {issued : List UInt64}
    (ahead : current.nextId ≠ 0 → ∀ id ∈ issued, id < current.nextId) :
    let ended := importContacts ctype calls file current output store
    (ended.result.status ≠ .ok ∧ Untouched file output ended) ∨
      (ended.result.status = .ok ∧ Imported ctype calls file issued current ended) := by
  intro ended
  have reach : ImportReach ctype calls file current output store ended :=
    importContacts_reach ctype calls file current output store
  clear_value ended
  cases reach with
  | stopped failed => exact .inl ⟨failed, rfl, rfl⟩
  | @confirmed drafts candidate added skipped decoded imported =>
      rcases confirmImport_ends ctype calls file candidate output added skipped store with
        refused | ⟨result, left, saved, unsaved⟩
      · exact .inl refused
      · obtain ⟨counted, count, total, union⟩ :=
          importDrafts_union (decode_backupOf decoded).importable.distinct ahead imported
        rw [Nat.zero_add] at counted total
        subst total
        refine .inr ⟨by rw [result], ⟨drafts, decoded, ?_, ?_⟩, ?_, ?_⟩
        · rw [left, result]
          exact union
        · rw [result]
          exact counted
        · rw [left, result]
          exact saved
        · rw [result]
          exact unsaved

theorem imported_wellFormed (wellFormed : current.WellFormed ctype)
    (succeeded : (importContacts ctype calls file current output store).result.status = .ok) :
    (importContacts ctype calls file current output store).output.WellFormed ctype := by
  have cases := importContacts_cases calls file output store wellFormed
  generalize importContacts ctype calls file current output store = ended at cases succeeded ⊢
  cases cases with
  | stopped failed => exact absurd succeeded failed
  | nothingNew => exact wellFormed
  | saved kept => exact kept

/-- An import that brings nothing new: it neither asks the store nor changes the book. -/
structure NothingNew (ctype : WideCtype width) (calls : ImportCalls) (file : Option Bytes)
    (current output : ContactBook width) (store : ContactStore width) (ended : ImportEnd width) :
    Prop where
  added : ended.result.added = 0
  unsaved : ended.stored = none
  file : ended.file = file
  store : ended.store = store
  book : ended.result.status = .ok → ended.output = current

theorem UnionOf.none_known {issued : List UInt64} {drafts : List (ContactDraft width)} {added : ℕ}
    (union : UnionOf issued current drafts output added)
    (known : ∀ draft ∈ drafts, current.knows draft = true) : added = 0 := by
  obtain ⟨fresh, -, contents, length, -⟩ := union
  have none : drafts.filter (fun draft => !current.knows draft) = [] := by
    rw [List.filter_eq_nil_iff]
    intro draft member
    rw [known draft member]
    exact nofun
  rw [none, List.map_eq_nil_iff] at contents
  rw [← length, contents]
  rfl

/-- Behind a union every draft is known. -/
theorem UnionOf.knows {issued : List UInt64} {drafts : List (ContactDraft width)} {added : ℕ}
    (union : UnionOf issued current drafts output added) :
    ∀ draft ∈ drafts, output.knows draft = true := by
  obtain ⟨fresh, items, contents, -⟩ := union
  intro draft member
  rw [ContactBook.knows, items, List.any_append, Bool.or_eq_true]
  cases known : current.knows draft with
  | true => exact .inl known
  | false =>
      refine .inr ?_
      have among : draft ∈ fresh.map Contact.draft := by
        rw [contents]
        exact List.mem_filter.mpr ⟨member, by rw [known]; rfl⟩
      obtain ⟨contact, found, rfl⟩ := List.mem_map.mp among
      exact List.any_eq_true.mpr ⟨contact, found, decide_eq_true rfl⟩

theorem confirmImport_nothingNew {skipped : ℕ} : NothingNew ctype calls file current output store
    (confirmImport ctype calls file current 0 skipped output store) := by
  rw [confirmImport]
  dsimp only
  split
  · exact ⟨rfl, rfl, rfl, rfl, nofun⟩
  split
  · exact ⟨rfl, rfl, rfl, rfl, nofun⟩
  · exact ⟨rfl, rfl, rfl, rfl, nofun⟩
  · rw [if_neg (by simp)]
    exact ⟨rfl, rfl, rfl, rfl, fun _ => rfl⟩

theorem importContacts_nothingNew (wellFormed : current.WellFormed ctype)
    (known : ∀ drafts, decodeContactBackup ctype calls.file.content = some drafts →
      ∀ draft ∈ drafts, current.knows draft = true) :
    NothingNew ctype calls file current output store
      (importContacts ctype calls file current output store) := by
  have reach := importContacts_reach ctype calls file current output store
  generalize importContacts ctype calls file current output store = ended at reach
  cases reach with
  | stopped failed => exact ⟨rfl, rfl, rfl, rfl, fun succeeded => absurd succeeded failed⟩
  | @confirmed drafts candidate added skipped decoded imported =>
      have ahead : current.nextId ≠ 0 → ∀ id ∈ ([] : List UInt64), id < current.nextId :=
        fun _ _ member => absurd member List.not_mem_nil
      obtain ⟨-, count, total, union⟩ :=
        importDrafts_union (decode_backupOf decoded).importable.distinct ahead imported
      rw [Nat.zero_add, union.none_known (known drafts decoded)] at total
      subst total
      rw [(importDrafts_ok wellFormed imported).2.2 rfl]
      exact confirmImport_nothingNew

end Imports

/-- What an import into the book does, and what one of its own export or a second one does. -/
structure ImportsUnion (ctype : WideCtype width) (issued : List UInt64)
    (current : ContactBook width) : Prop where
  ends : ∀ (calls : ImportCalls) (file : Option Bytes) (output : ContactBook width)
    (store : ContactStore width),
    let ended := importContacts ctype calls file current output store
    (ended.result.status ≠ .ok ∧ Untouched file output ended) ∨
      (ended.result.status = .ok ∧ Imported ctype calls file issued current ended)
  exported : ∀ (exports : ExportCalls) (destination : Option Bytes) (calls : ImportCalls)
    (file : Option Bytes) (output : ContactBook width) (store : ContactStore width),
    exportContacts ctype exports destination current = (.ok, some calls.file.content) →
      NothingNew ctype calls file current output store
        (importContacts ctype calls file current output store)
  again : ∀ (calls later : ImportCalls) (file laterFile : Option Bytes)
    (output other : ContactBook width) (store laterStore : ContactStore width),
    let ended := importContacts ctype calls file current output store
    ended.result.status = .ok → later.file.content = calls.file.content →
      NothingNew ctype later laterFile ended.output other laterStore
        (importContacts ctype later laterFile ended.output other laterStore)

theorem ContactBook.WellFormed.importsUnion {issued : List UInt64} {current : ContactBook width}
    (wellFormed : current.WellFormed ctype)
    (ahead : current.nextId ≠ 0 → ∀ id ∈ issued, id < current.nextId) :
    ImportsUnion ctype issued current := by
  refine ⟨fun calls file output store => importContacts_ends ctype calls file output store ahead, ?_, ?_⟩
  · intro exports destination calls file output store exported
    obtain ⟨bytes, written, content⟩ := exportContacts_ok exported
    obtain ⟨other, also, -, decoded⟩ := wellFormed.decode
    refine importContacts_nothingNew wellFormed fun drafts read => ?_
    rw [Option.some.inj content, Option.some.inj (written.symm.trans also), decoded] at read
    rw [← Option.some.inj read]
    intro draft member
    obtain ⟨contact, found, rfl⟩ := List.mem_map.mp member
    exact List.any_eq_true.mpr ⟨contact, found, decide_eq_true rfl⟩
  · intro calls later file laterFile output other store laterStore ended succeeded same
    have ends := importContacts_ends ctype calls file output store ahead
    rcases ends with ⟨failed, -⟩ | ⟨-, imported⟩
    · exact absurd succeeded failed
    obtain ⟨drafts, decoded, union, -⟩ := imported.union
    refine importContacts_nothingNew (imported_wellFormed wellFormed succeeded) fun others read => ?_
    rw [same, decoded] at read
    rw [← Option.some.inj read]
    exact union.knows

/-- Imports and exports of the books that operations make of empty ones. -/
theorem import_is_union (ctype : WideCtype width) (history : List (BookCall width × List Bool))
    (index : ℕ) :
    let ledger := finalState (ledgerStep ctype) {} history
    ImportsUnion ctype (ledger.issued (ledger.counter index)) (ledger.books index) := by
  intro ledger
  have accounted := (ledger_kept ctype history).books index
  exact accounted.wellFormed.importsUnion accounted.ahead

end AxeVoice.Contacts
