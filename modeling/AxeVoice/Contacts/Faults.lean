import Mathlib.Logic.Equiv.Basic
import AxeVoice.Contacts.Book
import AxeVoice.Foundation.Throwing

/-!
# The contact book when memory runs out

The operations of the book with every string that they copy, each copy a place
where they may throw.  Whatever throws does so before the book is written.  Over
whole runs a counter never gives out an identity twice, wherever an exchange of
books takes it.
-/

namespace AxeVoice.Contacts

open AxeVoice.Foundation
open AxeVoice.Sip
open Throwing

variable {width : WCharWidth} {σ : Type}

def validateHostPortSteps (host : WString width) : Throwing σ AddressError := do
  let portColon := host.find ':'
  allocate -- the host without its port
  if !validSipHost (host.take (portColon.getD host.length)) then pure .invalidHost
  else
    match portColon with
    | none => pure .none
    | some position => do
        allocate -- the port
        pure (if validPort (host.drop (position + 1)) then .none else .invalidPort)

def validateSchemelessSteps (ctype : WideCtype width) (input value : WString width) :
    Throwing σ (AddressResult width) :=
  if value.isEmpty then pure ⟨.invalidUser, []⟩
  else if value.findFirstOf "<>\\\"?;" then pure ⟨.invalidUser, []⟩
  else
    match value.find '@' with
    | none =>
        if value.all (dialUnit ctype) then do
          allocate -- the normalized destination
          pure ⟨.none, if input.contains ':' then input else value⟩
        else pure ⟨.invalidUser, []⟩
    | some position =>
        if position = 0 || position = value.length - 1 ||
            WString.contains (value.drop (position + 1)) '@' then
          pure ⟨.invalidHost, []⟩
        else do
          allocate -- what follows the `@`
          match ← validateHostPortSteps (value.drop (position + 1)) with
          | .none => do
              allocate -- the normalized destination
              pure ⟨.none, if input.contains ':' then input else wideText width "sip:" ++ value⟩
          | error => pure ⟨error, []⟩

def validateAddressSteps (ctype : WideCtype width) (input : WString width) :
    Throwing σ (AddressResult width) :=
  if input.isEmpty then pure ⟨.empty, []⟩
  else if input.any fun unit => ctype.iswspace unit || ctype.iswcntrl unit then
    pure ⟨.whitespace, []⟩
  else do
    allocate -- the copy of the input
    match input.find ':' with
    | none => validateSchemelessSteps ctype input input
    | some colon => do
        allocate -- the scheme
        if input.take colon ≠ wideText width "sip" && input.take colon ≠ wideText width "sips" then
          pure ⟨.invalidScheme, []⟩
        else do
          allocate -- what follows the scheme
          validateSchemelessSteps ctype input (input.drop (colon + 1))

def validDraftSteps (ctype : WideCtype width) (draft : ContactDraft width) : Throwing σ Bool :=
  if !validName draft.name || draft.destination.isEmpty || draft.destination.length > 128 then
    pure false
  else if !draft.destination.all printableUnit then pure false
  else do
    let address ← validateAddressSteps ctype draft.destination
    if !address.valid then pure false
    else
      match draft.destination.find '@' with
      | none => pure true
      | some position =>
          pure (((draft.destination.take position).drop (schemeLength draft.destination)).all
            contactUserUnit)

namespace ContactBook

def addSteps (ctype : WideCtype width) (draft : ContactDraft width) :
    Throwing (ContactBook width) ContactResult := do
  let valid ← validDraftSteps ctype draft
  if !valid then pure .invalid
  else do
    let book ← read
    if book.items.any fun contact => contact.destination = draft.destination then pure .duplicate
    else if book.items.length ≥ capacity then pure .full
    else if book.nextId = 0 then pure .error
    else do
      allocate -- the name of the prepared contact
      allocate -- its destination
      allocate -- the larger storage of the contacts
      write fun book => { book with items := book.items ++ [draft.toContact book.nextId] }
      write fun book => { book with nextId := book.nextId + 1 }
      pure .ok

def updateSteps (ctype : WideCtype width) (id : UInt64) (draft : ContactDraft width) :
    Throwing (ContactBook width) ContactResult := do
  let book ← read
  if (book.find id).isNone then pure .notFound
  else do
    let valid ← validDraftSteps ctype draft
    if !valid then pure .invalid
    else if book.items.any fun contact =>
        contact.id ≠ id && contact.destination = draft.destination then pure .duplicate
    else do
      allocate -- the name of the prepared contact
      allocate -- its destination
      write (changeFirst fun contact => { contact with name := draft.name })
      write (changeFirst fun contact => { contact with destination := draft.destination })
      write (changeFirst fun contact => { contact with favorite := draft.favorite })
      pure .ok
where
  changeFirst (change : Contact width → Contact width) (book : ContactBook width) :
      ContactBook width :=
    { book with items := replaceFirst id change book.items }

end ContactBook

theorem validateHostPortSteps_strong (host : WString width) (state : σ) :
    Strong (validateHostPortSteps host) state (validateHostPort host) state := by
  rw [validateHostPortSteps, validateHostPort]
  refine Strong.allocated ?_
  split
  · exact Strong.pure state _
  cases host.find ':' with
  | none => exact Strong.pure state _
  | some position => exact Strong.allocated (Strong.pure state _)

theorem validateSchemelessSteps_strong (ctype : WideCtype width) (input value : WString width)
    (state : σ) : Strong (validateSchemelessSteps ctype input value) state
      (validateSchemeless ctype input value) state := by
  rw [validateSchemelessSteps, validateSchemeless]
  split
  · exact Strong.pure state _
  split
  · exact Strong.pure state _
  cases value.find '@' with
  | none =>
      dsimp only
      split
      · exact Strong.allocated (Strong.pure state _)
      · exact Strong.pure state _
  | some position =>
      dsimp only
      split
      · exact Strong.pure state _
      refine Strong.allocated ((validateHostPortSteps_strong _ state).bind ?_)
      cases validateHostPort (value.drop (position + 1)) with
      | none => exact Strong.allocated (Strong.pure state _)
      | empty | whitespace | invalidScheme | invalidUser | invalidHost | invalidPort =>
          exact Strong.pure state _

theorem validateAddressSteps_strong (ctype : WideCtype width) (input : WString width) (state : σ) :
    Strong (validateAddressSteps ctype input) state (validateAddress ctype input) state := by
  rw [validateAddressSteps, validateAddress]
  split
  · exact Strong.pure state _
  split
  · exact Strong.pure state _
  refine Strong.allocated ?_
  cases input.find ':' with
  | none => exact validateSchemelessSteps_strong ctype input input state
  | some colon =>
      refine Strong.allocated ?_
      dsimp only
      split
      · exact Strong.pure state _
      · exact Strong.allocated (validateSchemelessSteps_strong ctype input _ state)

theorem validDraftSteps_strong (ctype : WideCtype width) (draft : ContactDraft width) (state : σ) :
    Strong (validDraftSteps ctype draft) state (validDraft ctype draft) state := by
  rw [validDraftSteps, validDraft]
  split
  · exact Strong.pure state _
  split
  · exact Strong.pure state _
  refine (validateAddressSteps_strong ctype draft.destination state).bind ?_
  split
  · exact Strong.pure state _
  cases draft.destination.find '@' with
  | none => exact Strong.pure state _
  | some position => exact Strong.pure state _

namespace ContactBook

theorem addSteps_strong (ctype : WideCtype width) (draft : ContactDraft width)
    (book : ContactBook width) :
    Strong (addSteps ctype draft) book (book.add ctype draft).1 (book.add ctype draft).2 := by
  rw [addSteps]
  refine (validDraftSteps_strong ctype draft book).bind ?_
  rw [add]
  split
  · exact Strong.pure book _
  refine (Nothrow.read book).strong.bind ?_
  split
  · exact Strong.pure book _
  split
  · exact Strong.pure book _
  split
  · exact Strong.pure book _
  refine Strong.allocated (Strong.allocated (Strong.allocated ?_))
  refine (Nothrow.written (Nothrow.written ?_)).strong
  exact Nothrow.pure _ ContactResult.ok

/-- Changes that keep the identity, one after the other. -/
theorem replaceFirst_replaceFirst {id : UInt64} {first second : Contact width → Contact width}
    (keeps : ∀ contact, (first contact).id = contact.id) (items : List (Contact width)) :
    replaceFirst id second (replaceFirst id first items) =
      replaceFirst id (fun contact => second (first contact)) items := by
  induction items with
  | nil => rfl
  | cons contact rest ih =>
      by_cases same : contact.id = id
      · rw [replaceFirst, if_pos same, replaceFirst, if_pos ((keeps contact).trans same),
          replaceFirst, if_pos same]
      · rw [replaceFirst, if_neg same, replaceFirst, if_neg same, ih, replaceFirst, if_neg same]

theorem replaceFirst_congr {id : UInt64} {first second : Contact width → Contact width}
    (same : ∀ contact, contact.id = id → first contact = second contact)
    (items : List (Contact width)) : replaceFirst id first items = replaceFirst id second items := by
  induction items with
  | nil => rfl
  | cons contact rest ih =>
      rw [replaceFirst, replaceFirst]
      split
      · next found => rw [same contact found]
      · rw [ih]

theorem updateSteps_strong (ctype : WideCtype width) (id : UInt64) (draft : ContactDraft width)
    (book : ContactBook width) : Strong (updateSteps ctype id draft) book
      (book.update ctype id draft).1 (book.update ctype id draft).2 := by
  rw [updateSteps]
  refine (Nothrow.read book).strong.bind ?_
  rw [update]
  split
  · exact Strong.pure book _
  refine (validDraftSteps_strong ctype draft book).bind ?_
  split
  · exact Strong.pure book _
  split
  · exact Strong.pure book _
  have swaps : replaceFirst id (fun contact => { contact with favorite := draft.favorite })
      (replaceFirst id (fun contact => { contact with destination := draft.destination })
        (replaceFirst id (fun contact => { contact with name := draft.name }) book.items)) =
      replaceFirst id (fun _ => draft.toContact id) book.items := by
    rw [replaceFirst_replaceFirst, replaceFirst_replaceFirst]
    · exact replaceFirst_congr (fun contact same => by rw [ContactDraft.toContact, ← same]) _
    · exact fun _ => rfl
    · exact fun _ => rfl
  refine Strong.allocated (Strong.allocated ?_)
  rw [← swaps]
  refine (Nothrow.written (Nothrow.written (Nothrow.written ?_))).strong
  exact Nothrow.pure _ ContactResult.ok

end ContactBook

/-- An operation with the faults that lie ahead of it; only `add` and `update` allocate. -/
def faultyStep (ctype : WideCtype width) (books : Books width) (faults : List Bool) :
    BookCall width → ContactResult × Books width
  | .add book draft =>
      books.answered book ((ContactBook.addSteps ctype draft).orElse .error (books book) faults)
  | .update book id draft =>
      books.answered book ((ContactBook.updateSteps ctype id draft).orElse .error (books book) faults)
  | .remove book id => bookStep ctype books (.remove book id)
  | .setFavorite book id favorite => bookStep ctype books (.setFavorite book id favorite)
  | .swap first second => bookStep ctype books (.swap first second)

theorem answered_self (books : Books width) (book : Nat) (result : ContactResult) :
    books.answered book (result, books book) = (result, books) := by
  rw [Books.answered, Function.update_eq_self]

/-- A fault leaves the books as they were; otherwise the operation is that without faults. -/
theorem faultyStep_cases (ctype : WideCtype width) (books : Books width) (faults : List Bool)
    (call : BookCall width) : faultyStep ctype books faults call = (.error, books) ∨
      faultyStep ctype books faults call = bookStep ctype books call := by
  cases call with
  | add book draft =>
      rw [faultyStep, bookStep]
      rcases (ContactBook.addSteps_strong ctype draft (books book)).orElse .error faults with
        threw | gave
      · rw [threw, answered_self]
        exact .inl rfl
      · rw [gave]
        exact .inr rfl
  | update book id draft =>
      rw [faultyStep, bookStep]
      rcases (ContactBook.updateSteps_strong ctype id draft (books book)).orElse .error faults with
        threw | gave
      · rw [threw, answered_self]
        exact .inl rfl
      · rw [gave]
        exact .inr rfl
  | remove book id | setFavorite book id favorite | swap first second => exact .inr rfl

/-- Only an operation that answers `ok` changes a book. -/
theorem bookStep_refused {ctype : WideCtype width} {books : Books width} {call : BookCall width}
    (refused : (bookStep ctype books call).1 ≠ .ok) : (bookStep ctype books call).2 = books := by
  have answered {book : Nat} {answer : ContactResult × ContactBook width}
      (kept : answer.1 ≠ .ok → answer.2 = books book) (other : answer.1 ≠ .ok) :
      (books.answered book answer).2 = books := by
    rw [Books.answered, kept other, Function.update_eq_self]
  cases call with
  | add book draft =>
      refine answered (fun other => ?_) refused
      rw [ContactBook.add] at other ⊢
      split_ifs at other ⊢
      · rfl
      · rfl
      · rfl
      · rfl
      · exact absurd rfl other
  | update book id draft =>
      refine answered (fun other => ?_) refused
      rw [ContactBook.update] at other ⊢
      split_ifs at other ⊢
      · rfl
      · rfl
      · rfl
      · exact absurd rfl other
  | remove book id =>
      refine answered (fun other => ?_) refused
      rw [ContactBook.remove] at other ⊢
      split_ifs at other ⊢
      · rfl
      · exact absurd rfl other
  | setFavorite book id favorite =>
      refine answered (fun other => ?_) refused
      rw [ContactBook.setFavorite] at other ⊢
      split_ifs at other ⊢
      · rfl
      · exact absurd rfl other
  | swap first second => exact absurd rfl refused

theorem faultyStep_refused {ctype : WideCtype width} {books : Books width} {faults : List Bool}
    {call : BookCall width} (refused : (faultyStep ctype books faults call).1 ≠ .ok) :
    (faultyStep ctype books faults call).2 = books := by
  rcases faultyStep_cases ctype books faults call with threw | gave
  · rw [threw]
  · rw [gave] at refused ⊢
    exact bookStep_refused refused

/-! ## What the counters gave out -/

/-- The books, the counter that each of them holds, and the identities that each counter gave out. -/
structure Ledger (width : WCharWidth) where
  books : Books width := fun _ => {}
  counter : Nat → Nat := id
  issued : Nat → List UInt64 := fun _ => []

/-- The identities that the operation gave out, to the counters that the books held. -/
def Ledger.recorded (ledger : Ledger width) (result : ContactResult) (after : Books width) :
    BookCall width → Ledger width
  | .add book _ =>
      if result = .ok then
        { ledger with
          books := after
          issued := Function.update ledger.issued (ledger.counter book)
            (ledger.issued (ledger.counter book) ++
              ((after book).items.getLast?.map Contact.id).toList) }
      else { ledger with books := after }
  | .swap first second =>
      { ledger with
        books := after
        counter := Function.update (Function.update ledger.counter first (ledger.counter second))
          second (ledger.counter first) }
  | _ => { ledger with books := after }

def ledgerStep (ctype : WideCtype width) (ledger : Ledger width)
    (call : BookCall width × List Bool) : ContactResult × Ledger width :=
  let stepped := faultyStep ctype ledger.books call.2 call.1
  (stepped.1, ledger.recorded stepped.1 stepped.2 call.1)

/-- A book and the identities that its counter gave out. -/
structure Accounted (ctype : WideCtype width) (issued : List UInt64) (book : ContactBook width) :
    Prop where
  wellFormed : book.WellFormed ctype
  ahead : book.nextId ≠ 0 → ∀ id ∈ issued, id < book.nextId
  known : ∀ contact ∈ book.items, contact.id ∈ issued

/-- Every book is accounted for, and no counter gave an identity out twice. -/
structure LedgerKept (ctype : WideCtype width) (ledger : Ledger width) : Prop where
  counters : Function.Injective ledger.counter
  books : ∀ book, Accounted ctype (ledger.issued (ledger.counter book)) (ledger.books book)
  increasing : ∀ counter, (ledger.issued counter).Pairwise (· < ·)
  nonzero : ∀ counter, ∀ id ∈ ledger.issued counter, id ≠ 0

theorem ledgerKept_initial (ctype : WideCtype width) : LedgerKept ctype ({} : Ledger width) where
  counters := Function.injective_id
  books _ := ⟨ContactBook.wellFormed_empty, fun _ _ member => absurd member List.not_mem_nil,
    fun _ member => absurd member List.not_mem_nil⟩
  increasing _ := List.Pairwise.nil
  nonzero _ _ member := absurd member List.not_mem_nil

/-- A book that gave nothing out: its counter stands, and it holds identities that it held. -/
structure GaveNothing (before after : ContactBook width) : Prop where
  nextId : after.nextId = before.nextId
  ids : ∀ contact ∈ after.items, ∃ older ∈ before.items, older.id = contact.id

theorem GaveNothing.refl (book : ContactBook width) : GaveNothing book book :=
  ⟨rfl, fun contact member => ⟨contact, member, rfl⟩⟩

theorem replaceFirst_ids {id : UInt64} (change : Contact width → Contact width)
    (keeps : ∀ contact, contact.id = id → (change contact).id = id) {items : List (Contact width)} :
    ∀ contact ∈ ContactBook.replaceFirst id change items, ∃ older ∈ items, older.id = contact.id := by
  induction items with
  | nil => exact fun _ member => absurd member List.not_mem_nil
  | cons first rest ih =>
      intro contact member
      rw [ContactBook.replaceFirst] at member
      split at member
      · next same =>
          rcases List.mem_cons.mp member with rfl | behind
          · exact ⟨first, List.mem_cons_self, same.trans (keeps first same).symm⟩
          · exact ⟨contact, List.mem_cons_of_mem _ behind, rfl⟩
      · rcases List.mem_cons.mp member with rfl | behind
        · exact ⟨contact, List.mem_cons_self, rfl⟩
        · obtain ⟨older, found, same⟩ := ih contact behind
          exact ⟨older, List.mem_cons_of_mem _ found, same⟩

theorem update_gaveNothing (ctype : WideCtype width) (book : ContactBook width) (id : UInt64)
    (draft : ContactDraft width) : GaveNothing book (book.update ctype id draft).2 := by
  rw [ContactBook.update]
  split
  · exact .refl book
  split
  · exact .refl book
  split
  · exact .refl book
  · refine ⟨rfl, ?_⟩
    exact replaceFirst_ids (fun _ => draft.toContact id) fun _ _ => rfl

theorem remove_gaveNothing (book : ContactBook width) (id : UInt64) :
    GaveNothing book (book.remove id).2 := by
  rw [ContactBook.remove]
  split
  · exact .refl book
  · exact ⟨rfl, fun contact member => ⟨contact, List.eraseP_subset member, rfl⟩⟩

theorem setFavorite_gaveNothing (book : ContactBook width) (id : UInt64) (favorite : Bool) :
    GaveNothing book (book.setFavorite id favorite).2 := by
  rw [ContactBook.setFavorite]
  split
  · exact .refl book
  · refine ⟨rfl, ?_⟩
    exact replaceFirst_ids (fun contact => { contact with favorite := favorite }) fun _ same => same

section Steps

variable {ctype : WideCtype width} {ledger : Ledger width}

theorem Accounted.replaced {issued : List UInt64} {before after : ContactBook width}
    (accounted : Accounted ctype issued before) (wellFormed : after.WellFormed ctype)
    (nothing : GaveNothing before after) : Accounted ctype issued after := by
  refine ⟨wellFormed, ?_, ?_⟩
  · rw [nothing.nextId]
    exact accounted.ahead
  · intro contact member
    obtain ⟨older, found, same⟩ := nothing.ids contact member
    rw [← same]
    exact accounted.known older found

theorem LedgerKept.replaced (kept : LedgerKept ctype ledger) {book : Nat}
    {after : ContactBook width} (wellFormed : after.WellFormed ctype)
    (nothing : GaveNothing (ledger.books book) after) :
    LedgerKept ctype { ledger with books := Function.update ledger.books book after } := by
  refine ⟨kept.counters, fun other => ?_, kept.increasing, kept.nonzero⟩
  dsimp only
  rcases eq_or_ne other book with rfl | apart
  · rw [Function.update_self]
    exact (kept.books other).replaced wellFormed nothing
  · rw [Function.update_of_ne apart]
    exact kept.books other

theorem Accounted.added {issued : List UInt64} {book : ContactBook width}
    (accounted : Accounted ctype issued book) {draft : ContactDraft width}
    (succeeded : (book.add ctype draft).1 = .ok) :
    Accounted ctype (issued ++ [book.nextId]) (book.add ctype draft).2 := by
  obtain ⟨issuable, after⟩ := ContactBook.add_of_ok succeeded
  have ahead := accounted.ahead issuable
  refine ⟨accounted.wellFormed.add draft, ?_, ?_⟩
  · rw [after]
    intro more id member
    have next : book.nextId < book.nextId + 1 := by grind
    rcases List.mem_append.mp member with older | newest
    · exact UInt64.lt_trans (ahead id older) next
    · rw [List.mem_singleton.mp newest]
      exact next
  · rw [after]
    intro contact member
    rcases List.mem_append.mp member with older | newest
    · exact List.mem_append_left _ (accounted.known contact older)
    · rw [List.mem_singleton.mp newest]
      exact List.mem_append_right _ List.mem_cons_self

theorem LedgerKept.added (kept : LedgerKept ctype ledger) {book : Nat} {draft : ContactDraft width}
    (succeeded : ((ledger.books book).add ctype draft).1 = .ok) :
    LedgerKept ctype { ledger with
      books := Function.update ledger.books book ((ledger.books book).add ctype draft).2
      issued := Function.update ledger.issued (ledger.counter book)
        (ledger.issued (ledger.counter book) ++ [(ledger.books book).nextId]) } := by
  obtain ⟨issuable, -⟩ := ContactBook.add_of_ok succeeded
  have ahead := (kept.books book).ahead issuable
  refine ⟨kept.counters, fun other => ?_, fun counter => ?_, fun counter => ?_⟩
  · dsimp only
    rcases eq_or_ne other book with rfl | apart
    · rw [Function.update_self, Function.update_self]
      exact (kept.books other).added succeeded
    · rw [Function.update_of_ne apart, Function.update_of_ne (kept.counters.ne apart)]
      exact kept.books other
  · dsimp only
    rcases eq_or_ne counter (ledger.counter book) with rfl | apart
    · rw [Function.update_self]
      refine List.pairwise_append.mpr ⟨kept.increasing _, List.pairwise_singleton _ _, ?_⟩
      intro older found newest added
      rw [List.mem_singleton.mp added]
      exact ahead older found
    · rw [Function.update_of_ne apart]
      exact kept.increasing counter
  · dsimp only
    rcases eq_or_ne counter (ledger.counter book) with rfl | apart
    · rw [Function.update_self]
      intro id member
      rcases List.mem_append.mp member with older | newest
      · exact kept.nonzero _ id older
      · rw [List.mem_singleton.mp newest]
        exact issuable
    · rw [Function.update_of_ne apart]
      exact kept.nonzero counter

/-- An exchange takes the counters along with the books. -/
theorem LedgerKept.exchanged (kept : LedgerKept ctype ledger) (first second : Nat) :
    LedgerKept ctype { ledger with
      books := Function.update (Function.update ledger.books first (ledger.books second)) second
        (ledger.books first)
      counter := Function.update (Function.update ledger.counter first (ledger.counter second))
        second (ledger.counter first) } := by
  rw [← Equiv.comp_swap_eq_update, ← Equiv.comp_swap_eq_update]
  exact ⟨kept.counters.comp (Equiv.injective _), fun book => kept.books _, kept.increasing,
    kept.nonzero⟩

theorem ledgerStep_kept (kept : LedgerKept ctype ledger) (call : BookCall width × List Bool) :
    LedgerKept ctype (ledgerStep ctype ledger call).2 := by
  obtain ⟨call, faults⟩ := call
  rw [ledgerStep]
  dsimp only
  cases call with
  | add book draft =>
      rw [Ledger.recorded]
      split
      · next succeeded =>
          rcases faultyStep_cases ctype ledger.books faults (.add book draft) with threw | gave
          · rw [threw] at succeeded
            cases succeeded
          · rw [gave] at succeeded ⊢
            have last : (((bookStep ctype ledger.books (.add book draft)).2 book).items.getLast?.map
                Contact.id).toList = [(ledger.books book).nextId] := by
              rw [bookStep, Books.answered]
              dsimp only
              rw [Function.update_self, (ContactBook.add_of_ok succeeded).2]
              simp [ContactDraft.toContact]
            rw [last]
            exact kept.added succeeded
      · next refused =>
          rw [faultyStep_refused refused]
          exact kept
  | update book id draft =>
      rw [Ledger.recorded]
      · rcases faultyStep_cases ctype ledger.books faults (.update book id draft) with threw | gave
        · rw [threw]
          exact kept
        · rw [gave]
          exact kept.replaced ((kept.books book).wellFormed.update id draft)
            (update_gaveNothing ctype _ id draft)
      · exact nofun
      · exact nofun
  | remove book id =>
      exact kept.replaced ((kept.books book).wellFormed.remove id) (remove_gaveNothing _ id)
  | setFavorite book id favorite =>
      exact kept.replaced ((kept.books book).wellFormed.setFavorite id favorite)
        (setFavorite_gaveNothing _ id favorite)
  | swap first second => exact kept.exchanged first second

end Steps

theorem ledger_kept (ctype : WideCtype width) (calls : List (BookCall width × List Bool)) :
    LedgerKept ctype (finalState (ledgerStep ctype) {} calls) := by
  have step (ledger : Ledger width) (call : BookCall width × List Bool)
      (kept : LedgerKept ctype ledger) : LedgerKept ctype (ledgerStep ctype ledger call).2 :=
    ledgerStep_kept kept call
  exact finalState_invariant step (ledgerKept_initial ctype) calls

theorem recorded_books (ledger : Ledger width) (result : ContactResult) (after : Books width)
    (call : BookCall width) : (ledger.recorded result after call).books = after := by
  cases call with
  | add book draft =>
      rw [Ledger.recorded]
      split
      · rfl
      · rfl
  | update | remove | setFavorite | swap => rfl

/-- What every run of the operations leaves behind, whichever allocations throw. -/
structure BooksKept (ctype : WideCtype width) (calls : List (BookCall width × List Bool)) :
    Prop where
  kept : LedgerKept ctype (finalState (ledgerStep ctype) {} calls)
  atomic : ∀ stage ∈ stages (ledgerStep ctype) {} calls, stage.output ≠ .ok →
    stage.after.books = stage.before.books

theorem books_kept (ctype : WideCtype width) (calls : List (BookCall width × List Bool)) :
    BooksKept ctype calls := by
  constructor
  · exact ledger_kept ctype calls
  · refine stages_forall_of_step _ (fun ledger call refused => ?_) _ calls
    exact (recorded_books ledger _ _ call.1).trans (faultyStep_refused refused)

end AxeVoice.Contacts
