import FeedIndex.Proofs.Standing

/-!
# Faithful rosters

A roster is faithful if it shows the stored accounts with their statuses, and each of these can be read back. Then
nothing that an event comes to is cut short: the event is one request about its own record, if any, and one change
of its account, if any (`Handler.take_eq`), and the roster stays faithful.
-/

namespace FeedIndex

variable {L : Schema}

/-! ## Accounts that can be read back -/

namespace Tables

/-- **Readable** — every account can be read back. -/
def Readable (t : Tables L) : Prop := ∀ did row, t.accounts did = some row → (L.actor? row).isSome = true

theorem Readable.changeAccount {t : Tables L} (readable : t.Readable) {did : String}
    {change : Option L.Account → Option L.Account}
    (own : ∀ row, change (t.accounts did) = some row → (L.actor? row).isSome = true) :
    (t.changeAccount did change).Readable := by
  intro other row stored
  dsimp only [Tables.changeAccount] at stored
  split at stored
  · next same =>
    subst same
    exact own row stored
  · exact readable other row stored

theorem Readable.map {t : Tables L} (readable : t.Readable) (did : String) {change : L.Account → L.Account}
    (keeps : ∀ row, (L.actor? (change row)).isSome = (L.actor? row).isSome) :
    (t.changeAccount did (·.map change)).Readable := by
  refine readable.changeAccount fun row stored => ?_
  obtain ⟨old, hold, rfl⟩ := Option.map_eq_some_iff.mp stored
  rw [keeps]
  exact readable did old hold

theorem Readable.file {t : Tables L} (readable : t.Readable) (did : String) (now : Timestamp)
    (change : AccountChange) : (t.file did now change).Readable := by
  cases change with
  | add =>
    show (t.changeAccount did (·.or (some (L.ofActor (.fresh did .pending Index.addedRemark now))))).Readable
    refine readable.changeAccount fun row stored => ?_
    rcases Option.or_eq_some_iff.mp stored with old | ⟨-, new⟩
    · exact readable did row old
    · rw [← Option.some.inj new, L.actor?_ofActor rfl]
      rfl
  | set status => exact readable.map did fun row => by rw [L.actor?_setStatus, Option.isSome_map]

theorem Readable.addProfile {t : Tables L} (readable : t.Readable) (row : ProfileRow) :
    (t.addProfile row).Readable := by
  unfold Tables.addProfile
  split
  · exact readable
  · exact readable.map row.actorDid fun old => by rw [L.actor?_pointTo, Option.isSome_map]

end Tables

/-! ## Faithful rosters -/

namespace Index

/-- **Faithful** — the roster shows the stored accounts with their statuses, and each of them can be read back. -/
structure Faithful (index : Index (Tables L)) : Prop where
  agrees : index.Agrees
  readable : index.store.Readable
  named : index.store.Named

variable {index : Index (Tables L)} {did : String}

theorem Faithful.stored {actor : Actor} (faithful : index.Faithful) (known : index.roster.get? did = some actor) :
    index.store.accounts did ≠ none := by
  have status := faithful.agrees did
  rw [known, Tables.status] at status
  intro absent
  rw [absent] at status
  cases status

/-- The change can be made of an account: it is added, or it is there. -/
def Fits (index : Index (Tables L)) (did : String) : AccountChange → Prop
  | .add => True
  | .set _ => index.store.accounts did ≠ none

/-- An account that was filed can be read back. -/
theorem Faithful.read_file (faithful : index.Faithful) {change : AccountChange} (fits : index.Fits did change)
    (now : Timestamp) : ∃ actor, (index.store.file did now change).actor? did = some actor := by
  rw [Tables.actor?_file]
  rcases stored : index.store.accounts did with _ | row
  · cases change with
    | add => exact ⟨_, L.actor?_ofActor rfl⟩
    | set status => exact absurd stored fits
  · obtain ⟨actor, read⟩ := Option.isSome_iff_exists.mp (faithful.readable did row stored)
    cases change with
    | add => exact ⟨actor, read⟩
    | set status =>
      have back : index.store.actor? did = some actor := by rw [Tables.actor?, stored]; exact read
      exact ⟨{ actor with status }, congrArg (Option.map _) back⟩

/-- Filing an account keeps the roster faithful. -/
theorem Faithful.file (faithful : index.Faithful) {change : AccountChange} (fits : index.Fits did change)
    (now : Timestamp) : (index.file did now change).Faithful := by
  have named : (index.store.file did now change).Named := faithful.named.apply now (change.request did now)
  obtain ⟨actor, read⟩ := faithful.read_file fits now
  obtain ⟨filed, place, status⟩ := Index.file_of_read faithful.named read
  rw [filed]
  refine ⟨fun other => ?_, faithful.readable.file did now change, named⟩
  dsimp only
  rw [Roster.get?_put, place]
  split
  · next own => rw [own, status, Option.map_some]
  · next other' => rw [Tables.status_file, if_neg other', faithful.agrees other]

/-! ### Changes and requests that may be missing -/

/-- An account is filed, if there is a change. -/
def file? (did : String) (now : Timestamp) (change : Option AccountChange) (index : Index (Tables L)) :
    Index (Tables L) :=
  change.elim index fun change => index.file did now change

/-- A request is entered, if there is one. -/
def enter? (now : Timestamp) (request : Option StoreOperation) (index : Index (Tables L)) : Index (Tables L) :=
  request.elim index fun request => index.enter now request

theorem doAll_enters (now : Timestamp) (request : Option StoreOperation) (index : Index (Tables L)) :
    index.doAll did now (request.map .enter).toList = index.enter? now request := by
  rcases request with _ | request <;> rfl

theorem Faithful.doAll_files (faithful : index.Faithful) {change : Option AccountChange}
    (fits : ∀ c, change = some c → index.Fits did c) (now : Timestamp) (rest : List Deed) :
    index.doAll did now ((change.map .file).toList ++ rest) = (index.file? did now change).doAll did now rest := by
  rcases change with _ | change
  · rfl
  · obtain ⟨actor, read⟩ := faithful.read_file (fits change rfl) now
    show index.doAll did now (.file change :: rest) = _
    rw [Index.doAll, read, Option.isSome_some, if_pos rfl]
    rfl

/-- It is the same to delete a follow before an account is filed and after. -/
theorem file?_enter_deleteFollow (now : Timestamp) (uri : String) (change : Option AccountChange)
    (index : Index (Tables L)) :
    (index.enter now (.deleteFollow uri)).file? did now change =
      (index.file? did now change).enter now (.deleteFollow uri) := by
  rcases change with _ | change
  · rfl
  · have store : (index.enter now (.deleteFollow uri)).store.file did now change =
        (index.store.file did now change).apply now (.deleteFollow uri) := by
      cases change <;> rfl
    have read : ((index.store.file did now change).apply now (.deleteFollow uri)).actor? did =
        (index.store.file did now change).actor? did := rfl
    show (index.enter now (.deleteFollow uri)).file did now change = (index.file did now change).enter now _
    unfold Index.file
    rw [store, read]
    rcases (index.store.file did now change).actor? did with _ | actor <;> rfl

end Index

/-! ## What an event comes to -/

/-- The request of a deed. -/
def Deed.request? : Deed → Option StoreOperation
  | enter request => some request
  | file _ => none

/-- The change of a deed. -/
def Deed.change? : Deed → Option AccountChange
  | enter _ => none
  | file change => some change

namespace Handler

variable (handler : Handler) (event : Event) (now : Timestamp) (index : Index (Tables L))

/-- The deeds of an event of an index. -/
def deedsOf : List Deed := handler.deeds event now (index.roster.get? event.did) (index.store.follow? event.uri)

/-- **wanted?** — the request that an event enters. -/
def wanted? : Option StoreOperation := (handler.deedsOf event now index).findSome? Deed.request?

/-- **moved?** — what an event changes about its account. -/
def moved? : Option AccountChange := (handler.deedsOf event now index).findSome? Deed.change?

variable {handler event now index}

theorem findSome?_deeds (change : Option AccountChange) (request : Option StoreOperation) :
    ((change.map Deed.file).toList ++ (request.map Deed.enter).toList).findSome? Deed.request? = request ∧
      ((change.map Deed.file).toList ++ (request.map Deed.enter).toList).findSome? Deed.change? = change := by
  rcases change with _ | change <;> rcases request with _ | request <;> exact ⟨rfl, rfl⟩

theorem does_of_wanted? {request : StoreOperation} (h : handler.wanted? event now index = some request) :
    Does handler event now index (.enter request) := by
  obtain ⟨deed, hmem, h⟩ := List.exists_of_findSome?_eq_some h
  cases deed with
  | enter other =>
    obtain rfl := Option.some.inj h
    exact does_of_mem_deeds hmem
  | file change => cases h

theorem does_of_moved? {change : AccountChange} (h : handler.moved? event now index = some change) :
    Does handler event now index (.file change) := by
  obtain ⟨deed, hmem, h⟩ := List.exists_of_findSome?_eq_some h
  cases deed with
  | enter other => cases h
  | file other =>
    obtain rfl := Option.some.inj h
    exact does_of_mem_deeds hmem

/-- An event files and enters, or deletes a follow and files. -/
theorem deedsOf_cases (handler : Handler) (event : Event) (now : Timestamp) (index : Index (Tables L)) :
    (∃ (change : Option AccountChange) (request : Option StoreOperation), handler.deedsOf event now index =
      (change.map Deed.file).toList ++ (request.map Deed.enter).toList) ∨
    ∃ change : Option AccountChange, handler.deedsOf event now index =
      .enter (.deleteFollow event.uri) :: (change.map Deed.file).toList := by
  unfold deedsOf deeds
  split
  · split
    · unfold followDeeds
      split
      · exact .inl ⟨none, none, rfl⟩
      · split
        · exact .inl ⟨_, _, rfl⟩
        · split
          · exact .inl ⟨none, _, rfl⟩
          · exact .inl ⟨none, none, rfl⟩
    · unfold unfollowDeeds
      split
      · next actor row _ _ =>
        refine .inr ⟨if row.subject = handler.subject then AccountChange.onUnfollow? actor else none, ?_⟩
        split <;> rfl
      · exact .inl ⟨none, none, rfl⟩
    · exact .inl ⟨none, _, rfl⟩
  · exact .inl ⟨none, none, rfl⟩

/-! ### What is kept faithful -/

/-- What is changed about an account can be made of it. -/
theorem fits_of_moved? (faithful : index.Faithful) {change : AccountChange}
    (moved : handler.moved? event now index = some change) : index.Fits event.did change := by
  cases does_of_moved? moved with
  | followed follows changes =>
    rcases known : index.roster.get? event.did with _ | actor
    · rw [known] at changes
      obtain rfl := Option.some.inj changes
      trivial
    · rw [known] at changes
      obtain ⟨next, -, rfl⟩ := Option.map_eq_some_iff.mp changes
      exact faithful.stored known
  | unfollowed unfollows _ _ changes =>
    obtain ⟨next, -, rfl⟩ := Option.map_eq_some_iff.mp changes
    exact faithful.stored unfollows.known

/-- What an event enters keeps the roster faithful. -/
theorem Does.faithful {request : StoreOperation} {mid : Index (Tables L)}
    (does : Does handler event now index (.enter request)) (faithful : mid.Faithful) :
    (mid.enter now request).Faithful := by
  have named : (mid.store.apply now request).Named := faithful.named.apply now request
  refine ⟨fun did => ?_, ?_, named⟩
  · show _ = (mid.store.apply now request).status did
    rw [does.status_apply]
    exact faithful.agrees did
  · show (mid.store.apply now request).Readable
    rcases does.accounts_apply mid.store with ⟨accounts, -⟩ | ⟨profile, rfl, -⟩
    · unfold Tables.Readable
      rw [accounts]
      exact faithful.readable
    · exact faithful.readable.addProfile profile

/-- **An event is its request and its change**, if the roster is faithful. -/
theorem take_eq (faithful : index.Faithful) :
    handler.take event now index =
      (index.file? event.did now (handler.moved? event now index)).enter? now (handler.wanted? event now index) := by
  have fits : ∀ change, handler.moved? event now index = some change → index.Fits event.did change :=
    fun change => fits_of_moved? faithful
  show index.doAll event.did now (handler.deedsOf event now index) = _
  unfold wanted? moved? at *
  rcases handler.deedsOf_cases event now index with ⟨change, request, deeds⟩ | ⟨change, deeds⟩
  · obtain ⟨wanted, moved⟩ := findSome?_deeds change request
    rw [deeds, moved] at fits
    rw [deeds, wanted, moved, faithful.doAll_files fits, Index.doAll_enters]
  · obtain ⟨-, moved⟩ := findSome?_deeds change none
    rw [Option.map_none, Option.toList_none, List.append_nil] at moved
    have faithful' : (index.enter now (.deleteFollow event.uri)).Faithful :=
      ⟨faithful.agrees, faithful.readable, faithful.named⟩
    rw [deeds, List.findSome?_cons] at fits ⊢
    rw [List.findSome?_cons]
    dsimp only [Deed.request?, Deed.change?] at fits ⊢
    rw [moved] at fits ⊢
    have done := faithful'.doAll_files fits now []
    rw [List.append_nil, Index.file?_enter_deleteFollow] at done
    exact done

end Handler

/-- **An event keeps the roster faithful.** -/
theorem Index.Faithful.take {index : Index (Tables L)} (faithful : index.Faithful) (handler : Handler) (event : Event)
    (now : Timestamp) :
    (handler.take event now index).Faithful := by
  have filed : (index.file? event.did now (handler.moved? event now index)).Faithful := by
    rcases moved : handler.moved? event now index with _ | change
    · exact faithful
    · exact faithful.file (Handler.fits_of_moved? faithful moved) now
  rw [Handler.take_eq faithful]
  rcases wanted : handler.wanted? event now index with _ | request
  · exact filed
  · exact (Handler.does_of_wanted? wanted).faithful filed

end FeedIndex
