import FeedIndex.Proofs.Records
import FeedIndex.Proofs.Retiming
import FeedIndex.Proofs.Tables.Memory

/-!
# Accounts are independent of each other

Everything that is kept of an account lies under its own identifier: its entry in the roster, its row, its
profiles, and the records at its addresses, which tell the account they belong to whatever their key is. An event
reads and writes only the part of its own account (`part_take`), so events of other accounts can be left out of a
run, or put anywhere else, and the part stays the same.
-/

namespace FeedIndex

variable {L : Schema}

/-! ## The part of an account -/

/-- **Part** — all that is kept of an account. -/
@[ext]
structure Part (L : Schema) where
  /-- What the roster shows. -/
  shown : Option Actor
  account : Option L.Account
  /-- The records by what follows the identifier in their address. -/
  records : Table → String → Option L.Row
  profiles : List L.Profile

/-- **part** — the part of an account. -/
def Index.part (did : String) (index : Index (Tables L)) : Part L where
  shown := index.roster.get? did
  account := index.store.accounts did
  records table key := index.store.records table (address did key)
  profiles := index.store.profiles did

/-- The part with other times of the clock. -/
def Part.retime (f : Timestamp → Timestamp) (part : Part L) : Part L where
  shown := part.shown.map (·.retime f)
  account := part.account.map (L.retimeAccount f)
  records table key := (part.records table key).map (·.retime f)
  profiles := part.profiles.map (L.retimeProfile f)

/-- **undated** — the part without the times of the clock. -/
def Part.undated : Part L → Part L := Part.retime fun _ => ⟨0, 0⟩

theorem Index.part_retime (f : Timestamp → Timestamp) (did : String) (index : Index (Tables L)) :
    (index.retime f).part did = (index.part did).retime f :=
  Part.ext (Roster.get?_retime f did index.roster) rfl rfl rfl

/-- An address tells its account, if that has a valid identifier. -/
theorem eq_of_address_eq {did other key key' : String} (h : address did key = address other key')
    (valid : Did.isValid did = true) (valid' : Did.isValid other = true) : did = other := by
  have texts := congrArg String.toList h
  unfold address at texts
  simp only [String.toList_append, List.append_assoc] at texts
  obtain ⟨same, -⟩ := RecordUri.cut_unique (List.append_cancel_left texts)
    (RecordUri.slash_not_mem_did valid) (RecordUri.slash_not_mem_did valid')
  exact String.toList_injective same

/-! ## What an event of the account does to its part

It reads nothing else, so it does the same to every index with that part. -/

variable {index index' : Index (Tables L)} {did : String}

section

variable (same : index.part did = index'.part did)

include same

theorem part_changeRecord (table : Table) (uri : String) (change : Option L.Row → Option L.Row) :
    Index.part did { index with store := index.store.changeRecord table uri change } =
      Index.part did { index' with store := index'.store.changeRecord table uri change } := by
  obtain ⟨shown, account, records, profiles⟩ := Part.ext_iff.mp same
  refine Part.ext shown account ?_ profiles
  funext other key
  have stored : index.store.records other (address did key) = index'.store.records other (address did key) :=
    congrFun (congrFun records other) key
  dsimp only [Index.part, Tables.changeRecord]
  rw [stored]

theorem part_changeAccount (own : String) (change : Option L.Account → Option L.Account) :
    Index.part did { index with store := index.store.changeAccount own change } =
      Index.part did { index' with store := index'.store.changeAccount own change } := by
  obtain ⟨shown, account, records, profiles⟩ := Part.ext_iff.mp same
  refine Part.ext shown ?_ records profiles
  have stored : index.store.accounts did = index'.store.accounts did := account
  dsimp only [Index.part, Tables.changeAccount]
  rw [stored]

theorem part_appendProfile (own : String) (row : L.Profile) :
    Index.part did { index with store := index.store.appendProfile own row } =
      Index.part did { index' with store := index'.store.appendProfile own row } := by
  obtain ⟨shown, account, records, profiles⟩ := Part.ext_iff.mp same
  refine Part.ext shown account records ?_
  have stored : index.store.profiles did = index'.store.profiles did := profiles
  dsimp only [Index.part, Tables.appendProfile]
  rw [stored]

theorem part_addProfile (row : ProfileRow) (own : row.actorDid = did) :
    Index.part did { index with store := index.store.addProfile row } =
      Index.part did { index' with store := index'.store.addProfile row } := by
  subst own
  have known : index.store.hasProfile row.actorDid row.commitCid =
      index'.store.hasProfile row.actorDid row.commitCid :=
    congrArg (List.any · _) (congrArg Part.profiles same)
  unfold Tables.addProfile
  rw [known]
  split
  · exact same
  · exact part_appendProfile (part_changeAccount same row.actorDid _) row.actorDid _

/-- A request of the account. -/
theorem part_enter (now : Timestamp) {request : StoreOperation}
    (own : ∀ row, request = .putProfile row → row.actorDid = did) :
    (index.enter now request).part did = (index'.enter now request).part did := by
  cases request with
  | createActor actor => exact part_changeAccount same actor.did (·.or (some (L.ofActor actor)))
  | setActorStatus other status => exact part_changeAccount same other _
  | holdActor other time => exact part_changeAccount same other _
  | createPost row => exact part_changeRecord same .posts row.uri (·.or (some (.post (L.ofPost row))))
  | createLike row => exact part_changeRecord same .likes row.uri (·.or (some (.link row)))
  | createFollow row => exact part_changeRecord same .follows row.uri (·.or (some (.link row)))
  | deletePost uri => exact part_changeRecord same .posts uri _
  | deleteLike uri => exact part_changeRecord same .likes uri _
  | deleteFollow uri => exact part_changeRecord same .follows uri _
  | putProfile row => exact part_addProfile same row (own row rfl)
  | _ => exact same

theorem part_file (now : Timestamp) (change : AccountChange) :
    (index.file did now change).part did = (index'.file did now change).part did ∧
      (index.store.file did now change).actor? did = (index'.store.file did now change).actor? did := by
  have filed : Index.part did { index with store := index.store.file did now change } =
      Index.part did { index' with store := index'.store.file did now change } :=
    part_enter same now (by cases change <;> exact nofun)
  obtain ⟨shown, account, records, profiles⟩ := Part.ext_iff.mp filed
  have read : (index.store.file did now change).actor? did = (index'.store.file did now change).actor? did :=
    congrArg (Option.bind · L.actor?) account
  refine ⟨?_, read⟩
  unfold Index.file
  rw [read]
  rcases (index'.store.file did now change).actor? did with _ | actor
  · exact filed
  · refine Part.ext ?_ account records profiles
    have stays : index.roster.get? did = index'.roster.get? did := shown
    dsimp only [Index.part]
    rw [Roster.get?_put, Roster.get?_put, stays]

theorem part_doAll (now : Timestamp) {deeds : List Deed}
    (own : ∀ row, .enter (.putProfile row) ∈ deeds → row.actorDid = did) :
    (index.doAll did now deeds).part did = (index'.doAll did now deeds).part did := by
  induction deeds generalizing index index' with
  | nil => exact same
  | cons deed rest ih =>
    have own' : ∀ row, .enter (.putProfile row) ∈ rest → row.actorDid = did :=
      fun row hmem => own row (List.mem_cons_of_mem _ hmem)
    cases deed with
    | enter request =>
      refine ih (part_enter same now ?_) own'
      rintro row rfl
      exact own row List.mem_cons_self
    | file change =>
      obtain ⟨filed, read⟩ := part_file same now change
      unfold Index.doAll
      rw [read]
      split
      · exact ih filed own'
      · exact filed

end

namespace Handler

variable (handler : Handler) {event : Event} {now : Timestamp}

/-- A profile that an event adds is one of its account. -/
theorem Does.actorDid {handler : Handler} {row : ProfileRow}
    (does : Does handler event now index (.enter (.putProfile row))) : row.actorDid = event.did := by
  cases does with
  | entry _ entry =>
    cases entry with
    | profile _ _ _ decided => exact actorDid_of_profileRow decided

/-- **An event of the account** does the same to every index with its part. -/
theorem part_take (own : event.did = did) (same : index.part did = index'.part did) :
    (handler.take event now index).part did = (handler.take event now index').part did := by
  subst own
  have shown : index.roster.get? event.did = index'.roster.get? event.did := congrArg Part.shown same
  have followed : index.store.follow? event.uri = index'.store.follow? event.uri := by
    have record := congrFun (congrFun (congrArg Part.records same) .follows) (event.collection ++ "/" ++ event.rkey)
    dsimp only [Index.part] at record
    rw [← event.uri_eq_address] at record
    unfold Tables.follow?
    rw [record]
  have profiles : ∀ row, .enter (.putProfile row) ∈
      handler.deeds event now (index.roster.get? event.did) (index.store.follow? event.uri) →
      row.actorDid = event.did := fun row hmem => (does_of_mem_deeds hmem).actorDid
  unfold take
  rw [← shown, ← followed]
  exact part_doAll same now profiles

end Handler

/-! ## What an event of another account does to it

Nothing: its rows lie elsewhere. -/

namespace Handler

variable {handler : Handler} {event : Event} {now : Timestamp} {mid : Index (Tables L)}

/-- What an event enters is no record of another account. -/
theorem Does.records_of_ne {request : StoreOperation} (does : Does handler event now index (.enter request))
    (valid : Did.isValid did = true) (valid' : Did.isValid event.did = true) (other : event.did ≠ did)
    (t : Tables L) (table : Table) (key : String) :
    (t.apply now request).records table (address did key) = t.records table (address did key) := by
  have elsewhere : address did key ≠ event.uri := by
    rw [event.uri_eq_address]
    intro same
    exact other (eq_of_address_eq same valid valid').symm
  rcases t.records_apply now request table (address did key) with same | ⟨row, adds, -⟩ | ⟨deletes, -⟩
  · exact same
  · exact absurd (does.added adds).1 elsewhere
  · exact absurd (does.deletes deletes) elsewhere

theorem part_addProfile_of_ne {row : ProfileRow} (other : row.actorDid ≠ did) (t : Tables L) :
    (t.addProfile row).accounts did = t.accounts did ∧ (t.addProfile row).profiles did = t.profiles did := by
  unfold Tables.addProfile
  split
  · exact ⟨rfl, rfl⟩
  · exact ⟨if_neg (Ne.symm other), if_neg (Ne.symm other)⟩

theorem part_enter_of_ne {request : StoreOperation} (does : Does handler event now index (.enter request))
    (valid : Did.isValid did = true) (valid' : Did.isValid event.did = true) (other : event.did ≠ did) :
    (mid.enter now request).part did = mid.part did := by
  have records : ((mid.enter now request).part did).records = (mid.part did).records :=
    funext fun table => funext fun key => does.records_of_ne valid valid' other mid.store table key
  rcases does.accounts_apply mid.store with ⟨accounts, profiles⟩ | ⟨row, rfl, own⟩
  · exact Part.ext rfl (congrFun accounts did) records (congrFun profiles did)
  · have elsewhere : row.actorDid ≠ did := by rw [own]; exact other
    obtain ⟨account, profiles⟩ := part_addProfile_of_ne elsewhere mid.store
    exact Part.ext rfl account records profiles

theorem part_file_of_ne (named : mid.store.Named) {own : String} (other : own ≠ did) (change : AccountChange) :
    (mid.file own now change).part did = mid.part did := by
  have account : (mid.store.file own now change).accounts did = mid.store.accounts did := by
    cases change <;> exact if_neg (Ne.symm other)
  have profiles : (mid.store.file own now change).profiles = mid.store.profiles := by
    cases change <;> rfl
  have records := Tables.records_file own now change mid.store
  refine Part.ext ?_ ?_ ?_ ?_
  · rcases read : (mid.store.file own now change).actor? own with _ | actor
    · unfold Index.file
      rw [read]
      rfl
    · -- the roster learns of the account that was filed, and of no other
      obtain ⟨filed, place, -⟩ := Index.file_of_read named read
      dsimp only [Index.part]
      rw [filed, Roster.get?_put, place, if_neg (Ne.symm other)]
  · dsimp only [Index.part]
    rw [Index.store_file, account]
  · funext table key
    dsimp only [Index.part]
    rw [Index.store_file, records]
  · dsimp only [Index.part]
    rw [Index.store_file, profiles]

/-- **An event of another account** leaves the part as it is. -/
theorem part_take_of_ne (handler : Handler) (valid : Did.isValid did = true) (other : event.did ≠ did)
    (named : index.store.Named) : (handler.take event now index).part did = index.part did := by
  by_cases valid' : Did.isValid event.did = true
  · have kept : (handler.take event now index).part did = index.part did ∧
        (handler.take event now index).store.Named := by
      refine Index.doAll_induction (P := fun mid => mid.part did = index.part did ∧ mid.store.Named)
        ⟨rfl, named⟩ ?_ ?_
      · rintro request hmem mid ⟨same, named'⟩
        exact ⟨(part_enter_of_ne (does_of_mem_deeds hmem) valid valid' other).trans same,
          named'.apply now request⟩
      · rintro change - mid ⟨same, named'⟩
        refine ⟨(part_file_of_ne named' other change).trans same, ?_⟩
        rw [Index.store_file]
        exact named'.apply now (change.request event.did now)
    exact kept.1
  · unfold take deeds
    rw [if_neg valid']
    rfl

end Handler

/-! ## Runs -/

namespace Handler

/-- The events of an account among others. -/
def eventsOf (did : String) (events : List (Event × Timestamp)) : List (Event × Timestamp) :=
  events.filter fun event => event.1.did = did

theorem named_take (handler : Handler) (event : Event) (now : Timestamp) (named : index.store.Named) :
    (handler.take event now index).store.Named := by
  refine Index.doAll_induction (P := fun mid => mid.store.Named) named ?_ ?_
  · intro request _ mid named'
    exact named'.apply now request
  · intro change _ mid named'
    rw [Index.store_file]
    exact named'.apply now (change.request event.did now)

/-- A run does to the part of an account what the events of the account do. -/
theorem part_takeAll (handler : Handler) (valid : Did.isValid did = true) (events : List (Event × Timestamp))
    (named : index.store.Named) (same : index.part did = index'.part did) :
    (handler.takeAll events index).part did = (handler.takeAll (eventsOf did events) index').part did := by
  induction events generalizing index index' with
  | nil => exact same
  | cons event rest ih =>
    have named' := named_take handler event.1 event.2 named
    unfold eventsOf
    by_cases own : event.1.did = did
    · rw [List.filter_cons_of_pos (by simp [own])]
      exact ih named' (part_take handler own same)
    · rw [List.filter_cons_of_neg (by simp [own])]
      exact ih named' ((part_take_of_ne handler valid own named).trans same)

/-- The times at which events are handled. -/
def retimed (f : Timestamp → Timestamp) (events : List (Event × Timestamp)) : List (Event × Timestamp) :=
  events.map fun event => (event.1, f event.2)

theorem retime_takeAll (f : Timestamp → Timestamp) (handler : Handler) (events : List (Event × Timestamp))
    (index : Index (Tables L)) :
    (handler.takeAll events index).retime f = handler.takeAll (retimed f events) (index.retime f) := by
  induction events generalizing index with
  | nil => rfl
  | cons event rest ih =>
    refine (ih _).trans ?_
    rw [retime_take]
    rfl

theorem named_retime (f : Timestamp → Timestamp) (named : index.store.Named) :
    (index.retime f).store.Named := by
  intro other row stored
  obtain ⟨old, hold, rfl⟩ := Option.map_eq_some_iff.mp stored
  rw [L.did_retime, named other old hold]

theorem eventsOf_undated (did : String) (events : List (Event × Timestamp)) :
    eventsOf did (retimed (fun _ => ⟨0, 0⟩) events) =
      ((eventsOf did events).map (·.1)).map fun event => (event, ⟨0, 0⟩) := by
  unfold eventsOf retimed
  rw [List.filter_map, List.map_map]
  rfl

/-- The part without the times of the clock depends on the events of the account alone, and not on when they are
handled. -/
theorem undated_takeAll (handler : Handler) (valid : Did.isValid did = true)
    {events events' : List (Event × Timestamp)} (named : index.store.Named) (same : (eventsOf did events').map (·.1) = (eventsOf did events).map (·.1)) :
    ((handler.takeAll events' index).part did).undated = ((handler.takeAll events index).part did).undated := by
  have undated (events : List (Event × Timestamp)) :
      ((handler.takeAll events index).part did).undated =
        (handler.takeAll (((eventsOf did events).map (·.1)).map fun event => (event, ⟨0, 0⟩))
          (index.retime fun _ => ⟨0, 0⟩)).part did := by
    unfold Part.undated
    rw [← Index.part_retime, retime_takeAll, ← eventsOf_undated]
    exact part_takeAll handler valid _ (named_retime _ named) rfl
  rw [undated events', undated events, same]

end Handler

open LedgerStore TableStore Handler

/-- **Accounts are independent**: a run does to the part of an account what its own events do to it alone; and up
to the times of the clock, any other run in which these events come in the same order does so too, whatever the
other accounts do in it and whenever they do. -/
theorem accounts_independent {σ : Type} [Store σ] [TableStore σ] (handler : Handler) {index : Index σ}
    (sound : Sound index.store) {did : String} (valid : Did.isValid did = true) (events : List (Event × Timestamp)) :
    (handler.runEach events index).tabled.part did =
        (handler.runEach (eventsOf did events) index).tabled.part did ∧
      ∀ events' : List (Event × Timestamp), (eventsOf did events').map (·.1) = (eventsOf did events).map (·.1) →
        ((handler.runEach events' index).tabled.part did).undated =
          ((handler.runEach events index).tabled.part did).undated := by
  have named : index.tabled.store.Named := named_of_sound sound
  constructor
  · rw [tabled_runEach, tabled_runEach]
    exact part_takeAll handler valid events named rfl
  · intro events' same
    rw [tabled_runEach, tabled_runEach]
    exact undated_takeAll handler valid named same

/-! ### A bystander -/

namespace Bystander

/-- The account that is looked at. -/
def watched : String := "did:plc:bystander"

/-- A follow of the subject by an account, and its deletion. -/
def event (did : String) (action : Action) : Event where
  seq := 1
  did := did
  action := action
  collection := "app.bsky.graph.follow"
  rkey := "../did:plc:bystander/app.bsky.graph.follow/f1"
  cid := none
  payload := some (.json
    "\x7b\"subject\":\"did:plc:jdkvwye2lf4mingzk7qdebzc\",\"createdAt\":\"2025-01-26T17:11:03Z\"\x7d")

/-- Both accounts follow the subject, and the other one takes it back. -/
def events : List (Event × Timestamp) := [
  (event "did:plc:other" .create, ⟨1, 0⟩), (event watched .create, ⟨2, 0⟩), (event "did:plc:other" .delete, ⟨3, 0⟩)]

/-- The bystander comes first, and another account after it. -/
def others : List (Event × Timestamp) := [(event watched .create, ⟨7, 0⟩), (event "did:plc:third" .create, ⟨8, 0⟩)]

set_option maxRecDepth 100000 in
/-- The other account is moved back again, and the bystander waits for a moderator as it does without it. -/
theorem waits_alike :
    (((Handler.runEach {} events (⟨{}, {}⟩ : Index Memory)).tabled.part watched =
        (Handler.runEach {} (eventsOf watched events) (⟨{}, {}⟩ : Index Memory)).tabled.part watched) ∧
      ((Handler.runEach {} others (⟨{}, {}⟩ : Index Memory)).tabled.part watched).undated =
        ((Handler.runEach {} events (⟨{}, {}⟩ : Index Memory)).tabled.part watched).undated) ∧
    (Memory.ledger (Handler.runEach {} events (⟨{}, {}⟩ : Index Memory)).store).status watched = some .pending ∧
    (Memory.ledger (Handler.runEach {} events (⟨{}, {}⟩ : Index Memory)).store).status "did:plc:other" = some .none := by
  have empty : Sound (⟨{}, {}⟩ : Index Memory).store := Memory.sound_empty
  obtain ⟨alone, retimed⟩ := accounts_independent {} empty (by decide : Did.isValid watched = true) events
  exact ⟨⟨alone, retimed others (by decide)⟩, by decide +kernel⟩

end Bystander

end FeedIndex
