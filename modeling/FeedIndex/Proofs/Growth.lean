import FeedIndex.Proofs.Deeds

/-!
# Tables grow

What an event enters takes nothing away. A record that stands stays, or is marked as deleted once; profiles are
added at the end. So tables come one after another in an order (`Tables.Within`), and a request whose object the
tables hold already leaves them as they are.
-/

namespace FeedIndex

variable {L : Schema}

/-- The request adds a record or a profile. -/
def StoreOperation.isCreation : StoreOperation → Bool
  | .createPost _ | .createLike _ | .createFollow _ | .putProfile _ => true
  | _ => false

/-- The request marks a record. -/
def StoreOperation.isDeletion : StoreOperation → Bool
  | .deletePost _ | .deleteLike _ | .deleteFollow _ => true
  | _ => false

namespace Tables

variable {t t' t'' : Tables L}

/-! ## The order of tables -/

/-- **SameRows** — the records and the profiles are the same. -/
structure SameRows (t t' : Tables L) : Prop where
  records : t.records = t'.records
  profiles : t.profiles = t'.profiles

theorem SameRows.symm (same : SameRows t t') : SameRows t' t := ⟨same.records.symm, same.profiles.symm⟩

theorem SameRows.trans (same : SameRows t t') (same' : SameRows t' t'') : SameRows t t'' :=
  ⟨same.records.trans same'.records, same.profiles.trans same'.profiles⟩

/-- **Within** — all that stands in some tables stands in others, where records may have been deleted and profiles
added. -/
structure Within (t t' : Tables L) : Prop where
  records (table : Table) (uri : String) (row : L.Row) : t.records table uri = some row →
    ∃ row', t'.records table uri = some row' ∧ (row' = row ∨ ∃ now, row' = row.delete now)
  profiles (did : String) : t.profiles did <+: t'.profiles did

theorem SameRows.within (same : SameRows t t') : t.Within t' := by
  refine ⟨fun table uri row stored => ⟨row, ?_, .inl rfl⟩, fun did => ?_⟩
  · rw [← same.records]
    exact stored
  · exact ⟨[], by rw [List.append_nil, same.profiles]⟩

theorem Within.refl (t : Tables L) : t.Within t := SameRows.within ⟨rfl, rfl⟩

theorem deletedAt_delete_ne_none (now : Timestamp) (row : L.Row) : (row.delete now).deletedAt ≠ none := by
  rw [Schema.Row.deletedAt_delete]
  intro live
  cases (Option.or_eq_none_iff.mp live).2

/-- A row is deleted only once. -/
theorem delete_delete (now later : Timestamp) (row : L.Row) : (row.delete now).delete later = row.delete now :=
  Schema.Row.delete_of_deleted (deletedAt_delete_ne_none now row)

theorem Within.trans (within : t.Within t') (within' : t'.Within t'') : t.Within t'' := by
  refine ⟨fun table uri row stored => ?_, fun did => (within.profiles did).trans (within'.profiles did)⟩
  obtain ⟨row', stored', change⟩ := within.records table uri row stored
  obtain ⟨row'', stored'', change'⟩ := within'.records table uri row' stored'
  refine ⟨row'', stored'', ?_⟩
  rcases change with rfl | ⟨now, rfl⟩
  · exact change'
  · rcases change' with rfl | ⟨later, rfl⟩
    · exact .inr ⟨now, rfl⟩
    · exact .inr ⟨now, delete_delete now later row⟩

/-- Tables that are within each other have the same rows. -/
theorem Within.antisymm (within : t.Within t') (within' : t'.Within t) : SameRows t t' := by
  constructor
  · funext table uri
    rcases stored : t.records table uri with _ | row
    · rcases stored' : t'.records table uri with _ | row'
      · rfl
      · obtain ⟨row, stored'', -⟩ := within'.records table uri row' stored'
        rw [stored] at stored''
        cases stored''
    · obtain ⟨row', stored', change⟩ := within.records table uri row stored
      obtain ⟨other, stored'', change'⟩ := within'.records table uri row' stored'
      obtain rfl := Option.some.inj (stored.symm.trans stored'')
      rw [stored']
      rcases change with rfl | ⟨now, rfl⟩
      · rfl
      · -- the row is deleted in the one and comes back from there, so that it was deleted before
        have deleted : row.deletedAt ≠ none := by
          rcases change' with same | ⟨later, same⟩ <;> rw [same]
          · exact deletedAt_delete_ne_none now row
          · exact deletedAt_delete_ne_none later _
        rw [Schema.Row.delete_of_deleted deleted]
  · funext did
    exact (within.profiles did).eq_of_length_le (within'.profiles did).length_le

/-! ### Requests go up -/

theorem prefix_addProfile (row : ProfileRow) (t : Tables L) (did : String) :
    t.profiles did <+: (t.addProfile row).profiles did := by
  unfold addProfile
  split
  · exact List.prefix_rfl
  · dsimp only [appendProfile, changeAccount]
    split
    · exact List.prefix_append _ _
    · exact List.prefix_rfl

theorem within_apply (now : Timestamp) (request : StoreOperation) (t : Tables L) :
    t.Within (t.apply now request) := by
  constructor
  · intro table uri row stored
    rcases t.records_apply now request table uri with same | ⟨new, -, added⟩ | ⟨-, deleted⟩
    · exact ⟨row, same.trans stored, .inl rfl⟩
    · exact ⟨row, by rw [added, stored]; rfl, .inl rfl⟩
    · exact ⟨row.delete now, by rw [deleted, stored]; rfl, .inr ⟨now, rfl⟩⟩
  · intro did
    cases request with
    | putProfile row => exact prefix_addProfile row t did
    | _ => exact List.prefix_rfl

/-- What is there of an account has no part in what becomes of the rows. -/
theorem SameRows.apply (same : SameRows t t') (now : Timestamp) (request : StoreOperation) :
    SameRows (t.apply now request) (t'.apply now request) := by
  obtain ⟨records, profiles⟩ := same
  have change (table : Table) (uri : String) (change : Option L.Row → Option L.Row) :
      SameRows (t.changeRecord table uri change) (t'.changeRecord table uri change) := by
    refine ⟨?_, profiles⟩
    unfold changeRecord
    rw [records]
  cases request with
  | createPost row => exact change .posts row.uri (·.or (some (.post (L.ofPost row))))
  | createLike row => exact change .likes row.uri (·.or (some (.link row)))
  | createFollow row => exact change .follows row.uri (·.or (some (.link row)))
  | deletePost uri => exact change .posts uri _
  | deleteLike uri => exact change .likes uri _
  | deleteFollow uri => exact change .follows uri _
  | putProfile row =>
    have known : t.hasProfile row.actorDid row.commitCid = t'.hasProfile row.actorDid row.commitCid := by
      unfold hasProfile
      rw [profiles]
    show SameRows (t.addProfile row) (t'.addProfile row)
    unfold addProfile
    rw [known]
    split
    · exact ⟨records, profiles⟩
    · refine ⟨records, ?_⟩
      unfold appendProfile changeAccount
      rw [profiles]
  | _ => exact ⟨records, profiles⟩

/-! ## Requests that are met already -/

/-- **Holds** — what a request is after is there: the address or the commit that it would add is taken, the record
that it would mark is marked or missing. -/
def Holds (t : Tables L) : StoreOperation → Prop
  | .createPost row => t.records .posts row.uri ≠ none
  | .createLike row => t.records .likes row.uri ≠ none
  | .createFollow row => t.records .follows row.uri ≠ none
  | .putProfile row => t.hasProfile row.actorDid row.commitCid = true
  | .deletePost uri => ∀ row, t.records .posts uri = some row → row.deletedAt ≠ none
  | .deleteLike uri => ∀ row, t.records .likes uri = some row → row.deletedAt ≠ none
  | .deleteFollow uri => ∀ row, t.records .follows uri = some row → row.deletedAt ≠ none
  | _ => False

theorem changeRecord_eq {table : Table} {uri : String} {change : Option L.Row → Option L.Row}
    (stays : change (t.records table uri) = t.records table uri) : t.changeRecord table uri change = t := by
  refine Tables.ext rfl rfl ?_ rfl
  funext other address
  dsimp only [changeRecord]
  split
  · next own =>
    obtain ⟨rfl, rfl⟩ := own
    exact stays
  · rfl

theorem addRecord_of_taken {table : Table} {uri : String} (taken : t.records table uri ≠ none) (row : L.Row) :
    t.addRecord table uri row = t := by
  apply changeRecord_eq
  obtain ⟨old, stored⟩ := Option.ne_none_iff_exists'.mp taken
  rw [stored]
  rfl

theorem deleteRecord_of_deleted {table : Table} {uri : String}
    (deleted : ∀ row, t.records table uri = some row → row.deletedAt ≠ none) (now : Timestamp) :
    t.deleteRecord table uri now = t := by
  apply changeRecord_eq
  rcases stored : t.records table uri with _ | row
  · rfl
  · exact congrArg some (Schema.Row.delete_of_deleted (deleted row stored))

/-- A request that is met leaves the tables as they are. -/
theorem apply_of_holds {request : StoreOperation} (holds : t.Holds request) (now : Timestamp) :
    t.apply now request = t := by
  cases request with
  | createPost row => exact addRecord_of_taken holds _
  | createLike row => exact addRecord_of_taken holds _
  | createFollow row => exact addRecord_of_taken holds _
  | putProfile row => exact if_pos holds
  | deletePost uri => exact deleteRecord_of_deleted holds now
  | deleteLike uri => exact deleteRecord_of_deleted holds now
  | deleteFollow uri => exact deleteRecord_of_deleted holds now
  | _ => cases holds

theorem taken_addRecord (table : Table) (uri : String) (row : L.Row) (t : Tables L) :
    (t.addRecord table uri row).records table uri ≠ none := by
  simp [addRecord, changeRecord]

theorem deleted_deleteRecord {table : Table} {uri : String} {now : Timestamp} {row : L.Row}
    (stored : (t.deleteRecord table uri now).records table uri = some row) : row.deletedAt ≠ none := by
  simp only [deleteRecord, changeRecord, and_self, if_pos] at stored
  obtain ⟨old, -, rfl⟩ := Option.map_eq_some_iff.mp stored
  exact deletedAt_delete_ne_none now old

theorem hasProfile_addProfile (row : ProfileRow) (t : Tables L) :
    (t.addProfile row).hasProfile row.actorDid row.commitCid = true := by
  unfold addProfile
  split
  · next known => exact known
  · simp [hasProfile, appendProfile, changeAccount, L.commit_ofProfile]

/-- Once it is entered, a request is met. -/
theorem holds_apply {request : StoreOperation} (enters : request.isCreation = true ∨ request.isDeletion = true)
    (now : Timestamp) (t : Tables L) : (t.apply now request).Holds request := by
  cases request with
  | createPost row => exact taken_addRecord .posts row.uri _ t
  | createLike row => exact taken_addRecord .likes row.uri _ t
  | createFollow row => exact taken_addRecord .follows row.uri _ t
  | putProfile row => exact hasProfile_addProfile row t
  | deletePost uri => exact fun _ => deleted_deleteRecord
  | deleteLike uri => exact fun _ => deleted_deleteRecord
  | deleteFollow uri => exact fun _ => deleted_deleteRecord
  | _ => rcases enters with enters | enters <;> cases enters

theorem SameRows.holds {request : StoreOperation} (same : SameRows t t') (holds : t.Holds request) :
    t'.Holds request := by
  obtain ⟨records, profiles⟩ := same
  unfold Holds hasProfile at *
  rw [← records, ← profiles]
  exact holds

/-- A request that changes no row is met. -/
theorem sameRows_apply_iff {request : StoreOperation}
    (enters : request.isCreation = true ∨ request.isDeletion = true) (now : Timestamp) :
    SameRows t (t.apply now request) ↔ t.Holds request := by
  constructor
  · intro same
    exact same.symm.holds (holds_apply enters now t)
  · intro holds
    rw [apply_of_holds holds]
    exact ⟨rfl, rfl⟩

theorem Within.taken {table : Table} {uri : String} (within : t.Within t') (taken : t.records table uri ≠ none) :
    t'.records table uri ≠ none := by
  obtain ⟨row, stored⟩ := Option.ne_none_iff_exists'.mp taken
  obtain ⟨row', stored', -⟩ := within.records table uri row stored
  rw [stored']
  exact nofun

/-- What was created stays. -/
theorem Within.holds {request : StoreOperation} (within : t.Within t') (creates : request.isCreation = true)
    (holds : t.Holds request) : t'.Holds request := by
  cases request with
  | createPost row => exact within.taken holds
  | createLike row => exact within.taken holds
  | createFollow row => exact within.taken holds
  | putProfile row =>
    obtain ⟨profile, listed, commit⟩ := List.any_eq_true.mp (show t.hasProfile _ _ = true from holds)
    exact List.any_eq_true.mpr ⟨profile, (within.profiles row.actorDid).subset listed, commit⟩
  | _ => cases creates

/-! ## What a follow points to -/

/-- **PointsTo** — a follow of an account stands at an address, deleted or not. -/
def PointsTo (t : Tables L) (uri subject : String) : Prop :=
  ∃ row, t.records .follows uri = some row ∧ row.subject? = some subject

theorem pointsTo_iff {uri subject : String} :
    t.PointsTo uri subject ↔ ∃ row, t.follow? uri = some row ∧ row.subject = subject := by
  unfold PointsTo follow?
  rcases t.records .follows uri with _ | row | row
  · simp
  · simp [Schema.Row.subject?]
  · simp [Schema.Row.subject?]

theorem Within.pointsTo {uri subject : String} (within : t.Within t') (points : t.PointsTo uri subject) :
    t'.PointsTo uri subject := by
  obtain ⟨row, stored, subject⟩ := points
  obtain ⟨row', stored', rfl | ⟨now, rfl⟩⟩ := within.records .follows uri row stored
  · exact ⟨row', stored', subject⟩
  · exact ⟨row.delete now, stored', by rw [Schema.Row.subject?_delete, subject]⟩

/-! ## Tables but for the statuses -/

/-- **unstatused** — the tables without the statuses. -/
def unstatused (t : Tables L) : Tables L := { t with accounts := fun did => (t.accounts did).map (L.setStatus .none) }

theorem sameRows_of_unstatused (same : t.unstatused = t'.unstatused) : SameRows t t' := by
  obtain ⟨-, -, records, profiles⟩ := Tables.ext_iff.mp same
  exact ⟨records, profiles⟩

/-- The statuses are all that is missing. -/
theorem eq_of_unstatused (same : t.unstatused = t'.unstatused) (statuses : t.status = t'.status) : t = t' := by
  obtain ⟨position, accounts, records, profiles⟩ := Tables.ext_iff.mp same
  refine Tables.ext position ?_ records profiles
  funext did
  have account : (t.accounts did).map (L.setStatus .none) = (t'.accounts did).map (L.setStatus .none) :=
    congrFun accounts did
  have status : (t.accounts did).map L.status = (t'.accounts did).map L.status := congrFun statuses did
  rcases stored : t.accounts did with _ | row <;> rcases stored' : t'.accounts did with _ | row' <;>
    rw [stored, stored'] at account status
  · cases account
  · cases account
  · refine congrArg some ?_
    have restored (row : L.Account) : L.setStatus (L.status row) (L.setStatus .none row) = row := by
      rw [L.setStatus_setStatus, L.setStatus_status]
    rw [← restored row, Option.some.inj account, Option.some.inj status, restored]

theorem unstatused_file {did : String} (known : t.accounts did ≠ none) (now : Timestamp) (change : AccountChange) :
    (t.file did now change).unstatused = t.unstatused := by
  obtain ⟨row, stored⟩ := Option.ne_none_iff_exists'.mp known
  refine Tables.ext ?_ (funext fun other => ?_) ?_ ?_
  · cases change <;> rfl
  · cases change with
    | add =>
      dsimp only [unstatused, file, AccountChange.request, apply, changeAccount, Actor.fresh]
      split
      · next own => rw [own, stored]; rfl
      · rfl
    | set status =>
      dsimp only [unstatused, file, AccountChange.request, apply, changeAccount]
      split
      · next own =>
        rw [own, stored]
        exact congrArg some (L.setStatus_setStatus status .none row)
      · rfl
  · cases change <;> rfl
  · cases change <;> rfl

end Tables

end FeedIndex
