import FeedIndex.Proofs.Deeds

/-!
# Times of the clock

Handling an event takes times from the clock and writes them into rows, but decides nothing by them. So if
every time of the clock is exchanged for another, in the index and at the event, it is exchanged in the outcome
too, and nothing else changes (`retime_take`). What is said of an index up to the times of the clock can then be
said of it as it is.
-/

namespace FeedIndex

variable {L : Schema} (f : Timestamp → Timestamp)

/-! ## Exchanging times -/

/-- A request with other times of the clock. -/
def StoreOperation.retime : StoreOperation → StoreOperation
  | .createActor actor => .createActor (actor.retime f)
  | .createPost row => .createPost (row.retime f)
  | .createLike row => .createLike (row.retime f)
  | .createFollow row => .createFollow (row.retime f)
  | .putProfile row => .putProfile (row.retime f)
  | request => request

/-- A deed with other times of the clock. -/
def Deed.retime : Deed → Deed
  | .enter request => .enter (request.retime f)
  | .file change => .file change

/-- A row with other times of the clock. -/
def Schema.Row.retime : L.Row → L.Row
  | .post row => .post (L.retimePost f row)
  | .link row => .link (row.retime f)

theorem Schema.Row.retime_delete (now : Timestamp) (row : L.Row) :
    (row.delete now).retime f = (row.retime f).delete (f now) := by
  cases row with
  | post row => exact congrArg Schema.Row.post (L.retime_delete f now row)
  | link row => exact congrArg Schema.Row.link (LinkRow.retime_delete f now row)

/-- A roster with other times of the clock. -/
def Roster.retime (roster : Roster) : Roster :=
  ⟨roster.actors.map fun entry => (entry.1, entry.2.retime f), roster.isLoaded⟩

theorem Roster.get?_retime (did : String) (roster : Roster) :
    (roster.retime f).get? did = (roster.get? did).map (·.retime f) :=
  Keyed.get?_mapValues _ did roster.actors

theorem Roster.retime_put (actor : Actor) (roster : Roster) :
    (roster.put actor).retime f = (roster.retime f).put (actor.retime f) :=
  congrArg (Roster.mk · true) (Keyed.mapValues_set (Actor.retime f) actor.did actor roster.actors)

namespace Tables

/-- **retime** — tables with other times of the clock. -/
def retime (t : Tables L) : Tables L where
  position := t.position
  accounts did := (t.accounts did).map (L.retimeAccount f)
  records table uri := (t.records table uri).map (·.retime f)
  profiles did := (t.profiles did).map (L.retimeProfile f)

/-! ### Requests -/

theorem retime_changeAccount (did : String) {change change' : Option L.Account → Option L.Account}
    (retimes : ∀ row, (change row).map (L.retimeAccount f) = change' (row.map (L.retimeAccount f)))
    (t : Tables L) : (t.changeAccount did change).retime f = (t.retime f).changeAccount did change' := by
  refine Tables.ext rfl (funext fun other => ?_) rfl rfl
  dsimp only [changeAccount, retime]
  split
  · exact retimes _
  · rfl

theorem retime_mapAccount (did : String) {change : L.Account → L.Account}
    (retimes : ∀ row, L.retimeAccount f (change row) = change (L.retimeAccount f row)) (t : Tables L) :
    (t.changeAccount did (·.map change)).retime f = (t.retime f).changeAccount did (·.map change) := by
  refine retime_changeAccount f did ?_ t
  rintro (_ | row)
  · rfl
  · exact congrArg some (retimes row)

theorem retime_changeRecord (table : Table) (uri : String) {change change' : Option L.Row → Option L.Row}
    (retimes : ∀ row, (change row).map (·.retime f) = change' (row.map (·.retime f))) (t : Tables L) :
    (t.changeRecord table uri change).retime f = (t.retime f).changeRecord table uri change' := by
  refine Tables.ext rfl rfl (funext fun other => funext fun address => ?_) rfl
  dsimp only [changeRecord, retime]
  split
  · exact retimes _
  · rfl

theorem retime_addRecord (table : Table) (uri : String) (row : L.Row) (t : Tables L) :
    (t.addRecord table uri row).retime f = (t.retime f).addRecord table uri (row.retime f) := by
  refine retime_changeRecord f table uri ?_ t
  rintro (_ | old) <;> rfl

theorem retime_deleteRecord (table : Table) (uri : String) (now : Timestamp) (t : Tables L) :
    (t.deleteRecord table uri now).retime f = (t.retime f).deleteRecord table uri (f now) := by
  refine retime_changeRecord f table uri ?_ t
  rintro (_ | old)
  · rfl
  · exact congrArg some (Schema.Row.retime_delete f now old)

theorem hasProfile_retime (did commit : String) (t : Tables L) :
    (t.retime f).hasProfile did commit = t.hasProfile did commit := by
  unfold hasProfile retime
  rw [List.any_map]
  refine congrArg (List.any _) (funext fun row => ?_)
  dsimp only [Function.comp]
  rw [L.commit_retime]

theorem retime_appendProfile (did : String) (row : L.Profile) (t : Tables L) :
    (t.appendProfile did row).retime f = (t.retime f).appendProfile did (L.retimeProfile f row) := by
  refine Tables.ext rfl rfl rfl (funext fun other => ?_)
  dsimp only [retime, appendProfile]
  split
  · rw [List.map_append]
    rfl
  · rfl

theorem retime_addProfile (row : ProfileRow) (t : Tables L) :
    (t.addProfile row).retime f = (t.retime f).addProfile (row.retime f) := by
  have known : (t.retime f).hasProfile (row.retime f).actorDid (row.retime f).commitCid =
      t.hasProfile row.actorDid row.commitCid := hasProfile_retime f row.actorDid row.commitCid t
  unfold addProfile
  rw [known]
  split
  · rfl
  · rw [retime_appendProfile, retime_mapAccount f row.actorDid (L.retime_pointTo f row.commitCid),
      L.retime_ofProfile]
    rfl

/-- A request does the same at another time. -/
theorem retime_apply (now : Timestamp) (request : StoreOperation) (t : Tables L) :
    (t.apply now request).retime f = (t.retime f).apply (f now) (request.retime f) := by
  cases request with
  | createActor actor =>
    have added : (t.changeAccount actor.did (·.or (some (L.ofActor actor)))).retime f =
        (t.retime f).changeAccount actor.did (·.or (some (L.ofActor (actor.retime f)))) := by
      refine retime_changeAccount f actor.did ?_ t
      rintro (_ | row)
      · exact congrArg some (L.retime_ofActor f actor)
      · rfl
    exact added
  | setActorStatus did status => exact retime_mapAccount f did (L.retime_setStatus f status) t
  | holdActor did time => exact retime_mapAccount f did (L.retime_holdUntil f time) t
  | createPost row =>
    have retimed : (Schema.Row.post (L.ofPost row)).retime f = .post (L.ofPost (row.retime f)) :=
      congrArg Schema.Row.post (L.retime_ofPost f row)
    exact (retime_addRecord f .posts row.uri _ t).trans (by rw [retimed]; rfl)
  | createLike row => exact retime_addRecord f .likes row.uri _ t
  | createFollow row => exact retime_addRecord f .follows row.uri _ t
  | deletePost uri => exact retime_deleteRecord f .posts uri now t
  | deleteLike uri => exact retime_deleteRecord f .likes uri now t
  | deleteFollow uri => exact retime_deleteRecord f .follows uri now t
  | putProfile row => exact retime_addProfile f row t
  | _ => rfl

theorem retime_file (did : String) (now : Timestamp) (change : AccountChange) (t : Tables L) :
    (t.file did now change).retime f = (t.retime f).file did (f now) change := by
  refine (retime_apply f now (change.request did now) t).trans ?_
  cases change <;> rfl

theorem actor?_retime (did : String) (t : Tables L) :
    (t.retime f).actor? did = (t.actor? did).map (·.retime f) := by
  unfold actor? retime
  dsimp only
  rcases t.accounts did with _ | row
  · rfl
  · exact L.actor?_retime f row

theorem follow?_retime (uri : String) (t : Tables L) :
    (t.retime f).follow? uri = (t.follow? uri).map (·.retime f) := by
  unfold follow? retime
  dsimp only
  rcases t.records .follows uri with _ | row | row <;> rfl

end Tables

namespace Index

/-- **retime** — an index with other times of the clock. -/
def retime (index : Index (Tables L)) : Index (Tables L) := ⟨index.store.retime f, index.roster.retime f⟩

/-! ### Deeds -/

theorem retime_enter (now : Timestamp) (request : StoreOperation) (index : Index (Tables L)) :
    (index.enter now request).retime f = (index.retime f).enter (f now) (request.retime f) :=
  congrArg (Index.mk · _) (Tables.retime_apply f now request index.store)

theorem retime_file (did : String) (now : Timestamp) (change : AccountChange) (index : Index (Tables L)) :
    (index.file did now change).retime f = (index.retime f).file did (f now) change := by
  have filed := Tables.retime_file f did now change index.store
  have read := Tables.actor?_retime f did (index.store.file did now change)
  rw [filed] at read
  unfold file
  rw [show (index.retime f).store = index.store.retime f from rfl, read]
  rcases (index.store.file did now change).actor? did with _ | actor
  · exact congrArg (Index.mk · _) filed
  · refine (congrArg (Index.mk · _) filed).trans ?_
    exact congrArg (Index.mk _) (Roster.retime_put f actor index.roster)

theorem retime_doAll (did : String) (now : Timestamp) (deeds : List Deed) (index : Index (Tables L)) :
    (index.doAll did now deeds).retime f =
      (index.retime f).doAll did (f now) (deeds.map (·.retime f)) := by
  induction deeds generalizing index with
  | nil => rfl
  | cons deed rest ih =>
    cases deed with
    | enter request =>
      refine (ih _).trans ?_
      rw [retime_enter]
      rfl
    | file change =>
      have read := Tables.actor?_retime f did (index.store.file did now change)
      rw [Tables.retime_file] at read
      show _ = (index.retime f).doAll did (f now) (.file change :: _)
      unfold doAll
      rw [show (index.retime f).store = index.store.retime f from rfl, read, Option.isSome_map,
        ← retime_file]
      split
      · exact ih _
      · rfl

end Index

/-! ## Handling at another time -/

namespace Handler

variable (handler : Handler) (event : Event) (now : Timestamp)

theorem retime_postRow? :
    (handler.postRow? event now).map (Option.map (·.retime f)) = handler.postRow? event (f now) := by
  unfold postRow?
  rcases (handler.openWithRaw event : Except HandleFailure (Post × Json.Value)) with failure | ⟨post, raw⟩
  · rfl
  show Except.map _ (if post.classify.isReply then _ else _) = (if post.classify.isReply then _ else _)
  split
  · rfl
  · rcases claimedTime post.createdAt with failure | createdAt <;> rfl

theorem retime_likeRow : (handler.likeRow event now).map (·.retime f) = handler.likeRow event (f now) := by
  unfold likeRow
  rcases (handler.openRecord event : Except HandleFailure Like) with failure | like
  · rfl
  show Except.map _ (likedUri like.subject.uri >>= _) = (likedUri like.subject.uri >>= _)
  rcases likedUri like.subject.uri with failure | subject
  · rfl
  show Except.map _ (claimedTime like.createdAt >>= _) = (claimedTime like.createdAt >>= _)
  rcases claimedTime like.createdAt with failure | createdAt <;> rfl

theorem retime_profileRow :
    (handler.profileRow event now).map (·.retime f) = handler.profileRow event (f now) := by
  unfold profileRow
  rcases event.cid with _ | commitCid
  · rfl
  show Except.map _ (handler.openRecord event >>= _) = (handler.openRecord event >>= _)
  rcases (handler.openRecord event : Except HandleFailure Profile) with failure | profile
  · rfl
  show Except.map _ (profile.createdAt.mapM claimedTime >>= _) = (profile.createdAt.mapM claimedTime >>= _)
  rcases profile.createdAt.mapM claimedTime with failure | createdAt <;> rfl

/-! ### Deeds of an event -/

variable (actor : Option Actor)

theorem isApproved_retime : isApproved (actor.map (·.retime f)) = isApproved actor := by
  rcases actor with _ | actor <;> rfl

theorem keepsProfile_retime : keepsProfile (actor.map (·.retime f)) = keepsProfile actor := by
  rcases actor with _ | actor <;> rfl

theorem onFollow?_retime : AccountChange.onFollow? (actor.map (·.retime f)) = AccountChange.onFollow? actor := by
  rcases actor with _ | actor <;> rfl

theorem toOption_map {ε α β : Type} (g : α → β) (decision : Except ε α) :
    (decision.map g).toOption = decision.toOption.map g := by
  rcases decision with failure | a <;> rfl

theorem retime_entered? :
    (handler.entered? event now actor).map (·.retime f) =
      handler.entered? event (f now) (actor.map (·.retime f)) := by
  unfold entered?
  rw [isApproved_retime, keepsProfile_retime, Option.isSome_map, ← retime_postRow?, ← retime_likeRow,
    ← retime_profileRow, toOption_map, toOption_map, toOption_map]
  split
  · split
    · rcases (handler.postRow? event now).toOption with _ | _ | row <;> rfl
    · rfl
  · split
    · rcases (handler.likeRow event now).toOption with _ | row <;> rfl
    · rfl
  · split
    · rcases (handler.profileRow event now).toOption with _ | row <;> rfl
    · rfl
  · split
    · rcases (handler.profileRow event now).toOption with _ | row <;> rfl
    · rfl
  · split <;> rfl
  · split <;> rfl
  · rfl

theorem retime_kept? (follow : Follow) :
    (kept? event now follow).map (·.retime f) = kept? event (f now) follow := by
  unfold kept?
  rcases (claimedTime follow.createdAt).toOption with _ | createdAt <;> rfl

/-- What is entered is entered at another time. -/
theorem retime_toList (request : Option StoreOperation) :
    (request.map Deed.enter).toList.map (·.retime f) =
      ((request.map (·.retime f)).map Deed.enter).toList := by
  rcases request with _ | request <;> rfl

theorem retime_files (change : Option AccountChange) :
    (change.map Deed.file).toList.map (·.retime f) = (change.map Deed.file).toList := by
  rcases change with _ | change <;> rfl

theorem retime_followDeeds :
    (handler.followDeeds event now actor).map (·.retime f) =
      handler.followDeeds event (f now) (actor.map (·.retime f)) := by
  unfold followDeeds
  rcases (handler.openRecord event : Except HandleFailure Follow) with failure | follow
  · rfl
  dsimp only
  rw [onFollow?_retime, isApproved_retime, ← retime_kept? f, ← retime_toList]
  split
  · rw [List.map_append, retime_files]
  · split <;> rfl

theorem retime_unfollowDeeds (follow : Option LinkRow) :
    (handler.unfollowDeeds event actor follow).map (·.retime f) =
      handler.unfollowDeeds event (actor.map (·.retime f)) (follow.map (·.retime f)) := by
  rcases actor with _ | actor
  · rfl
  rcases follow with _ | row
  · rfl
  show Deed.retime f (.enter (.deleteFollow event.uri)) :: List.map _ _ = _
  dsimp only [unfollowDeeds, Option.map_some, LinkRow.retime]
  split
  · rw [retime_files]
    rfl
  · rfl

theorem retime_deeds (follow : Option LinkRow) :
    (handler.deeds event now actor follow).map (·.retime f) =
      handler.deeds event (f now) (actor.map (·.retime f)) (follow.map (·.retime f)) := by
  unfold deeds
  split
  · split
    · exact retime_followDeeds f handler event now actor
    · exact retime_unfollowDeeds f handler event actor follow
    · rw [retime_toList, retime_entered?]
  · rfl

/-- **Nothing is decided by the clock**: to exchange its times before an event comes to the same as to exchange
them after it. -/
theorem retime_take (index : Index (Tables L)) :
    (handler.take event now index).retime f = handler.take event (f now) (index.retime f) := by
  unfold take
  rw [Index.retime_doAll, retime_deeds, ← Roster.get?_retime, ← Tables.follow?_retime]
  rfl

end Handler

end FeedIndex
