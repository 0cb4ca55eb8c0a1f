import FeedIndex.Proofs.Chronology
import FeedIndex.Proofs.Columns
import FeedIndex.Proofs.Growth
import FeedIndex.Proofs.Prefixes
import FeedIndex.Proofs.Tables.Memory
import FeedIndex.Proofs.Tables.Relational
import Mathlib.Data.List.Induction

/-!
# The two stores side by side

The same requests are made to the store in memory and to the relational one. After every request the relational store
holds the rows of the store in memory, written in columns: no request is done in one store and left out in the other.
So the answers differ only where columns are read. They do not if the profiles of an account were indexed in order,
with one exception: a post whose record holds an object that begins with the reserved key is not read back.
-/

namespace FeedIndex

/-- **Chronological** — the profiles of an account stand in the order in which they were indexed, each at a time of the
clock in a year of four digits. -/
structure Memory.Chronological (m : Memory) : Prop where
  ordered (did : String) : (m.history did).Pairwise (·.indexedAt ≤ ·.indexedAt)
  regular (did : String) : ∀ row ∈ m.history did, row.indexedAt.Regular

/-! ## Rows in columns -/

/-- **ofMemory** — the relational store that holds the rows of a store in memory. -/
def Relational.ofMemory (m : Memory) : Relational where
  cursor := m.cursor
  actors := Keyed.mapValues .ofActor m.actors
  posts := Keyed.mapValues .ofPost m.posts
  likes := m.likes
  follows := m.follows
  profiles := m.profiles.map .ofProfile

namespace Relational

theorem profiles_ofMemory (m : Memory) (did : String) :
    (ofMemory m).profiles.filter (·.actorDid == did) = (m.history did).map .ofProfile :=
  List.filter_map

theorem modifyActor_ofMemory {change : Actor → Actor} {change' : ActorColumns → ActorColumns}
    (same : ∀ actor, ActorColumns.ofActor (change actor) = change' (.ofActor actor)) (did : String) (m : Memory) :
    { ofMemory m with actors := (ofMemory m).actors.modify did change' } =
      ofMemory { m with actors := m.actors.modify did change } := by
  simp only [ofMemory, Keyed.mapValues_modify ActorColumns.ofActor same]

theorem putProfile_ofMemory (row : ProfileRow) (m : Memory) :
    (ofMemory m).putProfile row = ofMemory (m.putProfile row) := by
  have same : ((ofMemory m).profiles.any fun old => old.actorDid == row.actorDid && old.commitCid == row.commitCid) =
      (m.history row.actorDid).any (·.commitCid == row.commitCid) := by
    rw [← List.any_filter, profiles_ofMemory, List.any_map]
    rfl
  have added : (ofMemory m).profiles ++ [.ofProfile row] = (m.profiles ++ [row]).map .ofProfile := by
    rw [List.map_append]
    rfl
  unfold putProfile Memory.putProfile
  rw [same]
  split
  · rfl
  · rw [added]
    exact modifyActor_ofMemory (fun _ => rfl) row.actorDid { m with profiles := m.profiles ++ [row] }

/-- **A request does the same to both stores.** -/
theorem after_ofMemory (now : Timestamp) (request : StoreOperation) (m : Memory) :
    request.after now (ofMemory m) = ofMemory (request.after now m) := by
  cases request with
  | createActor actor =>
    rw [after_createActor, Memory.after_createActor]
    simp only [ofMemory, Keyed.mapValues_insertNew]
  | setActorStatus did status =>
    rw [after_setActorStatus, Memory.after_setActorStatus]
    exact modifyActor_ofMemory (fun _ => rfl) did m
  | holdActor did heldUntil =>
    rw [after_holdActor, Memory.after_holdActor]
    exact modifyActor_ofMemory (fun _ => rfl) did m
  | createPost row =>
    -- whether the address is taken does not depend on how its row is written
    have posts := Keyed.mapValues_insertNew PostColumns.ofPost row.uri row m.posts
    exact congrArg (fun posts => { ofMemory m with posts }) posts.symm
  | deletePost uri =>
    have posts : Keyed.mapValues PostColumns.ofPost (m.posts.modify uri (·.delete now)) =
        (Keyed.mapValues PostColumns.ofPost m.posts).modify uri (·.delete now) :=
      Keyed.mapValues_modify PostColumns.ofPost (fun _ => rfl) uri m.posts
    exact congrArg (fun posts => { ofMemory m with posts }) posts.symm
  | putProfile row => exact putProfile_ofMemory row m
  | listActors status => exact after_listActors now status _
  | getActor did => exact after_getActor now did _
  | getPost uri => exact after_getPost now uri _
  | latestProfile did => exact after_latestProfile now did _
  | profileHistory did => exact after_profileHistory now did _
  | _ => rfl

/-! ## Columns read back -/

theorem answer_getActor (did : String) (m : Memory) :
    (Store.getActor did : Storing Relational _).answer (ofMemory m) = .ok (m.actors.get? did) := by
  show ((selectActor did).run.run (ofMemory m)).1 = _
  rw [run_selectActor, ofMemory, Keyed.get?_mapValues]
  rcases m.actors.get? did with _ | actor
  · rfl
  · dsimp only [Option.map_some]
    rw [ActorColumns.actor?_ofActor]
    rfl

theorem answer_createActor (actor : Actor) (m : Memory) :
    (Store.createActor actor : Storing Relational Actor).answer (ofMemory m) =
      (Store.createActor actor : Storing Memory Actor).answer m := by
  rw [Storing.answer, Storing.answer, run_createActor, Memory.run_createActor, ofMemory, Keyed.get?_mapValues]
  rcases m.actors.get? actor.did with _ | stored
  · rfl
  · dsimp only [Option.map_some]
    rw [ActorColumns.actor?_ofActor]
    rfl

theorem answer_updateActor {change : Actor → Actor} {change' : ActorColumns → ActorColumns}
    (same : ∀ actor, ActorColumns.ofActor (change actor) = change' (.ofActor actor)) (did : String) (m : Memory) :
    (updateActor did change').answer (ofMemory m) = (Memory.updateActor did change).answer m := by
  rw [Storing.answer, Storing.answer, run_updateActor, Memory.run_updateActor, ofMemory, Keyed.get?_mapValues]
  rcases m.actors.get? did with _ | actor
  · rfl
  · dsimp only [Option.map_some]
    rw [← same, ActorColumns.actor?_ofActor]
    rfl

theorem actorRows_ofMemory (status : Option ActorStatus) (m : Memory) :
    (ofMemory m).actorRows status = (m.actorsOf status).map .ofActor := by
  unfold actorRows Memory.actorsOf ofMemory
  rw [← Keyed.mapValues_sorted, Keyed.mapValues, List.map_map, List.filter_map, List.filter_map, List.map_map]
  rfl

theorem answer_listActors (status : Option ActorStatus) (m : Memory) :
    (Store.listActors status : Storing Relational _).answer (ofMemory m) = .ok (m.actorsOf status) := by
  have read : ((m.actorsOf status).map ActorColumns.ofActor).mapM ActorColumns.actor? = some (m.actorsOf status) :=
    Json.mapM_map_eq_some_iff.mpr fun actor _ => ActorColumns.actor?_ofActor actor
  rw [Storing.answer, run_listActors, run_mapM_readable, actorRows_ofMemory, read]
  rfl

/-- A post is answered if its row is read back as the post. -/
theorem answer_getPost_eq_iff {db : Relational} {uri : String} {columns : PostColumns}
    (stored : db.posts.get? uri = some columns) (post : PostRow) :
    (Store.getPost uri : Storing Relational _).answer db = .ok (some post) ↔ columns.post? = some post := by
  show ((selectPost uri).run.run db).1 = _ ↔ _
  rw [run_selectPost, stored]
  dsimp only
  rcases columns.post? with _ | other
  · exact iff_of_false nofun nofun
  · simp

/-- A post is answered as it is in memory, exactly if its record holds no object that begins with the reserved key. -/
theorem answer_getPost_iff {m : Memory} {uri : String}
    (fits : ∀ post, m.posts.get? uri = some post → post.raw.Fits Json.maxDepth) :
    (Store.getPost uri : Storing Relational _).answer (ofMemory m) = .ok (m.posts.get? uri) ↔
      ∀ post, m.posts.get? uri = some post → ¬ post.raw.Embeds := by
  have columns : (ofMemory m).posts.get? uri = (m.posts.get? uri).map .ofPost := by rw [ofMemory, Keyed.get?_mapValues]
  rcases stored : m.posts.get? uri with _ | post
  · refine iff_of_true ?_ nofun
    show ((selectPost uri).run.run (ofMemory m)).1 = _
    rw [run_selectPost, columns, stored]
    rfl
  · rw [stored] at columns
    rw [answer_getPost_eq_iff columns, PostColumns.post?_ofPost_iff (fits post stored)]
    simp

/-! ## Histories in order -/

/-- Profiles that were indexed in order stand in the order of their texts. -/
theorem mergeSort_ofProfile {rows : List ProfileRow} (ordered : (rows.map (·.indexedAt)).Pairwise (· ≤ ·))
    (regular : ∀ row ∈ rows, row.indexedAt.Regular) :
    (rows.map ProfileColumns.ofProfile).mergeSort indexedBefore = rows.map .ofProfile := by
  refine List.mergeSort_of_pairwise ?_
  rw [List.pairwise_map] at ordered ⊢
  -- rows are put in order by the texts of their times
  refine ordered.imp_of_mem fun {row later} listed listed' before => ?_
  exact decide_eq_true ((regular row listed).columnText_le (regular later listed') before)

theorem historyRows_ofMemory {m : Memory} (chronological : m.Chronological) (did : String) :
    (ofMemory m).historyRows did = (m.history did).map .ofProfile := by
  unfold historyRows
  rw [profiles_ofMemory]
  exact mergeSort_ofProfile (List.pairwise_map.mpr (chronological.ordered did)) (chronological.regular did)

theorem pointedRow?_ofMemory (m : Memory) (did : String) :
    (ofMemory m).pointedRow? did = (m.pointed? did).map .ofProfile := by
  have pointer : ((ofMemory m).actors.get? did).bind (·.profileCid) = (m.actors.get? did).bind (·.profileCid) := by
    rw [ofMemory, Keyed.get?_mapValues, Option.bind_map]
    rfl
  rw [pointedRow?_eq, profiles_ofMemory, pointer, Memory.pointed?]
  rcases (m.actors.get? did).bind (·.profileCid) with _ | cid
  · rfl
  · exact List.find?_map

theorem answer_latestProfile {m : Memory} (chronological : m.Chronological) (did : String) :
    (Store.latestProfile did : Storing Relational _).answer (ofMemory m) =
      .ok ((m.pointed? did).or (m.history did).getLast?) := by
  show ((selectLatest did).run.run (ofMemory m)).1 = _
  rw [run_selectLatest, pointedRow?_ofMemory, historyRows_ofMemory chronological, List.getLast?_map, ← Option.map_or]
  rcases (m.pointed? did).or (m.history did).getLast? with _ | profile
  · rfl
  · dsimp only [Option.map_some]
    rw [ProfileColumns.profile?_ofProfile]
    rfl

theorem answer_profileHistory {m : Memory} (chronological : m.Chronological) (did : String) :
    (Store.profileHistory did : Storing Relational _).answer (ofMemory m) = .ok (m.history did) := by
  have read : ((m.history did).map ProfileColumns.ofProfile).mapM ProfileColumns.profile? = some (m.history did) :=
    Json.mapM_map_eq_some_iff.mpr fun profile _ => ProfileColumns.profile?_ofProfile profile
  rw [Storing.answer, run_profileHistory, run_mapM_readable, historyRows_ofMemory chronological, read]
  rfl

end Relational

/-! ## Answers -/

namespace StoreOperation

/-- **Misreads** — the request reads a post whose record holds an object that begins with the reserved key. -/
def Misreads (m : Memory) : StoreOperation → Prop
  | .getPost uri => ∃ post, m.posts.get? uri = some post ∧ post.raw.Embeds
  | _ => False

/-- **Storable** — the record of a post that the request adds can be written as a text. -/
def Storable : StoreOperation → Prop
  | .createPost row => row.raw.Fits Json.maxDepth
  | _ => True

/-- Requests are answered alike if the operations come to the same that they stand for. -/
theorem answer_congr {α : Type} {now : Timestamp} {request : StoreOperation} {answer : α → StoreAnswer}
    {operation : Storing Memory α} {operation' : Storing Relational α} {m : Memory} {db : Relational}
    (h : request.perform now = (operation >>= fun a => pure (answer a)))
    (h' : request.perform now = (operation' >>= fun a => pure (answer a)))
    (same : operation'.answer db = operation.answer m) : request.answer now m = request.answer now db := by
  rw [answer_of_perform h, answer_of_perform h', same]

/-- **A request is answered alike by both stores**, unless it misreads a post. -/
theorem answer_ofMemory_iff {m : Memory} (chronological : m.Chronological)
    (fits : ∀ uri post, m.posts.get? uri = some post → post.raw.Fits Json.maxDepth) (now : Timestamp)
    (request : StoreOperation) :
    request.answer now m = request.answer now (Relational.ofMemory m) ↔ ¬ request.Misreads m := by
  -- a post is the only row with a column that may not be read back; lists of texts always are
  cases request with
  | getPost uri =>
    have answered : (getPost uri).answer now (Relational.ofMemory m) =
        ((Store.getPost uri : Storing Relational _).answer (Relational.ofMemory m)).map .post :=
      answer_of_perform rfl _
    rw [answered]
    show Except.ok (StoreAnswer.post (m.posts.get? uri)) = _ ↔ ¬ ∃ post, m.posts.get? uri = some post ∧ post.raw.Embeds
    rw [not_exists]
    simp only [not_and]
    rw [← Relational.answer_getPost_iff (fits uri)]
    rcases (Store.getPost uri : Storing Relational _).answer (Relational.ofMemory m) with failure | post
    · exact iff_of_false nofun nofun
    · simp [Except.map, eq_comm]
  | listActors status => exact iff_of_true (answer_congr rfl rfl (Relational.answer_listActors status m)) id
  | getActor did => exact iff_of_true (answer_congr rfl rfl (Relational.answer_getActor did m)) id
  | createActor actor => exact iff_of_true (answer_congr rfl rfl (Relational.answer_createActor actor m)) id
  | setActorStatus did status =>
    have same : (Relational.updateActor did fun row => { row with status }).answer (Relational.ofMemory m) =
        (Memory.updateActor did fun actor => { actor with status }).answer m :=
      Relational.answer_updateActor (fun _ => rfl) did m
    exact iff_of_true (answer_congr rfl rfl same) id
  | holdActor did heldUntil =>
    have same : (Relational.updateActor did fun row => { row with heldUntil }).answer (Relational.ofMemory m) =
        (Memory.updateActor did fun actor => { actor with heldUntil }).answer m :=
      Relational.answer_updateActor (fun _ => rfl) did m
    exact iff_of_true (answer_congr rfl rfl same) id
  | latestProfile did =>
    exact iff_of_true (answer_congr rfl rfl (Relational.answer_latestProfile chronological did)) id
  | profileHistory did =>
    exact iff_of_true (answer_congr rfl rfl (Relational.answer_profileHistory chronological did)) id
  | _ => exact iff_of_true rfl id

theorem runAll_concat {σ : Type} [Store σ] (requests : List (Timestamp × StoreOperation)) (now : Timestamp)
    (request : StoreOperation) (store : σ) :
    runAll (requests ++ [(now, request)]) store =
      ((runAll requests store).1 ++ [request.answer now (runAll requests store).2],
        request.after now (runAll requests store).2) := by
  induction requests generalizing store with
  | nil => rfl
  | cons first rest ih =>
    rw [List.cons_append, runAll, runAll]
    dsimp only
    rw [ih]
    rfl

end StoreOperation

/-! ## What a run keeps -/

section

open StoreOperation

/-- A store of rows and the same rows in columns stay alike. -/
theorem Relational.runAll_ofMemory (requests : List (Timestamp × StoreOperation)) (m : Memory) :
    (runAll requests (ofMemory m)).2 = ofMemory (runAll requests m).2 := by
  induction requests generalizing m with
  | nil => rfl
  | cons first rest ih =>
    show (runAll rest (first.2.after first.1 (ofMemory m))).2 = _
    rw [after_ofMemory]
    exact ih _

/-- Posts are added and deleted, and their records stay as they are. -/
theorem Memory.raw_after {P : Json.Value → Prop} {m : Memory}
    (holds : ∀ uri post, m.posts.get? uri = some post → P post.raw) (now : Timestamp) {request : StoreOperation}
    (adds : ∀ row, request = .createPost row → P row.raw) :
    ∀ uri post, (request.after now m).posts.get? uri = some post → P post.raw := by
  cases request with
  | createPost row =>
    intro uri post stored
    change (m.posts.insertNew row.uri row).get? uri = some post at stored
    rw [Keyed.get?_insertNew] at stored
    split at stored
    · rcases known : m.posts.get? row.uri with _ | old
      · rw [known] at stored
        cases stored
        exact adds row rfl
      · rw [known] at stored
        cases stored
        exact holds row.uri post known
    · exact holds uri post stored
  | deletePost address =>
    intro uri post stored
    change (m.posts.modify address (·.delete now)).get? uri = some post at stored
    rw [Keyed.get?_modify] at stored
    split at stored
    · obtain ⟨old, known, rfl⟩ := Option.map_eq_some_iff.mp stored
      exact holds address old known
    · exact holds uri post stored
  | createActor actor =>
    rw [after_createActor]
    exact holds
  | setActorStatus did status =>
    rw [after_setActorStatus]
    exact holds
  | holdActor did heldUntil =>
    rw [after_holdActor]
    exact holds
  | putProfile row =>
    show ∀ uri post, (m.putProfile row).posts.get? uri = some post → _
    unfold putProfile
    split
    · exact holds
    · exact holds
  | _ => exact holds

theorem Memory.raw_runAll {P : Json.Value → Prop} {requests : List (Timestamp × StoreOperation)}
    (adds : ∀ request ∈ requests, ∀ row, request.2 = .createPost row → P row.raw) {m : Memory}
    (holds : ∀ uri post, m.posts.get? uri = some post → P post.raw) :
    ∀ uri post, (runAll requests m).2.posts.get? uri = some post → P post.raw := by
  induction requests generalizing m with
  | nil => exact holds
  | cons first rest ih =>
    exact ih (fun request listed => adds request (List.mem_cons_of_mem _ listed))
      (raw_after holds first.1 (adds first List.mem_cons_self))

/-- The profiles of an account stay, and others come after them. -/
theorem Memory.history_after (now : Timestamp) (request : StoreOperation) (m : Memory) (did : String) :
    m.history did <+: (request.after now m).history did := by
  have grown := ((tables m).within_apply now request).profiles did
  rw [← tables_after] at grown
  exact grown

theorem Memory.Chronological.of_prefix {m later : Memory} (chronological : later.Chronological)
    (grown : ∀ did, m.history did <+: later.history did) : m.Chronological where
  ordered did := (chronological.ordered did).sublist (grown did).sublist
  regular did row listed := chronological.regular did row ((grown did).subset listed)

/-- **The two stores answer alike.** Requests are made to both stores from the start, with records that can be written
as texts, and the profiles of each account are indexed in order. Then all answers are the same exactly if no request
reads a post whose record holds an object that begins with the reserved key. -/
theorem backends_agree_iff {requests : List (Timestamp × StoreOperation)}
    (storable : ∀ request ∈ requests, request.2.Storable)
    (chronological : (runAll requests ({} : Memory)).2.Chronological) :
    (runAll requests ({} : Memory)).1 = (runAll requests ({} : Relational)).1 ↔
      ∀ before last, before ++ [last] <+: requests → ¬ last.2.Misreads (runAll before ({} : Memory)).2 := by
  -- from the end: the last request finds the stores as the requests before it have left them
  induction requests using List.reverseRecOn with
  | nil => exact iff_of_true rfl fun _ _ next => absurd next Prefixes.not_next_prefix_nil
  | append_singleton requests last ih =>
    obtain ⟨now, request⟩ := last
    have storable' : ∀ request ∈ requests, request.2.Storable := fun request listed =>
      storable request (List.mem_append_left _ listed)
    rw [runAll_concat] at chronological
    have chronological' : (runAll requests ({} : Memory)).2.Chronological :=
      chronological.of_prefix (Memory.history_after now request _)
    have fits : ∀ uri post, (runAll requests ({} : Memory)).2.posts.get? uri = some post →
        post.raw.Fits Json.maxDepth :=
      Memory.raw_runAll (fun request listed row adds => by
        have := storable' request listed
        rw [adds] at this
        exact this) nofun
    have columns : (runAll requests ({} : Relational)).2 = .ofMemory (runAll requests ({} : Memory)).2 :=
      Relational.runAll_ofMemory requests {}
    rw [Prefixes.forall_next_concat_iff, ← ih storable' chronological',
      ← answer_ofMemory_iff chronological' fits now request, runAll_concat, runAll_concat, columns]
    exact List.append_singleton_inj

end

/-! ### A record with the reserved key -/

namespace ReservedKey

/-- The account of the posts and profiles. -/
def did : String := "did:plc:hdhoaan3xa3jiuq4fg4mefid"

/-- The address of the posts. -/
def uri : String := "at://did:plc:hdhoaan3xa3jiuq4fg4mefid/app.bsky.feed.post/p1"

/-- A post with a record. -/
def post (raw : Json.Value) : PostRow :=
  ⟨uri, did, ⟨1737911463, 0⟩, ⟨1737911473, 0⟩, [], [], [], false, false, false, raw, none⟩

/-- A record that begins with the reserved key. -/
def embedding : Json.Value := .object [(Json.embeddedKey, .text "2"), ("a", .int 1)]

/-- The post with that record is added and read. -/
def requests : List (Timestamp × StoreOperation) :=
  [(⟨1737911473, 0⟩, .createPost (post embedding)), (⟨1737911473, 0⟩, .getPost uri)]

theorem fits_embedding : embedding.Fits Json.maxDepth := by
  refine .object (by decide) fun member listed => ?_
  rcases List.mem_cons.mp listed with rfl | listed
  · exact .text _ _
  · obtain rfl := List.mem_singleton.mp listed
    exact .int _ (by decide)

/-- **The stores disagree**: the post is answered by the store in memory, and cannot be read by the relational one. -/
theorem post_unreadable :
    (∀ request ∈ requests, request.2.Storable) ∧
      (StoreOperation.runAll requests ({} : Memory)).2.Chronological ∧
      (StoreOperation.runAll requests ({} : Memory)).1 = [.ok .done, .ok (.post (some (post embedding)))] ∧
      (StoreOperation.runAll requests ({} : Relational)).1 = [.ok .done, .error .unreadable] := by
  refine ⟨?_, ⟨fun _ => .nil, fun _ => nofun⟩, rfl, ?_⟩
  · intro request listed
    rcases List.mem_cons.mp listed with rfl | listed
    · exact fits_embedding
    · obtain rfl := List.mem_singleton.mp listed
      trivial
  · rfl

/-- A record where the key does not come first. -/
def plain : Json.Value := .object [("!", .int 1), (Json.embeddedKey, .text "2")]

/-- A profile under a commit, indexed at a time. -/
def profile (commit : String) (indexedAt : Timestamp) : ProfileRow :=
  ⟨did, commit, some commit, none, [], none, indexedAt⟩

/-- A post with that record and two profiles of one account are added and read. -/
def ordinary : List (Timestamp × StoreOperation) :=
  [(⟨1737911473, 0⟩, .createPost (post plain)), (⟨1737911473, 0⟩, .putProfile (profile "c1" ⟨1737911473, 0⟩)),
    (⟨1737911473, 5⟩, .putProfile (profile "c2" ⟨1737911473, 5⟩)), (⟨1737911474, 0⟩, .getPost uri),
    (⟨1737911474, 0⟩, .profileHistory did)]

set_option maxRecDepth 10000 in
/-- The stores agree on them. -/
theorem ordinary_agree :
    (StoreOperation.runAll ordinary ({} : Memory)).1 = (StoreOperation.runAll ordinary ({} : Relational)).1 ∧
      (StoreOperation.runAll ordinary ({} : Memory)).1 =
        [.ok .done, .ok .done, .ok .done, .ok (.post (some (post plain))),
          .ok (.profiles [profile "c1" ⟨1737911473, 0⟩, profile "c2" ⟨1737911473, 5⟩])] := by
  have fits : plain.Fits Json.maxDepth := by
    refine .object (by decide) fun member listed => ?_
    rcases List.mem_cons.mp listed with rfl | listed
    · exact .int _ (by decide)
    · obtain rfl := List.mem_singleton.mp listed
      exact .text _ _
  have kept : ¬ plain.Embeds := by
    rw [plain, Json.Value.embeds_object]
    rintro (⟨content, others, same⟩ | ⟨member, listed, embeds⟩)
    · have first : "!" = Json.embeddedKey := (Prod.mk.inj (List.cons.inj same).1).1
      exact absurd first (by decide)
    · rcases List.mem_cons.mp listed with rfl | listed
      · cases embeds
      · obtain rfl := List.mem_singleton.mp listed
        cases embeds
  have storable : ∀ request ∈ ordinary, request.2.Storable := by
    simp only [ordinary, List.forall_mem_cons]
    exact ⟨fits, trivial, trivial, trivial, trivial, nofun⟩
  have profiles : (StoreOperation.runAll ordinary ({} : Memory)).2.profiles =
      [profile "c1" ⟨1737911473, 0⟩, profile "c2" ⟨1737911473, 5⟩] := rfl
  have chronological : (StoreOperation.runAll ordinary ({} : Memory)).2.Chronological := by
    refine ⟨fun did => ?_, fun did row listed => ?_⟩
    · unfold Memory.history
      rw [profiles]
      exact (List.pairwise_pair.mpr (.inl (.inr ⟨rfl, by decide⟩))).filter _
    · have among := (List.mem_filter.mp listed).1
      rw [profiles] at among
      rcases List.mem_cons.mp among with rfl | among
      · exact ⟨by decide, by decide, by decide⟩
      · obtain rfl := List.mem_singleton.mp among
        exact ⟨by decide, by decide, by decide⟩
  have unread : ∀ before last, before ++ [last] <+: ordinary →
      ¬ last.2.Misreads (StoreOperation.runAll before ({} : Memory)).2 := by
    simp only [ordinary, Prefixes.forall_next_cons_iff]
    refine ⟨id, id, id, ?_, id, fun _ _ next => absurd next Prefixes.not_next_prefix_nil⟩
    rintro ⟨found, stored, embeds⟩
    cases stored
    exact kept embeds
  exact ⟨(backends_agree_iff storable chronological).mpr unread, rfl⟩

end ReservedKey

end FeedIndex
